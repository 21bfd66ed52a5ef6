/-
# The arguments of a script

The command line that runs a script is read twice, by the tool and by the command, and each of them
marks every argument first.  Behind the name of the script all arguments are taken whatever their
marks are, so a mark matters only if it cannot be set: an argument that starts with `--=` is short
for both switches of the tool.  Two more things are noticed on the way.  A wish for the version goes
before everything else, and two hyphens right behind the script are taken for their own and dropped.

`read_run_arguments`: what is read in each case, when the arguments are handed on as they are, and
that the script is started with what is handed on.
-/
import Mathlib
import QualityGate.Proofs.Runners

namespace QualityGate.Command

open Limits (checkFileHere)

/-! ## Marks -/

section

variable {α β : Type} {g : α → Option β} {p : α → Bool}

/-- A map that drops what a filter drops, and perhaps more, keeps no more than the filter. -/
lemma length_filterMap_le (h : ∀ x, p x = false → g x = none) (l : List α) :
    (l.filterMap g).length ≤ (l.filter p).length := by
  have hfilter : l.filterMap g = (l.filter p).filterMap g := by
    rw [List.filterMap_filter]
    refine List.filterMap_congr fun x _ => ?_
    split <;> rename_i hx
    · rfl
    · exact h x (Bool.eq_false_iff.mpr hx)
  rw [hfilter]
  exact List.length_filterMap_le g _

end

section

variable {f : Form} {s : String} {args : List String}

/-- An argument that is short for one switch at most is never refused. -/
lemma exists_mark_of_length_le (h : (f.candidates s).length ≤ 1) : ∃ m, f.mark s = .ok m := by
  match hc : f.candidates s with
  | [] => exact exists_mark hc
  | [u] =>
    simp only [Form.mark, hc]
    repeat' split
    all_goals exact ⟨_, rfl⟩
  | u :: v :: us => simp [hc] at h

lemma exists_mark_hyphen : ∃ m, f.mark "-" = .ok m := by
  cases h : f.named.lookup "-" with
  | none => exact ⟨.argument, by simp [Form.mark, h, pure, Except.pure]⟩
  | some s => exact ⟨_, mark_of_named (by simp) h⟩

/-- Only the two hyphens themselves are marked as such. -/
lemma isHyphens_of_mark {m : Mark} (h : f.mark s = .ok m) : m.isHyphens = false := by
  unfold Form.mark at h
  repeat' split at h
  all_goals cases h
  all_goals rfl

/-- The arguments are marked one by one up to the first two hyphens. -/
lemma exists_marks (h : ∀ s ∈ args.takeWhile (· ≠ "--"), ∃ m, f.mark s = .ok m) :
    ∃ rest, f.marks args = .ok rest ∧ rest.map (·.1) = args ∧
      (rest.takeWhile (·.2.isHyphens)).length = if args.head? = some "--" then 1 else 0 := by
  induction args with
  | nil => exact ⟨[], rfl, rfl, rfl⟩
  | cons s ss ih =>
    by_cases hs : s = "--"
    · refine ⟨(s, .hyphens) :: plain ss, by rw [Form.marks, if_pos hs]; rfl, ?_, ?_⟩
      · simp [map_fst_plain]
      · have hnone : (plain ss).takeWhile (·.2.isHyphens) = [] := by
          cases ss <;> simp [plain, Mark.isHyphens]
        rw [List.takeWhile_cons_of_pos rfl, hnone, hs]
        rfl
    · rw [List.takeWhile_cons_of_pos (by simpa using hs), List.forall_mem_cons] at h
      obtain ⟨m, hm⟩ := h.1
      obtain ⟨rest, hrest, hmap, -⟩ := ih h.2
      refine ⟨(s, m) :: rest, ?_, by simp [hmap], ?_⟩
      · rw [Form.marks, if_neg hs, hm, hrest]
        rfl
      · simp [isHyphens_of_mark hm, hs]

/-- The first argument that cannot be marked refuses the whole line. -/
lemma marks_of_refused {e : Stop} (hs : f.mark s = .error e)
    (hfound : (args.takeWhile (· ≠ "--")).find? (·.startsWith "--=") = some s)
    (hmarks : ∀ t, t ≠ "--" → t.startsWith "--=" = false → ∃ m, f.mark t = .ok m) :
    f.marks args = .error e := by
  induction args with
  | nil => cases hfound
  | cons t ts ih =>
    by_cases ht : t = "--"
    · simp [ht] at hfound
    · rw [List.takeWhile_cons_of_pos (by simpa using ht), List.find?_cons] at hfound
      rw [Form.marks, if_neg ht]
      by_cases hstart : t.startsWith "--=" = true
      · simp only [hstart, Option.some.injEq] at hfound
        rw [hfound, hs]
        rfl
      · simp only [hstart] at hfound
        obtain ⟨m, hm⟩ := hmarks t ht (by simpa using hstart)
        rw [hm]
        simp only [bind, Except.bind, ih hfound]

end

/-! ## The two forms -/

lemma named_tool (program : String) : (toolForm program).named =
    [("-h", helpSwitch), ("--help", helpSwitch), ("-v", ⟨["-v", "--version"], "version", .flag⟩),
      ("--version", ⟨["-v", "--version"], "version", .flag⟩)] := rfl

section

variable {f : Form} {s : String} {c : Char} {cs : List Char}

/-- An argument with two hyphens and something behind them keeps that in its name. -/
lemma splitEquals_of_long (hs : s.toList = '-' :: '-' :: c :: cs) (hc : c ≠ '=') :
    ['-', '-', c] <+: (splitEquals s).1.toList := by
  have hname : s.toList.takeWhile (· ≠ '=') = '-' :: '-' :: c :: cs.takeWhile (· ≠ '=') := by
    simp [hs, hc]
  simp only [splitEquals, hname]
  split
  · exact ⟨cs, hs.symm⟩
  · exact ⟨cs.takeWhile (· ≠ '='), by simp⟩

/-- What is written with two hyphens is short for names with two hyphens and the same letter. -/
lemma length_candidates_long (hs : s.toList = '-' :: '-' :: c :: cs) (hc : c ≠ '=') :
    (f.candidates s).length ≤ (f.named.filter fun x => ['-', '-', c].isPrefixOf x.1.toList).length := by
  have hlong : s.startsWith "--" = true := String.startsWith_string_iff.mpr ⟨c :: cs, hs.symm⟩
  rw [Form.candidates, if_pos hlong, List.length_map]
  refine (List.monotone_filter_right _ fun x hx => ?_).length_le
  exact List.isPrefixOf_iff_prefix.mpr
    ((splitEquals_of_long hs hc).trans (String.startsWith_string_iff.mp hx))

/-- What is written with one hyphen is short for names with one hyphen and the same letter. -/
lemma length_candidates_short (hs : s.toList = '-' :: c :: cs) (hc : c ≠ '-') :
    (f.candidates s).length ≤ (f.named.filter fun x => ['-', c].isPrefixOf x.1.toList).length := by
  have hshort : ¬ s.startsWith "--" = true := by
    rw [String.startsWith_string_iff, hs]
    simp [hc.symm]
  rw [Form.candidates, if_neg hshort]
  refine length_filterMap_le (fun x hx => ?_) _
  have hx' : ¬ ['-', c] <+: x.1.toList := fun h => by simp [List.isPrefixOf_iff_prefix.mpr h] at hx
  have hequal : x.1 ≠ String.ofList (s.toList.take 2) := by
    intro h
    refine hx' ?_
    rw [h, hs]
    simp
  have hstart : ¬ x.1.startsWith s = true := by
    rw [String.startsWith_string_iff, hs]
    exact fun h => hx' (.trans ⟨cs, rfl⟩ h)
  exact (if_neg hequal).trans (if_neg hstart)

end

/-- No two switches of the tool have the same letter behind two hyphens. -/
lemma length_long_le (program : String) (c : Char) : ((toolForm program).named.filter
    fun x => ['-', '-', c].isPrefixOf x.1.toList).length ≤ 1 := by
  by_cases hc : c = 'h'
  · simp [named_tool, hc]
  · simp [named_tool, hc, List.filter_cons, apply_ite List.length]
    split <;> simp

/-- No two switches of the tool have the same letter behind one hyphen. -/
lemma length_short_le (program : String) {c : Char} (hne : c ≠ '-') : ((toolForm program).named.filter
    fun x => ['-', c].isPrefixOf x.1.toList).length ≤ 1 := by
  by_cases hc : c = 'h'
  · simp [named_tool, hc]
  · simp [named_tool, hc, hne, List.filter_cons, apply_ite List.length]
    split <;> simp

/-- The tool, and any command that knows no switch more, can mark every argument but the two hyphens
and one that starts with `--=`. -/
lemma exists_mark_of_sublist {program : String} {f : Form} {s : String}
    (hf : f.named.Sublist (toolForm program).named) (htwo : s ≠ "--")
    (heq : s.startsWith "--=" = false) : ∃ m, f.mark s = .ok m := by
  by_cases hstart : s.startsWith "-" = true
  · obtain ⟨cs, hcs⟩ := String.startsWith_string_iff.mp hstart
    have hs : s.toList = '-' :: cs := by simpa using hcs.symm
    cases cs with
    | nil =>
      obtain rfl : s = "-" := String.toList_injective hs
      exact exists_mark_hyphen
    | cons c cs =>
      by_cases hc : c = '-'
      · rw [hc] at hs
        cases cs with
        | nil => exact absurd (String.toList_injective hs) htwo
        | cons c cs =>
          have hc : c ≠ '=' := by
            rintro rfl
            have hlong : s.startsWith "--=" = true :=
              String.startsWith_string_iff.mpr ⟨cs, hs.symm⟩
            rw [heq] at hlong
            cases hlong
          refine exists_mark_of_length_le ((length_candidates_long hs hc).trans ?_)
          exact (hf.filter _).length_le.trans (length_long_le program c)
      · refine exists_mark_of_length_le ((length_candidates_short hs hc).trans ?_)
        exact (hf.filter _).length_le.trans (length_short_le program hc)
  · rw [Form.mark, if_pos (by simpa using hstart)]
    exact ⟨_, rfl⟩

/-- An argument that starts with `--=` is short for both switches of the tool. -/
lemma mark_of_unclear (program : String) {s : String} (hs : s.startsWith "--=" = true) :
    (toolForm program).mark s = .error (.refused (toolForm program).usage program
      s!"ambiguous option: {s} could match --help, --version") := by
  obtain ⟨cs, hcs⟩ := String.startsWith_string_iff.mp hs
  have hlist : s.toList = '-' :: '-' :: '=' :: cs := by simpa using hcs.symm
  have hone : s.startsWith "-" = true := String.startsWith_string_iff.mpr ⟨'-' :: '=' :: cs, hlist.symm⟩
  have htwo : s.startsWith "--" = true := String.startsWith_string_iff.mpr ⟨'=' :: cs, hlist.symm⟩
  have hne : ∀ t : String, '=' ∉ t.toList → s ≠ t := by
    rintro t ht rfl
    exact ht (by simp [hlist])
  have hsplit : splitEquals s = ("--", some (String.ofList cs)) := by
    simp only [splitEquals, hlist]
    rfl
  have hlookup : (toolForm program).named.lookup s = none := by
    simp only [named_tool, List.lookup_cons, beq_false_of_ne (hne "-h" (by decide)),
      beq_false_of_ne (hne "--help" (by decide)), beq_false_of_ne (hne "-v" (by decide)),
      beq_false_of_ne (hne "--version" (by decide)), List.lookup_nil]
  have hcandidates : (toolForm program).candidates s =
      [⟨some helpSwitch, "--help", some (String.ofList cs)⟩,
        ⟨some ⟨["-v", "--version"], "version", .flag⟩, "--version", some (String.ofList cs)⟩] := by
    have hdashes : ∀ n : String, n.startsWith "--" = ['-', '-'].isPrefixOf n.toList := by
      intro n
      rw [Bool.eq_iff_iff, String.startsWith_string_iff, List.isPrefixOf_iff_prefix]
      rfl
    rw [Form.candidates, if_pos htwo, hsplit, named_tool]
    simp only [hdashes]
    rfl
  have hnone : (toolForm program).named.lookup "--" = none := rfl
  have hnames : " could match " ++ ", ".intercalate ["--help", "--version"] =
      " could match --help, --version" := by decide
  simp only [Form.mark, hone, hlookup, hne "-" (by decide), hsplit, hnone, hcandidates]
  show Except.error (Stop.refused _ _ ("ambiguous option: " ++ s ++ " could match " ++
    ", ".intercalate ["--help", "--version"])) = _
  rw [String.append_assoc, hnames]
  rfl

/-! ## Reading -/

section

variable {program script : String} {args : List String}

/-- The arguments that are handed on to a script: all but two hyphens in front. -/
def handedOn (args : List String) : List String :=
  if args.head? = some "--" then args.tail else args

/-- The first argument before two hyphens that is short for more than one switch of the tool. -/
def unclear? (args : List String) : Option String :=
  (args.takeWhile (· ≠ "--")).find? (·.startsWith "--=")

lemma handedOn_eq_iff : handedOn args = args ↔ args.head? ≠ some "--" := by
  cases args with
  | nil => simp [handedOn]
  | cons s ss => by_cases h : s = "--" <;> simp [handedOn, h]

/-- The fields that the command for a script reads. -/
def scriptFields (script : String) (args : List String) : List (String × Value) :=
  [("script", .text script), ("args", .list (args.map .text))]

lemma ofFields?_script : Job.ofFields? (commandFields "run" (scriptFields script args)) =
    some (.run script args) := by
  have hargs : (args.map Value.text).filterMap valueText? = args := by
    simp [List.filterMap_map, Function.comp_def, valueText?]
  show some (Job.run script ((args.map Value.text).filterMap valueText?)) = _
  rw [hargs]

/-- The script is taken with the two hyphens behind it, and everything else is handed on. -/
lemma readSlots_script {f : Form} {rc : CommandReader} {rest : Rest}
    (hs : script ≠ "--") (hmap : rest.map (·.1) = args)
    (hhyphens : (rest.takeWhile (·.2.isHyphens)).length = if args.head? = some "--" then 1 else 0)
    (hblank : f.blank = ⟨[("script", .null), ("args", .null)],
      [{ key := "script", arity := .one }, { key := "args", arity := .rest }], []⟩) :
    readSlots f rc f.blank ((script, .argument) :: rest) =
      .ok (⟨scriptFields script (handedOn args), [], []⟩, []) := by
  have hhanded : handedOn args = (rest.drop (if args.head? = some "--" then 1 else 0)).map (·.1) := by
    rw [List.map_drop, hmap, handedOn]
    split <;> simp
  rw [hblank]
  generalize (if args.head? = some "--" then 1 else 0) = k at hhyphens hhanded
  have hone : Arity.one.take ((script, .argument) :: rest) = some (1 + k) := by
    have hlead : ((script, Mark.argument) :: rest).takeWhile (·.2.isHyphens) = [] := rfl
    simp only [Arity.take, hlead, List.length_nil, List.drop_zero, List.head?_cons, Option.map_some,
      Option.getD_some, Mark.isArgument, if_true, Nat.zero_add, List.drop_succ_cons, hhyphens]
  have hdrop : ((script, Mark.argument) :: rest).drop (1 + k) = rest.drop k := by
    rw [Nat.add_comm, List.drop_succ_cons]
  have hcounts : fillAll ((script, .argument) :: rest)
      [{ key := "script", arity := .one }, { key := "args", arity := .rest }] =
        some [1 + k, (rest.drop k).length] := by
    have hall : Arity.rest.take (rest.drop k) = some (rest.drop k).length := rfl
    simp [fillAll, hone, hdrop, hall]
  have hscript : (((((script, Mark.argument) :: rest).take (1 + k)).map (·.1)).erase "--").headD "" =
      script := by
    rw [Nat.add_comm, List.take_succ_cons, List.map_cons, List.erase_cons, if_neg (by simpa using hs)]
    rfl
  simp only [readSlots, fillSome, List.length_cons, List.length_nil, List.take, hcounts,
    Option.getD_some, fillSlots, fillSlot, hscript, hdrop, List.take_length, ← hhanded, bind,
    Except.bind, pure, Except.pure, List.drop_length]
  rfl

lemma lookup_run (program : String) : ∃ f, (commandForms program).lookup "run" = some f ∧
    f.named.Sublist (toolForm program).named ∧
    f.blank = ⟨[("script", .null), ("args", .null)],
      [{ key := "script", arity := .one }, { key := "args", arity := .rest }], []⟩ :=
  ⟨_, rfl, List.take_sublist 2 (toolForm program).named, rfl⟩

/-- Without an unclear argument all arguments before two hyphens can be marked. -/
lemma exists_mark_of_clear {f : Form} (hf : f.named.Sublist (toolForm program).named)
    (h : unclear? args = none) : ∀ s ∈ args.takeWhile (· ≠ "--"), ∃ m, f.mark s = .ok m := by
  intro s hs
  have hne : s ≠ "--" := by simpa using List.mem_takeWhile_imp hs
  have hclear := List.find?_eq_none.mp h s hs
  exact exists_mark_of_sublist hf hne (by simpa using hclear)

/-- What starts with a hyphen is no script. -/
lemma mem_cons_of_plain {s : String} (hscript : script.startsWith "-" = false)
    (hs : s.startsWith "-" = true) : s ∈ script :: args ↔ s ∈ args := by
  simp [(ne_of_startsWith hscript hs).symm]

lemma mark_of_plain {f : Form} (hs : script.startsWith "-" = false) :
    f.mark script = .ok .argument := by
  rw [Form.mark, if_pos (by simp [hs])]
  rfl

lemma marks_cons_of_plain {f : Form} (hs : script.startsWith "-" = false) :
    f.marks (script :: args) = (f.marks args).map ((script, .argument) :: ·) := by
  rw [Form.marks, if_neg (ne_of_startsWith hs (by simp)), mark_of_plain hs]
  cases f.marks args <;> rfl

lemma readCommand_script (hs : script.startsWith "-" = false) (h : unclear? args = none) :
    readCommand program "run" (script :: args) = .ok (scriptFields script (handedOn args), []) := by
  obtain ⟨f, hf, hnamed, hblank⟩ := lookup_run program
  obtain ⟨rest, hrest, hmap, hhyphens⟩ := exists_marks (exists_mark_of_clear hnamed h)
  have hmarks : f.marks (script :: args) = .ok ((script, .argument) :: rest) := by
    rw [marks_cons_of_plain hs, hrest]
    rfl
  simp only [readCommand, hf]
  exact readKnown_of_filled hmarks
    (readSlots_script (ne_of_startsWith hs (by simp)) hmap hhyphens hblank) rfl

/-- Without a wish for the version and an unclear argument the script is to be run. -/
lemma read_script (hs : script.startsWith "-" = false) (hversion : "--version" ∉ args ∧ "-v" ∉ args)
    (h : unclear? args = none) : Request.read program ("run" :: script :: args) =
      .ok (.line false (some (.run script (handedOn args)))) := by
  obtain ⟨rest, hrest, hmap, -⟩ :=
    exists_marks (exists_mark_of_clear (List.Sublist.refl (toolForm program).named) h)
  have hmarks : (toolForm program).marks (script :: args) = .ok ((script, .argument) :: rest) := by
    rw [marks_cons_of_plain hs, hrest]
    rfl
  have hno : "--version" ∉ script :: args ∧ "-v" ∉ script :: args := by
    rwa [mem_cons_of_plain hs (by simp), mem_cons_of_plain hs (by simp)]
  rw [read_of_command (by decide) hno hmarks (by simp [hmap]) (readCommand_script hs h),
    ofFields?_script]
  rfl

/-- Whether the version is wished for does not depend on the script. -/
lemma contains_version (hs : script.startsWith "-" = false) :
    (("run" :: script :: args).contains "--version" || ("run" :: script :: args).contains "-v") =
      decide ("--version" ∈ args ∨ "-v" ∈ args) := by
  have hmem : ∀ s : String, s.startsWith "-" = true →
      (s ∈ "run" :: script :: args ↔ s ∈ args) := fun s h =>
    (mem_cons_of_plain (by simp) h).trans (mem_cons_of_plain hs h)
  rw [Bool.eq_iff_iff, Bool.or_eq_true, List.contains_iff_mem, List.contains_iff_mem,
    decide_eq_true_iff, hmem _ (by simp), hmem _ (by simp)]

lemma read_of_version (hs : script.startsWith "-" = false)
    (hversion : "--version" ∈ args ∨ "-v" ∈ args) :
    Request.read program ("run" :: script :: args) = .ok .version := by
  unfold Request.read
  rw [contains_version hs, decide_eq_true hversion]
  rfl

/-- An unclear argument refuses the whole line. -/
lemma read_of_unclear {s : String} (hs : script.startsWith "-" = false)
    (hversion : ¬ ("--version" ∈ args ∨ "-v" ∈ args)) (h : unclear? args = some s) :
    Request.read program ("run" :: script :: args) = .error (.refused (toolForm program).usage program
      s!"ambiguous option: {s} could match --help, --version") := by
  have hstart : s.startsWith "--=" = true := List.find?_some (p := fun t : String => t.startsWith "--=") h
  have hmarks : (toolForm program).marks ("run" :: script :: args) = .error (.refused
      (toolForm program).usage program s!"ambiguous option: {s} could match --help, --version") := by
    rw [marks_cons_of_plain (by simp), marks_cons_of_plain hs, marks_of_refused
      (mark_of_unclear program hstart) h fun t => exists_mark_of_sublist (List.Sublist.refl _)]
    rfl
  unfold Request.read
  rw [contains_version hs, decide_eq_false hversion]
  simp only [Form.read, Form.readKnown, hmarks, bind, Except.bind]
  rfl

/-- The command line that runs a script is read in one of three ways. -/
lemma read_eq (hs : script.startsWith "-" = false) :
    Request.read program ("run" :: script :: args) =
      if "--version" ∈ args ∨ "-v" ∈ args then .ok .version
      else match unclear? args with
        | some s => .error (.refused (toolForm program).usage program
            s!"ambiguous option: {s} could match --help, --version")
        | none => .ok (.line false (some (.run script (handedOn args)))) := by
  by_cases hversion : "--version" ∈ args ∨ "-v" ∈ args
  · rw [if_pos hversion, read_of_version hs hversion]
  · rw [if_neg hversion]
    cases h : unclear? args with
    | some s => exact read_of_unclear hs hversion h
    | none => exact read_script hs (not_or.mp hversion) h

/-- A script that was found and passes is started with the arguments that are handed on. -/
lemma after_performWith {w : Session} {path : Path} (hs : script.startsWith "-" = false)
    (hversion : "--version" ∉ args ∧ "-v" ∉ args) (h : unclear? args = none)
    (hpath : resolvePath w.disk w.places.here script = .ok path)
    (hthere : w.disk.pathExists w.places.here path.text = true)
    (hpass : checkFileHere w.disk w.places path.text = .ok []) (start : String → Act Unit) :
    ∃ line, after (performWith start ("run" :: script :: args) w) =
      { after (start path.text (startedFrom path (handedOn args) w)) with
        err := (after (start path.text (startedFrom path (handedOn args) w))).err ++ line } := by
  have hresolved : resolved script w = .ok path w := by
    show Act.ofExcept (resolvePath w.disk w.places.here script) w = _
    rw [hpath]
    rfl
  have hrun : run start script (handedOn args) w = runChecked start path (handedOn args) w := by
    rw [run, Act.bind_ok hresolved, Act.bind_ok (Act.isThere_of_pathExists hthere)]
    exact checkAndRun_of_passed hpass start _
  have hread := readRequest_ok (fun _ => read_script hs hversion h) w
  have hperform : performWith start ("run" :: script :: args) w =
      Act.recover (runChecked start path (handedOn args)) (fun f => do
        Act.errorLine s!"❌ An error occurred: {f.message}"
        return 1) w := by
    rw [performWith]
    refine Act.recover_congr ?_
    rw [Act.bind_ok hread]
    exact hrun
  rw [hperform]
  exact after_runChecked path (handedOn args) w start _

end

/-- **The arguments of a script.**  Take a script that is not written like a switch.  The version is
shown just if it is asked for anywhere behind the script; else an argument before two hyphens that
starts with `--=` refuses the line; else the script is to be run, with all arguments but two hyphens
right behind the script.  So the arguments are handed on unchanged if and only if none of these is
there.  A script that is found and passes its check is started with its own name and the arguments
that are handed on. -/
theorem read_run_arguments (program : String) {script : String} (args : List String)
    (hs : script.startsWith "-" = false) :
    (Request.read program ("run" :: script :: args) =
      if "--version" ∈ args ∨ "-v" ∈ args then .ok .version
      else match unclear? args with
        | some s => .error (.refused (toolForm program).usage program
            s!"ambiguous option: {s} could match --help, --version")
        | none => .ok (.line false (some (.run script (handedOn args))))) ∧
    (Request.read program ("run" :: script :: args) = .ok (.line false (some (.run script args))) ↔
      ("--version" ∉ args ∧ "-v" ∉ args) ∧ unclear? args = none ∧ args.head? ≠ some "--") ∧
    ∀ (w : Session) (path : Path), resolvePath w.disk w.places.here script = .ok path →
      w.disk.pathExists w.places.here path.text = true →
      checkFileHere w.disk w.places path.text = .ok [] →
      "--version" ∉ args ∧ "-v" ∉ args → unclear? args = none →
      (startedFrom path (handedOn args) w).args = path.name :: handedOn args ∧
        ∀ start, ∃ line, after (performWith start ("run" :: script :: args) w) =
          { after (start path.text (startedFrom path (handedOn args) w)) with
            err := (after (start path.text (startedFrom path (handedOn args) w))).err ++ line } := by
  refine ⟨read_eq hs, ?_, fun w path hpath hthere hpass hversion hclear =>
    ⟨rfl, after_performWith hs hversion hclear hpath hthere hpass⟩⟩
  rw [read_eq hs, ← handedOn_eq_iff]
  by_cases hversion : "--version" ∈ args ∨ "-v" ∈ args
  · simp [hversion, not_or.symm]
  · cases hclear : unclear? args with
    | some s => simp [hversion]
    | none => simp [not_or.mp hversion]

/-- An empty script in the current directory. -/
def bareScript : Session where
  disk := ⟨[(["m"], .file "".toUTF8)]⟩
  places := { here := [], home := [] }

lemma scriptPath_bareScript : scriptPath bareScript "m" = Location.path ["m"] := by cbv

lemma text_bareScript : (Location.path ["m"]).text = "/m" := by decide

lemma find_bareScript : bareScript.disk.find [] "/m" = .ok (["m"], .file "".toUTF8) :=
  text_bareScript ▸ Disk.find_text_in_root (by decide) (by decide) rfl

lemma ready_bareScript : Ready bareScript "m" (Location.path ["m"]) := by
  have hfind : bareScript.disk.find [] "m" = .ok (["m"], .file "".toUTF8) :=
    Disk.find_of_found (by decide) (by decide) (Disk.found_in_root (by decide) rfl) rfl
  rw [← scriptPath_bareScript]
  refine ready_of_find (by simp) hfind ?_
  rw [scriptPath_bareScript, text_bareScript]
  exact find_bareScript

/-- The empty script passes its check. -/
lemma check_bareScript : checkFileHere bareScript.disk bareScript.places "/m" = .ok [] := by
  have hcurrent : Settings.current bareScript.disk bareScript.places = .ok Settings.defaults :=
    Settings.current_of_bare_root (by simp [bareScript, Disk.get?])
  have hread : bareScript.disk.readText [] "/m" = .ok "" := by
    rw [Disk.readText, Disk.read, find_bareScript]
    rfl
  rw [checkFileHere, hcurrent]
  exact Limits.check_empty hread

/-- Arguments like switches are handed on and given to the script, also the hyphens among them. -/
theorem read_run_arguments_bareScript :
    "m".startsWith "-" = false ∧
      Request.read "spyq" ["run", "m", "-h", "--", "--=y"] =
        .ok (.line false (some (.run "m" ["-h", "--", "--=y"]))) ∧
      ∃ w : Session, w.args = ["m", "-h", "--", "--=y"] ∧
        ∀ start, ∃ line, after (performWith start ["run", "m", "-h", "--", "--=y"] bareScript) =
          { after (start "/m" w) with err := (after (start "/m" w)).err ++ line } := by
  have hs : "m".startsWith "-" = false := by simp
  have hversion : "--version" ∉ ["-h", "--", "--=y"] ∧ "-v" ∉ ["-h", "--", "--=y"] := by decide
  have hclear : unclear? ["-h", "--", "--=y"] = none := by simp [unclear?]
  obtain ⟨-, hsame, hstarted⟩ := read_run_arguments "spyq" ["-h", "--", "--=y"] hs
  obtain ⟨hargs, hafter⟩ := hstarted bareScript _ ready_bareScript.resolves ready_bareScript.there
    (by rw [text_bareScript]; exact check_bareScript) hversion hclear
  rw [text_bareScript] at hafter
  exact ⟨hs, hsame.mpr ⟨hversion, hclear, by decide⟩, _, hargs, hafter⟩

/-- Three arguments that a script is not given: the first shows the version, the second is dropped,
and the third refuses the line. -/
theorem read_run_taken :
    Request.read "spyq" ["run", "m", "-v"] = .ok .version ∧
      Request.read "spyq" ["run", "m", "--"] = .ok (.line false (some (.run "m" []))) ∧
      ∃ usage message, Request.read "spyq" ["run", "m", "--=x"] =
        .error (.refused usage "spyq" message) := by
  have hs : "m".startsWith "-" = false := by simp
  refine ⟨read_of_version hs (by decide), read_script hs (by decide) (by simp [unclear?]), _, _,
    read_of_unclear hs (by decide) (s := "--=x") (by simp [unclear?])⟩

end QualityGate.Command
