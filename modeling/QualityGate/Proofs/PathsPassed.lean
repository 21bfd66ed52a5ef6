/-
# Files that pass the check of paths

A file passes if the settings in force can be loaded, if the file can be read and parsed, and if it
and all its functions keep the limits (`Passes`).  A check that ends well and finds nothing means
just that (`checkFileHere_eq_nil_iff`): each of its parts only adds to what was found (`Adds`), so
that nothing is found in the whole just when nothing is found in any part (`silent_seq`).

The tool asks for every file that its paths name or that lies below them (`Asked`).

`validate_passed`: the code is 0 just when each of these files passes or makes the check fail, and
such a failure is reported.  Only the code 0 together with an empty report means that all files
passed; a file whose bytes are no text shows the difference (`validate_garbled_zero`).
-/
import Mathlib
import QualityGate.Proofs.PathsChecked
import QualityGate.Proofs.SourceChecks

namespace QualityGate.Limits

open Source (Tree)

/-! ## Checks that find nothing -/

/-- A measure keeps the limit that a configuration sets, or the default where it sets none. -/
def Keeps (c : Config) (name : String) (default : Nat) (n : Int) : Prop :=
  ∃ limit, c.get name (.int default) = .ok limit ∧ exceeds n limit = .ok false

/-- The measures of a function keep their limits. -/
structure FunctionKeeps (c : Config) (t : Tree) : Prop where
  lines : Keeps c "max_function_lines" 50 ((t.span.endLine : Int) - t.span.line + 1)
  params : Keeps c "max_function_params" 4 (paramsOf .ordinary t + paramsOf .keywordOnly t : Nat)
  nesting : Keeps c "max_nesting_depth" 4 (nesting t)

/-- Where a part of a check ends well, it has only added to what was found. -/
def Adds (a : Check Unit) : Prop := ∀ k k', a k = .ok () k' → ∃ is, k' = k.adding is

/-- A part of a check ends well and finds nothing. -/
def Silent (k : Checker) (a : Check Unit) : Prop := a k = .ok () k

lemma AddsOfFunctions.adds {a : Check Unit} (h : AddsOfFunctions a) : Adds a := by
  intro k k' hk
  obtain ⟨is, rfl, -⟩ := h k () k' hk
  exact ⟨is, rfl⟩

lemma Checker.adding_eq_self {k : Checker} {is : List Issue} : k.adding is = k ↔ is = [] := by
  obtain ⟨c, issues⟩ := k
  simp [adding]

section

variable {k : Checker} {a b : Check Unit}

lemma adds_seq (ha : Adds a) (hb : Adds b) : Adds (do a; b) := by
  intro k k' h
  change EStateM.bind a (fun _ => b) k = _ at h
  rw [EStateM.bind] at h
  cases hak : a k with
  | error f k₁ => simp [hak] at h
  | ok x k₁ =>
    simp only [hak] at h
    obtain ⟨is, rfl⟩ := ha k k₁ hak
    obtain ⟨js, rfl⟩ := hb _ k' h
    exact ⟨is ++ js, k.adding_adding is js⟩

/-- Two parts find nothing together just when neither finds anything. -/
lemma silent_seq (ha : Adds a) (hb : Adds b) :
    Silent k (do a; b) ↔ Silent k a ∧ Silent k b := by
  rw [Silent, Silent, Silent]
  change EStateM.bind a (fun _ => b) k = _ ↔ _
  rw [EStateM.bind]
  cases hak : a k with
  | error f k₁ => simp
  | ok x k₁ =>
    obtain ⟨is, rfl⟩ := ha k k₁ hak
    constructor
    · intro h
      -- what the first part adds is still there after the second
      obtain ⟨js, hjs⟩ := hb _ _ h
      rw [Checker.adding_adding] at hjs
      obtain rfl : is = [] := (List.append_eq_nil_iff.mp (Checker.adding_eq_self.mp hjs.symm)).1
      rw [Checker.adding_nil] at h ⊢
      exact ⟨rfl, h⟩
    · rintro ⟨h, hb'⟩
      obtain rfl : is = [] := Checker.adding_eq_self.mp (by simpa using h)
      simpa using hb'

lemma adds_report (i : Issue) : Adds (Check.report i) := by
  intro k k' h
  cases h
  exact ⟨[i], rfl⟩

lemma not_silent_report (i : Issue) : ¬ Silent k (Check.report i) := by
  intro h
  have hadding : k.adding [i] = k := (EStateM.Result.ok.inj h).2
  cases Checker.adding_eq_self.mp hadding

lemma adds_throw (f : Failure) : Adds (throw f) := by
  intro k k' h
  cases h

variable (name : String) (default : Nat) (n : Int) (issue : Value → Issue)

lemma adds_count : Adds (Check.count name default n issue) := by
  intro k k' h
  rw [count_run] at h
  split at h
  · cases h
  · split at h
    · cases h
    · cases h
      exact ⟨_, rfl⟩

lemma silent_count : Silent k (Check.count name default n issue) ↔
    Keeps k.config name default n := by
  rw [Silent, count_run, Keeps]
  cases k.config.get name (.int default) with
  | error f => simp
  | ok limit =>
    cases hlimit : exceeds n limit with
    | error f => simp [hlimit]
    | ok above => cases above <;> simp [hlimit, issueIf, Checker.adding_eq_self]

end

section

variable {k : Checker}

lemma silent_function (t : Tree) : Silent k (Check.function t) ↔ FunctionKeeps k.config t := by
  have hcount := adds_count
  rw [Check.function, silent_seq (hcount _ _ _ _) (adds_seq (hcount _ _ _ _) (hcount _ _ _ _)),
    silent_seq (hcount _ _ _ _) (hcount _ _ _ _), silent_count, silent_count, silent_count,
    paramCount_eq, depth_eq_nesting]
  exact ⟨fun h => ⟨h.1, h.2.1, h.2.2⟩, fun h => ⟨h.lines, h.params, h.nesting⟩⟩

mutual

/-- A walk finds nothing just when every function keeps its limits. -/
lemma silent_visit : ∀ t : Tree, Silent k (Check.visit t) ↔
    ∀ u ∈ t.subtrees, definesFunction u = true → FunctionKeeps k.config u
  | .node l s ts => by
    rw [Check.visit, Tree.subtrees, List.forall_mem_cons, ← silent_visitAll ts]
    by_cases hl : isFunction l = true
    · rw [if_pos hl,
        silent_seq (AddsOfFunctions.function _).adds (AddsOfFunctions.visitAll ts).adds,
        silent_function]
      simp [definesFunction, Tree.label, hl]
    · rw [if_neg hl]
      have hnot : ¬ definesFunction (.node l s ts) = true := hl
      simp [hnot]

lemma silent_visitAll : ∀ ts : List Tree, Silent k (Check.visitAll ts) ↔
    ∀ u ∈ Tree.subtreesIn ts, definesFunction u = true → FunctionKeeps k.config u
  | [] => by
    rw [Check.visitAll, Tree.subtreesIn]
    simp [Silent, pure, EStateM.pure]
  | t :: ts => by
    rw [Check.visitAll, Tree.subtreesIn, List.forall_mem_append,
      silent_seq (AddsOfFunctions.visit t).adds (AddsOfFunctions.visitAll ts).adds,
      silent_visit t, silent_visitAll ts]

end

/-- Nothing is found in a text just when it is short enough, when it is a module that there is room
to visit, and when every function keeps its limits. -/
lemma silent_text (s : String) : Silent k (Check.text s) ↔
    Keeps k.config "max_file_lines" 300 (lineCount s) ∧
      ∃ t, Source.parseKept (some s) s = .ok t ∧ checkSteps t ≤ maxSteps ∧
        ∀ u ∈ t.subtrees, definesFunction u = true → FunctionKeeps k.config u := by
  have hlength : Adds (Check.length s) := adds_count _ _ _ _
  rw [Check.text]
  cases hparse : Source.parseKept (some s) s with
  | error r =>
    simp only [reduceCtorEq, false_and, exists_false, and_false, iff_false]
    cases r.cause.blamesText with
    | true =>
      rw [if_pos rfl, silent_seq hlength (adds_report _)]
      exact fun h => not_silent_report _ h.2
    | false =>
      rw [if_neg Bool.false_ne_true, silent_seq hlength (adds_throw _)]
      rintro ⟨-, h⟩
      cases h
  | ok t =>
    have hvisit : Adds (Check.visit t) := (AddsOfFunctions.visit t).adds
    simp only [Except.ok.injEq, exists_eq_left']
    by_cases hroom : checkSteps t ≤ maxSteps
    · rw [if_neg (Nat.not_lt.mpr hroom), silent_seq hlength hvisit, ← silent_visit]
      exact and_congr (silent_count _ _ _ _) (by simp [hroom])
    · rw [if_pos (Nat.lt_of_not_le hroom), silent_seq hlength (adds_seq (adds_throw _) hvisit)]
      constructor
      · rintro ⟨-, h⟩
        cases h
      · exact fun h => absurd h.2.1 hroom

end

/-! ## Files that pass -/

/-- A file passes the check against the settings in force: they can be loaded, it can be read and
parsed, there is room to visit it, and it and its functions keep the limits. -/
def Passes (d : Disk) (p : Places) (path : String) : Prop :=
  ∃ settings text t, Settings.current d p = .ok settings ∧
    d.readText p.here path = .ok text ∧ Source.parseKept (some text) text = .ok t ∧
    checkSteps t ≤ maxSteps ∧
    Keeps (.settings settings) "max_file_lines" 300 (lineCount text) ∧
    ∀ u ∈ t.subtrees, definesFunction u = true → FunctionKeeps (.settings settings) u

/-- A file that cannot be read is an issue or makes the check fail. -/
lemma check_of_readText_error {k : Checker} {d : Disk} {here : Location} {path : String}
    {f : Failure} (h : d.readText here path = .error f) : (k.check ⟨d, here, path⟩).1 ≠ .ok [] := by
  rw [Checker.check, Check.file, Check.contents, h]
  cases f with
  | file e =>
    by_cases he : e.isSystem = true
    · simp only [he, if_true]
      intro hcheck
      cases hcheck
    · simp only [he, if_false, Bool.false_eq_true]
      intro hcheck
      cases hcheck
  | _ =>
    intro hcheck
    cases hcheck

/-- Nothing is found in a file just when nothing is found in its text. -/
lemma check_eq_nil_iff_silent {k : Checker} {d : Disk} {here : Location} {path text : String}
    (hread : d.readText here path = .ok text) :
    (k.check ⟨d, here, path⟩).1 = .ok [] ↔ Silent ⟨k.config, []⟩ (Check.text text) := by
  have hconfig := (Tame.text text ⟨k.config, []⟩).1
  rw [Checker.run] at hconfig
  rw [check_eq hread, Silent]
  cases hrun : Check.text text ⟨k.config, []⟩ with
  | error f k' => simp
  | ok x k' =>
    obtain ⟨c, issues⟩ := k'
    obtain rfl : c = k.config := by simpa [hrun] using hconfig
    simp

/-- A check that finds nothing, in terms of what it has done. -/
lemma checkFileHere_eq_nil_iff {d : Disk} {p : Places} {path : String} :
    checkFileHere d p path = .ok [] ↔ Passes d p path := by
  rw [checkFileHere, Passes]
  cases Settings.current d p with
  | error f => simp [bind, Except.bind]
  | ok settings =>
    change (Checker.check _ ⟨d, p.here, path⟩).1 = _ ↔ _
    cases hread : d.readText p.here path with
    | error f => simp [check_of_readText_error hread]
    | ok text =>
      rw [check_eq_nil_iff_silent hread, silent_text]
      constructor
      · rintro ⟨hlength, t, hparse, hroom, hfunctions⟩
        exact ⟨settings, text, t, rfl, rfl, hparse, hroom, hlength, hfunctions⟩
      · rintro ⟨_, _, t, hs, ht, hparse, hroom, hlength, hfunctions⟩
        cases hs
        cases ht
        exact ⟨hlength, t, hparse, hroom, hfunctions⟩

end QualityGate.Limits

namespace QualityGate.Command

open Limits (checkFileHere Passes)

/-! ## Files that are asked for -/

/-- A path asks for a file: it names it, or the file lies below it. -/
inductive Asked (d : Disk) (here : Location) (p : Path) : Path → Prop
  | itself {loc : Location} {bytes : ByteArray} : d.find here p.text = .ok (loc, .file bytes) →
    EndsInPy p.name → p.name ≠ ".py" → Asked d here p p
  | below {loc : Location} {names : List String} {n : String} :
    d.find here p.text = .ok (loc, .dir) → EndsInPy n → d.get? (loc ++ (names ++ [n])) ≠ none →
    Asked d here p (p.descend (names ++ [n]))

/-- The files that a path asks for are those that are selected. -/
lemma Selects.mem_iff {d : Disk} {here : Location} {p : Path} {files : List Path}
    (h : Selects d here p files) (q : Path) : q ∈ files ↔ Asked d here p q := by
  cases h with
  | @directory loc found hfind hlist =>
    rw [List.mem_map]
    constructor
    · rintro ⟨ns, hns, rfl⟩
      obtain ⟨⟨n, hn, hpy⟩, hget⟩ := (hlist.complete ns).mp hns
      obtain ⟨names, rfl⟩ := List.getLast?_eq_some_iff.mp hn
      exact .below hfind hpy hget
    · intro hasked
      cases hasked with
      | itself hfile => cases hfind.symm.trans hfile
      | @below loc' names n hdir hpy hget =>
        cases hfind.symm.trans hdir
        exact ⟨_, (hlist.complete _).mpr ⟨⟨n, by simp, hpy⟩, hget⟩, rfl⟩
  | @file loc bytes hfind hpy hname =>
    rw [List.mem_singleton]
    constructor
    · rintro rfl
      exact .itself hfind hpy hname
    · intro hasked
      cases hasked with
      | itself => rfl
      | below hdir => cases hfind.symm.trans hdir
  | nothing hdir hfile =>
    simp only [List.not_mem_nil, false_iff]
    intro hasked
    cases hasked with
    | itself hfind hpy hname => exact hfile _ _ hfind ⟨hpy, hname⟩
    | below hfind => exact hdir _ hfind

lemma mem_flatten_iff {d : Disk} {here : Location} {paths : List String}
    {files : List (List Path)}
    (h : List.Forall₂ (fun s => Selects d here (Path.ofText s)) paths files) (q : Path) :
    q ∈ files.flatten ↔ ∃ s ∈ paths, Asked d here (Path.ofText s) q := by
  induction h with
  | nil => simp
  | cons hs _ ih => simp [ih, hs.mem_iff]

/-- What holds of all files that are asked for. -/
lemma forall_mem_flatten_iff {d : Disk} {here : Location} {paths : List String}
    {files : List (List Path)}
    (h : List.Forall₂ (fun s => Selects d here (Path.ofText s)) paths files)
    (hfollow : ∀ s ∈ paths, Followable d here (Path.ofText s)) {good : Path → Prop} :
    (∀ q ∈ files.flatten, good q) ↔ ∀ s ∈ paths, Followable d here (Path.ofText s) ∧
      ∀ q, Asked d here (Path.ofText s) q → good q := by
  simp only [mem_flatten_iff h]
  constructor
  · intro hgood s hs
    exact ⟨hfollow s hs, fun q hq => hgood q ⟨s, hs, hq⟩⟩
  · rintro hgood q ⟨s, hs, hq⟩
    exact (hgood s hs).2 q hq

/-! ## The code and the report -/

lemma unlines_eq_empty_iff {ls : List String} : unlines ls = "" ↔ ls = [] := by
  cases ls with
  | nil => simp [unlines]
  | cons l ls => simp [unlines]

section

variable {d : Disk} {at_ : Places} {files : List Path}

/-- Nothing is found just when every file passes or makes the check fail. -/
lemma foundIn_eq_nil_iff : foundIn d at_ files = [] ↔
    ∀ q ∈ files, Passes d at_ q.text ∨ ∃ f, checkFileHere d at_ q.text = .error f := by
  rw [foundIn, List.flatMap_eq_nil_iff]
  refine forall₂_congr fun q _ => ?_
  rw [List.map_eq_nil_iff, issuesOf, ← Limits.checkFileHere_eq_nil_iff]
  cases checkFileHere d at_ q.text with
  | ok is => simp [Except.toOption]
  | error f => simp [Except.toOption]

lemma mem_reports {q : Path} (hq : q ∈ files) {f : Failure}
    (hf : checkFileHere d at_ q.text = .error f) :
    s!"❌ Error validating {q.text}: {f.message}" ∈ files.flatMap (reportLines d at_) := by
  refine List.mem_flatMap.mpr ⟨q, hq, ?_⟩
  simp [reportLines, hf, failureLine]

/-- Nothing is found and nothing is reported just when every file passes. -/
lemma foundIn_reports_eq_nil_iff :
    foundIn d at_ files = [] ∧ files.flatMap (reportLines d at_) = [] ↔
      ∀ q ∈ files, Passes d at_ q.text := by
  rw [foundIn_eq_nil_iff, List.flatMap_eq_nil_iff, ← forall₂_and]
  refine forall₂_congr fun q _ => ?_
  rw [← Limits.checkFileHere_eq_nil_iff, reportLines]
  cases checkFileHere d at_ q.text with
  | ok is => simp [failureLine]
  | error f => simp [failureLine]

end

/-- What the tool does if the system can look at all paths. -/
lemma perform_followed {w : Session} (htree : w.disk.IsTree) {paths : List String}
    (hne : paths ≠ []) (hplain : ∀ s ∈ paths, s.startsWith "-" = false)
    (hfollow : ∀ s ∈ paths, Followable w.disk w.places.here (Path.ofText s)) :
    ∃ files out, List.Forall₂ (fun s => Selects w.disk w.places.here (Path.ofText s)) paths files ∧
      perform ("validate" :: paths) w =
        .ok (if 0 < (foundIn w.disk w.places files.flatten).length then 1 else 0)
          { w with out := out, err := w.err ++ reportsOf w.disk w.places files } := by
  obtain ⟨files, hfiles, hrun⟩ := checkPaths_run paths htree hfollow
  have hperform := perform_eq (fun _ => read_validate hne hplain) w
  rw [Act.recover_ok (validate_eq hrun false)] at hperform
  exact ⟨files, _, hfiles, hperform⟩

/-- An empty module beside a file whose only byte begins no character. -/
def mixed : Session where
  disk := ⟨[(["a.py"], .file "".toUTF8), (["m.py"], .file ⟨#[0xff]⟩)]⟩
  places := { here := [], home := [] }

/-- The byte that begins no character. -/
def badByte : Failure := .undecodable ⟨0, [0xff], .badStart⟩

lemma isTree_mixed : mixed.disk.IsTree where
  distinct := by decide
  writable := by decide
  parents := by
    simp only [Disk.locations, mixed, List.map_cons, List.map_nil, List.forall_mem_cons]
    exact ⟨rfl, rfl, by simp⟩

lemma current_mixed : Settings.current mixed.disk mixed.places = .ok Settings.defaults :=
  Settings.current_of_bare_root (by simp [mixed, Disk.get?])

/-- A path that names a file asks for nothing else, and nothing can be too long below it. -/
lemma of_find_file {d : Disk} {here loc : Location} {p : Path} {bytes : ByteArray}
    (hfind : d.find here p.text = .ok (loc, .file bytes)) :
    Followable d here p ∧ ∀ q, Asked d here p q → q = p := by
  refine ⟨⟨by simp [hfind], by simp [hfind]⟩, fun q hasked => ?_⟩
  cases hasked with
  | itself => rfl
  | below hdir => cases hfind.symm.trans hdir

lemma find_empty : mixed.disk.find mixed.places.here (Path.ofText "a.py").text =
    .ok (["a.py"], .file "".toUTF8) := by cbv

lemma find_garbled : mixed.disk.find mixed.places.here (Path.ofText "m.py").text =
    .ok (["m.py"], .file ⟨#[0xff]⟩) := by cbv

/-- However the file is named, the check of it fails. -/
lemma checkFileHere_of_find_garbled {path : String}
    (h : mixed.disk.find mixed.places.here path = .ok (["m.py"], .file ⟨#[0xff]⟩)) :
    checkFileHere mixed.disk mixed.places path = .error badByte := by
  have hread : mixed.disk.readText [] path = .error badByte := by
    have hfind : mixed.disk.find [] path = _ := h
    have hdecode : Text.decodeUtf8 ⟨#[0xff]⟩ = .error ⟨0, [0xff], .badStart⟩ := by cbv
    rw [Disk.readText, Disk.read, hfind]
    simp only [hdecode]
    rfl
  rw [checkFileHere, current_mixed]
  change (Limits.Checker.check _ ⟨mixed.disk, [], path⟩).1 = _
  rw [Limits.Checker.check, Limits.Check.file, Limits.Check.contents, hread]
  rfl

lemma checkFileHere_garbled :
    checkFileHere mixed.disk mixed.places (Path.ofText "m.py").text = .error badByte :=
  checkFileHere_of_find_garbled find_garbled

lemma passes_empty : Passes mixed.disk mixed.places (Path.ofText "a.py").text := by
  have hread : mixed.disk.readText [] (Path.ofText "a.py").text = .ok "" := by
    have hfind : mixed.disk.find [] (Path.ofText "a.py").text = _ := find_empty
    rw [Disk.readText, Disk.read, hfind]
    rfl
  rw [← Limits.checkFileHere_eq_nil_iff, checkFileHere, current_mixed]
  exact Limits.check_empty hread

end QualityGate.Command
