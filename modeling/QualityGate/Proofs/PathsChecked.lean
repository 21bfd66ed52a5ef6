/-
# What the check of paths prints

The tool checks the files that each of its paths asks for (`Selects`) and prints what it finds.
What is found along a list of files, and along a list of paths, is put together from one step each
(`checkAll_eq`, `checkPaths_run`).

`validate_prints`: the lines that are printed are those of the files of the paths, in order, whether
or not the check is strict.
-/
import Mathlib
import QualityGate.Command.Perform
import QualityGate.Proofs.CommandLine
import QualityGate.Proofs.DirectoryListing
import QualityGate.Proofs.DiskWrite
import QualityGate.Proofs.LimitsFindings
import QualityGate.Proofs.Runners
import QualityGate.Proofs.Sessions

namespace QualityGate.Command

open Limits (checkFileHere Issue)

/-! ## Lines -/

/-- Lines as they are printed. -/
def unlines : List String → String
  | [] => ""
  | l :: ls => l ++ "\n" ++ unlines ls

lemma unlines_append (ls ms : List String) : unlines (ls ++ ms) = unlines ls ++ unlines ms := by
  induction ls with
  | nil => simp [unlines]
  | cons l ls ih => simp [unlines, ih, String.append_assoc]

/-- A loop that prints a line in each turn. -/
lemma forIn_print {α : Type} {line : α → String} {step : α → PUnit → Act (ForInStep PUnit)}
    (hstep : ∀ a u w, step a u w =
      .ok (.yield PUnit.unit) { w with out := w.out ++ (line a ++ "\n") }) (as : List α) :
    ∀ w : Session, (forIn as PUnit.unit step) w =
      .ok PUnit.unit { w with out := w.out ++ unlines (as.map line) } := by
  refine Act.forIn_put (fun ls w => { w with out := w.out ++ unlines ls }) ?_ ?_ ?_ as
  · simp [unlines]
  · simp [unlines, String.append_assoc]
  · simpa [unlines] using hstep

/-! ## Files -/

/-- The line of an issue in a file. -/
def issueLine (p : Path) (i : Issue) : String :=
  s!"{p.text}:{lineShown i}:{i.col}: {Severity.error.title}: {i.finding.message}"

/-- The line at the end, behind an empty one. -/
def countLine (errors warnings : Nat) : String :=
  s!"\nFound {errors} errors and {warnings} warnings"

/-- The issues of a file, none if it cannot be checked. -/
def issuesOf (d : Disk) (at_ : Places) (p : Path) : List Issue :=
  (checkFileHere d at_ p.text).toOption.getD []

/-- The lines of the issues of a file. -/
def issueLines (d : Disk) (at_ : Places) (p : Path) : List String :=
  (issuesOf d at_ p).map (issueLine p)

/-- The line that reports a failure to check a file. -/
def failureLine (p : Path) : Except Failure (List Issue) → Option String
  | .ok _ => none
  | .error f => some s!"❌ Error validating {p.text}: {f.message}"

/-- The report of a file that cannot be checked. -/
def reportLines (d : Disk) (at_ : Places) (p : Path) : List String :=
  (failureLine p (checkFileHere d at_ p.text)).toList

/-- What is found in files, each issue with its file. -/
def foundIn (d : Disk) (at_ : Places) (files : List Path) : List (Path × Issue) :=
  files.flatMap fun p => (issuesOf d at_ p).map fun i => (p, i)

lemma map_issueLine_foundIn (d : Disk) (at_ : Places) (files : List Path) :
    (foundIn d at_ files).map (fun x => issueLine x.1 x.2) = files.flatMap (issueLines d at_) := by
  rw [foundIn, List.map_flatMap]
  refine List.flatMap_congr fun p _ => ?_
  rw [List.map_map, issueLines]
  rfl

/-- The check of one file: what it finds, or a report. -/
lemma recover_checkPath (p : Path) (w : Session) :
    Act.recover (checkPath p.text) (fun f => do
      Act.errorLine s!"❌ Error validating {p.text}: {f.message}"
      return []) w =
    .ok (issuesOf w.disk w.places p)
      { w with err := w.err ++ unlines (reportLines w.disk w.places p) } := by
  cases hcheck : checkFileHere w.disk w.places p.text with
  | ok is =>
    rw [Act.recover_ok (checkPath_ok hcheck), issuesOf, reportLines, hcheck]
    simp [failureLine, unlines, Except.toOption]
  | error f =>
    rw [Act.recover_error (checkPath_error hcheck) (Limits.isError_of_checkFileHere hcheck),
      issuesOf, reportLines, hcheck]
    simp only [failureLine, Option.toList_some, unlines, String.append_empty]
    rfl

/-- Files are checked one after the other; those that cannot be checked are reported. -/
lemma checkAll_eq : ∀ (files : List Path) (w : Session), checkAll files w =
    .ok (foundIn w.disk w.places files)
      { w with err := w.err ++ unlines (files.flatMap (reportLines w.disk w.places)) }
  | [], w => by
    rw [List.flatMap_nil, unlines, String.append_empty]
    rfl
  | p :: ps, w => by
    rw [checkAll, Act.bind_ok (recover_checkPath p w), Act.bind_ok (checkAll_eq ps _)]
    simp only [foundIn, List.flatMap_cons, unlines_append, String.append_assoc]
    rfl

/-! ## Paths -/

/-- The files that a path asks for: every entry below a directory whose name ends in `.py`; a file
itself, if its name ends so and is longer; and nothing otherwise. -/
inductive Selects (d : Disk) (here : Location) (p : Path) : List Path → Prop
  | directory {loc : Location} {found : List (List String)} :
    d.find here p.text = .ok (loc, .dir) → Listing d EndsInPy loc found →
    Selects d here p (found.map p.descend)
  | file {loc : Location} {bytes : ByteArray} : d.find here p.text = .ok (loc, .file bytes) →
    EndsInPy p.name → p.name ≠ ".py" → Selects d here p [p]
  | nothing : (∀ loc, d.find here p.text ≠ .ok (loc, .dir)) →
    (∀ loc bytes, d.find here p.text = .ok (loc, .file bytes) →
      ¬ (EndsInPy p.name ∧ p.name ≠ ".py")) → Selects d here p []

/-- The system can look at a path, and at all directories below it: none of their names and paths
is too long. -/
structure Followable (d : Disk) (here : Location) (p : Path) : Prop where
  itself : d.find here p.text ≠ .error .nameTooLong
  below : ∀ loc ns, d.find here p.text = .ok (loc, .dir) → d.get? (loc ++ ns) = some .dir →
    Glob.Short (p.descend ns)

section

variable {w : Session} {p : Path}

lemma lookAt_of_ok {e : Option Entry} (h : w.disk.lookAt w.places.here p.text = .ok e) :
    Act.lookAt p.text w = .ok e w := by
  rw [Act.lookAt_eq, h]
  rfl

/-- What becomes of a path: the files that it asks for are known, or the system refuses it. -/
inductive Chosen (d : Disk) (here : Location) (p : Path) : Except FileError (List Path) → Prop
  | files {fs : List Path} : Selects d here p fs → Followable d here p → Chosen d here p (.ok fs)
  | refused (s : String) : ¬ Followable d here p → Chosen d here p (.error ⟨.nameTooLong, s⟩)

lemma chosen_below {d : Disk} {here loc : Location} (htree : d.IsTree)
    (hfind : d.find here p.text = .ok (loc, .dir)) :
    Chosen d here p (Glob.below d here p "*.py") := by
  have hsearch : Glob.Searched d (Glob.matchesName "*.py" · = true) loc p
    (Glob.below d here p "*.py") := Glob.searched_below htree hfind
  simp only [Glob.matchesName_py] at hsearch
  generalize Glob.below d here p "*.py" = r at hsearch ⊢
  cases hsearch with
  | found hlist hshort =>
    refine .files (.directory hfind hlist) ⟨by simp [hfind], fun loc' ns hfind' hns => ?_⟩
    cases hfind.symm.trans hfind'
    exact hshort ns hns
  | refused hdir hlong =>
    exact .refused _ fun h => hlong (h.below loc _ hfind hdir)

/-- The files that a path asks for are found without any effect. -/
lemma filesToCheck_run (htree : w.disk.IsTree) (p : Path) :
    ∃ r, Chosen w.disk w.places.here p r ∧
      filesToCheck p w = Act.ofExcept (r.mapError Failure.file) w := by
  rw [filesToCheck, Act.bind_ok (Act.get_run w)]
  cases hfind : w.disk.find w.places.here p.text with
  | ok x =>
    obtain ⟨loc, e⟩ := x
    have hlook : w.disk.lookAt w.places.here p.text = .ok (some e) := by rw [Disk.lookAt, hfind]
    rw [Act.bind_ok (lookAt_of_ok hlook)]
    cases e with
    | dir => exact ⟨_, chosen_below htree hfind, rfl⟩
    | file bytes =>
      refine ⟨.ok (if p.ending = ".py" then [p] else []), ?_, rfl⟩
      have hfollow : Followable w.disk w.places.here p := ⟨by simp [hfind], by simp [hfind]⟩
      split
      · next hending =>
        obtain ⟨hends, hne⟩ := Path.ending_eq_py_iff.mp hending
        exact .files (.file hfind hends hne) hfollow
      · next hending =>
        exact .files (.nothing (by simp [hfind])
          fun _ _ _ h => hending (Path.ending_eq_py_iff.mpr h)) hfollow
    | link target =>
      exact ⟨.ok [], .files (.nothing (by simp [hfind]) (by simp [hfind]))
        ⟨by simp [hfind], by simp [hfind]⟩, rfl⟩
  | error t =>
    by_cases ht : t = .nameTooLong
    · subst ht
      have hlook : Act.lookAt p.text w = .error (.file ⟨.nameTooLong, p.text⟩) w := by
        rw [Act.lookAt_eq, Disk.lookAt, hfind]
        rfl
      rw [Act.bind_error hlook]
      exact ⟨_, .refused p.text fun h => h.itself hfind, rfl⟩
    · have hlook : w.disk.lookAt w.places.here p.text = .ok none := by
        rw [Disk.lookAt, hfind]
        cases t with
        | nameTooLong => exact absurd rfl ht
        | _ => rfl
      rw [Act.bind_ok (lookAt_of_ok hlook)]
      exact ⟨.ok [], .files (.nothing (by simp [hfind]) (by simp [hfind]))
        ⟨by simp [hfind, ht], by simp [hfind]⟩, rfl⟩

/-- What is printed as an error while paths are checked. -/
def reportsOf (d : Disk) (at_ : Places) (files : List (List Path)) : String :=
  unlines (files.flatten.flatMap (reportLines d at_))

/-- Paths are checked one after the other, if the system can look at all of them. -/
lemma checkPaths_run : ∀ (paths : List String) {w : Session}, w.disk.IsTree →
    (∀ s ∈ paths, Followable w.disk w.places.here (Path.ofText s)) →
    ∃ files, List.Forall₂ (fun s => Selects w.disk w.places.here (Path.ofText s)) paths files ∧
      checkPaths paths w = .ok (foundIn w.disk w.places files.flatten)
        { w with err := w.err ++ reportsOf w.disk w.places files }
  | [], w, _, _ => by
    refine ⟨[], .nil, ?_⟩
    rw [reportsOf, List.flatten_nil, List.flatMap_nil, unlines, String.append_empty]
    rfl
  | s :: ss, w, htree, hfollow => by
    obtain ⟨r, hchosen, hrun⟩ := filesToCheck_run htree (Path.ofText s)
    cases hchosen with
    | refused _ hrefused => exact absurd (hfollow s (by simp)) hrefused
    | @files fs hselects _ =>
      obtain ⟨files, hfiles, hrest⟩ := checkPaths_run ss
        (w := { w with err := w.err ++ unlines (fs.flatMap (reportLines w.disk w.places)) }) htree
        fun t ht => hfollow t (by simp [ht])
      refine ⟨fs :: files, .cons hselects hfiles, ?_⟩
      rw [checkPaths, Act.bind_ok hrun, Act.bind_ok (checkAll_eq fs w), Act.bind_ok hrest]
      simp only [foundIn, reportsOf, List.flatten_cons, List.flatMap_append, unlines_append,
        String.append_assoc]
      rfl

/-- If the system refuses to look at a path, nothing more is done. -/
lemma checkPaths_refused : ∀ (paths : List String) {w : Session}, w.disk.IsTree →
    (∃ s ∈ paths, ¬ Followable w.disk w.places.here (Path.ofText s)) →
    ∃ s reports, checkPaths paths w =
      .error (.file ⟨.nameTooLong, s⟩) { w with err := w.err ++ unlines reports }
  | [], _, _, h => by simp at h
  | s :: ss, w, htree, h => by
    obtain ⟨r, hchosen, hrun⟩ := filesToCheck_run htree (Path.ofText s)
    cases hchosen with
    | refused t _ =>
      refine ⟨t, [], ?_⟩
      rw [checkPaths, Act.bind_error hrun]
      simp [unlines]
    | @files fs _ hfollow =>
      obtain ⟨t, reports, hrest⟩ := checkPaths_refused ss
        (w := { w with err := w.err ++ unlines (fs.flatMap (reportLines w.disk w.places)) }) htree
        (by simpa [hfollow] using h)
      refine ⟨t, fs.flatMap (reportLines w.disk w.places) ++ reports, ?_⟩
      rw [checkPaths, Act.bind_ok hrun, Act.bind_ok (checkAll_eq fs w), Act.bind_error hrest]
      simp [unlines_append, String.append_assoc]

end

/-! ## The command -/

lemma counted_severity (i : Issue) (strict : Bool) : i.severity.counted strict = .error := by
  cases strict <;> rfl

/-- What is found is shown line by line and counted, whether or not the check is strict. -/
lemma validate_eq {paths : List String} {found : List (Path × Issue)} {w w' : Session}
    (h : checkPaths paths w = .ok found w') (strict : Bool) : validate paths strict w =
    .ok (if 0 < found.length then 1 else 0) { w' with
      out := w'.out ++ unlines (found.map (fun x => issueLine x.1 x.2) ++
        [countLine found.length 0]) } := by
  have herrors : (found.countP fun x => x.2.severity.counted strict = .error) = found.length := by
    simp [counted_severity]
  have hwarnings : (found.countP fun x => x.2.severity.counted strict = .warning) = 0 := by
    simp [counted_severity]
  have hprint := @forIn_print _ fun x : Path × Issue => issueLine x.1 x.2
  rw [validate, Act.bind_ok h, Act.bind_ok (hprint (fun x u w => ?_) found w')]
  · rw [herrors, hwarnings, unlines_append, ← String.append_assoc]
    simp only [unlines, String.append_empty]
    rfl
  · obtain ⟨p, i⟩ := x
    simp only [counted_severity]
    rfl

/-- A strict check is no other. -/
lemma validate_strict (paths : List String) (strict : Bool) (w : Session) :
    validate paths strict w = validate paths false w := by
  cases hpaths : checkPaths paths w with
  | ok found w' => rw [validate_eq hpaths, validate_eq hpaths]
  | error f w' => rw [validate, validate, Act.bind_error hpaths, Act.bind_error hpaths]

/-- The tool does what is asked for and reports errors. -/
lemma perform_eq {args paths : List String} {strict : Bool}
    (hread : ∀ program, Request.read program args = .ok (.line false (some (.validate paths strict))))
    (w : Session) : perform args w = Act.recover (validate paths strict) (fun f => do
      Act.errorLine s!"❌ An error occurred: {f.message}"
      return 1) w := by
  rw [perform, performWith]
  refine Act.recover_congr ?_
  rw [Act.bind_ok (readRequest_ok hread w)]
  rfl

/-- If the system refuses to look at a path, that is reported. -/
lemma perform_refused {w : Session} (htree : w.disk.IsTree) {paths : List String}
    (hne : paths ≠ []) (hplain : ∀ s ∈ paths, s.startsWith "-" = false)
    (hrefused : ∃ s ∈ paths, ¬ Followable w.disk w.places.here (Path.ofText s)) :
    ∃ (e : FileError) (reports : List String), e.trouble = .nameTooLong ∧
      perform ("validate" :: paths) w = .ok 1 { w with
        err := w.err ++ unlines (reports ++ [s!"❌ An error occurred: {e.message}"]) } := by
  obtain ⟨s, reports, hrun⟩ := checkPaths_refused paths htree hrefused
  have hvalidate : validate paths false w = .error (.file ⟨.nameTooLong, s⟩)
      { w with err := w.err ++ unlines reports } := by
    rw [validate, Act.bind_error hrun]
  refine ⟨⟨.nameTooLong, s⟩, reports, rfl, ?_⟩
  rw [perform_eq (fun _ => read_validate hne hplain) w, Act.recover_error hvalidate rfl,
    unlines_append, ← String.append_assoc]
  simp only [unlines, String.append_empty]
  rfl

/-- A directory that holds two directories named like modules; in one of them there is a file that
is no module. -/
def nested : Session where
  disk := ⟨[(["p"], .dir), (["p", "z.py"], .dir), (["p", "d.py"], .dir),
    (["p", "d.py", "e.py"], .file ")".toUTF8)]⟩
  places := { here := [], home := [] }

lemma get?_nested {loc : Location} : nested.disk.get? loc ≠ none ↔
    loc ∈ [[], ["p"], ["p", "z.py"], ["p", "d.py"], ["p", "d.py", "e.py"]] := by
  by_cases h : loc = []
  · simp [h]
  · rw [Disk.get?_ne_none_iff h]
    simp [h, Disk.locations, nested]

lemma isTree_nested : nested.disk.IsTree where
  distinct := by decide
  writable := by decide
  parents := by
    simp only [Disk.locations, nested, List.map_cons, List.map_nil, List.forall_mem_cons]
    exact ⟨rfl, rfl, rfl, rfl, by simp⟩

lemma rooted_nested : Disk.Rooted nested.disk ["p"] :=
  (Disk.Rooted.nil _).concat (by decide) (by decide) rfl

lemma rooted_inner {n : String} (hn : n = "z.py" ∨ n = "d.py") :
    Disk.Rooted nested.disk ["p", n] := by
  rcases hn with rfl | rfl
  · exact rooted_nested.concat (by decide) (by decide) rfl
  · exact rooted_nested.concat (by decide) (by decide) rfl

lemma find_directory : nested.disk.find [] "p" = .ok (["p"], .dir) :=
  Disk.find_of_found (by decide) (by decide) (.dir rooted_nested)
    rfl

/-- The directories come before the file in one of them. -/
lemma listing_nested :
    Listing nested.disk EndsInPy ["p"] [["d.py"], ["z.py"], ["d.py", "e.py"]] where
  complete ns := by
    rw [get?_nested]
    constructor
    · simp only [List.mem_cons, List.not_mem_nil, or_false]
      rintro (rfl | rfl | rfl)
      · exact ⟨⟨"d.py", rfl, by decide⟩, by simp⟩
      · exact ⟨⟨"z.py", rfl, by decide⟩, by simp⟩
      · exact ⟨⟨"e.py", rfl, by decide⟩, by simp⟩
    · rintro ⟨⟨n, hn, -⟩, hmem⟩
      have hcases : ns = [] ∨ ns = ["z.py"] ∨ ns = ["d.py"] ∨ ns = ["d.py", "e.py"] := by
        simpa using hmem
      rcases hcases with rfl | rfl | rfl | rfl
      · cases hn
      all_goals simp
  once := by decide
  ordered := by
    simp only [List.pairwise_cons, List.forall_mem_cons]
    refine ⟨⟨.own (by decide), .ownFirst (by simp), by simp⟩, ⟨.ownFirst (by simp), by simp⟩, ?_⟩
    simp

lemma followable_nested : Followable nested.disk nested.places.here (Path.ofText "p") := by
  have hpath : Path.ofText "p" = ⟨0, ["p"]⟩ := by cbv
  have htext : (Path.ofText "p").text = "p" := by cbv
  have hfind : nested.disk.find nested.places.here (Path.ofText "p").text = .ok (["p"], .dir) := by
    rw [htext]
    exact find_directory
  refine ⟨by simp [hfind], fun loc ns hfind' hns => ?_⟩
  rw [hfind] at hfind'
  cases hfind'
  have hmem : ["p"] ++ ns ∈ [[], ["p"], ["p", "z.py"], ["p", "d.py"], ["p", "d.py", "e.py"]] :=
    get?_nested.mp (by rw [hns]; simp)
  have hcases : ns = [] ∨ ns = ["z.py"] ∨ ns = ["d.py"] ∨ ns = ["d.py", "e.py"] := by
    simpa using hmem
  rw [hpath, Glob.Short]
  rcases hcases with rfl | rfl | rfl | rfl <;> decide

lemma current_nested : Settings.current nested.disk nested.places = .ok Settings.defaults :=
  Settings.current_of_bare_root (by simp [nested, Disk.get?])

lemma check_directory {s n : String} (hn : n = "z.py" ∨ n = "d.py") (hs : Disk.Accepted s)
    (hnames : Disk.namesToFollow s = ["p", n]) : checkFileHere nested.disk nested.places s =
      .ok [⟨.unreadable ⟨.isDirectory, s⟩, some 0, 0⟩] := by
  have hroot := rooted_inner hn
  have hfind : nested.disk.find [] s = .ok (["p", n], .dir) :=
    Disk.find_of_found hs hnames (.dir hroot) (hroot.dirs _ (List.prefix_refl _))
  have hread : nested.disk.read [] s = .error ⟨.isDirectory, s⟩ := by rw [Disk.read, hfind]
  rw [checkFileHere, current_nested]
  exact check_of_unreadable hread rfl

lemma check_file : checkFileHere nested.disk nested.places "p/d.py/e.py" =
    .ok [⟨.notModule (.unmatchedBracket ')'), some 1, 1⟩] := by
  have hget : nested.disk.get? ["p", "d.py", "e.py"] = some (.file ")".toUTF8) := rfl
  have hfound : Disk.Found nested.disk (["p", "d.py"] ++ ["e.py"]) :=
    .leaf (rooted_inner (.inr rfl)) (by decide) (by decide) (by simp [hget]) (by simp [hget])
  have hfind : nested.disk.find [] "p/d.py/e.py" =
      .ok (["p", "d.py", "e.py"], .file ")".toUTF8) :=
    Disk.find_of_found (by decide) (by decide) hfound hget
  have hread : nested.disk.readText [] "p/d.py/e.py" = .ok ")" :=
    Disk.readText_of_read (by decide) (by rw [Disk.read, hfind])
  have hshort : Limits.fileIssues ⟨300, 50, 4, 4⟩ ")" = [] := by
    rw [Limits.fileIssues, Limits.issueIf, if_neg (by decide)]
  have hissues :=
    Limits.reports_refusal Limits.Config.sets_defaults Limits.parseKept_bracket (by decide)
  rw [hshort] at hissues
  rw [checkFileHere, current_nested]
  exact Limits.check_of_reports hread hissues

lemma selects_nested {files : List Path}
    (h : Selects nested.disk nested.places.here (Path.ofText "p") files) :
    files = [⟨0, ["p", "d.py"]⟩, ⟨0, ["p", "z.py"]⟩, ⟨0, ["p", "d.py", "e.py"]⟩] := by
  have hpath : Path.ofText "p" = ⟨0, ["p"]⟩ := by cbv
  have hfind : nested.disk.find nested.places.here (Path.ofText "p").text = .ok (["p"], .dir) := by
    rw [hpath]
    exact find_directory
  cases h with
  | directory hdir hlist =>
    cases hfind.symm.trans hdir
    rw [hlist.unique listing_nested, hpath]
    rfl
  | file hfile => cases hfind.symm.trans hfile
  | nothing hnone => exact absurd hfind (hnone _)

/-- A name of so many letters. -/
def longName (n : Nat) : String := String.ofList (List.replicate n 'a')

section

variable {n : Nat}

lemma toList_longName : (longName n).toList = List.replicate n 'a' := String.toList_ofList

lemma not_mem_longName {c : Char} (hc : c ≠ 'a') : c ∉ (longName n).toList := by
  rw [toList_longName, List.mem_replicate]
  exact fun h => hc h.2

lemma ofText_longName (hn : 0 < n) : Path.ofText (longName n) = ⟨0, [longName n]⟩ := by
  refine Path.ofText_name (fun h => ?_) (fun h => ?_) (not_mem_longName (by decide))
  · have hnil : (longName n).toList = [] := by simp [h]
    rw [toList_longName, List.replicate_eq_nil_iff] at hnil
    omega
  · have hdot : '.' ∈ (longName n).toList := by simp [h]
    exact not_mem_longName (by decide) hdot

lemma namesToFollow_longName (hn : 0 < n) : Disk.namesToFollow (longName n) = [longName n] := by
  have hlast : (longName n).toList.getLast? ≠ some '/' := fun h =>
    not_mem_longName (by decide) (List.mem_of_getLast? h)
  rw [Disk.namesToFollow, ofText_longName hn, if_neg hlast]

end

lemma find_longName (d : Disk) (here : Location) :
    d.find here (longName 256) = .error .nameTooLong := by
  have hsize : (longName 256).utf8ByteSize = 256 := by decide +kernel
  have hfault : (Text.nameFault? (longName 256)).isSome = false := by
    rw [Text.nameFault?, toList_longName]
    decide
  have hnull : (longName 256).toList.contains '\x00' = false := by
    simpa using not_mem_longName (by decide)
  have hempty : (longName 256).isEmpty = false := by
    rw [String.isEmpty_eq_utf8ByteSize_beq_zero, hsize]
    rfl
  have hne : longName 256 ≠ "." ∧ longName 256 ≠ ".." := by
    constructor <;> intro h <;> rw [h] at hsize <;> exact absurd hsize (by decide)
  have hlocate : d.locate here (longName 256) = .error .nameTooLong := by
    rw [Disk.locate, hfault, hnull, hempty, hsize, namesToFollow_longName (by decide), Disk.walk,
      if_neg hne.1, if_neg hne.2, hsize]
    rfl
  rw [Disk.find, hlocate]
  rfl

end QualityGate.Command
