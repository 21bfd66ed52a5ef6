/-
# Relaxed limits

With limits that are integers a checker fails only for reasons that have nothing to do with the
limits (`Target.failure?`); otherwise it answers with the findings that the file has under its
limits (`check_eq_findings`).  Each finding is kept together with the place of the function that it
is about.

`check_relaxed`: where every limit stays or is raised, nothing new is found.  Apart from the limits
that they name, the findings are a sublist of what was found before, and the check fails on the
same files.
-/
import Mathlib
import QualityGate.Proofs.SourceChecks

namespace QualityGate.Limits

open Source (Tree)

/-! ## Findings and what they are about -/

/-- An issue, and the place of the function that it is about, if it is about one. -/
structure Placed where
  place : Option (List Nat)
  issue : Issue

/-- A finding without the limit that it names.  Its kind, the function that it names and what was
counted are kept. -/
def Finding.withoutLimit : Finding → Finding
  | fileTooLong lines _ => fileTooLong lines .null
  | functionTooLong name lines _ => functionTooLong name lines .null
  | tooManyParams name count _ => tooManyParams name count .null
  | tooDeep depth _ => tooDeep depth .null
  | f => f

/-- An issue without the limit that it names. -/
def Issue.withoutLimit (i : Issue) : Issue := { i with finding := i.finding.withoutLimit }

/-- The same of an issue at a place. -/
def Placed.withoutLimit (o : Placed) : Placed := { o with issue := o.issue.withoutLimit }

/-- The issues of the functions in a tree, in the order of the text. -/
def functionFindings (b : Bounds) (t : Tree) : List Placed :=
  t.places.flatMap fun p =>
    (((t.at? p).filter definesFunction).elim [] (functionIssues b)).map (Placed.mk (some p))

/-- The issues of a text: those of the whole file, and those of the functions if it is a module. -/
def textFindings (b : Bounds) (text : String) : List Placed :=
  (fileIssues b text).map (Placed.mk none) ++
    match Source.parseKept (some text) text with
    | .error r => [⟨none, Check.refused r⟩]
    | .ok t => functionFindings b t

/-- The issues of a file. -/
def Target.findings (b : Bounds) (t : Target) : List Placed :=
  match t.disk.readText t.here t.path with
  | .error (.file e) => [⟨none, ⟨.unreadable e, some 0, 0⟩⟩]
  | .error _ => []
  | .ok text => textFindings b text

/-- Why a file cannot be checked, if it cannot: its bytes are no text, the parser gives up on the
text, or the tree leaves no room for a visit. -/
def Target.failure? (t : Target) : Option Failure :=
  match t.disk.readText t.here t.path with
  | .error (.file e) => if e.isSystem then none else some (.file e)
  | .error f => some f
  | .ok text =>
    match Source.parseKept (some text) text with
    | .error r => if r.cause.blamesText then none else some (.notModule r "")
    | .ok tree => if maxSteps < checkSteps tree then some .endless else none

/-! ## What a checker answers -/

variable {k : Checker} {b b' : Bounds}

lemma map_issue_functionFindings (b : Bounds) (t : Tree) :
    (functionFindings b t).map Placed.issue =
      (t.subtrees.filter definesFunction).flatMap (functionIssues b) := by
  have hplaces := Tree.map_at?_places t
  rw [functionFindings, List.map_flatMap]
  simp only [List.map_map, Function.comp_def, List.map_id']
  calc t.places.flatMap (fun p => ((t.at? p).filter definesFunction).elim [] (functionIssues b))
      = (t.places.map (t.at? ·)).flatMap
          (fun u => (u.filter definesFunction).elim [] (functionIssues b)) := by
        rw [List.flatMap_map]
    _ = t.subtrees.flatMap
          (fun u => ((some u).filter definesFunction).elim [] (functionIssues b)) := by
        rw [hplaces, List.flatMap_map]
    _ = (t.subtrees.filter definesFunction).flatMap (functionIssues b) := by
        induction t.subtrees with
        | nil => rfl
        | cons u us ih =>
          rw [List.flatMap_cons, ih]
          by_cases hu : definesFunction u = true <;> simp [Option.filter_some, hu]

lemma map_issue_textFindings (b : Bounds) (text : String) :
    (textFindings b text).map Placed.issue = fileIssues b text ++
      match Source.parseKept (some text) text with
      | .error r => [Check.refused r]
      | .ok t => (t.subtrees.filter definesFunction).flatMap (functionIssues b) := by
  rw [textFindings, List.map_append, List.map_map]
  cases Source.parseKept (some text) text with
  | error r => simp [Function.comp_def]
  | ok t => simp [Function.comp_def, map_issue_functionFindings]

/-- With integers as limits a checker fails as the file demands, and answers with its findings
otherwise. -/
lemma check_eq_findings (hb : Config.Sets k.config b) (t : Target) :
    (k.check t).1 = t.failure?.elim (.ok ((t.findings b).map Placed.issue)) .error := by
  obtain ⟨d, here, path⟩ := t
  rw [Target.failure?, Target.findings]
  cases hread : d.readText here path with
  | error f =>
    rw [Checker.check, Check.file, Check.contents, hread]
    cases f with
    | file e =>
      by_cases he : e.isSystem = true
      · simp only [he, if_true]
        rfl
      · simp only [he, if_false, Bool.false_eq_true]
        rfl
    | _ => rfl
  | ok text =>
    simp only [map_issue_textFindings]
    cases hparse : Source.parseKept (some text) text with
    | error r =>
      by_cases hblame : r.cause.blamesText = true
      · simp only [hblame, if_true]
        exact check_of_reports hread (reports_refusal hb hparse hblame)
      · simp only [hblame, if_false, Bool.false_eq_true]
        exact check_unblamed hread hb.fileLines hparse (by simpa using hblame)
    | ok tree =>
      by_cases hroom : maxSteps < checkSteps tree
      · rw [check_eq hread, text_eq hb.fileLines, hparse]
        simp only [if_pos hroom]
        rfl
      · simp only [hroom, if_false]
        exact check_of_reports hread (reports_tree hb hparse (not_lt.mp hroom))

/-! ## Raising limits -/

/-- Each limit stays or is raised. -/
structure Bounds.Relaxes (b b' : Bounds) : Prop where
  fileLines : b.fileLines ≤ b'.fileLines
  functionLines : b.functionLines ≤ b'.functionLines
  params : b.params ≤ b'.params
  nesting : b.nesting ≤ b'.nesting

/-- Lists of issues of which the first has, apart from limits, only issues of the second. -/
def Fewer (is is' : List Issue) : Prop :=
  (is.map Issue.withoutLimit).Sublist (is'.map Issue.withoutLimit)

lemma Fewer.append {is is' js js' : List Issue} (h : Fewer is is') (h' : Fewer js js') :
    Fewer (is ++ js) (is' ++ js') := by
  rw [Fewer, List.map_append, List.map_append]
  exact List.Sublist.append h h'

/-- A measure that is above the higher limit is above the lower one. -/
lemma fewer_issueIf {limit limit' n : Int} (h : limit ≤ limit') {i i' : Issue}
    (hi : i'.withoutLimit = i.withoutLimit) :
    Fewer (issueIf (limit' < n) i') (issueIf (limit < n) i) := by
  rw [Fewer, issueIf, issueIf]
  by_cases hn : limit' < n
  · rw [if_pos hn, if_pos (lt_of_le_of_lt h hn), List.map_singleton, List.map_singleton, hi]
  · rw [if_neg hn]
    exact List.nil_sublist _

lemma fewer_fileIssues (h : b.Relaxes b') (text : String) :
    Fewer (fileIssues b' text) (fileIssues b text) :=
  fewer_issueIf h.fileLines rfl

lemma fewer_functionIssues (h : b.Relaxes b') (t : Tree) :
    Fewer (functionIssues b' t) (functionIssues b t) := by
  refine Fewer.append (Fewer.append ?_ ?_) ?_
  · exact fewer_issueIf h.functionLines rfl
  · exact fewer_issueIf h.params rfl
  · exact fewer_issueIf h.nesting rfl

/-- The same at a place. -/
lemma Fewer.placed {is is' : List Issue} (h : Fewer is is') (p : Option (List Nat)) :
    ((is.map (Placed.mk p)).map Placed.withoutLimit).Sublist
      ((is'.map (Placed.mk p)).map Placed.withoutLimit) := by
  have hmap (js : List Issue) : (js.map (Placed.mk p)).map Placed.withoutLimit =
      (js.map Issue.withoutLimit).map (Placed.mk p) := by
    rw [List.map_map, List.map_map]
    rfl
  rw [hmap, hmap]
  exact h.map _

/-- In every function of a tree there are fewer issues. -/
lemma sublist_functionFindings (h : b.Relaxes b') (t : Tree) :
    ((functionFindings b' t).map Placed.withoutLimit).Sublist
      ((functionFindings b t).map Placed.withoutLimit) := by
  rw [functionFindings, functionFindings, List.map_flatMap, List.map_flatMap]
  induction t.places with
  | nil => exact List.Sublist.refl _
  | cons p ps ih =>
    rw [List.flatMap_cons, List.flatMap_cons]
    refine List.Sublist.append ?_ ih
    refine Fewer.placed ?_ (some p)
    cases (t.at? p).filter definesFunction with
    | none => exact List.Sublist.refl _
    | some u => exact fewer_functionIssues h u

lemma sublist_findings (h : b.Relaxes b') (t : Target) :
    ((t.findings b').map Placed.withoutLimit).Sublist
      ((t.findings b).map Placed.withoutLimit) := by
  rw [Target.findings, Target.findings]
  cases t.disk.readText t.here t.path with
  | error f => cases f <;> exact List.Sublist.refl _
  | ok text =>
    simp only [textFindings, List.map_append]
    refine List.Sublist.append ((fewer_fileIssues h text).placed none) ?_
    cases Source.parseKept (some text) text with
    | error r => exact List.Sublist.refl _
    | ok tree => exact sublist_functionFindings h tree

/-- **Relaxed limits.**  Let two checkers have integers as limits, the second no lower ones than
the first, and let both check a file, whatever they have checked before.  Either both fail, with
the same failure, or both answer with the findings under their limits.  In that case the findings
of the second, each with its kind, line, column and function and with what was counted, but without
the limit, are a sublist of those of the first. -/
theorem check_relaxed {k k' : Checker} (hb : Config.Sets k.config b)
    (hb' : Config.Sets k'.config b') (h : b.Relaxes b') (t : Target) :
    (∃ f, (k.check t).1 = .error f ∧ (k'.check t).1 = .error f) ∨
      (k.check t).1 = .ok ((t.findings b).map Placed.issue) ∧
      (k'.check t).1 = .ok ((t.findings b').map Placed.issue) ∧
      ((t.findings b').map Placed.withoutLimit).Sublist
        ((t.findings b).map Placed.withoutLimit) := by
  rw [check_eq_findings hb, check_eq_findings hb']
  cases t.failure? with
  | some f => exact .inl ⟨f, rfl, rfl⟩
  | none => exact .inr ⟨rfl, rfl, sublist_findings h t⟩

/-! ## A function inside a function -/

/-- A function with two parameters, and one with a single parameter in it. -/
def nestedText : String := "def f(a, b):\n  def g(a): pass\n"

/-- A file with this text. -/
def nestedFile : Target := ⟨⟨[(["m"], .file nestedText.toUTF8)]⟩, [], "m"⟩

/-- A checker that allows so many parameters. -/
def allowing (params : Int) : Checker := ⟨.settings [(.text "max_function_params", .int params)], []⟩

/-- The places and messages of findings. -/
def shownAt (os : List Placed) : List (Option (List Nat) × String) :=
  os.map fun o => (o.place, o.issue.finding.message)

lemma sets_allowing (params : Int) :
    Config.Sets (allowing params).config ⟨300, 50, params, 4⟩ := by
  constructor <;> simp [allowing, Config.get, Settings.get?, Settings.find?, Key.same]

lemma readText_nested :
    nestedFile.disk.readText nestedFile.here nestedFile.path = .ok nestedText :=
  Disk.readText_of_read (by decide) (Disk.read_in_root
    (by decide) (by decide) (by decide) rfl)

lemma failure?_nested : nestedFile.failure? = none := by
  rw [Target.failure?, readText_nested, ← Option.isNone_iff_eq_none]
  decide +kernel

/-- Of two functions that have too many parameters the outer one still has after one more is
allowed. -/
theorem check_relaxed_nested :
    let b : Bounds := ⟨300, 50, 0, 4⟩
    let b' : Bounds := ⟨300, 50, 1, 4⟩
    b.Relaxes b' ∧
      ((allowing 0).check nestedFile).1 = .ok ((nestedFile.findings b).map Placed.issue) ∧
      ((allowing 1).check nestedFile).1 = .ok ((nestedFile.findings b').map Placed.issue) ∧
      shownAt (nestedFile.findings b) =
        [(some [0], "Function 'f' has too many parameters (2 > 0)"),
          (some [0, 1, 0], "Function 'g' has too many parameters (1 > 0)")] ∧
      shownAt (nestedFile.findings b') =
        [(some [0], "Function 'f' has too many parameters (2 > 1)")] ∧
      ((nestedFile.findings b').map Placed.withoutLimit).Sublist
        ((nestedFile.findings b).map Placed.withoutLimit) := by
  intro b b'
  have hrelaxes : b.Relaxes b' := by constructor <;> decide
  have hfindings (c : Bounds) : nestedFile.findings c = textFindings c nestedText := by
    rw [Target.findings, readText_nested]
  rcases check_relaxed (sets_allowing 0) (sets_allowing 1) hrelaxes nestedFile with
    ⟨f, hf, -⟩ | ⟨hk, hk', hsub⟩
  · rw [check_eq_findings (sets_allowing 0), failure?_nested] at hf
    cases hf
  · refine ⟨hrelaxes, hk, hk', ?_, ?_, hsub⟩
    · rw [hfindings]
      decide +kernel
    · rw [hfindings]
      decide +kernel

end QualityGate.Limits
