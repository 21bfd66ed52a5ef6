/-
# Which functions are reported for their parameters

A checker compares the parameters of a function with a limit when its walk comes to the function.
The walk stops only at ordinary definitions, and of the parameters it counts those that may be given
by name.  So of all definitions with more named parameters than allowed it passes over the
asynchronous ones, and those that are within the limit once the positional-only parameters are left
out (`Missed`).

`check_params` says this for every check that comes to an answer, whatever the other limits are and
whatever else is found.
-/
import Mathlib
import QualityGate.Proofs.DiskWrite
import QualityGate.Proofs.RuleFindings

namespace QualityGate.Limits

open Source (Tree Label ParamKind)

/-! ## Definitions and their parameters -/

/-- Is it the definition of a function, ordinary or asynchronous? -/
def isDefinition (t : Tree) : Bool :=
  match t.label with
  | .functionDef _ _ => true
  | _ => false

/-- The number of parameters that have a name of their own. -/
def namedParams (t : Tree) : Nat :=
  paramsOf .positionalOnly t + paramsOf .ordinary t + paramsOf .keywordOnly t

/-- The issue of a function that is found to have too many parameters. -/
def paramIssues (limit : Int) (t : Tree) : List Issue :=
  issueIf (definesFunction t = true ∧ limit < paramCount t)
    ⟨.tooManyParams (functionName t) (paramCount t) (.int limit), some t.span.line, 0⟩

/-- A definition whose parameters are never too many: it is not ordinary, or only its
positional-only parameters take it above the limit. -/
def Missed (limit : Int) (t : Tree) : Prop :=
  definesFunction t = false ∨ (paramsOf .ordinary t + paramsOf .keywordOnly t : Nat) ≤ limit

lemma isDefinition_of_definesFunction {t : Tree} (h : definesFunction t = true) :
    isDefinition t = true := by
  obtain ⟨l, s, ts⟩ := t
  rw [isDefinition]
  cases l with
  | functionDef => rfl
  | _ => cases h

lemma paramIssues_ne_nil_iff (limit : Int) (t : Tree) :
    paramIssues limit t ≠ [] ↔ limit < namedParams t ∧ ¬ Missed limit t := by
  have hissue : paramIssues limit t ≠ [] ↔ definesFunction t = true ∧ limit < paramCount t := by
    rw [paramIssues, issueIf]
    split <;> simp_all
  rw [hissue, paramCount_eq, Missed, namedParams, not_or, Bool.not_eq_false, not_le]
  constructor
  · rintro ⟨hfun, hlimit⟩
    exact ⟨by omega, hfun, hlimit⟩
  · rintro ⟨-, hfun, hlimit⟩
    exact ⟨hfun, hlimit⟩

/-- Is an issue about the parameters of a function? -/
def Issue.isAboutParams (i : Issue) : Bool :=
  match i.finding with
  | .tooManyParams .. => true
  | _ => false

/-- An asynchronous definition is passed over as if it were none. -/
lemma flatMap_paramIssues (limit : Int) (ts : List Tree) :
    (ts.filter isDefinition).flatMap (paramIssues limit) =
      (ts.filter definesFunction).flatMap (paramIssues limit) := by
  induction ts with
  | nil => rfl
  | cons t ts ih =>
    by_cases ht : definesFunction t = true
    · rw [List.filter_cons_of_pos (isDefinition_of_definesFunction ht), List.filter_cons_of_pos ht,
        List.flatMap_cons, List.flatMap_cons, ih]
    · have hnone : paramIssues limit t = [] := by
        rw [paramIssues, issueIf, if_neg fun h => ht h.1]
      rw [List.filter_cons_of_neg ht, List.filter_cons]
      split
      · rw [List.flatMap_cons, hnone, List.nil_append, ih]
      · exact ih

namespace Finds

variable {Free : Prop} {c : Config} {limit : Int}

/-- In a function, only the second of three counts is about parameters. -/
lemma function_params (hfree : Free → Config.Comparable c)
    (hlimit : c.get "max_function_params" (.int 4) = .ok (.int limit)) {t : Tree}
    (ht : definesFunction t = true) :
    Finds Issue.isAboutParams Free c (Check.function t) (paramIssues limit t) := by
  have hissues : paramIssues limit t = [] ++ (issueIf (limit < paramCount t)
      ⟨.tooManyParams (functionName t) (paramCount t) (.int limit), some t.span.line, 0⟩ ++ []) := by
    simp only [paramIssues, ht, true_and, List.nil_append, List.append_nil]
  rw [hissues]
  exact (count _ hfree (by decide) fun _ => rfl).seq
    ((count_about _ _ hlimit fun _ => rfl).seq (count _ hfree (by decide) fun _ => rfl))

lemma text_params {text : String} {tree : Tree} (hfree : Free → Config.Comparable c)
    (hroom : Free → checkSteps tree ≤ maxSteps)
    (hlimit : c.get "max_function_params" (.int 4) = .ok (.int limit))
    (htree : Source.parseKept (some text) text = .ok tree) :
    Finds Issue.isAboutParams Free c (Check.text text)
      ((tree.subtrees.filter isDefinition).flatMap (paramIssues limit)) := by
  have hlength : Finds Issue.isAboutParams Free c (Check.length text) [] :=
    count _ hfree (by decide) fun _ => rfl
  rw [flatMap_paramIssues, ← List.nil_append (List.flatMap _ _)]
  exact hlength.text (fun _ ht => function_params hfree hlimit ht) hroom htree

end Finds

/-- **The parameters of functions.**  Let the limit on parameters be an integer, whatever the other
settings are.  If the checker comes to an answer about a module, and it does so if all limits can
be compared with counts and there is room for the walk, then its issues about parameters are those
of the definitions at all places of the tree, in the order of the text and once each.  A definition
has such an issue exactly if it has more named parameters than allowed and is not missed: an
asynchronous one always is, and an ordinary one if it has no more parameters than allowed besides the
positional-only ones. -/
theorem check_params (k : Checker) (t : Target) {limit : Int} {text : String} {tree : Tree}
    (hlimit : k.config.get "max_function_params" (.int 4) = .ok (.int limit))
    (hread : t.disk.readText t.here t.path = .ok text)
    (htree : Source.parseKept (some text) text = .ok tree) :
    (Config.Comparable k.config → checkSteps tree ≤ maxSteps → ∃ is, (k.check t).1 = .ok is) ∧
    ∃ ps : List (List Nat), ps.Pairwise (· < ·) ∧
      (∀ p, p ∈ ps ↔ ∃ u, tree.at? p = some u ∧ isDefinition u = true) ∧
      (∀ is, (k.check t).1 = .ok is → is.filter Issue.isAboutParams =
        (ps.filterMap (tree.at? ·)).flatMap (paramIssues limit)) ∧
      ∀ u, paramIssues limit u ≠ [] ↔ limit < namedParams u ∧ ¬ Missed limit u := by
  obtain ⟨hends, ps, horder, hmem, hfound⟩ :=
    Finds.at_places hread (Finds.text_params And.left And.right hlimit htree)
  exact ⟨hends, ps, horder, hmem, hfound, paramIssues_ne_nil_iff limit⟩

/-! ## Two definitions -/

/-- A function with four named parameters, and in it an asynchronous one with three. -/
def innerText : String := "def f(a, /, b, *, c, d):\n    async def g(a, b, c): pass\n"

/-- A function with four named parameters is reported for three of them, and the asynchronous
function inside it is not reported. -/
theorem check_params_nested :
    let k : Checker := ⟨.settings [(.text "max_function_params", .int 2)], []⟩
    let t : Target := ⟨⟨[(["m.py"], .file innerText.toUTF8)]⟩, [], "m.py"⟩
    ∃ (tree : Tree) (is : List Issue) (ps : List (List Nat)),
      Source.parseKept (some innerText) innerText = .ok tree ∧
      (tree.subtrees.filter isDefinition).map (fun u => (functionName u, namedParams u)) =
        [("f", 4), ("g", 3)] ∧
      (k.check t).1 = .ok is ∧ ps.Pairwise (· < ·) ∧
      (∀ p, p ∈ ps ↔ ∃ u, tree.at? p = some u ∧ isDefinition u = true) ∧
      is.filter Issue.isAboutParams = (ps.filterMap (tree.at? ·)).flatMap (paramIssues 2) := by
  intro k t
  obtain ⟨tree, htree, hroom, hdefs⟩ := exists_parsed innerText (fun t =>
    checkSteps t ≤ maxSteps ∧ (t.subtrees.filter isDefinition).map
      (fun u => (functionName u, namedParams u)) = [("f", 4), ("g", 3)]) (by decide +kernel)
  have hread : t.disk.readText t.here t.path = .ok innerText :=
    Disk.readText_of_read (by decide) (Disk.read_in_root (by decide)
      (by decide) (by decide) rfl)
  have hsets : Config.Sets k.config ⟨300, 50, 2, 4⟩ := by
    constructor <;> simp [k, Config.get, Settings.get?, Settings.find?, Key.same]
  obtain ⟨hends, ps, horder, hmem, hfound, -⟩ := check_params k t hsets.params hread htree
  obtain ⟨is, his⟩ := hends hsets.comparable hroom
  exact ⟨tree, is, ps, htree, hdefs, his, horder, hmem, hfound is his⟩

/-- An asynchronous function with five parameters and one with three positional-only among five. -/
def passedText : String := "async def f(a, b, c, d, e): pass\ndef g(a, b, c, /, d, e): pass\n"

/-- Two functions with five named parameters are passed, although four are allowed. -/
theorem check_params_passed :
    let k : Checker := ⟨.settings Settings.defaults, []⟩
    let t : Target := ⟨⟨[(["m.py"], .file passedText.toUTF8)]⟩, [], "m.py"⟩
    ∃ tree, Source.parseKept (some passedText) passedText = .ok tree ∧
      (tree.subtrees.filter isDefinition).map (fun u => (functionName u, namedParams u)) =
        [("f", 5), ("g", 5)] ∧
      k.config.get "max_function_params" (.int 4) = .ok (.int 4) ∧ (k.check t).1 = .ok [] := by
  intro k t
  obtain ⟨tree, htree, hroom, hdefs, hnone⟩ := exists_parsed passedText (fun t =>
    checkSteps t ≤ maxSteps ∧
      (t.subtrees.filter isDefinition).map (fun u => (functionName u, namedParams u)) =
        [("f", 5), ("g", 5)] ∧
      ((t.subtrees.filter definesFunction).flatMap (functionIssues ⟨300, 50, 4, 4⟩)).isEmpty = true)
    (by decide +kernel)
  have hread : t.disk.readText t.here t.path = .ok passedText :=
    Disk.readText_of_read (by decide) (Disk.read_in_root (by decide)
      (by decide) (by decide) rfl)
  have hreports := reports_tree Config.sets_defaults htree hroom
  have hshort : fileIssues ⟨300, 50, 4, 4⟩ passedText = [] := by decide
  rw [hshort, List.isEmpty_iff.mp hnone] at hreports
  exact ⟨tree, htree, hdefs, Config.sets_defaults.params, check_of_reports hread hreports⟩

end QualityGate.Limits
