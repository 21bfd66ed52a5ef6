/-
# How deep a function is nested

A visit to a function counts open levels up and down and keeps the highest count.  That count is
the greatest number of `if`, `for`, `while` and `try` statements on the way from the function to any
place in it, whatever stands between them: branches, handlers, functions, classes or lambdas.  So a
function is nested at least as deep as every function inside it, and one limit never refuses the
inner of two functions alone.
-/
import Mathlib
import QualityGate.Proofs.DiskWrite
import QualityGate.Proofs.RuleFindings

namespace QualityGate.Limits

open Source (Tree Label)

/-! ## Levels on the way to a place -/

/-- Is it a statement that counts as a level: an `if`, a `for`, a `while` or a `try`? -/
def isLevel (t : Tree) : Bool :=
  match t.label with
  | .ifStmt | .forLoop false | .whileLoop | .tryStmt false => true
  | _ => false

/-- The trees on the way from the root to a place, both included. -/
def onTheWay (t : Tree) (p : List Nat) : List Tree := p.inits.filterMap (t.at? ·)

/-- The number of levels on the way from the root to a place. -/
def levelsTo (t : Tree) (p : List Nat) : Nat := (onTheWay t p).countP isLevel

lemma isLevel_node (l : Label) (s : Source.Span) (ts : List Tree) :
    isLevel (.node l s ts) = opensLevel l := by
  cases l with
  | forLoop isAsync => cases isAsync <;> rfl
  | tryStmt grouped => cases grouped <;> rfl
  | _ => rfl

lemma onTheWay_nil (t : Tree) : onTheWay t [] = [t] := rfl

lemma onTheWay_cons {t u : Tree} {i : Nat} (h : t.children[i]? = some u) (p : List Nat) :
    onTheWay t (i :: p) = t :: onTheWay u p := by
  have hstep : (fun q => t.at? (i :: q)) = fun q => u.at? q := by
    funext q
    rw [Tree.at?, h, Option.bind_some]
  rw [onTheWay, List.inits_cons, List.filterMap_cons, List.filterMap_map]
  exact congrArg (t :: List.filterMap · p.inits) hstep

lemma levelsTo_nil (l : Label) (s : Source.Span) (ts : List Tree) :
    levelsTo (.node l s ts) [] = if opensLevel l then 1 else 0 := by
  rw [levelsTo, onTheWay_nil, List.countP_singleton, isLevel_node]

lemma levelsTo_cons {l : Label} {s : Source.Span} {ts : List Tree} {u : Tree} {i : Nat}
    (h : ts[i]? = some u) (p : List Nat) :
    levelsTo (.node l s ts) (i :: p) = (if opensLevel l then 1 else 0) + levelsTo u p := by
  rw [levelsTo, onTheWay_cons h, List.countP_cons, isLevel_node, Nat.add_comm]
  rfl

/-! ## The greatest number of levels -/

lemma nesting_le_nestingIn {ts : List Tree} {u : Tree} (h : u ∈ ts) : nesting u ≤ nestingIn ts := by
  induction ts with
  | nil => simp at h
  | cons t ts ih =>
    rw [nestingIn]
    rcases List.mem_cons.mp h with rfl | h
    · exact Nat.le_max_left _ _
    · exact (ih h).trans (Nat.le_max_right _ _)

lemma levelsTo_le_nesting {t u : Tree} {p : List Nat} (h : t.at? p = some u) :
    levelsTo t p ≤ nesting t := by
  induction p generalizing t with
  | nil =>
    obtain ⟨l, s, ts⟩ := t
    rw [levelsTo_nil, nesting]
    exact Nat.le_add_right _ _
  | cons i p ih =>
    obtain ⟨l, s, ts⟩ := t
    rw [Tree.at?] at h
    obtain ⟨v, hv, hrest⟩ := Option.bind_eq_some_iff.mp h
    have hv' : ts[i]? = some v := hv
    rw [levelsTo_cons hv', nesting]
    have hle := (ih hrest).trans (nesting_le_nestingIn (List.mem_of_getElem? hv'))
    omega

mutual

/-- Some place has as many levels on the way to it as the tree is deep. -/
lemma exists_levelsTo : ∀ t : Tree, ∃ p u, t.at? p = some u ∧ levelsTo t p = nesting t
  | .node l s ts => by
    rcases exists_levelsTo_in ts with hzero | ⟨i, t, p, u, ht, hu, hlevels⟩
    · exact ⟨[], .node l s ts, rfl, by rw [levelsTo_nil, nesting, hzero, Nat.add_zero]⟩
    · refine ⟨i :: p, u, ?_, by rw [levelsTo_cons ht, nesting, hlevels]⟩
      rw [Tree.at?, show (Source.Tree.node l s ts).children[i]? = some t from ht]
      exact hu

lemma exists_levelsTo_in : ∀ ts : List Tree, nestingIn ts = 0 ∨
    ∃ (i : Nat) (t : Tree) (p : List Nat) (u : Tree),
      ts[i]? = some t ∧ t.at? p = some u ∧ levelsTo t p = nestingIn ts
  | [] => .inl rfl
  | t :: ts => by
    right
    obtain ⟨p, u, hu, hlevels⟩ := exists_levelsTo t
    rw [nestingIn]
    -- the deepest of several trees is the first, or it is among the others
    rcases Nat.le_total (nestingIn ts) (nesting t) with hle | hle
    · exact ⟨0, t, p, u, rfl, hu, by rw [hlevels, Nat.max_eq_left hle]⟩
    · rw [Nat.max_eq_right hle]
      rcases exists_levelsTo_in ts with hzero | ⟨i, t', p', u', ht', hu', hlevels'⟩
      · exact ⟨0, t, p, u, rfl, hu, by omega⟩
      · exact ⟨i + 1, t', p', u', ht', hu', hlevels'⟩

end

lemma depth_isGreatest (t : Tree) :
    IsGreatest {n | ∃ p u, t.at? p = some u ∧ levelsTo t p = n} (depth t) := by
  rw [depth_eq_nesting]
  refine ⟨exists_levelsTo t, ?_⟩
  rintro n ⟨p, u, hu, rfl⟩
  exact levelsTo_le_nesting hu

/-- Nothing inside a tree is deeper than the tree. -/
lemma depth_le_of_at? {t u : Tree} {p : List Nat} (h : t.at? p = some u) : depth u ≤ depth t := by
  rw [depth_eq_nesting, depth_eq_nesting]
  induction p generalizing t with
  | nil =>
    cases h
    exact Nat.le_refl _
  | cons i p ih =>
    obtain ⟨l, s, ts⟩ := t
    rw [Tree.at?] at h
    obtain ⟨v, hv, hrest⟩ := Option.bind_eq_some_iff.mp h
    rw [nesting]
    have hle : nesting u ≤ nestingIn ts :=
      (ih hrest).trans (nesting_le_nestingIn (List.mem_of_getElem? hv))
    omega

/-! ## Functions that are too deep -/

/-- Is an issue about the nesting of a function? -/
def Issue.isAboutNesting (i : Issue) : Bool :=
  match i.finding with
  | .tooDeep .. => true
  | _ => false

/-- The issue of a function that is nested too deep. -/
def nestingIssues (limit : Int) (t : Tree) : List Issue :=
  issueIf (limit < depth t) ⟨.tooDeep (depth t) (.int limit), some t.span.line, 0⟩

lemma nestingIssues_ne_nil_iff (limit : Int) (t : Tree) :
    nestingIssues limit t ≠ [] ↔ limit < depth t := by
  rw [nestingIssues, issueIf]
  split <;> simp_all

namespace Finds

variable {Free : Prop} {c : Config} {limit : Int}

/-- In a function, only the last of three counts is about nesting. -/
lemma function_nesting (hfree : Free → Config.Comparable c)
    (hlimit : c.get "max_nesting_depth" (.int 4) = .ok (.int limit)) (t : Tree) :
    Finds Issue.isAboutNesting Free c (Check.function t) (nestingIssues limit t) := by
  rw [← List.nil_append (nestingIssues limit t), ← List.nil_append (nestingIssues limit t)]
  exact (count _ hfree (by decide) fun _ => rfl).seq
    ((count _ hfree (by decide) fun _ => rfl).seq (count_about _ _ hlimit fun _ => rfl))

lemma text_nesting {text : String} {tree : Tree} (hfree : Free → Config.Comparable c)
    (hroom : Free → checkSteps tree ≤ maxSteps)
    (hlimit : c.get "max_nesting_depth" (.int 4) = .ok (.int limit))
    (htree : Source.parseKept (some text) text = .ok tree) :
    Finds Issue.isAboutNesting Free c (Check.text text)
      ((tree.subtrees.filter definesFunction).flatMap (nestingIssues limit)) := by
  have hlength : Finds Issue.isAboutNesting Free c (Check.length text) [] :=
    count _ hfree (by decide) fun _ => rfl
  rw [← List.nil_append (List.flatMap _ _)]
  exact hlength.text (fun t _ => function_nesting hfree hlimit t) hroom htree

end Finds

/-- **The depth of functions.**  After a visit to a tree no level is open, and the highest count is
the greatest number of levels on the way from the root to any place of the tree; so nothing inside
a function is deeper than the function.  Let the limit on nesting be an integer, whatever the other
settings are.  If the checker comes to an answer about a module, and it does so if all limits can
be compared with counts and there is room for the walk, then its issues about nesting are those of the
ordinary functions at all places of the tree, in the order of the text and once each; and whenever a
function is refused, so is every function around it. -/
theorem check_nesting :
    (∀ t : Tree, (Levels.visit t {}).current = 0 ∧
      IsGreatest {n | ∃ p u, t.at? p = some u ∧ levelsTo t p = n} (Levels.visit t {}).deepest) ∧
    (∀ (t u : Tree) (p : List Nat), t.at? p = some u → depth u ≤ depth t) ∧
    ∀ (k : Checker) (t : Target) (limit : Int) (text : String) (tree : Tree),
      k.config.get "max_nesting_depth" (.int 4) = .ok (.int limit) →
      t.disk.readText t.here t.path = .ok text →
      Source.parseKept (some text) text = .ok tree →
      (Config.Comparable k.config → checkSteps tree ≤ maxSteps → ∃ is, (k.check t).1 = .ok is) ∧
      ∃ ps : List (List Nat), ps.Pairwise (· < ·) ∧
        (∀ p, p ∈ ps ↔ ∃ u, tree.at? p = some u ∧ definesFunction u = true) ∧
        (∀ is, (k.check t).1 = .ok is → is.filter Issue.isAboutNesting =
          (ps.filterMap (tree.at? ·)).flatMap (nestingIssues limit)) ∧
        ∀ p q u v, p ∈ ps → p ++ q ∈ ps → tree.at? p = some u → tree.at? (p ++ q) = some v →
          nestingIssues limit v ≠ [] → nestingIssues limit u ≠ [] := by
  refine ⟨fun t => ⟨?_, depth_isGreatest t⟩, fun t u p h => depth_le_of_at? h, ?_⟩
  · rw [Levels.visit_eq t {} (Nat.le_refl _)]
  · intro k t limit text tree hlimit hread htree
    obtain ⟨hends, ps, horder, hmem, hfound⟩ :=
      Finds.at_places hread (Finds.text_nesting And.left And.right hlimit htree)
    refine ⟨hends, ps, horder, hmem, hfound, fun p q u v _ _ hu hv hissue => ?_⟩
    have hinner : u.at? q = some v := by
      rwa [Tree.at?_append, hu, Option.bind_some] at hv
    have hle := depth_le_of_at? hinner
    rw [nestingIssues_ne_nil_iff] at hissue ⊢
    omega

/-- A function with an `if`, and in that a function with a loop. -/
def loopText : String := "def f():\n    if a:\n        def g():\n            while b: pass\n"

/-- Where no level is allowed, both functions are refused. -/
theorem check_nesting_loop :
    let k : Checker := ⟨.settings [(.text "max_nesting_depth", .int 0)], []⟩
    let t : Target := ⟨⟨[(["m.py"], .file loopText.toUTF8)]⟩, [], "m.py"⟩
    ∃ (tree f g : Tree) (is : List Issue) (ps : List (List Nat)),
      Source.parseKept (some loopText) loopText = .ok tree ∧
      tree.at? [0] = some f ∧ tree.at? [0, 1, 0, 1, 0] = some g ∧ depth g = 1 ∧ depth g ≤ depth f ∧
      (k.check t).1 = .ok is ∧ is.filter Issue.isAboutNesting =
        (ps.filterMap (tree.at? ·)).flatMap (nestingIssues 0) ∧
      [0] ∈ ps ∧ nestingIssues 0 f ≠ [] := by
  intro k t
  obtain ⟨tree, htree, hroom, hf, hg⟩ := exists_parsed loopText (fun t =>
    checkSteps t ≤ maxSteps ∧
      (t.at? [0]).map (fun u => (definesFunction u, depth u)) = some (true, 2) ∧
      (t.at? [0, 1, 0, 1, 0]).map (fun u => (definesFunction u, depth u)) = some (true, 1))
    (by decide +kernel)
  obtain ⟨f, hfat, hf⟩ := Option.map_eq_some_iff.mp hf
  obtain ⟨g, hgat, hg⟩ := Option.map_eq_some_iff.mp hg
  rw [Prod.mk.injEq] at hf hg
  have hread : t.disk.readText t.here t.path = .ok loopText :=
    Disk.readText_of_read (by decide) (Disk.read_in_root (by decide)
      (by decide) (by decide) rfl)
  have hsets : Config.Sets k.config ⟨300, 50, 4, 0⟩ := by
    constructor <;> simp [k, Config.get, Settings.get?, Settings.find?, Key.same]
  obtain ⟨-, hinside, hcheck⟩ := check_nesting
  obtain ⟨hends, ps, -, hmem, hfound, houter⟩ := hcheck k t 0 _ tree hsets.nesting hread htree
  obtain ⟨is, his⟩ := hends hsets.comparable hroom
  have hfps : [0] ∈ ps := (hmem _).mpr ⟨f, hfat, hf.1⟩
  have hgps : [0] ++ [1, 0, 1, 0] ∈ ps := (hmem _).mpr ⟨g, hgat, hg.1⟩
  have hgin : f.at? [1, 0, 1, 0] = some g := by
    have happend := Tree.at?_append [0] [1, 0, 1, 0] tree
    rw [hfat, Option.bind_some] at happend
    rw [← happend]
    exact hgat
  refine ⟨tree, f, g, is, ps, htree, hfat, hgat, hg.2, hinside f g _ hgin, his, hfound is his, hfps,
    houter [0] [1, 0, 1, 0] f g hfps hgps hfat hgat ?_⟩
  rw [nestingIssues_ne_nil_iff, hg.2]
  decide

end QualityGate.Limits
