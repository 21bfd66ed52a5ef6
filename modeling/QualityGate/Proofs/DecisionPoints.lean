/-
# The decision points of a text

The complexity of a text is summed up on a walk that goes through its tree level by level, with a
queue.  Whatever the queue holds, the rest of the walk comes to each construct in it and below it
once (`walkFrom_perm`), so a sum over the walk is a sum over the tree, and the decision points can be
counted by recursion instead.  From this follows what the count does not depend on: the order of the
statements, and how a chain of `and` or `or` is put together.
-/
import Mathlib
import QualityGate.Guard.Rules
import QualityGate.Proofs.TreePlaces

namespace QualityGate.Source.Tree

/-! ## What a walk comes to -/

/-- Is it a construct of its own, neither several trees nor nothing? -/
def isConstruct (t : Tree) : Bool :=
  match t.label with
  | .group => false
  | .absent => !t.children.isEmpty
  | _ => true

/-- The constructs below a root. -/
def inside (t : Tree) : List Tree := (subtreesIn t.children).filter isConstruct

mutual

lemma flatMap_opened : ∀ t : Tree,
    (opened t).flatMap (fun u => u :: u.inside) = (subtrees t).filter isConstruct
  | node l s ts => by
    have hts := flatMap_openedAll ts
    have hconstruct (h : isConstruct (node l s ts) = true) :
        [node l s ts].flatMap (fun u => u :: u.inside) =
          (subtrees (node l s ts)).filter isConstruct := by
      rw [subtrees, List.filter_cons_of_pos h, List.flatMap_singleton]
      rfl
    rw [opened.eq_def]
    dsimp only
    split
    · -- a group is passed over on both sides
      rw [hts, subtrees, List.filter_cons_of_neg (by simp [isConstruct, label])]
    · split
      · rename_i hempty
        rw [List.isEmpty_iff] at hempty
        subst hempty
        simp [subtrees, subtreesIn, isConstruct, label, children]
      · rename_i hempty
        exact hconstruct (by simpa [isConstruct, label, children] using hempty)
    · rename_i hgroup habsent
      refine hconstruct ?_
      cases l <;> first | rfl | exact absurd rfl hgroup | exact absurd rfl habsent

lemma flatMap_openedAll : ∀ ts : List Tree,
    (openedAll ts).flatMap (fun u => u :: u.inside) = (subtreesIn ts).filter isConstruct
  | [] => rfl
  | t :: ts => by
    rw [openedAll, subtreesIn, List.flatMap_append, List.filter_append, flatMap_opened t,
      flatMap_openedAll ts]

end

/-- The rest of a walk comes once to each construct in the queue and to each one below. -/
lemma walkFrom_perm (queue : List Tree) :
    (walkFrom queue).Perm (queue.flatMap fun t => t :: t.inside) := by
  fun_induction walkFrom queue with
  | case1 => exact .refl _
  | case2 t queue ih =>
    have hparts : t.parts.flatMap (fun u => u :: u.inside) = t.inside := flatMap_openedAll t.children
    rw [List.flatMap_append, hparts] at ih
    exact (ih.trans List.perm_append_comm).cons t

lemma walk_perm (t : Tree) : t.walk.Perm (t :: t.inside) := by
  have h := walkFrom_perm [t]
  rwa [List.flatMap_singleton] at h

lemma subtrees_filter_isConstruct {t : Tree} (h : t.isConstruct = true) :
    t.subtrees.filter isConstruct = t :: t.inside := by
  cases t with
  | node l s ts =>
    rw [subtrees, List.filter_cons_of_pos h]
    rfl

end QualityGate.Source.Tree

namespace QualityGate.Guard

open Source (Tree Label Span BoolOp)

/-! ## Decision points -/

/-- What a construct adds to the decision points of a text: one for each `if`, loop and handler, and
one less than the number of its operands for a chain of `and` or `or`. -/
def points (t : Tree) : Int :=
  match t.label with
  | .ifStmt | .whileLoop | .forLoop _ | .handler _ => 1
  | .boolOp _ => t.children.length - 1
  | _ => 0

/-- The decision points of a text, those of all its constructs. -/
def decisionPoints (t : Tree) : Int := (t.subtrees.map points).sum

lemma branches_eq (t : Tree) : branches t = points t := by
  cases t with
  | node l s ts => cases l <;> rfl

lemma points_of_not_isConstruct {t : Tree} (h : t.isConstruct = false) : points t = 0 := by
  rw [Tree.isConstruct] at h
  rw [points]
  cases hl : t.label <;> simp_all

lemma sum_points_filter (ts : List Tree) :
    ((ts.filter Tree.isConstruct).map points).sum = (ts.map points).sum := by
  induction ts with
  | nil => rfl
  | cons t ts ih =>
    by_cases h : t.isConstruct = true
    · rw [List.filter_cons_of_pos h, List.map_cons, List.map_cons, List.sum_cons, List.sum_cons, ih]
    · rw [List.filter_cons_of_neg h, List.map_cons, List.sum_cons, ih,
        points_of_not_isConstruct (Bool.eq_false_of_not_eq_true h), zero_add]

lemma sum_points_subtreesIn (ts : List Tree) :
    ((Tree.subtreesIn ts).map points).sum = (ts.map decisionPoints).sum := by
  induction ts with
  | nil => rfl
  | cons t ts ih =>
    rw [Tree.subtreesIn, List.map_append, List.sum_append, ih, List.map_cons, List.sum_cons,
      decisionPoints]

/-- The decision points by recursion on the tree. -/
lemma decisionPoints_node (l : Label) (s : Span) (ts : List Tree) :
    decisionPoints (.node l s ts) = points (.node l s ts) + (ts.map decisionPoints).sum := by
  rw [decisionPoints, Tree.subtrees, List.map_cons, List.sum_cons, sum_points_subtreesIn]

lemma foldl_branches (ts : List Tree) : ∀ n : Int,
    ts.foldl (fun n u => n + branches u) n = n + (ts.map points).sum := by
  induction ts with
  | nil => simp
  | cons t ts ih =>
    intro n
    rw [List.foldl_cons, ih, List.map_cons, List.sum_cons, branches_eq, add_assoc]

/-- The sum over a walk is the sum over the tree. -/
lemma complexity_eq (t : Tree) : complexity t = 1 + decisionPoints t := by
  have hsum : (t.walk.map points).sum = ((t :: t.inside).map points).sum :=
    (t.walk_perm.map points).sum_eq
  cases t with
  | node l s ts =>
    rw [complexity, foldl_branches, hsum, List.map_cons, List.sum_cons, Tree.inside,
      sum_points_filter, decisionPoints, Tree.subtrees, List.map_cons, List.sum_cons]
    rfl

/-! ## Chains of operands -/

/-- A chain inside a chain of the same operator is taken apart, somewhere in a tree. -/
inductive Flattens : Tree → Tree → Prop
  | chain (op : BoolOp) (s s' s'' : Span) (before operands after : List Tree) :
    Flattens (.node (.boolOp op) s (before ++ .node (.boolOp op) s' operands :: after))
      (.node (.boolOp op) s'' (before ++ operands ++ after))
  | inside (l : Label) (s : Span) (before after : List Tree) {t u : Tree} (h : Flattens t u) :
    Flattens (.node l s (before ++ t :: after)) (.node l s (before ++ u :: after))

lemma points_congr (l : Label) (s : Span) {ts us : List Tree} (h : ts.length = us.length) :
    points (.node l s ts) = points (.node l s us) := by
  rw [points, points]
  simp only [Tree.label, Tree.children, h]

lemma Flattens.decisionPoints_eq {t u : Tree} (h : Flattens t u) :
    decisionPoints t = decisionPoints u := by
  induction h with
  | chain op s s' s'' before operands after =>
    simp only [decisionPoints_node, points, Tree.label, Tree.children, List.map_append,
      List.map_cons, List.sum_append, List.sum_cons, List.length_append, List.length_cons]
    push_cast
    ring
  | @inside l s before after t u _ ih =>
    have hroot : points (.node l s (before ++ t :: after)) = points (.node l s (before ++ u :: after)) :=
      points_congr l s (by simp)
    rw [decisionPoints_node, decisionPoints_node, hroot]
    simp only [List.map_append, List.map_cons, ih]

/-- **Complexity by recursion.**  The complexity, which is summed up on a walk with a queue, is one
more than the decision points of the tree: the walk comes to each construct once, and the decision
points of a tree are those of its root and those of its parts.  Hence the complexity of a module,
less one, is the sum of those of its statements in any order, each less one; and it is the same
however the chains of `and` and `or` in a text are put together from their operands. -/
theorem complexity_by_recursion :
    (∀ t : Tree, complexity t = 1 + decisionPoints t) ∧
    (∀ t : Tree, t.isConstruct = true → t.walk.Perm (t.subtrees.filter Tree.isConstruct)) ∧
    (∀ l s ts, decisionPoints (.node l s ts) =
      points (.node l s ts) + (ts.map decisionPoints).sum) ∧
    (∀ s ts us, ts.Perm us →
      complexity (.node .module s ts) - 1 = (us.map fun t => complexity t - 1).sum) ∧
    ∀ t u : Tree, Relation.EqvGen Flattens t u → complexity t = complexity u := by
  refine ⟨complexity_eq, fun t ht => ?_, decisionPoints_node, fun s ts us hperm => ?_,
    fun t u h => ?_⟩
  · rw [Tree.subtrees_filter_isConstruct ht]
    exact t.walk_perm
  · have hless : (fun t => complexity t - 1) = decisionPoints := by
      funext t
      rw [complexity_eq, add_sub_cancel_left]
    have hmodule : points (.node .module s ts) = 0 := rfl
    rw [hless, complexity_eq, add_sub_cancel_left, decisionPoints_node, hmodule, zero_add]
    exact (hperm.map decisionPoints).sum_eq
  · rw [complexity_eq, complexity_eq]
    induction h with
    | rel t u h => rw [h.decisionPoints_eq]
    | refl t => rfl
    | symm t u _ ih => exact ih.symm
    | trans t u v _ _ ih ih' => exact ih.trans ih'

/-- In `if a and (b and c): pass`, the inner chain may be taken apart, and the statement may stand
before or behind another one. -/
theorem complexity_by_recursion_chain :
    let a : Tree := .node (.name "a") default []
    let nested : Tree := .node (.boolOp .and) default [a, .node (.boolOp .and) default [a, a]]
    let flat : Tree := .node (.boolOp .and) default [a, a, a]
    let branch (test : Tree) : Tree :=
      .node .ifStmt default [test, .many [.node .pass default []], .many []]
    let pass : Tree := .node .pass default []
    complexity (branch nested) = complexity (branch flat) ∧ complexity (branch flat) = 4 ∧
      (branch flat).walk.Perm ((branch flat).subtrees.filter Tree.isConstruct) ∧
      complexity (.node .module default [pass, branch flat]) - 1 =
        ([branch flat, pass].map fun t => complexity t - 1).sum := by
  intro a nested flat branch pass
  obtain ⟨heq, hwalk, -, hmodule, hchain⟩ := complexity_by_recursion
  have hflat : Flattens (branch nested) (branch flat) :=
    .inside .ifStmt default [] _ (.chain .and default default default [a] [a, a] [])
  refine ⟨hchain _ _ (.rel _ _ hflat), ?_, hwalk _ rfl, hmodule _ _ _ (List.Perm.swap _ _ _)⟩
  rw [heq]
  decide

end QualityGate.Guard
