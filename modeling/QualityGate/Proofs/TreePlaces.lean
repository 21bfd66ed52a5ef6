/-
# Places in a syntax tree

A place is a list of numbers: which subtree to go down to, then which subtree of that one, and so
on.  The places of a tree are listed in the order of the text, each before the places below it.
That order is the lexicographic order on lists of numbers, so the listing is strictly increasing
and no place stands in it twice.
-/
import Mathlib
import QualityGate.Source.Tree

namespace QualityGate.Source.Tree

/-- The subtree at a place. -/
def at? : List Nat → Tree → Option Tree
  | [], t => some t
  | i :: p, t => t.children[i]?.bind (at? p)

lemma at?_append (p q : List Nat) (t : Tree) : at? (p ++ q) t = (at? p t).bind (at? q) := by
  induction p generalizing t with
  | nil => rfl
  | cons i p ih =>
    rw [List.cons_append, at?, at?, Option.bind_assoc]
    exact congrArg (t.children[i]?.bind ·) (funext ih)

mutual

/-- The places of a tree, in the order of the text. -/
def places : Tree → List (List Nat)
  | node _ _ ts => [] :: placesFrom 0 ts

/-- The places of several trees, the first of which is the `i`-th. -/
def placesFrom (i : Nat) : List Tree → List (List Nat)
  | [] => []
  | t :: ts => (places t).map (i :: ·) ++ placesFrom (i + 1) ts

end

mutual

/-- All subtrees, in the order of the text, a tree before those inside it. -/
def subtrees : Tree → List Tree
  | node l s ts => node l s ts :: subtreesIn ts

/-- All subtrees of several trees. -/
def subtreesIn : List Tree → List Tree
  | [] => []
  | t :: ts => subtrees t ++ subtreesIn ts

end

/-! ## Which places there are -/

mutual

lemma mem_places : ∀ (t : Tree) (p : List Nat), p ∈ places t ↔ (at? p t).isSome
  | node l s ts, p => by
    rw [places, List.mem_cons]
    cases p with
    | nil => simp [at?]
    | cons i q =>
      have h := mem_placesFrom ts 0 i q
      simp only [Nat.zero_le, Nat.sub_zero, true_and] at h
      simp only [reduceCtorEq, false_or, at?, children, h]

lemma mem_placesFrom : ∀ (ts : List Tree) (i j : Nat) (q : List Nat),
    j :: q ∈ placesFrom i ts ↔ i ≤ j ∧ (ts[j - i]?.bind (at? q)).isSome
  | [], i, j, q => by simp [placesFrom]
  | t :: ts, i, j, q => by
    have ht := mem_places t q
    have hts := mem_placesFrom ts (i + 1) j q
    rw [placesFrom, List.mem_append, hts]
    by_cases hij : j = i
    · subst hij
      simp [ht]
    · have hne : j :: q ∉ (places t).map (i :: ·) := by
        intro hmem
        obtain ⟨r, -, hr⟩ := List.mem_map.mp hmem
        exact hij (List.cons.inj hr).1.symm
      simp only [hne, false_or]
      constructor
      · rintro ⟨hle, hsome⟩
        refine ⟨by omega, ?_⟩
        rwa [show j - i = j - (i + 1) + 1 by omega, List.getElem?_cons_succ]
      · rintro ⟨hle, hsome⟩
        refine ⟨by omega, ?_⟩
        rwa [show j - i = j - (i + 1) + 1 by omega, List.getElem?_cons_succ] at hsome

end

/-! ## The order of the places -/

lemma le_of_mem_placesFrom {ts : List Tree} {i : Nat} {p : List Nat}
    (h : p ∈ placesFrom i ts) : ∃ j q, p = j :: q ∧ i ≤ j := by
  cases p with
  | nil =>
    exfalso
    induction ts generalizing i with
    | nil => simp [placesFrom] at h
    | cons t ts ih =>
      rw [placesFrom, List.mem_append] at h
      rcases h with h | h
      · simp at h
      · exact ih h
  | cons j q => exact ⟨j, q, rfl, ((mem_placesFrom ts i j q).mp h).1⟩

mutual

lemma pairwise_places : ∀ t : Tree, (places t).Pairwise (· < ·)
  | node l s ts => by
    rw [places, List.pairwise_cons]
    refine ⟨?_, pairwise_placesFrom ts 0⟩
    intro p hp
    obtain ⟨j, q, rfl, -⟩ := le_of_mem_placesFrom hp
    exact List.nil_lt_cons j q

lemma pairwise_placesFrom : ∀ (ts : List Tree) (i : Nat), (placesFrom i ts).Pairwise (· < ·)
  | [], i => by simp [placesFrom]
  | t :: ts, i => by
    rw [placesFrom, List.pairwise_append]
    refine ⟨?_, pairwise_placesFrom ts (i + 1), ?_⟩
    · rw [List.pairwise_map]
      refine (pairwise_places t).imp ?_
      intro p q hpq
      exact List.cons_lt_cons_iff.mpr (Or.inr ⟨rfl, hpq⟩)
    · intro p hp q hq
      obtain ⟨r, -, rfl⟩ := List.mem_map.mp hp
      obtain ⟨j, r', rfl, hj⟩ := le_of_mem_placesFrom hq
      exact List.cons_lt_cons_iff.mpr (Or.inl (by omega))

end

/-! ## What stands at the places -/

lemma map_at?_cons (ps : List (List Nat)) (i : Nat) (t : Tree) :
    (ps.map (i :: ·)).map (at? · t) = ps.map fun p => t.children[i]?.bind (at? p) := by
  simp [Function.comp_def, at?]

mutual

lemma map_at?_places : ∀ t : Tree, (places t).map (at? · t) = (subtrees t).map some
  | node l s ts => by
    have h := map_at?_placesFrom ts 0 (node l s ts) (by simp [children])
    rw [places, subtrees, List.map_cons, List.map_cons, h]
    rfl

lemma map_at?_placesFrom : ∀ (ts : List Tree) (i : Nat) (t : Tree),
    t.children.drop i = ts → (placesFrom i ts).map (at? · t) = (subtreesIn ts).map some
  | [], i, t, _ => by simp [placesFrom, subtreesIn]
  | u :: us, i, t, h => by
    have hget : t.children[i]? = some u := by
      rw [← List.head?_drop, h, List.head?_cons]
    have hrest : t.children.drop (i + 1) = us := by
      rw [← List.tail_drop, h, List.tail_cons]
    rw [placesFrom, subtreesIn, List.map_append, List.map_append,
      map_at?_placesFrom us (i + 1) t hrest, map_at?_cons, hget, ← map_at?_places u]
    rfl

end

/-- The places at which a subtree has a property, in the order of the text, and the subtrees
there. -/
lemma exists_places_filter (q : Tree → Bool) (t : Tree) :
    ∃ ps : List (List Nat), ps.Pairwise (· < ·) ∧
      (∀ p, p ∈ ps ↔ ∃ u, at? p t = some u ∧ q u = true) ∧
      ps.filterMap (at? · t) = (subtrees t).filter q := by
  refine ⟨(places t).filter fun p => (at? p t).any q, (pairwise_places t).filter _, ?_, ?_⟩
  · intro p
    rw [List.mem_filter, mem_places]
    cases at? p t with
    | none => simp
    | some u => simp
  · have h := map_at?_places t
    generalize places t = ps at h
    generalize subtrees t = us at h
    induction us generalizing ps with
    | nil =>
      have hps : ps = [] := by simpa using h
      simp [hps]
    | cons u us ih =>
      obtain ⟨p, ps, rfl, hp, hrest⟩ := List.map_eq_cons_iff.mp h
      have hps := ih ps hrest
      by_cases hq : q u = true
      · simp [hp, hq, hps]
      · simp [hp, hq, hps]

end QualityGate.Source.Tree
