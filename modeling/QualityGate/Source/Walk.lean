/-
A walk through all constructs of a tree, level by level.

The walk keeps a queue.  The construct at its head comes next, and the constructs directly below
that one go to the end of the queue.  What a queue holds in all gets smaller with each step.
-/
import QualityGate.Source.Tree

namespace QualityGate.Source.Tree

mutual

/-- The constructs that a part stands for: several if it is a group, and none if it is missing. -/
def opened : Tree → List Tree
  | node l s ts =>
    match l with
    | .group => openedAll ts
    | .absent => if ts.isEmpty then [] else [node l s ts]
    | _ => [node l s ts]

/-- The constructs that several parts stand for. -/
def openedAll : List Tree → List Tree
  | [] => []
  | t :: ts => opened t ++ openedAll ts

end

/-- The constructs directly below the root. -/
def parts (t : Tree) : List Tree := openedAll t.children

theorem sizeIn_append : ∀ ts us : List Tree, sizeIn (ts ++ us) = sizeIn ts + sizeIn us
  | [], us => by simp [sizeIn]
  | t :: ts, us => by
    simp only [List.cons_append, sizeIn, sizeIn_append ts us]
    omega

mutual

theorem sizeIn_opened_le : ∀ t : Tree, sizeIn (opened t) ≤ size t
  | node l s ts => by
    have hts := sizeIn_openedAll_le ts
    rw [opened.eq_def, size]
    dsimp only
    split
    · omega
    · split <;> simp [sizeIn, size]
    · simp [sizeIn, size]

theorem sizeIn_openedAll_le : ∀ ts : List Tree, sizeIn (openedAll ts) ≤ sizeIn ts
  | [] => by simp [openedAll]
  | t :: ts => by
    have ht := sizeIn_opened_le t
    have hts := sizeIn_openedAll_le ts
    rw [openedAll, sizeIn_append, sizeIn]
    omega

end

theorem sizeIn_parts_lt (t : Tree) : sizeIn t.parts < size t := by
  cases t with
  | node l s ts =>
    have hts := sizeIn_openedAll_le ts
    rw [size]
    exact Nat.lt_succ_of_le hts

/-- The constructs that come when a walk goes on with a queue. -/
def walkFrom : List Tree → List Tree
  | [] => []
  | t :: queue => t :: walkFrom (queue ++ t.parts)
termination_by queue => sizeIn queue
decreasing_by
  have hparts := sizeIn_parts_lt t
  rw [sizeIn_append, sizeIn]
  omega

/-- All constructs of a tree, level by level. -/
def walk (t : Tree) : List Tree := walkFrom [t]

end QualityGate.Source.Tree
