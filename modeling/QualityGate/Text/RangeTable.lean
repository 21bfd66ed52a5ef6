/-
Sets of characters given by sorted ranges.

A set is stored as the increasing list of the code points at which membership changes, so a
character is in the set exactly when the number of changes at or before it is odd.  The tables of
the other modules of this folder are written as gaps and run lengths, in figures, which keeps the
literals short.
-/
namespace QualityGate.Text

/-- The code points at which membership changes, in increasing order, starting outside the set. -/
structure RangeTable where
  /-- Even positions enter the set, odd positions leave it. -/
  changes : Array Nat

namespace RangeTable

/-- The numbers written in decimal and separated by blanks. -/
def numbers (s : String) : List Nat :=
  let step : List Nat × Option Nat → Char → List Nat × Option Nat := fun (done, cur) c =>
    if c.isDigit then (done, some (cur.getD 0 * 10 + (c.toNat - '0'.toNat)))
    else match cur with
      | some n => (n :: done, none)
      | none => (done, none)
  match s.toList.foldl step ([], none) with
  | (done, some n) => (n :: done).reverse
  | (done, none) => done.reverse

def runningSums : Nat → List Nat → List Nat
  | _, [] => []
  | at_, d :: ds => (at_ + d) :: runningSums (at_ + d) ds

/-- The distances that have been read, the last one first, how many figures of the next one are
still to come, and its value so far. -/
structure Distances where
  done : List Nat := []
  toCome : Nat := 0
  value : Nat := 0

/-- The value of a figure: the characters from the digit zero to the letter `z`, without the
backslash. -/
def figure (c : Char) : Nat := c.toNat - '0'.toNat - (if '\\' < c then 1 else 0)

/-- Read a character.  A distance is one figure, or two behind a plus sign, or four behind an
asterisk; blanks and line breaks do not count. -/
def Distances.read (ds : Distances) (c : Char) : Distances :=
  if c = ' ' || c = '\n' then ds
  else if c = '+' then { ds with toCome := 2, value := 0 }
  else if c = '*' then { ds with toCome := 4, value := 0 }
  else
    let value := ds.value * 74 + figure c
    if 1 < ds.toCome then { ds with toCome := ds.toCome - 1, value }
    else { done := value :: ds.done }

/-- The table whose changes lie at the running sums of the distances written in `s`. -/
def ofDistances (s : String) : RangeTable :=
  ⟨(runningSums 0 (s.toList.foldl Distances.read {}).done.reverse).toArray⟩

/-- How many changes between `lo` and `hi` lie at or before `n`, plus `lo`; `fuel` bounds the
number of halvings. -/
def countUpTo (t : RangeTable) (n : Nat) : Nat → Nat → Nat → Nat
  | 0, lo, _ => lo
  | fuel + 1, lo, hi =>
    if lo < hi then
      let mid := (lo + hi) / 2
      if t.changes.getD mid 0 ≤ n then countUpTo t n fuel (mid + 1) hi
      else countUpTo t n fuel lo mid
    else lo

def contains (t : RangeTable) (n : Nat) : Bool :=
  countUpTo t n (t.changes.size + 1) 0 t.changes.size % 2 = 1

end RangeTable

end QualityGate.Text
