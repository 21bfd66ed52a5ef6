/-
The order of the elements of a set.

A set stands in a table whose size is a power of two.  An element goes to the place that its hash
gives, or to the first free one of the places that follow from it; a table that is three fifths
full is made larger, and its elements are put into the new one in the order in which they stand in
the old one.  The elements of a set come in the order of the table.

The hash of a whole number depends on its value only.  For other elements there is none here, and a
set with one of them keeps the order in which its elements were put in.
-/
import QualityGate.Program.Object

namespace QualityGate.Program

/-! ## Hashes -/

def hashPrime : Nat := Nat.pow 2 61 - 1

def wordSize : Nat := Nat.pow 2 64

/-- The hash of a whole number, as a word.  One below zero is not used. -/
def intHash (n : Int) : Nat :=
  let amount := n.natAbs % hashPrime
  if 0 ≤ n || amount = 0 then amount
  else if amount = 1 then wordSize - 2
  else wordSize - amount

/-- The hash of an object that depends on its value only. -/
def Object.hash? : Object → Option Nat
  | .bool b => some (if b then 1 else 0)
  | .int n => some (intHash n)
  | _ => none

/-! ## Tables -/

variable {α : Type}

/-- A table: elements with their hashes at their places. -/
abbrev SetTable (α : Type) := Array (Option (Nat × α))

namespace SetTable

def smallest : Nat := 8

def empty (size : Nat) : SetTable α := Array.replicate size none

/-- The elements in order, with their hashes. -/
def entries (t : SetTable α) : List (Nat × α) := t.toList.filterMap id

/-- How many places next to each other are tried. -/
def neighbours : Nat := 10

/-- The first free place for a hash.  From a place that is too near to the end no neighbours are
tried.  The first argument bounds the number of tries. -/
def freePlace (t : SetTable α) : Nat → Nat → Nat → Nat
  | 0, place, _ => place
  | fuel + 1, place, rest =>
    let count := if place + neighbours ≤ t.size then neighbours else 1
    match (List.range count).find? fun k => ((t.getD (place + k) none).isNone) with
    | some k => place + k
    | none =>
      let rest := rest / 32
      freePlace t fuel ((place * 5 + 1 + rest) % t.size) rest

def put (t : SetTable α) (e : Nat × α) : SetTable α :=
  t.setIfInBounds (freePlace t (t.size * 16 + 16) (e.1 % t.size) e.1) (some e)

/-- The first size from `size` on that is above a number. -/
def sizeAbove (n : Nat) : Nat → Nat → Nat
  | 0, size => size
  | fuel + 1, size => if size ≤ n then sizeAbove n fuel (size * 2) else size

def resized (t : SetTable α) (room : Nat) : SetTable α :=
  t.entries.foldl put (empty (sizeAbove room room smallest))

def isFull (t : SetTable α) (used : Nat) : Bool := (t.size - 1) * 3 ≤ used * 5

/-- Put an element in that is not there, and make the table larger if it is full. -/
def insert (t : SetTable α) (e : Nat × α) : SetTable α :=
  let t := t.put e
  let used := t.entries.length
  if t.isFull used then t.resized (if 50000 < used then used * 2 else used * 4) else t

def ofEntries (es : List (Nat × α)) : SetTable α := es.foldl insert (empty smallest)

/-- The table into which all elements of another one are put at once. -/
def copied (t : SetTable α) : SetTable α :=
  let used := t.entries.length
  let size := if (empty smallest : SetTable α).isFull used then sizeAbove (used * 2) used smallest
    else smallest
  if size = t.size then t else t.entries.foldl put (empty size)

end SetTable

/-- The elements of a set, no two of them equal, in order.  Those of a set that is written out in
full come from a copy of it. -/
def setOrder (isFixed : Bool) (xs : List Object) : List Object :=
  match xs.mapM Object.hash? with
  | none => xs
  | some hs =>
    let t := SetTable.ofEntries (hs.zip xs)
    ((if isFixed then t.copied else t).entries).map (·.2)

end QualityGate.Program
