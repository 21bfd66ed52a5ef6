/-
Halves of a pair of units of sixteen bits.

A text in units of sixteen bits can hold half a pair, which is no character.  Such a half stands
here as one of 2048 private characters from the middle of the last plane, which no text in use
holds.
-/

namespace QualityGate.Text

def firstHalf : Nat := 0xD800

/-- Where the characters that stand for halves start. -/
def halfBase : Nat := 0x10A000

def halfCount : Nat := 0x800

def halfChar (unit : Nat) : Char := Char.ofNat (unit - firstHalf + halfBase)

def half? (c : Char) : Option Nat :=
  if halfBase ≤ c.toNat && c.toNat < halfBase + halfCount then
    some (c.toNat - halfBase + firstHalf)
  else none

def secondUnit (c : Char) : Nat := 0xDC00 + (c.toNat - 0x10000) % 0x400

def firstUnit (c : Char) : Nat := 0xD800 + (c.toNat - 0x10000) / 0x400

def units (c : Char) : Nat :=
  if c.toNat < 0x10000 then 1 else if (half? c).isSome then 1 else 2

/-- A text cut into its units: a character that takes two becomes its halves. -/
def splitUnits (cs : List Char) : List Char :=
  cs.flatMap fun c => if units c = 2 then [halfChar (firstUnit c), halfChar (secondUnit c)] else [c]

/-- A text without its first units.  Half a character may be left over. -/
def dropUnits : Nat → List Char → List Char
  | 0, cs => cs
  | _, [] => []
  | n + 1, c :: cs =>
    if units c = 1 then dropUnits n cs
    else
      match n with
      | 0 => halfChar (secondUnit c) :: cs
      | m + 1 => dropUnits m cs

end QualityGate.Text
