/-
Options of the watcher.

An option can be any value, or be left out.  It is taken as a condition, as a number or as a text,
whichever the place needs.
-/
import QualityGate.Number.Plain

namespace QualityGate.Watch

/-- Does an option count as set?  Collections do even if they are empty. -/
def isSet : Option Value → Bool
  | none => false
  | some v =>
    match v with
    | .null => false
    | .bool b => b
    | .int n => n ≠ 0
    | .float x => !(x == 0.0) && !x.isNaN
    | .text s => !s.isEmpty
    | .list _ => true
    | .object _ => true

mutual

def shown : Value → String
  | .null => "null"
  | .bool true => "true"
  | .bool false => "false"
  | .int n => Number.plainText (Number.floatOfInt n)
  | .float x => Number.plainText x
  | .text s => s
  | .list vs => ",".intercalate (shownParts vs)
  | .object _ => "[object Object]"

/-- The elements of a list as texts; null is empty. -/
def shownParts : List Value → List String
  | [] => []
  | .null :: vs => "" :: shownParts vs
  | v :: vs => shown v :: shownParts vs

end

/-- Is a count above a limit?  A limit that is left out or is no number is never exceeded. -/
def exceeds (n : Nat) : Option Value → Bool
  | none => false
  | some v =>
    match v with
    | .null => 0 < n
    | .bool b => (if b then 1 else 0) < n
    | .int k => k < n
    | .float x => x < Float.ofNat n
    | .object _ => false
    | other =>
      match Number.ofText? (shown other) with
      | some x => x < Float.ofNat n
      | none => false

mutual

def heldValue : Value → Value
  | .int n => if n.natAbs ≤ Nat.pow 2 53 then .int n else Number.held (Number.floatOfInt n)
  | .float x => Number.held x
  | .list vs => .list (heldValues vs)
  | .object fs => .object (heldFields fs)
  | v => v

def heldValues : List Value → List Value
  | [] => []
  | v :: vs => heldValue v :: heldValues vs

def heldFields : List (String × Value) → List (String × Value)
  | [] => []
  | (k, v) :: fs => (k, heldValue v) :: heldFields fs

end

mutual

/-- A value as it is written out: a number that is not finite is lost. -/
def writable : Value → Value
  | .float x => if x.isNaN || x.isInf then .null else .float x
  | .list vs => .list (writableValues vs)
  | .object fs => .object (writableFields fs)
  | v => v

def writableValues : List Value → List Value
  | [] => []
  | v :: vs => writable v :: writableValues vs

def writableFields : List (String × Value) → List (String × Value)
  | [] => []
  | (k, v) :: fs => (k, writable v) :: writableFields fs

end

end QualityGate.Watch
