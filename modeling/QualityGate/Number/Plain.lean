/-
Numbers without a distinction between whole and other ones.

Every number is a floating-point number.  It is written with the fewest digits that read back,
without a point if it is whole, and positional from one millionth up to ten to the twenty-first.
-/
import QualityGate.Text.Space
import QualityGate.Value

namespace QualityGate.Number

def Decimal.renderPlain (d : Decimal) : String :=
  let ds := digitsOf d.digits
  let point : Int := ds.length + d.exponent
  if (ds.length : Int) ≤ point && point ≤ 21 then
    String.ofList (ds ++ List.replicate (point - ds.length).toNat '0')
  else if 0 < point && point ≤ 21 then
    String.ofList (ds.take point.toNat ++ '.' :: ds.drop point.toNat)
  else if -6 < point && point ≤ 0 then
    String.ofList (['0', '.'] ++ List.replicate (-point).toNat '0' ++ ds)
  else
    let e := point - 1
    let mantissa := match ds with
      | [] => ['0']
      | [c] => [c]
      | c :: rest => c :: '.' :: rest
    String.ofList (mantissa ++ ['e', if e < 0 then '-' else '+'] ++ digitsOf e.natAbs)

/-- The decimal of a positive finite number. -/
def decimalOf (x : Float) : Decimal := shortest (Binary.ofBits (x.toBits.toNat % Nat.pow 2 63))

def plainText (x : Float) : String :=
  if x.isNaN then "NaN"
  else if x == 0.0 then "0"
  else
    let sign := if x < 0.0 then "-" else ""
    if x.isInf then sign ++ "Infinity" else sign ++ (decimalOf x).renderPlain

/-- The whole number that a number is written as, if it is. -/
def plainInt? (x : Float) : Option Int :=
  if x.isNaN || x.isInf then none
  else if x == 0.0 then some 0
  else
    let d := decimalOf x
    if 0 ≤ d.exponent && (digitsOf d.digits).length + d.exponent ≤ 21 then
      let n : Int := (d.digits * Nat.pow 10 d.exponent.toNat : Nat)
      some (if x < 0.0 then -n else n)
    else none

/-- A number as it is held: whole if it is written so. -/
def held (x : Float) : Value :=
  match plainInt? x with
  | some n => .int n
  | none => .float x

/-! ## Reading -/

def digitsValue? (base : Nat) (ds : List Char) : Option Nat :=
  if ds.isEmpty then none
  else ds.foldlM (fun n c =>
    let v :=
      if c.isDigit then c.toNat - '0'.toNat
      else if 'a' ≤ c && c ≤ 'f' then c.toNat - 'a'.toNat + 10
      else if 'A' ≤ c && c ≤ 'F' then c.toNat - 'A'.toNat + 10
      else base
    if v < base then some (n * base + v) else none) 0

def exponentOf? : List Char → Option Int
  | '-' :: ds => (digitsValue? 10 ds).map fun n => -(n : Int)
  | '+' :: ds => (digitsValue? 10 ds).map Int.ofNat
  | ds => (digitsValue? 10 ds).map Int.ofNat

/-- The number that a decimal without a sign denotes. -/
def unsignedOf? (cs : List Char) : Option Float :=
  if cs == "Infinity".toList then some (1.0 / 0.0)
  else
    let whole := cs.takeWhile Char.isDigit
    let rest := cs.drop whole.length
    let (places, rest) := match rest with
      | '.' :: more => (more.takeWhile Char.isDigit, more.dropWhile Char.isDigit)
      | _ => ([], rest)
    if whole.isEmpty && places.isEmpty then none
    else
      let digits := (digitsValue? 10 (whole ++ places)).getD 0
      match rest with
      | [] => some (floatOf digits (-places.length))
      | c :: es =>
        if c = 'e' || c = 'E' then
          (exponentOf? es).map fun e => floatOf digits (e - places.length)
        else none

/-- The number that a text denotes.  Spaces around it do not count, and nothing at all is zero. -/
def ofText? (s : String) : Option Float :=
  match Text.stripSpaces s.toList with
  | [] => some 0.0
  | '0' :: 'x' :: ds | '0' :: 'X' :: ds => (digitsValue? 16 ds).map fun n => floatOf n 0
  | '0' :: 'o' :: ds | '0' :: 'O' :: ds => (digitsValue? 8 ds).map fun n => floatOf n 0
  | '0' :: 'b' :: ds | '0' :: 'B' :: ds => (digitsValue? 2 ds).map fun n => floatOf n 0
  | '-' :: cs => (unsignedOf? cs).map fun x => -x
  | '+' :: cs => unsignedOf? cs
  | cs => unsignedOf? cs

end QualityGate.Number
