/-
Quotients and remainders.

The quotient of two whole numbers is rounded once, to the floating-point number next to it.  The
remainder of two floating-point numbers is exact, and has the sign of the divisor if it goes with a
quotient that is rounded down.
-/
import QualityGate.Number.Shortest

namespace QualityGate.Number

/-- Is the sign of a number set?  That of a zero counts. -/
def signBit (x : Float) : Bool := Nat.pow 2 63 ≤ x.toBits.toNat

def withSignOf (x y : Float) : Float := if signBit x == signBit y then x else -x

/-- The parts of a finite number without its sign. -/
def magnitudeOf (x : Float) : Binary := Binary.ofBits (x.toBits.toNat % Nat.pow 2 63)

/-- How many times two goes into a number until less than two is left, plus one; zero for zero. -/
def bitLength (n : Nat) : Nat := if n = 0 then 0 else n.log2 + 1

/-- The number `n * 2 ^ e` for an `n` of at most 63 bits, rounded once unless it is tiny. -/
def scaled (n : Nat) (e : Int) : Float := Float.scaleB (Float.ofNat n) e

/-- The floating-point number next to the quotient of two whole ones, the second of which is not
zero.  Sixty-two bits are kept, the last of which tells whether anything was cut off. -/
def quotient (a b : Int) : Float :=
  let shift : Int := 61 - ((bitLength a.natAbs : Int) - bitLength b.natAbs)
  let num := a.natAbs * Nat.pow 2 shift.toNat
  let den := b.natAbs * Nat.pow 2 (-shift).toNat
  let q := num / den
  let kept := if num % den = 0 then q else q ||| 1
  let x := if a = 0 then 0.0 else scaled kept (-shift)
  if decide (a < 0) == decide (b < 0) then x else -x

/-- The remainder with the sign of the dividend; the divisor is not zero. -/
def remainder (x y : Float) : Float :=
  if x.isNaN || y.isNaN || x.isInf then 0.0 / 0.0
  else if y.isInf then x
  else
    let a := magnitudeOf x
    let b := magnitudeOf y
    let e := min a.exponent b.exponent
    let n := a.mantissa * Nat.pow 2 (a.exponent - e).toNat
    let d := b.mantissa * Nat.pow 2 (b.exponent - e).toNat
    withSignOf (scaled (n % d) e) x

/-- The quotient rounded down, and the remainder that goes with it; the divisor is not zero. -/
def floorDivide (x y : Float) : Float × Float :=
  let r := remainder x y
  let q := (x - r) / y
  let (q, r) :=
    if r == 0.0 then (q, withSignOf 0.0 y)
    else if signBit y == signBit r then (q, r)
    else (q - 1.0, r + y)
  if q == 0.0 then (withSignOf 0.0 (x / y), r)
  else
    let down := q.floor
    (if 0.5 < q - down then down + 1.0 else down, r)

/-- How a whole number compares with a floating-point one, without rounding either; nothing for
what is no number. -/
def compareWhole (n : Int) (x : Float) : Option Ordering :=
  if x.isNaN then none
  else if x.isInf then some (if signBit x then .gt else .lt)
  else
    let b := magnitudeOf x
    let (num, den) := ratioOf b.mantissa b.exponent
    let value : Int := if signBit x then -(num : Int) else num
    some (compare (n * den) value)

end QualityGate.Number
