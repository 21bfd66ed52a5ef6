/-
Complex numbers.

Sums, products and quotients are taken part by part, as floating-point numbers.
-/
import QualityGate.Number.Shortest

namespace QualityGate.Number

structure Complex where
  re : Float
  im : Float

namespace Complex

def ofFloat (x : Float) : Complex := ⟨x, 0.0⟩

def add (a b : Complex) : Complex := ⟨a.re + b.re, a.im + b.im⟩

def sub (a b : Complex) : Complex := ⟨a.re - b.re, a.im - b.im⟩

def mul (a b : Complex) : Complex := ⟨a.re * b.re - a.im * b.im, a.re * b.im + a.im * b.re⟩

/-- The number with both signs turned around. -/
def neg (a : Complex) : Complex := ⟨-a.re, -a.im⟩

/-- The quotient, if the divisor is not zero.  Both are scaled by the larger part of the divisor. -/
def div? (a b : Complex) : Option Complex :=
  if b.im.abs ≤ b.re.abs then
    if b.re.abs == 0.0 then none
    else
      let ratio := b.im / b.re
      let den := b.re + b.im * ratio
      some ⟨(a.re + a.im * ratio) / den, (a.im - a.re * ratio) / den⟩
  else if b.re.abs ≤ b.im.abs then
    let ratio := b.re / b.im
    let den := b.re * ratio + b.im
    some ⟨(a.re * ratio + a.im) / den, (a.im * ratio - a.re) / den⟩
  else some ⟨0.0 / 0.0, 0.0 / 0.0⟩

def same (a b : Complex) : Bool := a.re == b.re && a.im == b.im

/-- Does the sign of a number say minus?  That of a zero counts. -/
def isNegative (x : Float) : Bool := !x.isNaN && Nat.pow 2 63 ≤ x.toBits.toNat

/-- The text of a part: without the places of a whole number. -/
def partText (x : Float) : String :=
  let t := floatText x
  if t.endsWith ".0" then (t.dropEnd 2).toString else t

/-- The text of a number.  A real part that is plus zero is left out, and any other is put into
parentheses with the imaginary one. -/
def text (a : Complex) : String :=
  if a.re == 0.0 && !isNegative a.re then partText a.im ++ "j"
  else
    let sign := if isNegative a.im then "" else "+"
    s!"({partText a.re}{sign}{partText a.im}j)"

end Complex

end QualityGate.Number
