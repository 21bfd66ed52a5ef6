/-
The bits of whole numbers.

A negative number has endlessly many leading ones: its bits are those of the number before its
opposite, all turned around.
-/
namespace QualityGate.Number

def flipBits (n : Int) : Int := -n - 1

def andBits (a b : Int) : Int :=
  if 0 ≤ a then
    if 0 ≤ b then ((a.toNat &&& b.toNat : Nat) : Int)
    else ((a.toNat ^^^ (a.toNat &&& (flipBits b).toNat) : Nat) : Int)
  else if 0 ≤ b then ((b.toNat ^^^ (b.toNat &&& (flipBits a).toNat) : Nat) : Int)
  else flipBits (((flipBits a).toNat ||| (flipBits b).toNat : Nat) : Int)

def orBits (a b : Int) : Int := flipBits (andBits (flipBits a) (flipBits b))

def xorBits (a b : Int) : Int := orBits a b - andBits a b

def shiftLeft (a : Int) (n : Nat) : Int := a * Nat.pow 2 n

/-- A number moved to the right by some bits, rounded down. -/
def shiftRight (a : Int) (n : Nat) : Int :=
  if 0 ≤ a then ((a.toNat >>> n : Nat) : Int)
  else flipBits (((flipBits a).toNat >>> n : Nat) : Int)

end QualityGate.Number
