/-
The shortest decimal that reads back as a given binary floating-point number.

A positive finite number is `m * 2 ^ q`.  The reals that round to it form an interval around it,
which contains its ends exactly when `m` is even.  For one digit, two digits and so on up to
seventeen, the two decimals next to the number on that grid are tested against the interval; the
first grid with a hit wins, and of two hits the nearer one.
-/
namespace QualityGate.Number

/-- A positive decimal: `digits * 10 ^ exponent`. -/
structure Decimal where
  digits : Nat
  exponent : Int
  deriving DecidableEq, Repr

/-- A positive binary number: `mantissa * 2 ^ exponent`. -/
structure Binary where
  mantissa : Nat
  exponent : Int
  /-- Is the next smaller number closer than the next larger one? -/
  narrowBelow : Bool
  deriving DecidableEq, Repr

/-- The parts of the 64-bit pattern of a positive finite number. -/
def Binary.ofBits (bits : Nat) : Binary :=
  let fraction : Nat := bits % Nat.pow 2 52
  let e : Nat := bits / Nat.pow 2 52 % Nat.pow 2 11
  if e = 0 then ⟨fraction, -1074, false⟩
  else ⟨fraction + Nat.pow 2 52, (e : Int) - 1075, fraction = 0 && 1 < e⟩

/-- `num / den` is the number `m * 2 ^ q`. -/
def ratioOf (m : Nat) (q : Int) : Nat × Nat :=
  if 0 ≤ q then (m * Nat.pow 2 q.toNat, 1) else (m, Nat.pow 2 (-q).toNat)

/-- The power of ten `10 ^ k` as a fraction. -/
def powerOfTen (k : Int) : Nat × Nat :=
  if 0 ≤ k then (Nat.pow 10 k.toNat, 1) else (1, Nat.pow 10 (-k).toNat)

/-- The largest `k` with `10 ^ k ≤ num / den`, looked for from `k` downwards. -/
def magnitudeFrom (num den : Nat) : Nat → Int → Int
  | 0, k => k
  | fuel + 1, k =>
    let (pn, pd) := powerOfTen k
    if pn * den ≤ num * pd then k else magnitudeFrom num den fuel (k - 1)

/-- Does the decimal `d * 10 ^ k` round to the binary number? -/
def roundsTo (b : Binary) (d : Nat) (k : Int) : Bool :=
  -- the number and the ends of its interval, all times four
  let (unit, den) := ratioOf 1 b.exponent
  let four := 4 * b.mantissa * unit
  let low := four - (if b.narrowBelow then unit else 2 * unit)
  let high := four + 2 * unit
  let (pn, pd) := powerOfTen k
  let left := 4 * d * pn * den
  if b.mantissa % 2 = 0 then low * pd ≤ left && left ≤ high * pd
  else low * pd < left && left < high * pd

/-- The decimal with the fewest digits, at most `n` more than are being tried. -/
def shortestFrom (b : Binary) (num den : Nat) (magnitude : Int) : Nat → Nat → Decimal
  | 0, tried =>
    let k := magnitude - tried + 1
    let (pn, pd) := powerOfTen k
    ⟨num * pd / (den * pn), k⟩
  | n + 1, tried =>
    let k := magnitude - tried + 1
    let (pn, pd) := powerOfTen k
    let below := num * pd / (den * pn)
    let above := below + 1
    let lowHit := roundsTo b below k
    let highHit := roundsTo b above k
    if lowHit && highHit then
      -- twice the number, in units of the grid, against the middle
      let twice := 2 * num * pd
      let middle := (2 * below + 1) * den * pn
      if twice < middle then ⟨below, k⟩
      else if middle < twice then ⟨above, k⟩
      else if below % 2 = 0 then ⟨below, k⟩ else ⟨above, k⟩
    else if lowHit then ⟨below, k⟩
    else if highHit then ⟨above, k⟩
    else shortestFrom b num den magnitude n (tried + 1)

/-- Drop trailing zeros, at most `fuel` of them. -/
def trimZeros : Nat → Decimal → Decimal
  | 0, d => d
  | fuel + 1, d =>
    if d.digits ≠ 0 && d.digits % 10 = 0 then trimZeros fuel ⟨d.digits / 10, d.exponent + 1⟩ else d

def shortest (b : Binary) : Decimal :=
  let (num, den) := ratioOf b.mantissa b.exponent
  let magnitude := magnitudeFrom num den 700 309
  trimZeros 20 (shortestFrom b num den magnitude 17 1)

/-! ## Text -/

def digitsOf (n : Nat) : List Char := Nat.toDigits 10 n

/-- The text of a decimal: positional as long as the point lies within `low` to `high` places,
with an exponent of at least two digits otherwise. -/
def Decimal.render (low high : Int) (d : Decimal) : String :=
  let ds := digitsOf d.digits
  let point : Int := ds.length + d.exponent
  if low < point && point ≤ high then
    if point ≤ 0 then
      String.ofList (['0', '.'] ++ List.replicate (-point).toNat '0' ++ ds)
    else if (ds.length : Int) ≤ point then
      String.ofList (ds ++ List.replicate (point - ds.length).toNat '0' ++ ['.', '0'])
    else
      String.ofList (ds.take point.toNat ++ '.' :: ds.drop point.toNat)
  else
    let e := point - 1
    let es := digitsOf e.natAbs
    let es := if es.length < 2 then '0' :: es else es
    let mantissa := match ds with
      | [] => ['0']
      | [d] => [d]
      | d :: rest => d :: '.' :: rest
    String.ofList (mantissa ++ ['e', if e < 0 then '-' else '+'] ++ es)

/-- The text of a floating-point number: the fewest digits that read back, positional from one
ten-thousandth up to ten to the sixteenth. -/
def floatText (x : Float) : String :=
  if x.isNaN then "nan"
  else
    let bits := x.toBits.toNat
    let sign := if Nat.pow 2 63 ≤ bits then "-" else ""
    let magnitude := bits % Nat.pow 2 63
    if x.isInf then sign ++ "inf"
    else if magnitude = 0 then sign ++ "0.0"
    else sign ++ (shortest (Binary.ofBits magnitude)).render (-4) 16

def floatOf (digits : Nat) (exponent : Int) : Float :=
  let size : Int := (digitsOf digits).length + exponent
  if digits = 0 then 0.0
  else if 400 < size then 1.0 / 0.0
  else if size < -400 then 0.0
  else if 0 ≤ exponent then Float.ofScientific (digits * Nat.pow 10 exponent.toNat) false 0
  else Float.ofScientific digits true (-exponent).toNat

def floatOfInt (n : Int) : Float :=
  let x := floatOf n.natAbs 0
  if n < 0 then -x else x

end QualityGate.Number
