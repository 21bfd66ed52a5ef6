/-
# The shortest decimal is read back

The decimal that is chosen for a floating-point number is in the interval of the number
(`roundsTo_shortest`).  The search for it tries grids of one digit, two digits and so on; each grid
has a point next to the number on either side, and with seventeen digits the nearer of the two is in
the interval, so the search never ends without a hit.

So every decimal of that value is read as the number, and the text of a number is that of such a
decimal, perhaps behind a sign (`isTextOf_floatText`).
-/
import Mathlib
import QualityGate.Proofs.FloatReading

namespace QualityGate.Number

open Float.Model
open Float.Model.UnpackedFloat

/-! ## Fractions -/

/-- The value of a fraction. -/
def fractionValue (f : ℕ × ℕ) : ℚ := f.1 / f.2

lemma ratioOf_pos (m : ℕ) (q : ℤ) : 0 < (ratioOf m q).2 := by
  rw [ratioOf]
  split
  · exact Nat.one_pos
  · exact Nat.pow_pos (by decide)

lemma fractionValue_ratioOf (m : ℕ) (q : ℤ) : fractionValue (ratioOf m q) = m * 2 ^ q := by
  rw [ratioOf]
  split
  · next h =>
    lift q to ℕ using h
    simp [fractionValue, Nat.pow_eq]
  · next h =>
    obtain ⟨k, rfl⟩ : ∃ k : ℕ, q = -k := ⟨(-q).toNat, by omega⟩
    simp [fractionValue, Nat.pow_eq, div_eq_mul_inv]

lemma powerOfTen_pos (k : ℤ) : 0 < (powerOfTen k).1 ∧ 0 < (powerOfTen k).2 := by
  rw [powerOfTen]
  split
  · exact ⟨Nat.pow_pos (by decide), Nat.one_pos⟩
  · exact ⟨Nat.one_pos, Nat.pow_pos (by decide)⟩

lemma fractionValue_powerOfTen (k : ℤ) : fractionValue (powerOfTen k) = 10 ^ k := by
  rw [powerOfTen]
  split
  · next h =>
    lift k to ℕ using h
    simp [fractionValue, Nat.pow_eq]
  · next h =>
    obtain ⟨n, rfl⟩ : ∃ n : ℕ, k = -n := ⟨(-k).toNat, by omega⟩
    simp [fractionValue, Nat.pow_eq]

/-! ## The interval of a number -/

/-- The parts of a positive number. -/
def binaryOf (m : ℕ) (q : ℤ) : Binary := ⟨m, q, decide (m = 2 ^ 52 ∧ -1074 < q)⟩

/-- The two fractions of whole numbers that are compared, and the rationals that they stand for. -/
lemma fractions_le_iff {unit den pn pd d : ℕ} (hden : 0 < den) (hpd : 0 < pd) (a : ℚ) :
    (a * (unit / den : ℚ) ≤ d * (pn / pd) ↔ 4 * a * unit * pd ≤ 4 * d * pn * den) ∧
      (d * (pn / pd : ℚ) ≤ a * (unit / den) ↔ 4 * d * pn * den ≤ 4 * a * unit * pd) := by
  have hden : (0 : ℚ) < den := by exact_mod_cast hden
  have hpd : (0 : ℚ) < pd := by exact_mod_cast hpd
  rw [← mul_div_assoc, ← mul_div_assoc, div_le_div_iff₀ hden hpd, div_le_div_iff₀ hpd hden]
  constructor <;> constructor <;> intro h <;> linarith

lemma roundsTo_iff {m : ℕ} {q : ℤ} (hm : 0 < m) (d : ℕ) (k : ℤ) :
    roundsTo (binaryOf m q) d k = true ↔ RoundsTo m q (d * 10 ^ k) := by
  have htwo := fractionValue_ratioOf 1 q
  have hten := fractionValue_powerOfTen k
  have hden := ratioOf_pos 1 q
  obtain ⟨hpn, hpd⟩ := powerOfTen_pos k
  rw [roundsTo, binaryOf]
  generalize ratioOf 1 q = two at htwo hden ⊢
  generalize powerOfTen k = ten at hten hpn hpd ⊢
  obtain ⟨unit, den⟩ := two
  obtain ⟨pn, pd⟩ := ten
  simp only [fractionValue, Nat.cast_one, one_mul] at htwo hten hden hpn hpd ⊢
  -- the bounds of the interval, times four and over a common denominator, are integers
  have hlow : ((4 * m * unit - (if decide (m = 2 ^ 52 ∧ -1074 < q) = true then unit else 2 * unit) : ℕ) : ℚ)
      = 4 * (m - lowerGap m q) * unit := by
    have hunit : unit ≤ m * unit := Nat.le_mul_of_pos_left unit hm
    rw [lowerGap]
    by_cases hnarrow : m = 2 ^ 52 ∧ -1074 < q
    · rw [if_pos (by simpa using hnarrow), if_pos hnarrow, Nat.cast_sub (by linarith)]
      push_cast
      ring
    · rw [if_neg (by simpa using hnarrow), if_neg hnarrow, Nat.cast_sub (by linarith)]
      push_cast
      ring
  have hhigh : ((4 * m * unit + 2 * unit : ℕ) : ℚ) = 4 * (m + 1 / 2) * unit := by
    push_cast
    ring
  have hmul : ∀ n : ℕ, (4 * d * pn * den : ℕ) ≤ n * pd ↔ (4 * d * pn * den : ℚ) ≤ n * pd :=
    fun n => by exact_mod_cast Iff.rfl
  have hmul' : ∀ n : ℕ, n * pd ≤ (4 * d * pn * den : ℕ) ↔ (n * pd : ℚ) ≤ 4 * d * pn * den :=
    fun n => by exact_mod_cast Iff.rfl
  obtain ⟨hle, hge⟩ := fractions_le_iff hden hpd (m - lowerGap m q)
  obtain ⟨hle', hge'⟩ := fractions_le_iff hden hpd (m + 1 / 2 : ℚ)
  rw [htwo, hten, ← hlow, ← hmul'] at hle
  rw [htwo, hten, ← hlow, ← hmul] at hge
  rw [htwo, hten, ← hhigh, ← hmul'] at hle'
  rw [htwo, hten, ← hhigh, ← hmul] at hge'
  by_cases hpar : m % 2 = 0
  · rw [if_pos hpar, Bool.and_eq_true]
    constructor
    · rintro ⟨h1, h2⟩
      exact ⟨hle.mpr (of_decide_eq_true h1), hge'.mpr (of_decide_eq_true h2),
        fun hodd => absurd hodd (by omega)⟩
    · intro h
      exact ⟨decide_eq_true (hle.mp h.low), decide_eq_true (hge'.mp h.high)⟩
  · rw [if_neg hpar, Bool.and_eq_true]
    constructor
    · rintro ⟨h1, h2⟩
      have h1 := not_le.mp (mt hge.mp (not_le.mpr (of_decide_eq_true h1)))
      have h2 := not_le.mp (mt hle'.mp (not_le.mpr (of_decide_eq_true h2)))
      exact ⟨h1.le, h2.le, fun _ => ⟨h1, h2⟩⟩
    · intro h
      obtain ⟨h1, h2⟩ := h.odd (by omega)
      exact ⟨decide_eq_true (not_le.mp (mt hge.mpr (not_le.mpr h1))),
        decide_eq_true (not_le.mp (mt hle'.mpr (not_le.mpr h2)))⟩

/-! ## The search -/

/-- The power of ten that is found is not above the number. -/
lemma magnitudeFrom_le {num den : ℕ} (hden : 0 < den) (fuel : ℕ) (k : ℤ)
    (h : (10 : ℚ) ^ (k - fuel) ≤ num / den) :
    (10 : ℚ) ^ magnitudeFrom num den fuel k ≤ num / den := by
  fun_induction magnitudeFrom num den fuel k with
  | case1 k => simpa using h
  | case2 fuel k pn pd hten hle =>
    have hpd : 0 < pd := by simpa [hten] using (powerOfTen_pos k).2
    rw [← fractionValue_powerOfTen, hten, fractionValue,
      div_le_div_iff₀ (by exact_mod_cast hpd) (by exact_mod_cast hden)]
    exact_mod_cast hle
  | case3 fuel k pn pd hten hle ih =>
    refine ih ?_
    rw [show k - 1 - (fuel : ℤ) = k - (fuel + 1 : ℕ) by push_cast; ring]
    exact h

/-- The point of a grid that is next below a number. -/
def gridBelow (num den : ℕ) (k : ℤ) : ℕ := num * (powerOfTen k).2 / (den * (powerOfTen k).1)

/-- A search ends with a hit, if there is one on its way. -/
lemma roundsTo_shortestFrom (b : Binary) (num den : ℕ) (magnitude : ℤ) (n tried t : ℕ)
    (ht : tried ≤ t) (htn : t < tried + n)
    (hhit : roundsTo b (gridBelow num den (magnitude - t + 1)) (magnitude - t + 1) = true ∨
      roundsTo b (gridBelow num den (magnitude - t + 1) + 1) (magnitude - t + 1) = true) :
    roundsTo b (shortestFrom b num den magnitude n tried).digits
      (shortestFrom b num den magnitude n tried).exponent = true := by
  induction n generalizing tried with
  | zero => omega
  | succ n ih =>
    have hgrid (k : ℤ) :
        num * (powerOfTen k).2 / (den * (powerOfTen k).1) = gridBelow num den k := rfl
    rw [shortestFrom]
    simp only [hgrid]
    cases hlow : roundsTo b (gridBelow num den (magnitude - tried + 1)) (magnitude - tried + 1) with
    | true =>
      cases hhigh : roundsTo b (gridBelow num den (magnitude - tried + 1) + 1)
          (magnitude - tried + 1) with
      | true =>
        simp only [Bool.and_self, if_true]
        split
        · exact hlow
        · split
          · exact hhigh
          · split
            · exact hlow
            · exact hhigh
      | false => simpa using hlow
    | false =>
      cases hhigh : roundsTo b (gridBelow num den (magnitude - tried + 1) + 1)
          (magnitude - tried + 1) with
      | true => simpa using hhigh
      | false =>
        have hne : t ≠ tried := by
          rintro rfl
          simp [hlow, hhigh] at hhit
        simpa using ih (tried + 1) (by omega) (by omega)

/-- A number is between the point of a grid below it and the next one. -/
lemma gridBelow_bounds (num : ℕ) {den : ℕ} (hden : 0 < den) (k : ℤ) :
    (gridBelow num den k : ℚ) * 10 ^ k ≤ num / den ∧
      (num / den : ℚ) < ((gridBelow num den k + 1 : ℕ) : ℚ) * 10 ^ k := by
  obtain ⟨hpn, hpd⟩ := powerOfTen_pos k
  have hden : (den : ℚ) ≠ 0 := by exact_mod_cast hden.ne'
  have hpn : ((powerOfTen k).1 : ℚ) ≠ 0 := by exact_mod_cast hpn.ne'
  have hpd : ((powerOfTen k).2 : ℚ) ≠ 0 := by exact_mod_cast hpd.ne'
  have hfloor : gridBelow num den k = ⌊(num / den : ℚ) / 10 ^ k⌋₊ := by
    rw [gridBelow, ← Nat.floor_div_eq_div (K := ℚ), ← fractionValue_powerOfTen, fractionValue]
    congr 1
    push_cast
    field_simp
  have hten := ten_zpow_pos k
  rw [hfloor]
  constructor
  · rw [← le_div_iff₀ hten]
    exact Nat.floor_le (by positivity)
  · rw [← div_lt_iff₀ hten]
    exact_mod_cast Nat.lt_floor_add_one _

/-- A rational strictly within the interval of a number is rounded to it. -/
lemma RoundsTo.of_lt {m : ℕ} {q : ℤ} {r : ℚ} (hlow : (m - lowerGap m q) * 2 ^ q < r)
    (hhigh : r < (m + 1 / 2) * 2 ^ q) : RoundsTo m q r :=
  ⟨hlow.le, hhigh.le, fun _ => ⟨hlow, hhigh⟩⟩

/-- On a grid finer than the numbers, one of the two points next to a number is rounded to it.  Next
to a power of two the interval is narrow below, but there the grid is twice as fine. -/
lemma roundsTo_neighbour {m : ℕ} {q : ℤ} {below above step : ℚ} (hm : m < 2 ^ 53)
    (hstep : step * 10 ^ 16 ≤ m * 2 ^ q) (habove : above = below + step)
    (hbelow : below ≤ m * 2 ^ q) (hlt : m * 2 ^ q < above) :
    RoundsTo m q below ∨ RoundsTo m q above := by
  have hq := two_zpow_pos q
  have hm : (m : ℚ) * 2 ^ q ≤ 2 ^ 53 * 2 ^ q := by
    have : (m : ℚ) ≤ 2 ^ 53 := by exact_mod_cast hm.le
    exact mul_le_mul_of_nonneg_right this hq.le
  by_cases hnarrow : m = 2 ^ 52 ∧ -1074 < q
  · have hgap : lowerGap m q = 1 / 4 := if_pos hnarrow
    have hval : (m : ℚ) = 2 ^ 52 := by exact_mod_cast hnarrow.1
    rw [hval] at hstep hlt hbelow
    right
    refine .of_lt ?_ ?_
    · rw [hgap, hval]
      linarith
    · rw [hval]
      linarith
  · have hgap : lowerGap m q = 1 / 2 := if_neg hnarrow
    rcases le_total (m * 2 ^ q - below) (above - m * 2 ^ q) with hnear | hnear
    · left
      refine .of_lt ?_ ?_
      · rw [hgap]
        linarith
      · linarith
    · right
      refine .of_lt ?_ ?_
      · rw [hgap]
        linarith
      · linarith

lemma value_trimZeros (fuel : ℕ) (d : Decimal) :
    ((trimZeros fuel d).digits : ℚ) * 10 ^ (trimZeros fuel d).exponent =
      d.digits * 10 ^ d.exponent := by
  fun_induction trimZeros fuel d with
  | case1 d => rfl
  | case2 fuel d hzero ih =>
    have hdvd : 10 ∣ d.digits := by
      simp only [Bool.and_eq_true, decide_eq_true_eq] at hzero
      exact Nat.dvd_of_mod_eq_zero hzero.2
    rw [ih, Nat.cast_div hdvd (by norm_num), ten_zpow_add]
    push_cast
    ring
  | case3 fuel d hzero => rfl

/-- **The shortest decimal of a number is rounded to the number.** -/
lemma roundsTo_shortest {m : ℕ} {q : ℤ} (hlegal : Legal m q) :
    RoundsTo m q ((shortest (binaryOf m q)).digits * 10 ^ (shortest (binaryOf m q)).exponent) := by
  rw [shortest, value_trimZeros, ← roundsTo_iff hlegal.pos]
  have hden := ratioOf_pos m q
  have hval := fractionValue_ratioOf m q
  rw [binaryOf]
  generalize ratioOf m q = f at hden hval
  obtain ⟨num, den⟩ := f
  rw [fractionValue] at hval
  simp only at hden hval ⊢
  have hmag : (10 : ℚ) ^ magnitudeFrom num den 700 309 ≤ num / den := by
    refine magnitudeFrom_le hden 700 309 ?_
    rw [hval]
    have hsmall : (2 : ℚ) ^ (1173 : ℤ) ≤ 10 ^ (391 : ℤ) := two_zpow_le_ten_zpow (by decide)
    calc (10 : ℚ) ^ ((309 : ℤ) - (700 : ℕ)) = (10 ^ (391 : ℤ))⁻¹ := by rw [← zpow_neg]; rfl
      _ ≤ (2 ^ (1173 : ℤ))⁻¹ := inv_anti₀ (two_zpow_pos _) hsmall
      _ = 2 ^ (-1173 : ℤ) := (zpow_neg _ _).symm
      _ ≤ 2 ^ (-1075 : ℤ) := zpow_le_zpow_right₀ one_le_two (by decide)
      _ ≤ m * 2 ^ q := le_of_roundsTo hlegal (.self m q)
  generalize magnitudeFrom num den 700 309 = magnitude at hmag
  refine roundsTo_shortestFrom _ num den magnitude 17 1 17 (by decide) (by decide) ?_
  obtain ⟨hbelow, habove⟩ := gridBelow_bounds num hden (magnitude - (17 : ℕ) + 1)
  rw [hval] at hbelow habove hmag
  have hstep : (10 : ℚ) ^ (magnitude - (17 : ℕ) + 1) * 10 ^ 16 ≤ m * 2 ^ q := by
    rw [← zpow_natCast, ← ten_zpow_add]
    convert hmag using 2
    push_cast
    ring
  have hnext := roundsTo_neighbour hlegal.lt hstep (by push_cast; ring) hbelow habove
  rw [← roundsTo_iff hlegal.pos, ← roundsTo_iff hlegal.pos] at hnext
  exact hnext

/-- The parts that the text is made from are those of the number. -/
lemma ofBits_eq {b : BitVec 64} {s : Sign} {m : ℕ} {q : ℤ} {hm : 0 < m}
    (h : UnpackedFloat.unpack .binary64 b = .finite s m q hm) :
    Binary.ofBits (b.toNat % 2 ^ 63) = binaryOf m q := by
  have hfrac : b.toNat % 2 ^ 63 % 2 ^ 52 = b.toNat % 2 ^ 52 := by omega
  have hexp : b.toNat % 2 ^ 63 / 2 ^ 52 % 2 ^ 11 = b.toNat / 2 ^ 52 % 2 ^ 11 := by omega
  have hlt : b.toNat % 2 ^ 52 < 2 ^ 52 := Nat.mod_lt _ (by decide)
  simp only [Binary.ofBits, Nat.pow_eq, hfrac, hexp, binaryOf]
  obtain ⟨hzero, rfl, rfl⟩ | ⟨hlow, hhigh, rfl, rfl⟩ := unpack_finite h
  · rw [if_pos hzero]
    simp
  · have hnarrow : (b.toNat % 2 ^ 52 = 0 ∧ 1 < b.toNat / 2 ^ 52 % 2 ^ 11) ↔
        2 ^ 52 + b.toNat % 2 ^ 52 = 2 ^ 52 ∧
          (-1074 : ℤ) < ((b.toNat / 2 ^ 52 % 2 ^ 11 : ℕ) : ℤ) - 1075 := by omega
    rw [if_neg hlow.ne', Nat.add_comm, ← Bool.decide_and, decide_eq_decide.mpr hnarrow]

/-! ## The text of a number -/

/-- A sign changes the sign of a number, and nothing else. -/
lemma neg_ofModel_pack {m : ℕ} {q : ℤ} (h : Legal m q) :
    -Float.ofModel (Float.Model.pack (.finite .positive m q h.pos)) =
      Float.ofModel (Float.Model.pack (.finite .negative m q h.pos)) := by
  show Float.ofModel (Float.Model.pack (Float.Model.pack (.finite .positive m q h.pos)).unpack.neg) = _
  rw [unpack_pack .positive h]
  rfl

/-- A text is that of a decimal, perhaps behind a sign, and every decimal of the same value is read
as the number. -/
structure IsTextOf (text : String) (x : Float) (negative : Bool) (d : Decimal) : Prop where
  text : text = (if negative then "-" else "") ++ d.render (-4) 16
  /-- Zero is written as such. -/
  zero : d.digits = 0 → d.exponent = 0
  read : ∀ (digits : ℕ) (exponent : ℤ), (digits : ℚ) * 10 ^ exponent = d.digits * 10 ^ d.exponent →
    (if negative then -floatOf digits exponent else floatOf digits exponent) = x

section

variable {x : Float}

lemma isTextOf_zero {s : Sign} (hx : x.toModel.unpack = .zero s) (negative : Bool)
    (hs : s = if negative then .negative else .positive) :
    IsTextOf ((if negative then "-" else "") ++ "0.0") x negative ⟨0, 0⟩ := by
  refine ⟨?_, fun _ => rfl, fun digits exponent hval => ?_⟩
  · rw [show (⟨0, 0⟩ : Decimal).render (-4) 16 = "0.0" from rfl]
  · have hdigits : digits = 0 := by
      simpa [(ten_zpow_pos exponent).ne'] using hval
    rw [← ofModel_pack hx, hs, floatOf]
    simp only [hdigits, if_true]
    cases negative with
    | true => rfl
    | false => rfl

lemma isTextOf_finite {s : Sign} {m : ℕ} {q : ℤ} {hm : 0 < m}
    (hx : x.toModel.unpack = .finite s m q hm) (negative : Bool)
    (hs : s = if negative then .negative else .positive) :
    IsTextOf ((if negative then "-" else "") ++ (shortest (binaryOf m q)).render (-4) 16) x negative
      (shortest (binaryOf m q)) := by
  have hlegal : Legal m q := legal_of_unpack hx
  have hround := roundsTo_shortest hlegal
  refine ⟨rfl, fun hzero => ?_, fun digits exponent hval => ?_⟩
  · have hpos := le_of_roundsTo hlegal hround
    rw [hzero, Nat.cast_zero, zero_mul] at hpos
    exact absurd hpos (not_le.mpr (two_zpow_pos _))
  · rw [← hval] at hround
    rw [floatOf_eq (unpack_pack .positive hlegal) hround, ← ofModel_pack hx, hs]
    cases negative with
    | true => exact neg_ofModel_pack hlegal
    | false => rfl

/-- **The text of a number that is neither infinite nor undefined is read as the number.** -/
theorem isTextOf_floatText (hnan : x.isNaN = false) (hinf : x.isInf = false) :
    ∃ negative d, IsTextOf (floatText x) x negative d := by
  let b := x.toModel.toBits.toBitVec
  let negative := decide (2 ^ 63 ≤ b.toNat)
  have hsign : signOf b = if negative then .negative else .positive := by
    rw [signOf_eq b]
    simp only [negative, decide_eq_true_eq]
  have htext : floatText x = (if negative then "-" else "") ++ (if b.toNat % 2 ^ 63 = 0 then "0.0"
      else (shortest (Binary.ofBits (b.toNat % 2 ^ 63))).render (-4) 16) := by
    have hbits : x.toBits.toNat = b.toNat := rfl
    rw [floatText, hnan, hinf, hbits]
    simp only [Bool.false_eq_true, if_false, negative, decide_eq_true_eq, Nat.pow_eq]
    split <;> rfl
  have hfinite {m : ℕ} {q : ℤ} {hm : 0 < m}
      (h : UnpackedFloat.unpack .binary64 b = .finite (signOf b) m q hm) :
      ∃ negative d, IsTextOf (floatText x) x negative d := by
    have hparts := ofBits_eq h
    have hne : b.toNat % 2 ^ 63 ≠ 0 := by
      intro hzero
      rw [hzero] at hparts
      exact hm.ne (congrArg Binary.mantissa hparts)
    rw [htext, if_neg hne, hparts]
    exact ⟨negative, _, isTextOf_finite h negative hsign⟩
  rcases unpack_cases b with ⟨-, -, h⟩ | ⟨-, -, h⟩ | ⟨hexp, hfrac, h⟩ | ⟨-, _, h⟩ | ⟨-, -, _, h⟩
  · have : x.isInf = true := congrArg UnpackedFloat.isInf h
    rw [this] at hinf
    cases hinf
  · have : x.isNaN = true := congrArg UnpackedFloat.isNaN h
    rw [this] at hnan
    cases hnan
  · have hzero : b.toNat % 2 ^ 63 = 0 := by omega
    rw [htext, if_pos hzero]
    exact ⟨negative, _, isTextOf_zero h negative hsign⟩
  · exact hfinite h
  · exact hfinite h

end

end QualityGate.Number
