/-
# Rounding to floating-point numbers

A positive floating-point number is `m * 2 ^ q`, where `m` has 53 binary digits, or fewer if `q` is
least (`Legal`).  The rationals that are rounded to it form an interval around it, to which its ends
belong exactly if `m` is even (`RoundsTo`).

Rounding shifts the digits of a rational to the right and keeps of those that fall off only whether
the first is set and whether any other is (`Represents`).  Whatever is in the interval of a number is
rounded to that number (`roundWithAccuracy_eq`), and so quotients and products are
(`div_eq`, `mul_eq`).
-/
import Mathlib

namespace QualityGate.Number

open Float.Model
open Float.Model.UnpackedFloat

/-! ## Digits that fall off -/

/-- A mantissa, the first digit behind it and whether any digit follows that one stand for a
rational. -/
structure Represents (em : ExtendedMantissa) (t : ℚ) : Prop where
  le : em.mantissa ≤ t
  lt : t < em.mantissa + 1
  round : em.roundBit = true ↔ em.mantissa + 1 / 2 ≤ t
  sticky : em.stickyBit = false ↔ t = em.mantissa ∨ t = em.mantissa + 1 / 2

namespace Represents

variable {em : ExtendedMantissa} {t : ℚ}

lemma exact (m : ℕ) : Represents (.ofMantissaAndAccuracy m .exact) m := by
  constructor <;> simp [ExtendedMantissa.ofMantissaAndAccuracy]

lemma shiftRightOne (h : Represents em t) : Represents em.shiftRightOne (t / 2) := by
  obtain ⟨m, r, s⟩ := em
  obtain ⟨hle, hlt, hround, hsticky⟩ := h
  simp only at hle hlt hround hsticky
  have hm : ((m % 2 : ℕ) : ℚ) + 2 * ((m / 2 : ℕ) : ℚ) = m := by exact_mod_cast Nat.mod_add_div m 2
  have hfalse : (r || s) = false ↔ t = m := by
    rw [Bool.or_eq_false_iff, hsticky, ← Bool.not_eq_true, hround, not_le]
    constructor
    · rintro ⟨hhalf, rfl | rfl⟩
      · rfl
      · exact absurd hhalf (lt_irrefl _)
    · rintro rfl
      exact ⟨by linarith, .inl rfl⟩
  rcases Nat.mod_two_eq_zero_or_one m with hpar | hpar <;> rw [hpar] at hm <;> push_cast at hm
  · refine ⟨?_, ?_, ?_, ?_⟩ <;> simp only [ExtendedMantissa.shiftRightOne]
    · linarith
    · linarith
    · simp only [hpar, bne_self_eq_false, Bool.false_eq_true, false_iff, not_le]
      linarith
    · rw [hfalse]
      refine ⟨fun ht => .inl (by linarith), ?_⟩
      rintro (ht | ht) <;> linarith
  · refine ⟨?_, ?_, ?_, ?_⟩ <;> simp only [ExtendedMantissa.shiftRightOne]
    · linarith
    · linarith
    · simp only [hpar, Nat.reduceBNe, true_iff]
      linarith
    · rw [hfalse]
      refine ⟨fun ht => .inr (by linarith), ?_⟩
      rintro (ht | ht) <;> linarith

/-- Digits that are shifted to the right fall off without a loss. -/
lemma shiftRight (h : Represents em t) (n : ℕ) : Represents (em >>> n) (t / 2 ^ n) := by
  show Represents (n.repeat ExtendedMantissa.shiftRightOne em) _
  induction n with
  | zero => simpa [Nat.repeat] using h
  | succ n ih =>
    rw [Nat.repeat, pow_succ, ← div_div]
    exact ih.shiftRightOne

/-- The mantissa is rounded to the nearest whole number, and between two of them to the even one. -/
lemma roundedMantissa_eq (h : Represents em t) {n : ℕ} (hlow : n - 1 / 2 ≤ t) (hhigh : t ≤ n + 1 / 2)
    (hodd : n % 2 = 1 → n - 1 / 2 < t ∧ t < n + 1 / 2) : em.roundedMantissa = n := by
  obtain ⟨m, r, s⟩ := em
  obtain ⟨hle, hlt, hround, hsticky⟩ := h
  simp only at hle hlt hround hsticky
  cases r with
  | false =>
    -- the rest is less than one half
    have hhalf : t < m + 1 / 2 := by simpa using hround
    have h1 : n < m + 1 := by exact_mod_cast (by linarith : (n : ℚ) < m + 1)
    have h2 : m < n + 1 := by exact_mod_cast (by linarith : (m : ℚ) < n + 1)
    have hm : m = n := by omega
    cases s <;> exact hm
  | true =>
    have hhalf : m + 1 / 2 ≤ t := by simpa using hround
    cases s with
    | true =>
      have hne : t ≠ m + 1 / 2 := fun ht => by simpa using hsticky.mpr (.inr ht)
      have hgt : m + 1 / 2 < t := lt_of_le_of_ne hhalf hne.symm
      have h1 : n < m + 2 := by exact_mod_cast (by linarith : (n : ℚ) < m + 2)
      have h2 : m < n := by exact_mod_cast (by linarith : (m : ℚ) < n)
      show m + 1 = n
      omega
    | false =>
      obtain rfl : t = m + 1 / 2 := by
        rcases hsticky.mp rfl with ht | ht
        · linarith
        · exact ht
      have h1 : n < m + 2 := by exact_mod_cast (by linarith : (n : ℚ) < m + 2)
      have h2 : m < n + 1 := by exact_mod_cast (by linarith : (m : ℚ) < n + 1)
      have heven : n % 2 = 0 := by
        by_contra hne
        obtain ⟨h3, h4⟩ := hodd (by omega)
        have h5 : n < m + 1 := by exact_mod_cast (by linarith : (n : ℚ) < m + 1)
        have h6 : m < n := by exact_mod_cast (by linarith : (m : ℚ) < n)
        omega
      show m + m % 2 = n
      omega

/-- The digits of a quotient are those before and behind the point. -/
lemma div (num : ℕ) {den : ℕ} (hden : 0 < den) :
    Represents (.ofMantissaAndAccuracy (num / den) (accuracyOfFraction (num % den) den))
      (num / den : ℚ) := by
  have hpos : (0 : ℚ) < den := by exact_mod_cast hden
  have hval : (num / den : ℚ) = (num / den : ℕ) + (num % den : ℕ) / den := by
    rw [eq_comm, ← mul_right_inj' hpos.ne', mul_add, mul_div_cancel₀ _ hpos.ne',
      mul_div_cancel₀ _ hpos.ne']
    exact_mod_cast Nat.div_add_mod num den
  have hrem : num % den < den := Nat.mod_lt _ hden
  rw [hval]
  generalize num / den = m
  generalize num % den = rem at hrem ⊢
  have hlt : (rem / den : ℚ) < 1 := (div_lt_one hpos).mpr (by exact_mod_cast hrem)
  rw [accuracyOfFraction]
  by_cases hzero : rem = 0
  · rw [if_pos hzero, hzero, Nat.cast_zero, zero_div, add_zero]
    exact exact m
  · have hgt : (0 : ℚ) < rem / den := div_pos (by exact_mod_cast Nat.pos_of_ne_zero hzero) hpos
    rw [if_neg hzero]
    cases hcmp : compare (2 * rem) den with
    | lt =>
      have hhalf : (rem / den : ℚ) < 1 / 2 := by
        rw [div_lt_div_iff₀ hpos two_pos]
        exact_mod_cast (by have := Nat.compare_eq_lt.mp hcmp; omega : rem * 2 < 1 * den)
      refine ⟨?_, ?_, ?_, ?_⟩ <;> simp only [ExtendedMantissa.ofMantissaAndAccuracy]
      · linarith
      · linarith
      · exact iff_of_false (by simp) (by linarith)
      · exact iff_of_false (by simp) (by rintro (h | h) <;> linarith)
    | eq =>
      have hhalf : (rem / den : ℚ) = 1 / 2 := by
        rw [div_eq_div_iff hpos.ne' two_ne_zero]
        exact_mod_cast (by have := Nat.compare_eq_eq.mp hcmp; omega : rem * 2 = 1 * den)
      rw [hhalf]
      refine ⟨?_, ?_, ?_, ?_⟩ <;> simp only [ExtendedMantissa.ofMantissaAndAccuracy]
      · linarith
      · linarith
      · exact iff_of_true trivial le_rfl
      · exact iff_of_true trivial (.inr trivial)
    | gt =>
      have hhalf : (1 / 2 : ℚ) < rem / den := by
        rw [div_lt_div_iff₀ two_pos hpos]
        exact_mod_cast (by have := Nat.compare_eq_gt.mp hcmp; omega : 1 * den < rem * 2)
      refine ⟨?_, ?_, ?_, ?_⟩ <;> simp only [ExtendedMantissa.ofMantissaAndAccuracy]
      · linarith
      · linarith
      · exact iff_of_true trivial (by linarith)
      · exact iff_of_false (by simp) (by rintro (h | h) <;> linarith)

end Represents

/-! ## Numbers and the rationals that are rounded to them -/

/-- The mantissa and the exponent of a positive floating-point number. -/
structure Legal (m : ℕ) (q : ℤ) : Prop where
  pos : 0 < m
  lt : m < 2 ^ 53
  low : -1074 ≤ q
  high : q ≤ 971
  full : 2 ^ 52 ≤ m ∨ q = -1074

/-- How far below a number the rationals that are rounded to it go, in units of its last digit.  Below
a power of two the numbers are closer to each other. -/
def lowerGap (m : ℕ) (q : ℤ) : ℚ := if m = 2 ^ 52 ∧ -1074 < q then 1 / 4 else 1 / 2

/-- A rational is rounded to `m * 2 ^ q`. -/
structure RoundsTo (m : ℕ) (q : ℤ) (r : ℚ) : Prop where
  low : (m - lowerGap m q) * 2 ^ q ≤ r
  high : r ≤ (m + 1 / 2) * 2 ^ q
  odd : m % 2 = 1 → (m - lowerGap m q) * 2 ^ q < r ∧ r < (m + 1 / 2) * 2 ^ q

/-- The exponent that the format asks for. -/
lemma targetExponent_eq (e : ℤ) : Format.binary64.targetExponent e = max (e - 53) (-1074) := by
  simp [Format.targetExponent, Format.mantissaBits, Format.minExponent]

lemma Legal.targetExponent {m : ℕ} {q : ℤ} (h : Legal m q) :
    Format.binary64.targetExponent (totalExponent m q) = q := by
  have hlt : m.log2 < 53 := (Nat.log2_lt h.pos.ne').mpr h.lt
  have hlow := h.low
  rw [targetExponent_eq, totalExponent]
  rcases h.full with hfull | rfl
  · have hge : 52 ≤ m.log2 := (Nat.le_log2 h.pos.ne').mpr hfull
    omega
  · omega

section

variable {M m : ℕ} {e q : ℤ} {acc : Accuracy} {r : ℚ}

lemma two_zpow_lt {a b : ℤ} (h : (2 : ℚ) ^ a < 2 ^ b) : a < b :=
  (zpow_lt_zpow_iff_right₀ one_lt_two).mp h

lemma two_zpow_add (a b : ℤ) : (2 : ℚ) ^ (a + b) = 2 ^ a * 2 ^ b := zpow_add₀ two_ne_zero a b

lemma two_zpow_pos (a : ℤ) : (0 : ℚ) < 2 ^ a := zpow_pos two_pos a

lemma lowerGap_le : lowerGap m q ≤ 1 / 2 := by
  rw [lowerGap]
  split <;> norm_num

/-- Digits at an exponent represent the rational if they stand for it. -/
lemma mul_le_of_represents (h : Represents (.ofMantissaAndAccuracy M acc) (r / 2 ^ e)) :
    M * (2 : ℚ) ^ e ≤ r ∧ r < (M + 1) * (2 : ℚ) ^ e := by
  have hmantissa : (ExtendedMantissa.ofMantissaAndAccuracy M acc).mantissa = M := by
    cases acc with
    | exact => rfl
    | inexact o => cases o <;> rfl
  obtain ⟨hle, hlt, -, -⟩ := h
  rw [hmantissa] at hle hlt
  exact ⟨(le_div_iff₀ (two_zpow_pos e)).mp hle, (div_lt_iff₀ (two_zpow_pos e)).mp hlt⟩

/-- A rational that is rounded to a number is shifted to the exponent of the number, or to the one
below if it is just below a power of two. -/
lemma targetExponent_of_roundsTo (hlegal : Legal m q) (hr : RoundsTo m q r)
    (hrep : Represents (.ofMantissaAndAccuracy M acc) (r / 2 ^ e))
    (he : e ≤ Format.binary64.targetExponent (totalExponent M e)) :
    Format.binary64.targetExponent (totalExponent M e) = q ∨
      Format.binary64.targetExponent (totalExponent M e) = q - 1 ∧ m = 2 ^ 52 ∧ -1074 < q ∧
        r < 2 ^ 53 * 2 ^ (q - 1) := by
  obtain ⟨hge, hlt⟩ := mul_le_of_represents hrep
  rw [targetExponent_eq, totalExponent] at *
  -- the first digit of the rational stands at the position that the mantissa says
  have hbelow : r < 2 ^ (M.log2 + 1 + e : ℤ) := by
    have hM : (M + 1 : ℚ) ≤ 2 ^ (M.log2 + 1 : ℤ) := by exact_mod_cast Nat.lt_log2_self (n := M)
    rw [two_zpow_add]
    exact hlt.trans_le (mul_le_mul_of_nonneg_right hM (two_zpow_pos e).le)
  have habove : M ≠ 0 → (2 : ℚ) ^ (M.log2 + e : ℤ) ≤ r := by
    intro hM
    have hM : (2 : ℚ) ^ (M.log2 : ℤ) ≤ M := by exact_mod_cast Nat.log2_self_le hM
    rw [two_zpow_add]
    exact (mul_le_mul_of_nonneg_right hM (two_zpow_pos e).le).trans hge
  have hlow := hlegal.low
  have hq := two_zpow_pos q
  have hle : max (M.log2 + 1 + e - 53) (-1074) ≤ q := by
    by_contra hgt
    have hM : M ≠ 0 := by
      rintro rfl
      rw [Nat.log2_zero] at *
      omega
    have hm : (m + 1 / 2 : ℚ) < 2 ^ (53 : ℤ) := by
      have : (m + 1 : ℚ) ≤ 2 ^ (53 : ℤ) := by exact_mod_cast hlegal.lt
      linarith
    have hexp : (2 : ℚ) ^ (M.log2 + e : ℤ) < 2 ^ (53 + q) := by
      rw [two_zpow_add 53]
      exact ((habove hM).trans hr.high).trans_lt (mul_lt_mul_of_pos_right hm hq)
    have := two_zpow_lt hexp
    omega
  rcases hle.eq_or_lt with heq | hless
  · exact .inl heq
  · have hnormal : -1074 < q := by omega
    have hfull : 2 ^ 52 ≤ m := hlegal.full.resolve_right hnormal.ne'
    have hbelow' : r < 2 ^ (max (M.log2 + 1 + e - 53) (-1074) + 53) :=
      hbelow.trans_le (zpow_le_zpow_right₀ one_le_two (by omega))
    generalize max (M.log2 + 1 + e - 53 : ℤ) (-1074) = E at hless hbelow' ⊢
    have hm : m = 2 ^ 52 := by
      by_contra hne
      have hm : (2 ^ 52 + 1 : ℚ) ≤ m := by exact_mod_cast (by omega : 2 ^ 52 + 1 ≤ m)
      have hgap := lowerGap_le (m := m) (q := q)
      have hexp : (2 : ℚ) ^ (52 + q) < 2 ^ (E + 53) := by
        rw [two_zpow_add 52]
        refine lt_of_lt_of_le ?_ (hr.low.trans hbelow'.le)
        refine mul_lt_mul_of_pos_right ?_ hq
        rw [zpow_ofNat]
        linarith
      have := two_zpow_lt hexp
      omega
    have hgap : lowerGap m q = 1 / 4 := if_pos ⟨hm, hnormal⟩
    have hexp : (2 : ℚ) ^ (51 + q) < 2 ^ (E + 53) := by
      rw [two_zpow_add 51]
      refine lt_of_lt_of_le ?_ (hr.low.trans hbelow'.le)
      refine mul_lt_mul_of_pos_right ?_ hq
      rw [hgap, hm]
      norm_num
    have hE : E = q - 1 := by
      have := two_zpow_lt hexp
      omega
    refine .inr ⟨hE, hm, hnormal, ?_⟩
    rw [hE, two_zpow_add, mul_comm] at hbelow'
    exact_mod_cast hbelow'

/-- The two shifts of rounding, and the rounding between them. -/
lemma roundWithAccuracy_of_shifts (s : Sign) {n : ℕ} {E : ℤ} {em em' : ExtendedMantissa}
    (hfirst : shiftToTargetExponent .binary64 M e acc = (em, E)) (hround : em.roundedMantissa = n)
    (hsecond : shiftToTargetExponent .binary64 n E .exact = (em', q)) (hm : em'.mantissa = m)
    (hpos : 0 < m) : roundWithAccuracy .binary64 s M e acc = .finite s m q hpos := by
  subst hround hm
  simp only [roundWithAccuracy, hfirst, hsecond]
  rw [dif_neg hpos.ne']

lemma shiftToTargetExponent_eq {E : ℤ}
    (hE : Format.binary64.targetExponent (totalExponent M e) = E) (he : e ≤ E) :
    shiftToTargetExponent .binary64 M e acc =
      (ExtendedMantissa.ofMantissaAndAccuracy M acc >>> (E - e).toNat, E) := by
  simp only [shiftToTargetExponent, hE, shiftToExponent]
  rw [Int.toNat_of_nonneg (by omega), add_sub_cancel]

/-- What is in the interval of a number is rounded to that number. -/
lemma roundWithAccuracy_eq (s : Sign) (hlegal : Legal m q) (hr : RoundsTo m q r)
    (hrep : Represents (.ofMantissaAndAccuracy M acc) (r / 2 ^ e))
    (he : e ≤ Format.binary64.targetExponent (totalExponent M e)) :
    roundWithAccuracy .binary64 s M e acc = .finite s m q hlegal.pos := by
  have hshift : ∀ E, Format.binary64.targetExponent (totalExponent M e) = E →
      Represents (ExtendedMantissa.ofMantissaAndAccuracy M acc >>> (E - e).toNat) (r / 2 ^ E) := by
    rintro E rfl
    have h := hrep.shiftRight (Format.binary64.targetExponent (totalExponent M e) - e).toNat
    rw [div_div, ← zpow_natCast, ← two_zpow_add, Int.toNat_of_nonneg (by omega),
      add_sub_cancel] at h
    exact h
  rcases targetExponent_of_roundsTo hlegal hr hrep he with hE | ⟨hE, hm, hnormal, hlt⟩
  · have hq := two_zpow_pos q
    have hgap := lowerGap_le (m := m) (q := q)
    have hround : (ExtendedMantissa.ofMantissaAndAccuracy M acc >>> (q - e).toNat).roundedMantissa
        = m := by
      refine (hshift q hE).roundedMantissa_eq ?_ ?_ fun hodd => ?_
      · rw [le_div_iff₀ hq]
        exact (mul_le_mul_of_nonneg_right (by linarith) hq.le).trans hr.low
      · exact (div_le_iff₀ hq).mpr hr.high
      · rw [lt_div_iff₀ hq, div_lt_iff₀ hq]
        exact ⟨(mul_le_mul_of_nonneg_right (by linarith) hq.le).trans_lt (hr.odd hodd).1,
          (hr.odd hodd).2⟩
    refine roundWithAccuracy_of_shifts s (shiftToTargetExponent_eq hE (hE ▸ he)) hround
      (shiftToTargetExponent_eq hlegal.targetExponent le_rfl) ?_ hlegal.pos
    rw [sub_self]
    rfl
  · -- the mantissa is rounded up to the power of two and shifted once more
    have hq := two_zpow_pos (q - 1)
    have hlow : ((2 ^ 53 : ℕ) - 1 / 2) * (2 : ℚ) ^ (q - 1) ≤ r := by
      have hgap : lowerGap m q = 1 / 4 := if_pos ⟨hm, hnormal⟩
      have htwo : (2 : ℚ) ^ q = 2 ^ (q - 1) * 2 := by
        rw [← zpow_add_one₀ two_ne_zero, sub_add_cancel]
      have h := hr.low
      rw [hgap, hm, htwo] at h
      push_cast at h ⊢
      linarith
    have hround :
        (ExtendedMantissa.ofMantissaAndAccuracy M acc >>> (q - 1 - e).toNat).roundedMantissa
          = 2 ^ 53 := by
      refine (hshift (q - 1) hE).roundedMantissa_eq ?_ ?_ fun hodd => ?_
      · exact (le_div_iff₀ hq).mpr hlow
      · rw [div_le_iff₀ hq]
        push_cast
        linarith
      · exact absurd hodd (by decide)
    have hE' : Format.binary64.targetExponent (totalExponent (2 ^ 53) (q - 1)) = q := by
      rw [targetExponent_eq, totalExponent, Nat.log2_two_pow]
      push_cast
      omega
    refine roundWithAccuracy_of_shifts s (shiftToTargetExponent_eq hE (hE ▸ he)) hround
      (shiftToTargetExponent_eq hE' (by omega)) ?_ hlegal.pos
    rw [show (q - (q - 1)).toNat = 1 by omega, hm]
    rfl

/-! ## Products and quotients -/

variable {m₁ m₂ : ℕ} {e₁ e₂ : ℤ}

/-- A product is rounded, if its mantissa is not too short. -/
lemma mul_eq (hlegal : Legal m q) (h₁ : 0 < m₁) (h₂ : 0 < m₂) (hlong : 2 ^ 52 ≤ m₁)
    (hr : RoundsTo m q (m₁ * 2 ^ e₁ * (m₂ * 2 ^ e₂))) :
    mul .binary64 (.finite .positive m₁ e₁ h₁) (.finite .positive m₂ e₂ h₂) =
      .finite .positive m q hlegal.pos := by
  show roundWithAccuracy .binary64 .positive (m₁ * m₂) (e₁ + e₂) .exact = _
  refine roundWithAccuracy_eq .positive hlegal hr ?_ ?_
  · have hval : (m₁ * 2 ^ e₁ * (m₂ * 2 ^ e₂) / 2 ^ (e₁ + e₂) : ℚ) = (m₁ * m₂ : ℕ) := by
      rw [div_eq_iff (two_zpow_pos _).ne', two_zpow_add]
      push_cast
      ring
    rw [hval]
    exact .exact _
  · have hlog : 52 ≤ (m₁ * m₂).log2 :=
      (Nat.le_log2 (Nat.mul_pos h₁ h₂).ne').mpr (hlong.trans (Nat.le_mul_of_pos_right _ h₂))
    rw [targetExponent_eq, totalExponent]
    omega

lemma log2_shiftLeft {a : ℕ} (ha : 0 < a) (n : ℕ) : (a <<< n).log2 = a.log2 + n := by
  rw [Nat.shiftLeft_eq]
  induction n with
  | zero => simp
  | succ n ih =>
    rw [pow_succ, ← mul_assoc, mul_comm, Nat.log2_two_mul (by positivity), ih, Nat.add_assoc]

/-- A quotient of whole numbers has at least as many digits as the difference of theirs, or one
less. -/
lemma le_log2_div {a b : ℕ} (ha : 0 < a) (hb : 0 < b) :
    (a.log2 : ℤ) - b.log2 - 1 ≤ (a / b).log2 := by
  by_cases hle : a.log2 ≤ b.log2
  · omega
  · have hpow : 2 ^ (a.log2 - b.log2 - 1) * b ≤ a := by
      calc 2 ^ (a.log2 - b.log2 - 1) * b
          ≤ 2 ^ (a.log2 - b.log2 - 1) * 2 ^ (b.log2 + 1) :=
            Nat.mul_le_mul_left _ Nat.lt_log2_self.le
        _ = 2 ^ a.log2 := by rw [← pow_add]; congr 1; omega
        _ ≤ a := Nat.log2_self_le ha.ne'
    have hdiv := (Nat.le_div_iff_mul_le hb).mpr hpow
    have hlog := (Nat.le_log2 ((Nat.two_pow_pos _).trans_le hdiv).ne').mpr hdiv
    omega

/-- A quotient is rounded. -/
lemma div_eq (hlegal : Legal m q) (h₁ : 0 < m₁) (h₂ : 0 < m₂)
    (hr : RoundsTo m q (m₁ * 2 ^ e₁ / (m₂ * 2 ^ e₂))) :
    div .binary64 (.finite .positive m₁ e₁ h₁) (.finite .positive m₂ e₂ h₂) =
      .finite .positive m q hlegal.pos := by
  let E := min (e₁ - e₂) (Format.binary64.targetExponent (totalExponent m₁ e₁ - totalExponent m₂ e₂))
  let n := (e₁ - e₂ - E).toNat
  show roundWithAccuracy .binary64 .positive ((m₁ <<< n) / m₂) E
    (accuracyOfFraction ((m₁ <<< n) % m₂) m₂) = _
  have hn : (n : ℤ) = e₁ - e₂ - E := Int.toNat_of_nonneg (by omega)
  refine roundWithAccuracy_eq .positive hlegal hr ?_ ?_
  · have hm₂ : (m₂ : ℚ) ≠ 0 := by exact_mod_cast h₂.ne'
    have hval : (m₁ * 2 ^ e₁ / (m₂ * 2 ^ e₂) / 2 ^ E : ℚ) = (m₁ <<< n : ℕ) / m₂ := by
      have hexp : (2 : ℚ) ^ e₁ = 2 ^ n * 2 ^ e₂ * 2 ^ E := by
        rw [← zpow_natCast, ← two_zpow_add, ← two_zpow_add, hn]
        congr 1
        omega
      rw [Nat.shiftLeft_eq, hexp]
      have := two_zpow_pos e₂
      have := two_zpow_pos E
      push_cast
      field_simp
    rw [hval]
    exact .div _ h₂
  · have hlog := le_log2_div (a := m₁ <<< n) (b := m₂) (by rw [Nat.shiftLeft_eq]; positivity) h₂
    have hshift := log2_shiftLeft h₁ n
    have hE : E ≤ Format.binary64.targetExponent (totalExponent m₁ e₁ - totalExponent m₂ e₂) :=
      min_le_right _ _
    rw [targetExponent_eq] at hE ⊢
    simp only [totalExponent] at hE ⊢
    omega

end

end QualityGate.Number
