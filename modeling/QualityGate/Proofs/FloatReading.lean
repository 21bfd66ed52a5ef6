/-
# Reading decimals as floating-point numbers

The bit pattern of a floating-point number is taken apart into its sign, its mantissa and its exponent
(`unpack_cases`), and put together again from them (`pack_unpack`, `unpack_pack`).

A decimal is read by one product or one quotient, each rounded once.  So a decimal in the interval
of a number is read as that number (`floatOf_eq`), however it is written.
-/
import Mathlib
import QualityGate.Number.Shortest
import QualityGate.Proofs.FloatRounding

namespace QualityGate.Number

open Float.Model
open Float.Model.UnpackedFloat

/-! ## Bit patterns -/

section

variable (s : Sign) (b : BitVec 64) (e : BitVec 11) (m : BitVec 52)

lemma toNat_unpackMantissa : (@unpackMantissa .binary64 b).toNat = b.toNat % 2 ^ 52 := by
  simp [unpackMantissa]

lemma toNat_unpackExponent : (@unpackExponent .binary64 b).toNat = b.toNat / 2 ^ 52 % 2 ^ 11 := by
  simp [unpackExponent, Nat.shiftRight_eq_div_pow]

lemma toNat_unpackSign : (@unpackSign .binary64 b).toNat = b.toNat / 2 ^ 63 := by
  simp only [unpackSign, BitVec.toNat_cast, BitVec.extractLsb_toNat, Nat.shiftRight_eq_div_pow]
  have := b.isLt
  omega

lemma toNat_packComponents : (packComponents .binary64 s e m).toNat =
    s.toBitVec.toNat * 2 ^ 63 + e.toNat * 2 ^ 52 + m.toNat := by
  have he := e.isLt
  have hm := m.isLt
  rw [packComponents, BitVec.toNat_append, BitVec.toNat_append, ← Nat.shiftLeft_add_eq_or_of_lt he,
    ← Nat.shiftLeft_add_eq_or_of_lt hm, Nat.shiftLeft_eq, Nat.shiftLeft_eq]
  show (_ * 2 ^ 11 + _) * 2 ^ 52 + _ = _
  ring

lemma toNat_toBitVec_ofBitVec (c : BitVec 1) : (Sign.ofBitVec c).toBitVec.toNat = c.toNat := by
  revert c
  decide

/-- A bit pattern is put together from its parts. -/
lemma packComponents_unpack : packComponents .binary64 (.ofBitVec (@unpackSign .binary64 b))
    (@unpackExponent .binary64 b) (@unpackMantissa .binary64 b) = b := by
  apply BitVec.eq_of_toNat_eq
  have h := toNat_packComponents (.ofBitVec (@unpackSign .binary64 b))
    (@unpackExponent .binary64 b) (@unpackMantissa .binary64 b)
  rw [toNat_unpackMantissa, toNat_unpackExponent, toNat_toBitVec_ofBitVec, toNat_unpackSign] at h
  have hb := b.isLt
  rw [h]
  omega

lemma toNat_implicit : (1#1 ++ m).toNat = 2 ^ 52 + m.toNat := by
  rw [BitVec.toNat_append, ← Nat.shiftLeft_add_eq_or_of_lt m.isLt]
  rfl

end

/-- The sign of a bit pattern. -/
def signOf (b : BitVec 64) : Sign := .ofBitVec (@unpackSign .binary64 b)

lemma signOf_eq (b : BitVec 64) : signOf b = if 2 ^ 63 ≤ b.toNat then .negative else .positive := by
  have h := toNat_unpackSign b
  have hb := b.isLt
  rw [signOf, Sign.ofBitVec]
  by_cases hle : 2 ^ 63 ≤ b.toNat
  · rw [if_pos hle, if_neg]
    rintro hzero
    rw [hzero, BitVec.toNat_ofNat] at h
    omega
  · rw [if_neg hle, if_pos]
    rw [← BitVec.toNat_inj, h, BitVec.toNat_ofNat]
    omega

lemma unpackExponent_eq_iff (b : BitVec 64) (n : ℕ) (hn : n < 2 ^ 11) :
    @unpackExponent .binary64 b = BitVec.ofNat 11 n ↔ b.toNat / 2 ^ 52 % 2 ^ 11 = n := by
  rw [← BitVec.toNat_inj, toNat_unpackExponent, BitVec.toNat_ofNat, Nat.mod_eq_of_lt hn]

lemma unpackMantissa_eq_iff (b : BitVec 64) :
    @unpackMantissa .binary64 b = 0#52 ↔ b.toNat % 2 ^ 52 = 0 := by
  rw [← BitVec.toNat_inj, toNat_unpackMantissa, BitVec.toNat_ofNat, Nat.zero_mod]

/-- What a bit pattern stands for, by its parts. -/
lemma unpack_cases (b : BitVec 64) :
    (b.toNat / 2 ^ 52 % 2 ^ 11 = 2047 ∧ b.toNat % 2 ^ 52 = 0 ∧
      UnpackedFloat.unpack .binary64 b = .infinity (signOf b)) ∨
    (b.toNat / 2 ^ 52 % 2 ^ 11 = 2047 ∧ b.toNat % 2 ^ 52 ≠ 0 ∧ UnpackedFloat.unpack .binary64 b = .notANumber) ∨
    (b.toNat / 2 ^ 52 % 2 ^ 11 = 0 ∧ b.toNat % 2 ^ 52 = 0 ∧ UnpackedFloat.unpack .binary64 b = .zero (signOf b)) ∨
    (b.toNat / 2 ^ 52 % 2 ^ 11 = 0 ∧ ∃ h,
      UnpackedFloat.unpack .binary64 b = .finite (signOf b) (b.toNat % 2 ^ 52) (-1074) h) ∨
    (0 < b.toNat / 2 ^ 52 % 2 ^ 11 ∧ b.toNat / 2 ^ 52 % 2 ^ 11 < 2047 ∧ ∃ h,
      UnpackedFloat.unpack .binary64 b = .finite (signOf b) (2 ^ 52 + b.toNat % 2 ^ 52)
        ((b.toNat / 2 ^ 52 % 2 ^ 11 : ℕ) - 1075) h) := by
  have hones : @unpackExponent .binary64 b = -1#11 ↔ b.toNat / 2 ^ 52 % 2 ^ 11 = 2047 := by
    rw [show (-1#11 : BitVec 11) = BitVec.ofNat 11 2047 by decide]
    exact unpackExponent_eq_iff b 2047 (by decide)
  have hzero := unpackExponent_eq_iff b 0 (by decide)
  have hfrac := unpackMantissa_eq_iff b
  have hlt : b.toNat / 2 ^ 52 % 2 ^ 11 < 2 ^ 11 := Nat.mod_lt _ (by decide)
  have hbias : (Format.binary64.exponentBias : ℤ) + (52 : ℕ) = 1075 := by decide
  simp only [UnpackedFloat.unpack]
  by_cases h1 : b.toNat / 2 ^ 52 % 2 ^ 11 = 2047
  · rw [if_pos (hones.mpr h1)]
    by_cases h2 : b.toNat % 2 ^ 52 = 0
    · rw [if_pos (hfrac.mpr h2)]
      exact .inl ⟨h1, h2, rfl⟩
    · rw [if_neg (mt hfrac.mp h2)]
      exact .inr (.inl ⟨h1, h2, rfl⟩)
  · rw [if_neg (mt hones.mp h1)]
    by_cases h0 : b.toNat / 2 ^ 52 % 2 ^ 11 = 0
    · rw [if_pos (hzero.mpr h0)]
      by_cases h2 : b.toNat % 2 ^ 52 = 0
      · rw [dif_pos (hfrac.mpr h2)]
        exact .inr (.inr (.inl ⟨h0, h2, rfl⟩))
      · rw [dif_neg (mt hfrac.mp h2)]
        refine .inr (.inr (.inr (.inl ⟨h0, Nat.pos_of_ne_zero h2, ?_⟩)))
        simp only [toNat_unpackMantissa, toNat_unpackExponent, h0, hbias, UnpackedFloat.finite.injEq]
        exact ⟨rfl, trivial, by norm_num⟩
    · rw [if_neg (mt hzero.mp h0)]
      refine .inr (.inr (.inr (.inr ⟨by omega, by omega, by positivity, ?_⟩)))
      simp only [toNat_implicit, toNat_unpackMantissa, toNat_unpackExponent, hbias,
        UnpackedFloat.finite.injEq]
      exact ⟨rfl, trivial, trivial⟩

lemma unpack_finite {b : BitVec 64} {s : Sign} {m : ℕ} {q : ℤ} {hm : 0 < m}
    (h : UnpackedFloat.unpack .binary64 b = .finite s m q hm) :
    b.toNat / 2 ^ 52 % 2 ^ 11 = 0 ∧ m = b.toNat % 2 ^ 52 ∧ q = -1074 ∨
    0 < b.toNat / 2 ^ 52 % 2 ^ 11 ∧ b.toNat / 2 ^ 52 % 2 ^ 11 < 2047 ∧
      m = 2 ^ 52 + b.toNat % 2 ^ 52 ∧ q = (b.toNat / 2 ^ 52 % 2 ^ 11 : ℕ) - 1075 := by
  rcases unpack_cases b with ⟨-, -, h'⟩ | ⟨-, -, h'⟩ | ⟨-, -, h'⟩ | ⟨hzero, _, h'⟩ |
    ⟨hlow, hhigh, _, h'⟩
  all_goals
    rw [h] at h'
    cases h'
  · exact .inl ⟨hzero, rfl, rfl⟩
  · exact .inr ⟨hlow, hhigh, rfl, rfl⟩

lemma legal_of_unpack {b : BitVec 64} {s : Sign} {m : ℕ} {q : ℤ} {hm : 0 < m}
    (h : UnpackedFloat.unpack .binary64 b = .finite s m q hm) : Legal m q := by
  have hfrac : b.toNat % 2 ^ 52 < 2 ^ 52 := Nat.mod_lt _ (by decide)
  obtain ⟨-, rfl, rfl⟩ | ⟨hlow, hhigh, rfl, rfl⟩ := unpack_finite h
  · exact ⟨hm, by omega, le_rfl, by norm_num, .inr rfl⟩
  · exact ⟨hm, by omega, by omega, by omega, .inl (by omega)⟩

section

variable {s : Sign} {m : ℕ} {q : ℤ}

/-- A number with 53 binary digits is packed with its first digit left out. -/
lemma pack_normal (hm : 0 < m) (hfull : 2 ^ 52 ≤ m) (hlt : m < 2 ^ 53) (hlow : -1074 ≤ q)
    (hhigh : q ≤ 971) : UnpackedFloat.pack .binary64 (.finite s m q hm) =
      packComponents .binary64 s (BitVec.ofNat 11 (q + 1075).toNat) (BitVec.ofNat 52 m) := by
  have hlog : m.log2 + 1 = 53 := by
    have h1 := (Nat.log2_lt hm.ne').mpr hlt
    have h2 := (Nat.le_log2 hm.ne').mpr hfull
    omega
  have hbias : q + (Format.binary64.exponentBias : ℤ) + (52 : ℕ) = q + 1075 := by
    rw [show (Format.binary64.exponentBias : ℤ) = 1023 by decide]
    omega
  simp only [UnpackedFloat.pack, hbias]
  rw [if_neg (by omega), if_pos (by rw [hlog]; decide)]

/-- A number with fewer digits is packed as it is. -/
lemma pack_subnormal (hm : 0 < m) (hlt : m < 2 ^ 52) :
    UnpackedFloat.pack .binary64 (.finite s m (-1074) hm) =
      packComponents .binary64 s 0#11 (BitVec.ofNat 52 m) := by
  have hlog : m.log2 < 52 := (Nat.log2_lt hm.ne').mpr hlt
  have hbias : (-1074 : ℤ) + (Format.binary64.exponentBias : ℤ) + (52 : ℕ) = 1 := by decide
  have hbits : Format.binary64.mantissaBits = 53 := by decide
  simp only [UnpackedFloat.pack, hbias, hbits]
  rw [if_neg (by decide), if_neg (by omega)]

end

/-- What a valid bit pattern stands for is packed into the same bit pattern. -/
lemma pack_unpack (x : Float.Model) : Float.Model.pack x.unpack = x := by
  obtain ⟨⟨b⟩, hvalid⟩ := x
  have hcomp := packComponents_unpack b
  have hexp : @unpackExponent .binary64 b = BitVec.ofNat 11 (b.toNat / 2 ^ 52 % 2 ^ 11) :=
    (unpackExponent_eq_iff b _ (Nat.mod_lt _ (by decide))).mpr rfl
  have hman : @unpackMantissa .binary64 b = BitVec.ofNat 52 (b.toNat % 2 ^ 52) := by
    rw [← BitVec.toNat_inj, toNat_unpackMantissa, BitVec.toNat_ofNat, Nat.mod_mod]
  have hpack : UnpackedFloat.pack .binary64 (UnpackedFloat.unpack .binary64 b) = b := by
    rw [← signOf] at hcomp
    rcases unpack_cases b with ⟨h1, h2, h⟩ | ⟨h1, h2, h⟩ | ⟨h1, h2, h⟩ | ⟨h1, hpos, h⟩ |
      ⟨hlow, hhigh, hpos, h⟩ <;> rw [h]
    · rw [hexp, hman, h1, h2] at hcomp
      exact hcomp
    · refine (hvalid.eq_packedNaN ?_ ?_).symm
      · rw [hexp, h1]
        decide
      · rw [Ne, unpackMantissa_eq_iff]
        exact h2
    · rw [hexp, hman, h1, h2] at hcomp
      exact hcomp
    · rw [hexp, hman, h1] at hcomp
      rw [pack_subnormal hpos (Nat.mod_lt _ (by decide))]
      exact hcomp
    · have hfrac : b.toNat % 2 ^ 52 < 2 ^ 52 := Nat.mod_lt _ (by decide)
      rw [pack_normal hpos (by omega) (by omega) (by omega) (by omega)]
      have hround : BitVec.ofNat 52 (2 ^ 52 + b.toNat % 2 ^ 52) = BitVec.ofNat 52 (b.toNat % 2 ^ 52) := by
        rw [← BitVec.toNat_inj, BitVec.toNat_ofNat, BitVec.toNat_ofNat, Nat.add_mod_left]
      rw [hround, sub_add_cancel, Int.toNat_natCast, ← hexp, ← hman, hcomp]
  show (⟨UInt64.ofBitVec (UnpackedFloat.pack .binary64 (UnpackedFloat.unpack .binary64 b)), _⟩ :
    Float.Model) = _
  simp only [hpack]

lemma unpackSign_packComponents (s : Sign) (e : BitVec 11) (m : BitVec 52) :
    @unpackSign .binary64 (packComponents .binary64 s e m) = s.toBitVec := by
  have he := e.isLt
  have hm := m.isLt
  apply BitVec.eq_of_toNat_eq
  rw [toNat_unpackSign, toNat_packComponents]
  omega

lemma ofBitVec_toBitVec (s : Sign) : Sign.ofBitVec s.toBitVec = s := by
  cases s <;> rfl

/-- A number is packed into a bit pattern that stands for it. -/
lemma unpack_pack (s : Sign) {m : ℕ} {q : ℤ} (h : Legal m q) :
    (Float.Model.pack (.finite s m q h.pos)).unpack = .finite s m q h.pos := by
  obtain ⟨hpos, hlt, hlow, hhigh, hfull⟩ := h
  show UnpackedFloat.unpack .binary64 (UnpackedFloat.pack .binary64 (.finite s m q hpos)) = _
  have hbias : (Format.binary64.exponentBias : ℤ) + (52 : ℕ) = 1075 := by decide
  by_cases hnormal : 2 ^ 52 ≤ m
  · have hexp : (BitVec.ofNat 11 (q + 1075).toNat).toNat = (q + 1075).toNat := by
      rw [BitVec.toNat_ofNat]
      omega
    have hones : BitVec.ofNat 11 (q + 1075).toNat ≠ -1#11 := by
      rw [Ne, ← BitVec.toNat_inj, hexp]
      rintro h
      rw [show (-1#11 : BitVec 11).toNat = 2047 by decide] at h
      omega
    have hzero : BitVec.ofNat 11 (q + 1075).toNat ≠ 0#11 := by
      rw [Ne, ← BitVec.toNat_inj, hexp, BitVec.toNat_ofNat]
      omega
    have hman : (1#1 ++ BitVec.ofNat 52 m).toNat = m := by
      rw [toNat_implicit, BitVec.toNat_ofNat]
      omega
    rw [pack_normal hpos hnormal hlt hlow hhigh]
    simp only [UnpackedFloat.unpack, unpackMantissa_packComponents, unpackExponent_packComponents,
      unpackSign_packComponents, ofBitVec_toBitVec, hman, hbias, hexp]
    rw [if_neg hones, if_neg hzero]
    simp only [UnpackedFloat.finite.injEq, true_and]
    omega
  · obtain rfl : q = -1074 := hfull.resolve_left hnormal
    have hman : (BitVec.ofNat 52 m).toNat = m := by
      rw [BitVec.toNat_ofNat]
      omega
    have hzero : BitVec.ofNat 52 m ≠ 0#52 := by
      rw [Ne, ← BitVec.toNat_inj, hman, BitVec.toNat_ofNat]
      omega
    rw [pack_subnormal hpos (by omega)]
    simp only [UnpackedFloat.unpack, unpackMantissa_packComponents, unpackExponent_packComponents,
      unpackSign_packComponents, ofBitVec_toBitVec, hman, hbias]
    rw [if_neg (by decide), if_pos trivial, dif_neg hzero]
    simp

/-! ## Whole numbers and powers of ten -/

section

variable {m : ℕ} {q : ℤ}

lemma RoundsTo.self (m : ℕ) (q : ℤ) : RoundsTo m q (m * 2 ^ q) := by
  have hq := two_zpow_pos q
  have hgap : 0 < lowerGap m q := by
    rw [lowerGap]
    split <;> norm_num
  have hlow : (m - lowerGap m q) * 2 ^ q < m * 2 ^ q := mul_lt_mul_of_pos_right (by linarith) hq
  have hhigh : (m : ℚ) * 2 ^ q < (m + 1 / 2) * 2 ^ q := mul_lt_mul_of_pos_right (by linarith) hq
  exact ⟨hlow.le, hhigh.le, fun _ => ⟨hlow, hhigh⟩⟩

/-- A number is not changed by rounding. -/
lemma roundWithAccuracy_self (s : Sign) (h : Legal m q) :
    roundWithAccuracy .binary64 s m q .exact = .finite s m q h.pos := by
  refine roundWithAccuracy_eq s h (.self m q) ?_ h.targetExponent.ge
  rw [mul_div_cancel_right₀ _ (two_zpow_pos q).ne']
  exact .exact m

/-- A whole number with at most 53 binary digits is a floating-point number. -/
lemma unpack_ofUInt64 {n : ℕ} (hn : 0 < n) (hlt : n < 2 ^ 53) : ∃ M E, ∃ hM : 0 < M,
    (Float.Model.ofUInt64 n.toUInt64).unpack = .finite .positive M E hM ∧ 2 ^ 52 ≤ M ∧
      (M * 2 ^ E : ℚ) = n := by
  have hlog : n.log2 < 53 := (Nat.log2_lt hn.ne').mpr hlt
  have hself : 2 ^ n.log2 ≤ n := Nat.log2_self_le hn.ne'
  let k := 52 - n.log2
  have hk : k + n.log2 = 52 := by omega
  have hlow : 2 ^ 52 ≤ n * 2 ^ k := by
    calc 2 ^ 52 = 2 ^ n.log2 * 2 ^ k := by rw [← pow_add, Nat.add_comm, hk]
      _ ≤ n * 2 ^ k := Nat.mul_le_mul_right _ hself
  have hhigh : n * 2 ^ k < 2 ^ 53 := by
    calc n * 2 ^ k < 2 ^ (n.log2 + 1) * 2 ^ k :=
          Nat.mul_lt_mul_of_pos_right Nat.lt_log2_self (by positivity)
      _ = 2 ^ 53 := by rw [← pow_add]; congr 1; omega
  have hlegal : Legal (n * 2 ^ k) (-k) :=
    ⟨by positivity, hhigh, by omega, by omega, .inl hlow⟩
  refine ⟨n * 2 ^ k, -k, hlegal.pos, ?_, hlow, ?_⟩
  · have htarget : Format.binary64.targetExponent (totalExponent n 0) = -k := by
      rw [targetExponent_eq, totalExponent]
      omega
    have hnat : n.toUInt64.toNat = n := by
      simp
      omega
    have hround : UnpackedFloat.ofUInt64 .binary64 n.toUInt64 =
        roundWithAccuracy .binary64 .positive (n * 2 ^ k) (-k) .exact := by
      have hcmp : compare (n : ℤ) 0 = .gt := compare_gt_iff_gt.mpr (by omega)
      rw [UnpackedFloat.ofUInt64, hnat, UnpackedFloat.ofNat, UnpackedFloat.ofInt]
      simp only [UnpackedFloat.normalize, hcmp, UnpackedFloat.round, Int.toNat_natCast, htarget, decreaseExponent, Nat.shiftLeft_eq,
        sub_neg_eq_add, zero_add, zero_sub]
    show (Float.Model.pack (UnpackedFloat.ofUInt64 .binary64 n.toUInt64)).unpack = _
    rw [hround, roundWithAccuracy_self .positive hlegal]
    exact unpack_pack .positive hlegal
  · push_cast
    rw [mul_assoc, ← zpow_natCast, ← two_zpow_add, add_neg_cancel, zpow_zero, mul_one]

/-- The powers of ten up to the twenty-second are floating-point numbers. -/
lemma toBits_powersOfTen : ∀ e : Fin Float.exactlyRepresentablePowersOfTen.size,
    let b := Float.exactlyRepresentablePowersOfTen[e].toBits.toNat
    b < 2 ^ 63 ∧ 0 < b / 2 ^ 52 % 2 ^ 11 ∧ b / 2 ^ 52 % 2 ^ 11 < 2047 ∧
      (2 ^ 52 + b % 2 ^ 52) * 2 ^ (b / 2 ^ 52 % 2 ^ 11) = 10 ^ e.val * 2 ^ 1075 := by
  decide +kernel

lemma unpack_powerOfTen {e : ℕ} (he : e < Float.exactlyRepresentablePowersOfTen.size) : ∃ M E,
    ∃ hM : 0 < M, Float.exactlyRepresentablePowersOfTen[e].toModel.unpack = .finite .positive M E hM ∧
      (M * 2 ^ E : ℚ) = 10 ^ e := by
  obtain ⟨hsign, hlow, hhigh, hvalue⟩ := toBits_powersOfTen ⟨e, he⟩
  let b := Float.exactlyRepresentablePowersOfTen[e].toModel.toBits.toBitVec
  change b.toNat < 2 ^ 63 at hsign
  change 0 < b.toNat / 2 ^ 52 % 2 ^ 11 at hlow
  change b.toNat / 2 ^ 52 % 2 ^ 11 < 2047 at hhigh
  change (2 ^ 52 + b.toNat % 2 ^ 52) * 2 ^ (b.toNat / 2 ^ 52 % 2 ^ 11) = 10 ^ e * 2 ^ 1075 at hvalue
  have hpos : signOf b = .positive := by rw [signOf_eq, if_neg (by omega)]
  rcases unpack_cases b with ⟨h, -, -⟩ | ⟨h, -, -⟩ | ⟨h, -, -⟩ | ⟨h, -⟩ | ⟨-, -, hM, h⟩
  · omega
  · omega
  · omega
  · omega
  · rw [hpos] at h
    refine ⟨_, _, hM, h, ?_⟩
    rw [zpow_sub₀ two_ne_zero, zpow_natCast, ← mul_div_assoc,
      div_eq_iff (zpow_ne_zero _ two_ne_zero)]
    have hcast := congrArg (Nat.cast (R := ℚ)) hvalue
    simp only [Nat.cast_mul, Nat.cast_add, Nat.cast_pow, Nat.cast_ofNat] at hcast
    simpa only [Nat.cast_add, Nat.cast_pow, Nat.cast_ofNat, zpow_ofNat] using hcast

/-! ## Reading -/

variable {x : Float} {hm : 0 < m} {n e : ℕ}

/-- A number is what its parts are packed into. -/
lemma ofModel_pack {u : UnpackedFloat} (hx : x.toModel.unpack = u) :
    Float.ofModel (Float.Model.pack u) = x := by
  rw [← hx, pack_unpack]

/-- A whole number is read as the floating-point number that it is rounded to. -/
lemma ofScientific_whole (hx : x.toModel.unpack = .finite .positive m q hm) (hn : 0 < n)
    (hr : RoundsTo m q n) : Float.ofScientific n false 0 = x := by
  have hlegal : Legal m q := legal_of_unpack hx
  rw [← ofModel_pack hx, Float.ofScientific]
  split
  · next hfast =>
    obtain ⟨M, E, hM, hunpack, hlong, hval⟩ := unpack_ofUInt64 hn hfast.1
    obtain ⟨M', E', hM', hunpack', hval'⟩ := unpack_powerOfTen (e := 0) (by decide)
    have hprod : UnpackedFloat.mul .binary64 (.finite .positive M E hM) (.finite .positive M' E' hM') =
        .finite .positive m q hm := by
      refine mul_eq hlegal hM hM' hlong ?_
      rw [hval, hval', pow_zero, mul_one]
      exact hr
    rw [← hunpack, ← hunpack'] at hprod
    exact congrArg (fun u => Float.ofModel (Float.Model.pack u)) hprod
  · have hprod : UnpackedFloat.ofScientific .binary64 n 0 = .finite .positive m q hm := by
      have hbits : Format.binary64.mantissaBits = 53 := by decide
      have hexp : (2 : ℤ) ^ Format.binary64.exponentBits = 2048 := by decide
      rw [UnpackedFloat.ofScientific, dif_neg hn.ne', if_neg (by decide), if_neg (by omega),
        if_pos le_rfl]
      refine mul_eq hlegal _ _ ?_ ?_
      · rw [hbits, Nat.shiftLeft_eq]
        omega
      · have hval : ((n * 2 ^ 53 : ℕ) : ℚ) * 2 ^ (-(53 : ℕ) : ℤ) *
            (((10 ^ (0 : ℤ).toNat : ℕ) : ℚ) * 2 ^ (0 : ℤ)) = n := by
          push_cast
          norm_num
          ring
        rw [hbits, Nat.shiftLeft_eq, hval]
        exact hr
    exact congrArg (fun u => Float.ofModel (Float.Model.pack u)) hprod

lemma le_of_roundsTo {r : ℚ} (hlegal : Legal m q) (hr : RoundsTo m q r) : 2 ^ (-1075 : ℤ) ≤ r := by
  have hgap := lowerGap_le (m := m) (q := q)
  have hm : (1 : ℚ) ≤ m := by exact_mod_cast hlegal.pos
  have hhalf : (2 : ℚ) ^ (-1 : ℤ) ≤ m - lowerGap m q := by
    rw [zpow_neg_one]
    linarith
  have hpow : (2 : ℚ) ^ (-1074 : ℤ) ≤ 2 ^ q := zpow_le_zpow_right₀ one_le_two hlegal.low
  calc (2 : ℚ) ^ (-1075 : ℤ) = 2 ^ (-1 : ℤ) * 2 ^ (-1074 : ℤ) := by rw [← two_zpow_add]; rfl
    _ ≤ (m - lowerGap m q) * 2 ^ q :=
      mul_le_mul hhalf hpow (two_zpow_pos _).le ((two_zpow_pos _).le.trans hhalf)
    _ ≤ r := hr.low

/-- A decimal fraction is read as the floating-point number that it is rounded to. -/
lemma ofScientific_fraction (hx : x.toModel.unpack = .finite .positive m q hm) (hn : 0 < n)
    (he : 0 < e) (hr : RoundsTo m q (n / 10 ^ e)) : Float.ofScientific n true e = x := by
  have hlegal : Legal m q := legal_of_unpack hx
  rw [← ofModel_pack hx, Float.ofScientific]
  split
  · next hfast =>
    obtain ⟨M, E, hM, hunpack, -, hval⟩ := unpack_ofUInt64 hn hfast.1
    obtain ⟨M', E', hM', hunpack', hval'⟩ := unpack_powerOfTen (e := e) (Nat.lt_succ_of_le hfast.2)
    have hquot : UnpackedFloat.div .binary64 (.finite .positive M E hM) (.finite .positive M' E' hM') =
        .finite .positive m q hm := by
      refine div_eq hlegal hM hM' ?_
      rw [hval, hval']
      exact hr
    rw [← hunpack, ← hunpack'] at hquot
    exact congrArg (fun u => Float.ofModel (Float.Model.pack u)) hquot
  · have hneg : Int.negOfNat e = -(e : ℤ) := Int.negOfNat_eq
    -- the decimal is not so small that it is read as zero
    have hroom : (e : ℤ) - 1075 < n.log2 + 1 := by
      refine two_zpow_lt ?_
      have hlow := (le_div_iff₀ (by positivity)).mp (le_of_roundsTo hlegal hr)
      have hten : (2 : ℚ) ^ e ≤ 10 ^ e := pow_le_pow_left₀ two_pos.le (by norm_num) e
      have hlog : (n : ℚ) < 2 ^ (n.log2 + 1 : ℤ) := by exact_mod_cast Nat.lt_log2_self (n := n)
      calc (2 : ℚ) ^ ((e : ℤ) - 1075) = 2 ^ (-1075 : ℤ) * 2 ^ e := by
            rw [sub_eq_neg_add, two_zpow_add, zpow_natCast]
        _ ≤ 2 ^ (-1075 : ℤ) * 10 ^ e := mul_le_mul_of_nonneg_left hten (two_zpow_pos _).le
        _ ≤ n := hlow
        _ < 2 ^ (n.log2 + 1 : ℤ) := hlog
    have hquot : UnpackedFloat.ofScientific .binary64 n (Int.negOfNat e) = .finite .positive m q hm := by
      have hexp : (2 : ℤ) ^ Format.binary64.exponentBits = 2048 := by decide
      rw [UnpackedFloat.ofScientific, dif_neg hn.ne', if_neg (by omega), if_neg (by omega),
        if_neg (by omega)]
      refine div_eq hlegal _ _ ?_
      rw [hneg, neg_neg, Int.toNat_natCast, zpow_zero, mul_one, mul_one]
      exact_mod_cast hr
    exact congrArg (fun u => Float.ofModel (Float.Model.pack u)) hquot

lemma lt_of_roundsTo {r : ℚ} (hlegal : Legal m q) (hr : RoundsTo m q r) : r < 2 ^ (1024 : ℤ) := by
  have hm : (m + 1 / 2 : ℚ) < 2 ^ (53 : ℤ) := by
    have : (m + 1 : ℚ) ≤ 2 ^ (53 : ℤ) := by exact_mod_cast hlegal.lt
    linarith
  calc r ≤ (m + 1 / 2) * 2 ^ q := hr.high
    _ < 2 ^ (53 : ℤ) * 2 ^ q := mul_lt_mul_of_pos_right hm (two_zpow_pos q)
    _ = 2 ^ (53 + q) := (two_zpow_add 53 q).symm
    _ ≤ 2 ^ (1024 : ℤ) := zpow_le_zpow_right₀ one_le_two (by have := hlegal.high; omega)

lemma ten_zpow_add (a b : ℤ) : (10 : ℚ) ^ (a + b) = 10 ^ a * 10 ^ b := zpow_add₀ (by norm_num) a b

lemma ten_zpow_pos (a : ℤ) : (0 : ℚ) < 10 ^ a := zpow_pos (by norm_num) a

/-- Three binary digits are less than one decimal digit. -/
lemma two_zpow_le_ten_zpow {a : ℤ} (h : 0 ≤ a) : (2 : ℚ) ^ (3 * a) ≤ 10 ^ a := by
  lift a to ℕ using h
  rw [zpow_mul, zpow_natCast, zpow_natCast]
  exact pow_le_pow_left₀ (by norm_num) (by norm_num) a

/-- The digits of a number say between which powers of ten it is. -/
lemma digits_bounds {digits : ℕ} (h : 0 < digits) :
    10 ^ ((digitsOf digits).length - 1) ≤ digits ∧ digits < 10 ^ (digitsOf digits).length := by
  have hpos : 0 < (digitsOf digits).length := Nat.length_toDigits_pos
  refine ⟨?_, (Nat.length_toDigits_le_iff (by decide) hpos).mp le_rfl⟩
  by_cases hone : (digitsOf digits).length = 1
  · rw [hone]
    exact h
  · rw [← not_lt, ← Nat.length_toDigits_le_iff (by decide) (by omega)]
    show ¬ (digitsOf digits).length ≤ _
    omega

/-- **Decimals read.**  A decimal is read as the number that it is rounded to, whatever its digits and
its exponent are. -/
lemma floatOf_eq (hx : x.toModel.unpack = .finite .positive m q hm) {digits : ℕ} {exponent : ℤ}
    (hr : RoundsTo m q (digits * 10 ^ exponent)) : floatOf digits exponent = x := by
  have hlegal : Legal m q := legal_of_unpack hx
  have hlow := le_of_roundsTo hlegal hr
  have hhigh := lt_of_roundsTo hlegal hr
  have hten := ten_zpow_pos exponent
  have hdigits : 0 < digits := by
    rcases Nat.eq_zero_or_pos digits with rfl | h
    · rw [Nat.cast_zero, zero_mul] at hlow
      exact absurd hlow (not_le.mpr (two_zpow_pos _))
    · exact h
  obtain ⟨hge, hlt⟩ := digits_bounds hdigits
  have hlen : 0 < (digitsOf digits).length := Nat.length_toDigits_pos
  rw [floatOf]
  generalize (digitsOf digits).length = len at hge hlt hlen ⊢
  -- decimals that are cut off for their size are out of the range of all numbers
  have hbig : ¬ 400 < (len : ℤ) + exponent := by
    intro hsize
    have hge : (10 : ℚ) ^ (len - 1 : ℤ) ≤ digits := by
      rw [show (len : ℤ) - 1 = (len - 1 : ℕ) by omega]
      exact_mod_cast hge
    have hlarge : (10 : ℚ) ^ (400 : ℤ) ≤ digits * 10 ^ exponent :=
      calc (10 : ℚ) ^ (400 : ℤ) ≤ 10 ^ ((len : ℤ) - 1 + exponent) :=
            zpow_le_zpow_right₀ (by norm_num) (by omega)
        _ = 10 ^ ((len : ℤ) - 1) * 10 ^ exponent := ten_zpow_add _ _
        _ ≤ digits * 10 ^ exponent := mul_le_mul_of_nonneg_right hge hten.le
    have hpow : (2 : ℚ) ^ (1024 : ℤ) ≤ 10 ^ (400 : ℤ) :=
      (zpow_le_zpow_right₀ one_le_two (by norm_num)).trans (two_zpow_le_ten_zpow (by norm_num))
    exact absurd (hhigh.trans_le (hpow.trans hlarge)) (lt_irrefl _)
  have hsmall : ¬ (len : ℤ) + exponent < -400 := by
    intro hsize
    have hlt : (digits : ℚ) < 10 ^ (len : ℤ) := by exact_mod_cast hlt
    have hless : digits * (10 : ℚ) ^ exponent < 10 ^ (-401 : ℤ) :=
      calc digits * (10 : ℚ) ^ exponent < 10 ^ (len : ℤ) * 10 ^ exponent :=
            mul_lt_mul_of_pos_right hlt hten
        _ = 10 ^ ((len : ℤ) + exponent) := (ten_zpow_add _ _).symm
        _ ≤ 10 ^ (-401 : ℤ) := zpow_le_zpow_right₀ (by norm_num) (by omega)
    have hpow : (10 : ℚ) ^ (-401 : ℤ) ≤ 2 ^ (-1075 : ℤ) := by
      rw [zpow_neg, zpow_neg]
      refine inv_anti₀ (two_zpow_pos _) ?_
      exact (zpow_le_zpow_right₀ one_le_two (by norm_num)).trans (two_zpow_le_ten_zpow (by norm_num))
    exact absurd (hlow.trans_lt (hless.trans_le hpow)) (lt_irrefl _)
  rw [if_neg hdigits.ne', if_neg hbig, if_neg hsmall]
  split
  · next hexp =>
    lift exponent to ℕ using hexp
    refine ofScientific_whole hx (Nat.mul_pos hdigits (Nat.pow_pos (by decide))) ?_
    rw [Int.toNat_natCast]
    rw [zpow_natCast] at hr
    exact_mod_cast hr
  · next hexp =>
    obtain ⟨k, rfl⟩ : ∃ k : ℕ, exponent = -k := ⟨(-exponent).toNat, by omega⟩
    refine ofScientific_fraction hx hdigits (by omega) ?_
    rw [neg_neg, Int.toNat_natCast]
    rwa [zpow_neg, zpow_natCast, ← div_eq_mul_inv] at hr

end

end QualityGate.Number
