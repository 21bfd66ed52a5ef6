/-
# Numbers written and read again

What is written of an integer is read as the integer (`number_toString`), and what is written of a
floating-point number as that number: of an infinite or undefined one a word is written
(`floatText_word`), of any other one a decimal (`number_floatText`).

A decimal is written in one of four layouts.  Each of them is the text of a `Numeral`, that is of
digits in front of the point, digits behind it and an exponent, and a numeral is read by these parts
(`unsigned_chars`).  The reader may so come upon other digits than those of the decimal, where zeros
were written behind them, but the value is the same (`isOf_render`).
-/
import Mathlib
import QualityGate.Json.Read
import QualityGate.Json.Write
import QualityGate.Proofs.ShortestDecimal

namespace QualityGate.Json

/-! ## Digits -/

/-- A text that does not go on with a number. -/
def EndsNumber (rest : List Char) : Prop :=
  ∀ c, rest.head? = some c → c.isDigit = false ∧ c ≠ '.' ∧ c ≠ 'e' ∧ c ≠ 'E'

lemma takeWhile_digits {rest : List Char} (h : EndsNumber rest) : rest.takeWhile Char.isDigit = [] := by
  cases rest with
  | nil => rfl
  | cons c cs => simp [(h c rfl).1]

lemma fractionLength_eq_zero {rest : List Char} (h : EndsNumber rest) : fractionLength rest = 0 := by
  rw [fractionLength]
  rintro cs rfl
  exact (h '.' rfl).2.1 rfl

lemma exponentLength_eq_zero {rest : List Char} (h : EndsNumber rest) : exponentLength rest = 0 := by
  cases rest with
  | nil => rfl
  | cons c cs =>
    obtain ⟨-, -, he, hE⟩ := h c rfl
    simp [exponentLength, he, hE]

lemma toDigits_ne_nil (m : Nat) : Nat.toDigits 10 m ≠ [] := by
  rw [Nat.toDigits_eq_if (by decide)]
  split <;> simp

lemma head?_toDigits_ne_zero (m : Nat) (hm : 0 < m) : (Nat.toDigits 10 m).head? ≠ some '0' := by
  induction m using Nat.strong_induction_on with
  | _ m ih =>
    rw [Nat.toDigits_eq_if (by decide)]
    split
    · next hlt => interval_cases m <;> decide
    · next hge =>
      rw [List.head?_append_of_ne_nil _ (toDigits_ne_nil _)]
      exact ih (m / 10) (by omega) (by omega)

/-- Digits that can stand in front of the point: some, and no zero before another one. -/
structure IsWhole (ds : List Char) : Prop where
  ne_nil : ds ≠ []
  digits : ∀ c ∈ ds, c.isDigit = true
  zero : ds.head? = some '0' → ds = ['0']

lemma isWhole_toDigits (m : Nat) : IsWhole (Nat.toDigits 10 m) := by
  refine ⟨toDigits_ne_nil m, fun c hc => Nat.isDigit_of_mem_toDigits (by decide) (by decide) hc, ?_⟩
  intro hzero
  obtain rfl : m = 0 := by
    by_contra hm
    exact head?_toDigits_ne_zero m (by omega) hzero
  rfl

lemma IsWhole.take {ds : List Char} (h : IsWhole ds) {n : Nat} (hn : 0 < n) : IsWhole (ds.take n) := by
  obtain ⟨c, cs, rfl⟩ := List.exists_cons_of_ne_nil h.ne_nil
  obtain ⟨n, rfl⟩ : ∃ k, n = k + 1 := ⟨n - 1, by omega⟩
  refine ⟨by simp, fun d hd => h.digits d (List.mem_of_mem_take hd), fun hzero => ?_⟩
  have htail := h.zero hzero
  simp only [List.cons.injEq] at htail
  rw [htail.1, htail.2]
  simp

lemma leadingDigits_append {ds rest : List Char} (h : IsWhole ds)
    (hrest : rest.takeWhile Char.isDigit = []) : leadingDigits (ds ++ rest) = ds := by
  by_cases hzero : ds.head? = some '0'
  · rw [h.zero hzero]
    rfl
  · rw [leadingDigits]
    · rw [List.takeWhile_append_of_pos h.digits, hrest, List.append_nil]
    · intro cs hcs
      rw [← List.head?_append_of_ne_nil _ h.ne_nil, hcs] at hzero
      exact hzero rfl

lemma decimalValue_toDigits (m : Nat) : decimalValue (Nat.toDigits 10 m) = m := by
  have h := Nat.ofDigitChars_toDigits (b := 10) (n := m) (by decide) (by decide)
  rw [Nat.ofDigitChars] at h
  rw [decimalValue]
  simpa [Nat.mul_comm] using h

/-! ## Integers -/

/-- The number of decimal digits of an integer. -/
def digitCount (n : Int) : Nat := (Nat.toDigits 10 n.natAbs).length

lemma toList_toString (n : Int) :
    (toString n).toList = (if n < 0 then ['-'] else []) ++ Nat.toDigits 10 n.natAbs := by
  cases n with
  | ofNat m =>
    rw [if_neg (by simp)]
    show (Nat.repr m).toList = _
    simp [Nat.repr]
  | negSucc m =>
    rw [if_pos (by simp [Int.negSucc_lt_zero])]
    show ("-" ++ Nat.repr (m + 1)).toList = _
    simp [Nat.repr]

lemma unsigned_toDigits {b : Bounds} {m : Nat}
    (hm : Bounds.exceeded b.digits (Nat.toDigits 10 m).length = false) (negative : Bool)
    (start : Nat) {rest : List Char} (h : EndsNumber rest) (pos : Nat) :
    unsigned b negative start ⟨Nat.toDigits 10 m ++ rest, pos⟩ =
      .ok (.int (if negative then -(m : Int) else m), ⟨rest, pos + (Nat.toDigits 10 m).length⟩) := by
  have hnil : (Nat.toDigits 10 m).isEmpty = false := by simp [toDigits_ne_nil m]
  simp only [unsigned, leadingDigits_append (isWhole_toDigits m) (takeWhile_digits h), hnil, Input.drop, List.drop_left,
    fractionLength_eq_zero h, exponentLength_eq_zero h, List.take_zero, List.length_nil,
    List.drop_zero, List.isEmpty_nil, Bool.and_self, hm, decimalValue_toDigits, Nat.add_zero]
  rfl

/-- What is written of an integer is read as the integer. -/
lemma number_toString {b : Bounds} {n : Int} (hn : Bounds.exceeded b.digits (digitCount n) = false)
    {rest : List Char} (h : EndsNumber rest) (pos : Nat) :
    number b ⟨(toString n).toList ++ rest, pos⟩ =
      .ok (.int n, ⟨rest, pos + (toString n).toList.length⟩) := by
  rw [toList_toString]
  by_cases hneg : n < 0
  · have hval : -(n.natAbs : Int) = n := by omega
    rw [if_pos hneg, number, if_pos (by simp)]
    show unsigned b true pos ⟨Nat.toDigits 10 n.natAbs ++ rest, pos + 1⟩ = _
    rw [unsigned_toDigits hn true pos h, if_pos rfl, hval, List.length_append, List.length_singleton,
      Nat.add_assoc]
  · have hval : (n.natAbs : Int) = n := by omega
    have hminus : (Nat.toDigits 10 n.natAbs ++ rest).head? ≠ some '-' := by
      rw [List.head?_append_of_ne_nil _ (toDigits_ne_nil _)]
      intro hhead
      have := Nat.isDigit_of_mem_toDigits (by decide) (by decide) (List.mem_of_head? hhead)
      exact absurd this (by decide)
    rw [if_neg hneg, List.nil_append, number, if_neg hminus, unsigned_toDigits hn false pos h,
      if_neg (by simp), hval]

/-! ## Fractions and exponents -/

/-- The parts of the text of a number. -/
structure Numeral where
  /-- The digits in front of the point. -/
  whole : List Char
  /-- The digits behind the point. -/
  places : List Char
  /-- The digits of an exponent, and whether there is a minus in front of them. -/
  exponent : Option (Bool × List Char)

namespace Numeral

/-- The point and the digits behind it. -/
def fractionText : List Char → List Char
  | [] => []
  | c :: cs => '.' :: c :: cs

/-- The mark of an exponent, its sign and its digits. -/
def exponentText : Option (Bool × List Char) → List Char
  | none => []
  | some (negative, es) => 'e' :: (if negative then '-' else '+') :: es

/-- The value of an exponent. -/
def exponentValue : Option (Bool × List Char) → Int
  | none => 0
  | some (negative, es) => if negative then -(decimalValue es : Int) else decimalValue es

/-- The text of a number. -/
def chars (n : Numeral) : List Char :=
  n.whole ++ (fractionText n.places ++ exponentText n.exponent)

/-- The digits can be read as a number. -/
structure Valid (n : Numeral) : Prop where
  whole : IsWhole n.whole
  places : ∀ c ∈ n.places, c.isDigit = true
  exponent : ∀ e ∈ n.exponent, e.2 ≠ [] ∧ ∀ c ∈ e.2, c.isDigit = true
  /-- There is a point or an exponent. -/
  fraction : n.places ≠ [] ∨ n.exponent ≠ none

end Numeral

open Numeral

lemma fractionLength_append {places rest : List Char} (hplaces : ∀ c ∈ places, c.isDigit = true)
    (hrest : rest.takeWhile Char.isDigit = []) (hpoint : rest.head? ≠ some '.') :
    fractionLength (fractionText places ++ rest) = (fractionText places).length := by
  cases places with
  | nil =>
    rw [fractionText, List.nil_append, fractionLength]
    · rfl
    · rintro cs rfl
      exact hpoint rfl
  | cons c cs =>
    have htake : (c :: cs ++ rest).takeWhile Char.isDigit = c :: cs := by
      rw [List.takeWhile_append_of_pos hplaces, hrest, List.append_nil]
    show fractionLength ('.' :: (c :: cs ++ rest)) = _
    rw [fractionLength, htake]
    rfl

lemma exponentLength_append {exponent : Option (Bool × List Char)} {rest : List Char}
    (hexp : ∀ e ∈ exponent, e.2 ≠ [] ∧ ∀ c ∈ e.2, c.isDigit = true) (hrest : EndsNumber rest) :
    exponentLength (exponentText exponent ++ rest) = (exponentText exponent).length := by
  cases exponent with
  | none => exact exponentLength_eq_zero hrest
  | some e =>
    obtain ⟨negative, es⟩ := e
    obtain ⟨hne, hdigits⟩ := hexp _ rfl
    have htake : (es ++ rest).takeWhile Char.isDigit = es := by
      rw [List.takeWhile_append_of_pos hdigits, takeWhile_digits hrest, List.append_nil]
    have hlen : es.length ≠ 0 := by simpa using hne
    cases negative <;> simp [exponentText, exponentLength, htake, hlen]

lemma takeWhile_exponentText (exponent : Option (Bool × List Char)) {rest : List Char}
    (hrest : EndsNumber rest) : (exponentText exponent ++ rest).takeWhile Char.isDigit = [] ∧
      (exponentText exponent ++ rest).head? ≠ some '.' := by
  cases exponent with
  | none => exact ⟨takeWhile_digits hrest, fun h => (hrest '.' h).2.1 rfl⟩
  | some e => exact ⟨rfl, by simp [exponentText]⟩

lemma takeWhile_fractionText (places : List Char) {rest : List Char}
    (hrest : rest.takeWhile Char.isDigit = []) :
    (fractionText places ++ rest).takeWhile Char.isDigit = [] := by
  cases places with
  | nil => exact hrest
  | cons c cs => rfl

/-- A number with a point or an exponent is read by its parts. -/
lemma unsigned_chars (b : Bounds) {n : Numeral} (hn : n.Valid) (negative : Bool) (start : Nat)
    {rest : List Char} (hrest : EndsNumber rest) (pos : Nat) :
    let x := Number.floatOf (decimalValue (n.whole ++ n.places))
      (exponentValue n.exponent - n.places.length)
    unsigned b negative start ⟨n.chars ++ rest, pos⟩ =
      .ok (.float (if negative then -x else x), ⟨rest, pos + n.chars.length⟩) := by
  obtain ⟨hdigits, hpoint⟩ := takeWhile_exponentText n.exponent hrest
  have hlead := leadingDigits_append hn.whole (takeWhile_fractionText n.places hdigits)
  have hfrac := fractionLength_append hn.places hdigits hpoint
  have hexp := exponentLength_append hn.exponent hrest
  have hnil : n.whole.isEmpty = false := by simpa using hn.whole.ne_nil
  have hfloat : ((fractionText n.places).isEmpty && (exponentText n.exponent).isEmpty) = false := by
    rcases n with ⟨whole, _ | ⟨c, cs⟩, _ | ⟨negative, es⟩⟩
    · exact absurd hn.fraction (by simp)
    · rfl
    · rfl
    · rfl
  have hplaces : (fractionText n.places).drop 1 = n.places := by
    cases n.places <;> rfl
  intro x
  rw [chars, List.append_assoc, List.append_assoc]
  simp only [unsigned, hlead, hnil, Input.drop, List.drop_left, hfrac, List.take_left, hexp, hfloat,
    hplaces, Bool.false_eq_true, if_false]
  have hpos : pos + n.whole.length + (fractionText n.places).length + (exponentText n.exponent).length =
      pos + (n.whole ++ (fractionText n.places ++ exponentText n.exponent)).length := by
    simp only [List.length_append]
    omega
  rw [hpos]
  rcases n with ⟨whole, places, _ | ⟨_ | _, es⟩⟩ <;> rfl

/-! ## The text of a decimal -/

lemma decimalValue_append (ds es : List Char) :
    decimalValue (ds ++ es) = decimalValue ds * 10 ^ es.length + decimalValue es := by
  induction es using List.reverseRecOn with
  | nil => simp [decimalValue]
  | append_singleton es c ih =>
    have hlast (cs : List Char) :
        decimalValue (cs ++ [c]) = decimalValue cs * 10 + (c.toNat - '0'.toNat) := by
      simp [decimalValue, List.foldl_append]
    rw [← List.append_assoc, hlast, ih, hlast, List.length_append, List.length_singleton, Nat.pow_succ]
    ring

lemma decimalValue_zeros (n : Nat) : decimalValue (List.replicate n '0') = 0 := by
  induction n with
  | zero => rfl
  | succ n ih =>
    rw [List.replicate_succ', decimalValue_append, ih]
    rfl

/-- A text is that of a number with the value of a decimal. -/
structure Numeral.IsOf (n : Numeral) (text : List Char) (d : Number.Decimal) : Prop where
  text : text = n.chars
  valid : n.Valid
  value : (decimalValue (n.whole ++ n.places) : ℚ) * 10 ^ (exponentValue n.exponent - n.places.length) =
    d.digits * 10 ^ d.exponent

section

variable {d : Number.Decimal} {point : Int} {ds : List Char}
  (hds : ds = Number.digitsOf d.digits) (hpoint : point = ds.length + d.exponent)
include hds

lemma decimalValue_digits : decimalValue ds = d.digits := by
  rw [hds]
  exact decimalValue_toDigits d.digits

lemma isWhole_digits : IsWhole ds := by
  rw [hds]
  exact isWhole_toDigits d.digits

include hpoint

/-- A number below one: zeros stand between the point and the digits. -/
lemma isOf_small (hlow : point ≤ 0) :
    Numeral.IsOf ⟨['0'], List.replicate (-point).toNat '0' ++ ds, none⟩
      (['0', '.'] ++ List.replicate (-point).toNat '0' ++ ds) d := by
  have hwhole := isWhole_digits hds
  have hne : List.replicate (-point).toNat '0' ++ ds ≠ [] := by simp [hwhole.ne_nil]
  refine ⟨?_, ⟨isWhole_toDigits 0, ?_, by simp, .inl hne⟩, ?_⟩
  · obtain ⟨c, cs, hcs⟩ := List.exists_cons_of_ne_nil hne
    rw [List.append_assoc, Numeral.chars, hcs]
    simp [fractionText, exponentText]
  · intro c hc
    rcases List.mem_append.mp hc with hc | hc
    · rw [List.eq_of_mem_replicate hc]
      rfl
    · exact hwhole.digits c hc
  · have hexp : exponentValue none - ((List.replicate (-point).toNat '0' ++ ds).length : Int) =
        d.exponent := by
      simp only [exponentValue, List.length_append, List.length_replicate]
      omega
    have hval : decimalValue (['0'] ++ (List.replicate (-point).toNat '0' ++ ds)) = d.digits := by
      rw [decimalValue_append, decimalValue_append, decimalValue_zeros, decimalValue_digits hds,
        show decimalValue ['0'] = 0 from rfl, Nat.zero_mul, Nat.zero_mul, Nat.zero_add, Nat.zero_add]
    rw [hexp, hval]

/-- A whole number: zeros stand between the digits and the point. -/
lemma isOf_large (hzero : d.digits = 0 → d.exponent = 0) (hhigh : (ds.length : Int) ≤ point) :
    Numeral.IsOf ⟨ds ++ List.replicate (point - ds.length).toNat '0', ['0'], none⟩
      (ds ++ List.replicate (point - ds.length).toNat '0' ++ ['.', '0']) d := by
  have hwhole := isWhole_digits hds
  obtain ⟨k, hk⟩ : ∃ k : ℕ, d.exponent = k := ⟨d.exponent.toNat, by omega⟩
  rw [show (point - ds.length).toNat = k by omega]
  refine ⟨by simp [Numeral.chars, fractionText, exponentText],
    ⟨⟨by simp [hwhole.ne_nil], ?_, ?_⟩, by simp, by simp, .inl (by simp)⟩, ?_⟩
  · intro c hc
    rcases List.mem_append.mp hc with hc | hc
    · exact hwhole.digits c hc
    · rw [List.eq_of_mem_replicate hc]
      rfl
  · intro hhead
    rw [List.head?_append_of_ne_nil _ hwhole.ne_nil] at hhead
    have hdigits := decimalValue_digits hds
    rw [hwhole.zero hhead] at hdigits ⊢
    have hexp := hzero hdigits.symm
    obtain rfl : k = 0 := by omega
    rfl
  · have hval : decimalValue (ds ++ List.replicate k '0' ++ ['0']) = d.digits * 10 ^ (k + 1) := by
      rw [List.append_assoc, ← List.replicate_succ', decimalValue_append, decimalValue_zeros,
        decimalValue_digits hds, List.length_replicate, Nat.add_zero]
    rw [hval, hk]
    push_cast
    rw [mul_assoc, ← zpow_natCast, ← Number.ten_zpow_add]
    congr 2
    simp [exponentValue]

/-- A number with the point between its digits. -/
lemma isOf_middle (hlow : 0 < point) (hhigh : point < ds.length) :
    Numeral.IsOf ⟨ds.take point.toNat, ds.drop point.toNat, none⟩
      (ds.take point.toNat ++ '.' :: ds.drop point.toNat) d := by
  have hwhole := isWhole_digits hds
  have hne : ds.drop point.toNat ≠ [] := by
    rw [Ne, List.drop_eq_nil_iff]
    omega
  refine ⟨?_, ⟨hwhole.take (by omega), fun c hc => hwhole.digits c (List.mem_of_mem_drop hc),
    by simp, .inl hne⟩, ?_⟩
  · obtain ⟨c, cs, hcs⟩ := List.exists_cons_of_ne_nil hne
    simp only [Numeral.chars, hcs, fractionText, exponentText, List.append_nil]
  · have hexp : exponentValue none - ((ds.drop point.toNat).length : Int) = d.exponent := by
      simp only [exponentValue, List.length_drop]
      omega
    rw [hexp, List.take_append_drop, decimalValue_digits hds]

/-- A number with an exponent: the point stands behind the first digit. -/
lemma isOf_scientific {es : List Char} (hne : es ≠ []) (hes : ∀ c ∈ es, c.isDigit = true)
    (hval : decimalValue es = (point - 1).natAbs) :
    Numeral.IsOf ⟨ds.take 1, ds.drop 1, some (point - 1 < 0, es)⟩
      (ds.take 1 ++ fractionText (ds.drop 1) ++ ['e', if point - 1 < 0 then '-' else '+'] ++ es) d := by
  have hwhole := isWhole_digits hds
  have hlen : 0 < ds.length := List.length_pos_of_ne_nil hwhole.ne_nil
  refine ⟨by simp [Numeral.chars, exponentText], ⟨hwhole.take Nat.one_pos,
    fun c hc => hwhole.digits c (List.mem_of_mem_drop hc), ?_, .inr (by simp)⟩, ?_⟩
  · rintro _ ⟨⟩
    exact ⟨hne, hes⟩
  · have hexp : exponentValue (some (decide (point - 1 < 0), es)) - ((ds.drop 1).length : Int) =
        d.exponent := by
      simp only [exponentValue, hval, List.length_drop, decide_eq_true_eq]
      omega
    rw [hexp, List.take_append_drop, decimalValue_digits hds]

end

/-- An exponent of a single digit gets a zero in front of it. -/
lemma digits_padded {n : Nat} {es : List Char} (hes : (if (Number.digitsOf n).length < 2 then
    '0' :: Number.digitsOf n else Number.digitsOf n) = es) :
    es ≠ [] ∧ (∀ c ∈ es, c.isDigit = true) ∧ decimalValue es = n := by
  have hwhole : IsWhole (Number.digitsOf n) := isWhole_toDigits n
  have hval : decimalValue (Number.digitsOf n) = n := decimalValue_toDigits n
  split at hes
  · subst hes
    refine ⟨by simp, ?_, ?_⟩
    · simpa using hwhole.digits
    · rw [← List.singleton_append, decimalValue_append, hval]
      simp [decimalValue]
  · exact hes ▸ ⟨hwhole.ne_nil, hwhole.digits, hval⟩

/-- The text of a decimal is that of a number with its value. -/
lemma isOf_render (low high : Int) (d : Number.Decimal) (hzero : d.digits = 0 → d.exponent = 0) :
    ∃ n : Numeral, n.IsOf (d.render low high).toList d := by
  rw [Number.Decimal.render]
  generalize hds : Number.digitsOf d.digits = ds
  generalize hpoint : (ds.length : Int) + d.exponent = point
  have hwhole := isWhole_digits hds.symm
  dsimp only
  split
  · split
    · next hlow => exact ⟨_, by simpa using isOf_small hds.symm hpoint.symm hlow⟩
    · next hlow =>
      split
      · next hhigh => exact ⟨_, by simpa using isOf_large hds.symm hpoint.symm hzero hhigh⟩
      · next hhigh =>
        exact ⟨_, by simpa using isOf_middle hds.symm hpoint.symm (by omega) (by omega)⟩
  · obtain ⟨c, cs, rfl⟩ := List.exists_cons_of_ne_nil hwhole.ne_nil
    generalize hes : (if (Number.digitsOf (point - 1).natAbs).length < 2 then
      '0' :: Number.digitsOf (point - 1).natAbs else Number.digitsOf (point - 1).natAbs) = es
    obtain ⟨hne, hdigits, hval⟩ := digits_padded hes
    have h := isOf_scientific hds.symm hpoint.symm hne hdigits hval
    rw [String.toList_ofList]
    cases cs <;> exact ⟨_, h⟩

/-! ## Floating-point numbers -/

/-- The text of a number that is neither infinite nor undefined: that of a numeral, perhaps behind a
sign. -/
lemma floatText_finite {x : Float} (hnan : x.isNaN = false) (hinf : x.isInf = false) :
    ∃ (negative : Bool) (n : Numeral), n.Valid ∧
      (floatText x).toList = (if negative then ['-'] else []) ++ n.chars ∧
      let y := Number.floatOf (decimalValue (n.whole ++ n.places))
        (exponentValue n.exponent - n.places.length)
      (if negative then -y else y) = x := by
  obtain ⟨negative, d, htext, hzero, hread⟩ := Number.isTextOf_floatText hnan hinf
  obtain ⟨n, hchars, hvalid, hval⟩ := isOf_render (-4) 16 d hzero
  refine ⟨negative, n, hvalid, ?_, hread _ _ hval⟩
  rw [floatText, hnan, hinf, htext]
  simp only [Bool.false_eq_true, if_false, String.toList_append, hchars]
  cases negative <;> rfl

/-- What is written of a number is read as the number. -/
lemma number_floatText (b : Bounds) {x : Float} (hnan : x.isNaN = false) (hinf : x.isInf = false)
    {rest : List Char} (hrest : EndsNumber rest) (pos : Nat) :
    number b ⟨(floatText x).toList ++ rest, pos⟩ =
      .ok (.float x, ⟨rest, pos + (floatText x).toList.length⟩) := by
  obtain ⟨negative, n, hvalid, htext, hval⟩ := floatText_finite hnan hinf
  rw [htext, ← hval, number]
  cases negative with
  | true =>
    rw [if_pos (by simp)]
    show unsigned b true pos ⟨n.chars ++ rest, pos + 1⟩ = _
    rw [unsigned_chars b hvalid true pos hrest, if_pos rfl, if_pos rfl, List.length_append,
      List.length_singleton, Nat.add_assoc]
  | false =>
    obtain ⟨c, cs, hwhole⟩ := List.exists_cons_of_ne_nil hvalid.whole.ne_nil
    have hminus : (n.chars ++ rest).head? ≠ some '-' := by
      have hc := hvalid.whole.digits c (by simp [hwhole])
      rw [chars, hwhole]
      rintro ⟨⟩
      exact absurd hc (by decide)
    rw [if_neg Bool.false_ne_true, List.nil_append, if_neg hminus,
      unsigned_chars b hvalid false pos hrest]

/-- Of a number that is infinite or undefined a word is written. -/
lemma floatText_word {x : Float} (hx : x.isNaN = true ∨ x.isInf = true) :
    ((floatText x).toList, Value.float x) ∈ words := by
  rcases hx with hnan | hinf
  · have hx : x = 0.0 / 0.0 := by
      rw [Float.isNaN_eq_decide_eq_nan, decide_eq_true_eq] at hnan
      rw [hnan]
      rfl
    rw [floatText, if_pos hnan, hx]
    simp [words]
  · obtain ⟨s, hs⟩ : ∃ s, x.toModel.unpack = .infinity s := by
      have h : x.toModel.unpack.isInf = true := hinf
      cases hu : x.toModel.unpack with
      | infinity s => exact ⟨s, rfl⟩
      | _ => simp [hu, Float.Model.UnpackedFloat.isInf] at h
    rw [← Number.ofModel_pack hs]
    cases s with
    | positive =>
      rw [show Float.ofModel (Float.Model.pack (.infinity .positive)) = 1.0 / 0.0 from rfl,
        show floatText (1.0 / 0.0) = "Infinity" from rfl]
      simp [words]
    | negative =>
      rw [show Float.ofModel (Float.Model.pack (.infinity .negative)) = -1.0 / 0.0 from rfl,
        show floatText (-1.0 / 0.0) = "-Infinity" from rfl]
      simp [words]

/-! ## Numbers and words apart -/

/-- A text starts with a digit, perhaps behind a sign. -/
def StartsNumber (c : Char) (cs : List Char) : Prop :=
  c.isDigit = true ∨ c = '-' ∧ ∃ d ds, cs = d :: ds ∧ d.isDigit = true

lemma StartsNumber.ne {c : Char} {cs : List Char} (h : StartsNumber c cs) {x : Char}
    (hx : x.isDigit = false) (hminus : x ≠ '-') : c ≠ x := by
  rintro rfl
  rcases h with hc | ⟨rfl, -⟩
  · simp [hx] at hc
  · exact hminus rfl

lemma StartsNumber.append {c : Char} {cs : List Char} (h : StartsNumber c cs) (rest : List Char) :
    StartsNumber c (cs ++ rest) := by
  rcases h with hc | ⟨rfl, d, ds, rfl, hd⟩
  · exact .inl hc
  · exact .inr ⟨rfl, d, ds ++ rest, rfl, hd⟩

lemma startsNumber_toString (n : Int) : ∃ c cs, (toString n).toList = c :: cs ∧ StartsNumber c cs := by
  obtain ⟨d, ds, hds⟩ := List.exists_cons_of_ne_nil (toDigits_ne_nil n.natAbs)
  have hd : d.isDigit = true :=
    Nat.isDigit_of_mem_toDigits (by decide) (by decide) (hds ▸ List.mem_cons_self)
  rw [toList_toString, hds]
  by_cases hneg : n < 0
  · exact ⟨'-', d :: ds, by simp [hneg], .inr ⟨rfl, d, ds, rfl, hd⟩⟩
  · exact ⟨d, ds, by simp [hneg], .inl hd⟩

/-- A number is none of the words. -/
lemma find?_words {c : Char} {cs : List Char} (h : StartsNumber c cs) :
    words.find? (fun w => w.1.isPrefixOf (c :: cs)) = none := by
  have hfirst : ∀ x : Char, x.isDigit = false → x ≠ '-' → (x == c) = false :=
    fun x hx hminus => beq_false_of_ne (h.ne hx hminus).symm
  -- behind a sign there is a digit
  have hsign : '-' = c → ¬ ['I', 'n', 'f', 'i', 'n', 'i', 't', 'y'] <+: cs := by
    rintro rfl ⟨tail, rfl⟩
    rcases h with h | ⟨-, d, ds, hcs, hd⟩
    · exact absurd h (by decide)
    · cases hcs
      exact absurd hd (by decide)
  simpa [words, List.isPrefixOf, hfirst 'n' rfl (by decide), hfirst 't' rfl (by decide),
    hfirst 'f' rfl (by decide), hfirst 'N' rfl (by decide), hfirst 'I' rfl (by decide)] using hsign

lemma startsNumber_floatText {x : Float} (hnan : x.isNaN = false) (hinf : x.isInf = false) :
    ∃ c cs, (floatText x).toList = c :: cs ∧ StartsNumber c cs := by
  obtain ⟨negative, n, hvalid, htext, -⟩ := floatText_finite hnan hinf
  obtain ⟨c, cs, hwhole⟩ := List.exists_cons_of_ne_nil hvalid.whole.ne_nil
  have hc : c.isDigit = true := hvalid.whole.digits c (by simp [hwhole])
  rw [chars, hwhole] at htext
  cases negative with
  | true => exact ⟨'-', _, htext, .inr ⟨rfl, c, _, rfl, hc⟩⟩
  | false => exact ⟨c, _, htext, .inl hc⟩

lemma toString_ne_nil (n : Int) : (toString n).toList ≠ [] := by
  obtain ⟨c, cs, htext, -⟩ := startsNumber_toString n
  rw [htext]
  exact List.cons_ne_nil c cs

lemma floatText_ne_nil (x : Float) : (floatText x).toList ≠ [] := by
  by_cases hword : x.isNaN = true ∨ x.isInf = true
  · have hwords : ∀ w ∈ words.map (·.1), w ≠ [] := by simp [words]
    exact hwords _ (List.mem_map_of_mem (floatText_word hword))
  · simp only [not_or, Bool.not_eq_true] at hword
    obtain ⟨c, cs, htext, -⟩ := startsNumber_floatText hword.1 hword.2
    rw [htext]
    exact List.cons_ne_nil c cs

/-- A character that is neither blank nor the end of an array, nor the mark that some texts start
with. -/
def Plain (c : Char) : Prop := isBlank c = false ∧ c ≠ ']' ∧ c ≠ '\ufeff'

lemma plain_of_isDigit {c : Char} (h : c.isDigit = true) : Plain c := by
  have hne {x : Char} (hx : x.isDigit = false) : c ≠ x := by
    rintro rfl
    simp [hx] at h
  simp [Plain, isBlank, hne]

lemma plain_chars {n : Numeral} (hn : n.Valid) {c : Char} (hc : c ∈ n.chars) : Plain c := by
  simp only [chars, List.mem_append] at hc
  rcases hc with hc | hc | hc
  · exact plain_of_isDigit (hn.whole.digits c hc)
  · cases hp : n.places with
    | nil => simp [hp, fractionText] at hc
    | cons d ds =>
      rw [hp] at hc
      rcases List.mem_cons.mp hc with rfl | hc
      · simp [Plain, isBlank]
      · exact plain_of_isDigit (hn.places c (hp ▸ hc))
  · cases he : n.exponent with
    | none => simp [he, exponentText] at hc
    | some e =>
      obtain ⟨negative, es⟩ := e
      rw [he] at hc
      rcases List.mem_cons.mp hc with rfl | hc
      · simp [Plain, isBlank]
      · rcases List.mem_cons.mp hc with rfl | hc
        · cases negative <;> simp [Plain, isBlank]
        · exact plain_of_isDigit ((hn.exponent _ he).2 c hc)

lemma plain_words : ∀ w ∈ words.map (·.1), ∀ c ∈ w, Plain c := by
  simp [words, Plain, isBlank]

lemma plain_minus : Plain '-' := by
  simp [Plain, isBlank]

lemma plain_toString (n : Int) {c : Char} (hc : c ∈ (toString n).toList) : Plain c := by
  rw [toList_toString] at hc
  rcases List.mem_append.mp hc with hc | hc
  · split at hc
    · rw [List.mem_singleton.mp hc]
      exact plain_minus
    · cases hc
  · exact plain_of_isDigit ((isWhole_toDigits n.natAbs).digits c hc)

lemma plain_floatText (x : Float) {c : Char} (hc : c ∈ (floatText x).toList) : Plain c := by
  by_cases hword : x.isNaN = true ∨ x.isInf = true
  · exact plain_words _ (List.mem_map_of_mem (floatText_word hword)) c hc
  · simp only [not_or, Bool.not_eq_true] at hword
    obtain ⟨negative, n, hvalid, htext, -⟩ := floatText_finite hword.1 hword.2
    rw [htext] at hc
    rcases List.mem_append.mp hc with hc | hc
    · split at hc
      · rw [List.mem_singleton.mp hc]
        exact plain_minus
      · cases hc
    · exact plain_chars hvalid hc

end QualityGate.Json
