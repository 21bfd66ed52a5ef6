/-
# Strings in quotes

What is written of a string between quotes is read as the string (`stringTail_text`).  `Written`
lists the forms that a character can have there; each of them is read as the character
(`stringTail_written`), unless it is the first half of a pair of units and a second half follows.
-/
import Mathlib
import QualityGate.Json.Read
import QualityGate.Json.Write

namespace QualityGate.Json

/-! ## Units of sixteen bits -/

lemma hexValue?_digitChar : ∀ n < 16, hexValue? (Nat.digitChar n) = some n := by decide

/-- The digits of a unit, filled up from the left. -/
lemma unitEscape_eq {n : Nat} (h : n < 0x10000) :
    unitEscape n = ['\\', 'u', Nat.digitChar (n / 4096), Nat.digitChar (n / 256 % 16),
      Nat.digitChar (n / 16 % 16), Nat.digitChar (n % 16)] := by
  have hstep : ∀ m, Nat.toDigits 16 m = if m < 16 then [Nat.digitChar m]
      else Nat.toDigits 16 (m / 16) ++ [Nat.digitChar (m % 16)] :=
    fun m => Nat.toDigits_eq_if (by decide)
  have hzero : Nat.digitChar 0 = '0' := rfl
  simp only [unitEscape]
  rw [hstep n, hstep (n / 16), hstep (n / 16 / 16), hstep (n / 16 / 16 / 16)]
  by_cases h1 : n < 16
  · rw [if_pos h1, show n / 4096 = 0 by omega, show n / 256 % 16 = 0 by omega,
      show n / 16 % 16 = 0 by omega, show n % 16 = n by omega, hzero]
    rfl
  by_cases h2 : n / 16 < 16
  · rw [if_neg h1, if_pos h2, show n / 4096 = 0 by omega, show n / 256 % 16 = 0 by omega,
      show n / 16 % 16 = n / 16 by omega, hzero]
    rfl
  by_cases h3 : n / 16 / 16 < 16
  · rw [if_neg h1, if_neg h2, if_pos h3, show n / 4096 = 0 by omega,
      show n / 256 % 16 = n / 16 / 16 by omega, hzero]
    rfl
  · rw [if_neg h1, if_neg h2, if_neg h3, if_pos (by omega),
      show n / 4096 = n / 16 / 16 / 16 by omega, show n / 256 % 16 = n / 16 / 16 % 16 by omega]
    rfl

lemma hexQuad?_unitEscape {n : Nat} (h : n < 0x10000) (rest : List Char) :
    hexQuad? ((unitEscape n).drop 2 ++ rest) = some n := by
  rw [unitEscape_eq h]
  simp only [List.drop, List.cons_append, hexQuad?]
  rw [hexValue?_digitChar _ (by omega), hexValue?_digitChar _ (by omega),
    hexValue?_digitChar _ (by omega), hexValue?_digitChar _ (by omega)]
  simp only [Option.bind_eq_bind, Option.bind_some, Option.pure_def, Option.some.injEq]
  omega

/-! ## Characters in strings -/

/-- A character that stands for the first half of a pair of units. -/
def startsPair (c : Char) : Bool :=
  match Text.half? c with
  | some n => n < 0xDC00
  | none => false

/-- A character that stands for the second half of a pair of units. -/
def endsPair (c : Char) : Bool :=
  match Text.half? c with
  | some n => 0xDC00 ≤ n
  | none => false

/-- The forms that a character can have in a string. -/
inductive Written (c : Char) : List Char → Prop
  | plain : c ≠ '"' → c ≠ '\\' → 32 ≤ c.toNat → Written c [c]
  | escape {e : Char} : e ≠ 'u' → escape? e = some c → Written c ['\\', e]
  | unit {n : Nat} : n < 0x10000 → unitChar n = c → Written c (unitEscape n)
  | pair {n m : Nat} : 0xD800 ≤ n → n < 0xDC00 → 0xDC00 ≤ m → m < 0xE000 →
    Char.ofNat (0x10000 + (n - 0xD800) * 0x400 + (m - 0xDC00)) = c →
    Written c (unitEscape n ++ unitEscape m)

lemma toNat_lt (c : Char) : c.toNat < 0x110000 := by
  have := c.valid
  rw [UInt32.isValidChar, Nat.isValidChar] at this
  show c.val.toNat < _
  omega

lemma not_surrogate (c : Char) : c.toNat < 0xD800 ∨ 0xE000 ≤ c.toNat := by
  have := c.valid
  rw [UInt32.isValidChar, Nat.isValidChar] at this
  show c.val.toNat < _ ∨ _ ≤ c.val.toNat
  omega

lemma unitChar_toNat (c : Char) : unitChar c.toNat = c := by
  have h := not_surrogate c
  rw [unitChar, if_neg (by simp; omega), Char.ofNat_toNat]

lemma unitChar_half {c : Char} {n : Nat} (h : Text.half? c = some n) :
    unitChar n = c ∧ 0xD800 ≤ n ∧ n < 0xE000 := by
  rw [Text.half?] at h
  split at h
  · next hc =>
    rw [Bool.and_eq_true, decide_eq_true_eq, decide_eq_true_eq] at hc
    simp only [Text.halfBase, Text.halfCount] at hc
    cases h
    have hn : 0xD800 ≤ c.toNat - Text.halfBase + Text.firstHalf ∧
        c.toNat - Text.halfBase + Text.firstHalf < 0xE000 := by
      simp only [Text.halfBase, Text.firstHalf]
      omega
    refine ⟨?_, hn⟩
    rw [unitChar, if_pos (by simpa using hn), Text.halfChar, Nat.add_sub_cancel,
      Nat.sub_add_cancel (by simpa [Text.halfBase] using hc.1), Char.ofNat_toNat]
  · cases h

lemma written_escapeChar (ascii : Bool) (c : Char) : Written c (escapeChar ascii c) := by
  unfold escapeChar
  split
  -- the seven characters with escapes of their own
  any_goals exact .escape (by decide) (by decide)
  · next hquote hslash _ _ _ _ _ =>
    by_cases hctl : c.toNat < 32
    · rw [if_pos hctl]
      exact .unit (by omega) (unitChar_toNat c)
    rw [if_neg hctl]
    cases hhalf : Text.half? c with
    | some n =>
      obtain ⟨hn, hlow, hhigh⟩ := unitChar_half hhalf
      exact .unit (by omega) hn
    | none =>
      simp only
      by_cases ha : (ascii && decide (126 < c.toNat)) = true
      · rw [if_pos ha]
        by_cases hsmall : c.toNat < 0x10000
        · rw [if_pos hsmall]
          exact .unit hsmall (unitChar_toNat c)
        · rw [if_neg hsmall]
          have hc := toNat_lt c
          simp only [Text.firstUnit, Text.secondUnit]
          refine .pair (by omega) (by omega) (by omega) (by omega) ?_
          rw [show 0x10000 + (0xD800 + (c.toNat - 0x10000) / 0x400 - 0xD800) * 0x400 +
            (0xDC00 + (c.toNat - 0x10000) % 0x400 - 0xDC00) = c.toNat by omega, Char.ofNat_toNat]
      · rw [if_neg ha]
        exact .plain hquote hslash (by omega)

/-! ## Strings -/

/-- A text that does not start with the second half of a pair. -/
def Apart (tail : List Char) : Prop :=
  ∀ m, tail.take 2 = ['\\', 'u'] → hexQuad? (tail.drop 2) = some m → ¬ (0xDC00 ≤ m ∧ m < 0xE000)

lemma half?_unitChar {n : Nat} (h : 0xD800 ≤ n ∧ n < 0xE000) :
    Text.half? (unitChar n) = some n := by
  have hvalid : Nat.isValidChar (n - Text.firstHalf + Text.halfBase) := by
    simp only [Nat.isValidChar, Text.firstHalf, Text.halfBase]
    omega
  have hnat : (Text.halfChar n).toNat = n - Text.firstHalf + Text.halfBase := by
    rw [Text.halfChar, Char.toNat_ofNat, if_pos hvalid]
  have hrange : Text.halfBase ≤ n - Text.firstHalf + Text.halfBase ∧
      n - Text.firstHalf + Text.halfBase < Text.halfBase + Text.halfCount := by
    simp only [Text.firstHalf, Text.halfBase, Text.halfCount]
    omega
  rw [unitChar, if_pos (by simpa using h), Text.half?, hnat, if_pos (by simpa using hrange),
    Nat.add_sub_cancel, Nat.sub_add_cancel (show Text.firstHalf ≤ n from h.1)]

lemma stringTail_skip (start : Nat) : ∀ (xs tail : List Char) (pos : Nat),
    stringTail start (xs ++ tail) pos xs.length = stringTail start tail (pos + xs.length) 0
  | [], _, _ => rfl
  | _ :: xs, tail, pos => by
    rw [List.cons_append, List.length_cons, stringTail, stringTail_skip start xs tail (pos + 1),
      show pos + 1 + xs.length = pos + (xs.length + 1) by omega]

/-- Each form of a character is read as the character. -/
lemma stringTail_written {c : Char} {e : List Char} (h : Written c e) (start : Nat)
    {tail : List Char} (hapart : startsPair c = true → Apart tail) (pos : Nat) :
    stringTail start (e ++ tail) pos 0 =
      (stringTail start tail (pos + e.length) 0).map fun p => (c :: p.1, p.2) := by
  cases h with
  | plain hquote hslash hctl =>
    rw [List.cons_append, stringTail, if_neg hquote, if_neg hslash, if_neg (by omega)]
    rfl
  | @escape e hu he =>
    have hskip := stringTail_skip start [e] tail (pos + 1)
    rw [List.cons_append, stringTail, if_neg (by decide), if_pos rfl]
    simp only [List.cons_append, List.nil_append, List.head?_cons, hu, if_false, he]
    exact congrArg _ hskip
  | @unit n hn hc =>
    have hquad := hexQuad?_unitEscape hn tail
    have hskip := stringTail_skip start ((unitEscape n).drop 1) tail (pos + 1)
    rw [unitEscape_eq hn] at hquad hskip ⊢
    simp only [List.drop_succ_cons, List.drop_zero, List.cons_append, List.nil_append] at hquad hskip
    rw [List.cons_append, stringTail, if_neg (by decide), if_pos rfl]
    simp only [List.cons_append, List.nil_append, List.head?_cons, if_true, List.drop_succ_cons,
      List.drop_zero, hquad]
    have hkeep := congrArg (Except.map fun p => (unitChar n :: p.1, p.2)) hskip
    subst hc
    split
    · next hpair =>
      -- a second half would be read together with this first one
      simp only [Bool.and_eq_true, decide_eq_true_eq, beq_iff_eq] at hpair
      obtain ⟨⟨hlow, hhigh⟩, hnext⟩ := hpair
      have hfirst : startsPair (unitChar n) = true := by
        rw [startsPair, half?_unitChar ⟨hlow, by omega⟩]
        simpa using hhigh
      cases hm : hexQuad? (tail.drop 2) with
      | none => exact hkeep
      | some m =>
        have hno := hapart hfirst m hnext hm
        simp only
        rw [if_neg (by simpa using hno)]
        exact hkeep
    · exact hkeep
  | @pair n m hn hn' hm hm' hc =>
    have hquad := hexQuad?_unitEscape (show n < 0x10000 by omega) (unitEscape m ++ tail)
    have hquad' := hexQuad?_unitEscape (show m < 0x10000 by omega) tail
    have hskip := stringTail_skip start ((unitEscape n).drop 1 ++ unitEscape m) tail (pos + 1)
    rw [unitEscape_eq (show n < 0x10000 by omega), unitEscape_eq (show m < 0x10000 by omega)]
      at hquad hskip ⊢
    rw [unitEscape_eq (show m < 0x10000 by omega)] at hquad'
    simp only [List.drop_succ_cons, List.drop_zero, List.cons_append, List.nil_append]
      at hquad hquad' hskip
    rw [List.append_assoc, List.cons_append, stringTail, if_neg (by decide), if_pos rfl]
    simp only [List.cons_append, List.nil_append, List.head?_cons, if_true, List.drop_succ_cons,
      List.drop_zero, hquad, List.take_succ_cons, List.take_zero, hquad']
    rw [if_pos (by simp; omega), if_pos (by simp; omega), hc]
    exact congrArg (Except.map fun p => (c :: p.1, p.2)) hskip

lemma apart_quote (rest : List Char) : Apart ('"' :: rest) := by
  intro m h
  simp at h

lemma apart_written {c : Char} {e : List Char} (h : Written c e) (hc : endsPair c = false)
    (tail : List Char) : Apart (e ++ tail) := by
  cases h with
  | plain _ hslash _ =>
    intro m htake
    simp [hslash] at htake
  | escape hu _ =>
    intro m htake
    simp [hu] at htake
  | @unit n hn hunit =>
    intro m _ hm hrange
    rw [show (unitEscape n ++ tail).drop 2 = (unitEscape n).drop 2 ++ tail by
      rw [unitEscape_eq hn]; rfl, hexQuad?_unitEscape hn] at hm
    cases hm
    rw [← hunit, endsPair, half?_unitChar ⟨by omega, hrange.2⟩] at hc
    simp only [decide_eq_false_iff_not] at hc
    omega
  | @pair n k hn hn' _ _ _ =>
    intro m _ hm hrange
    rw [show ((unitEscape n ++ unitEscape k) ++ tail).drop 2 =
      (unitEscape n).drop 2 ++ (unitEscape k ++ tail) by
        rw [unitEscape_eq (show n < 0x10000 by omega)]; simp,
      hexQuad?_unitEscape (by omega)] at hm
    cases hm
    omega

/-- No first half of a pair stands before a second one. -/
def Unpaired (cs : List Char) : Prop :=
  cs.IsChain fun c c' => ¬ (startsPair c = true ∧ endsPair c' = true)

/-- What is written of a text between quotes is read as the text. -/
lemma stringTail_text (ascii : Bool) (start : Nat) (rest : List Char) :
    ∀ (cs : List Char) (pos : Nat), Unpaired cs →
      stringTail start (cs.flatMap (escapeChar ascii) ++ '"' :: rest) pos 0 =
        .ok (cs, ⟨rest, pos + ((cs.flatMap (escapeChar ascii)).length + 1)⟩)
  | [], pos, _ => by
    rw [List.flatMap_nil, List.nil_append, stringTail, if_pos rfl]
    rfl
  | c :: cs, pos, h => by
    have hcs : Unpaired cs := h.tail
    have hapart : startsPair c = true → Apart (cs.flatMap (escapeChar ascii) ++ '"' :: rest) := by
      intro hc
      cases cs with
      | nil => exact apart_quote rest
      | cons c' cs =>
        have hc' : endsPair c' = false := by
          have := (List.isChain_cons_cons.mp h).1
          simpa [hc] using this
        rw [List.flatMap_cons, List.append_assoc]
        exact apart_written (written_escapeChar ascii c') hc' _
    rw [List.flatMap_cons, List.append_assoc, stringTail_written (written_escapeChar ascii c) start
      hapart, stringTail_text ascii start rest cs _ hcs, List.length_append]
    simp only [Except.map]
    congr 3
    omega

end QualityGate.Json
