/-
# Reading UTF-8

The reader takes sequences of one to four bytes, and each of them is the form in which the character
that it stands for is written (`encode_sequence`).  So bytes are read as a text just if they are the
bytes of that text (`decodeUtf8_eq_ok_iff`), and a text written behind another one is read behind it
(`decodeUtf8_append`).
-/
import Mathlib
import QualityGate.Proofs.DiskWrite

namespace QualityGate.Text

/-! ## Bytes as a list -/

lemma toListLoop_eq (bytes : ByteArray) (i : Nat) (done : List UInt8) :
    ByteArray.toList.loop bytes i done = done.reverse ++ bytes.data.toList.drop i := by
  fun_induction ByteArray.toList.loop bytes i done with
  | case1 i done h ih =>
    have hi : i < bytes.data.toList.length := h
    rw [ih, List.reverse_cons, List.append_assoc, List.drop_eq_getElem_cons hi]
    exact congrArg (done.reverse ++ · :: bytes.data.toList.drop (i + 1)) (getElem!_pos bytes.data i h)
  | case2 i done h =>
    have hi : bytes.data.toList.length ≤ i := Nat.not_lt.mp h
    rw [List.drop_eq_nil_of_le hi, List.append_nil]

lemma toList_eq (bytes : ByteArray) : bytes.toList = bytes.data.toList := by
  rw [ByteArray.toList, toListLoop_eq, List.reverse_nil, List.nil_append, List.drop_zero]

lemma eq_toByteArray {bytes : ByteArray} {bs : List UInt8} (h : bytes.toList = bs) :
    bytes = bs.toByteArray := by
  rw [toList_eq, ← List.toList_data_toByteArray (l := bs)] at h
  exact ByteArray.ext (Array.toList_inj.mp h)

/-! ## Sequences -/

/-- The bytes that continue a whole sequence are of the right kind. -/
lemma exists_of_continuationCount {first : UInt8} {room : Nat} {bs : List UInt8}
    (h : continuationCount first (room + 1) bs = room + 1) :
    ∃ second more rest, bs = second :: (more ++ rest) ∧ isSecond first second = true ∧
      more.length = room ∧ ∀ b ∈ more, isContinuation b = true := by
  cases bs with
  | nil => simp [continuationCount] at h
  | cons second bs =>
    rw [continuationCount] at h
    split at h
    · simp at h
    · next hsecond =>
      simp only [Nat.add_one_ne_zero, decide_false, Bool.false_or, Bool.not_eq_true',
        Bool.not_eq_false] at hsecond
      have hlen : ((bs.take room).takeWhile isContinuation).length = room := by
        simpa [Nat.add_comm] using h
      have hle : (bs.take room).length ≤ room := List.length_take_le room bs
      have hall : (bs.take room).takeWhile isContinuation = bs.take room :=
        (List.takeWhile_prefix _).eq_of_length_le (by omega)
      refine ⟨second, bs.take room, bs.drop room, by rw [List.take_append_drop], hsecond,
        by rw [← hall]; exact hlen, fun b hb => ?_⟩
      rw [← hall] at hb
      exact List.mem_takeWhile_imp hb

lemma bounds_of_isContinuation {b : UInt8} (h : isContinuation b = true) :
    0x80 ≤ b.toNat ∧ b.toNat < 0xC0 := by
  simpa [isContinuation, UInt8.le_iff_toNat_le, UInt8.lt_iff_toNat_lt] using h

/-- The second byte keeps a sequence from being too long or standing for half a pair. -/
lemma bounds_of_isSecond {first b : UInt8} (h : isSecond first b = true) :
    (0x80 ≤ b.toNat ∧ b.toNat < 0xC0) ∧ (first.toNat = 0xE0 → 0xA0 ≤ b.toNat) ∧
      (first.toNat = 0xED → b.toNat < 0xA0) ∧ (first.toNat = 0xF0 → 0x90 ≤ b.toNat) ∧
      (first.toNat = 0xF4 → b.toNat < 0x90) := by
  have heq : ∀ n : UInt8, first.toNat = n.toNat → first = n := fun n hn => UInt8.toNat_inj.mp hn
  simp only [isSecond, Bool.and_eq_true, Bool.not_eq_true', Bool.and_eq_false_iff, beq_eq_false_iff_ne,
    decide_eq_false_iff_not, UInt8.lt_iff_toNat_lt, UInt8.le_iff_toNat_le] at h
  obtain ⟨⟨⟨⟨hc, h1⟩, h2⟩, h3⟩, h4⟩ := h
  refine ⟨bounds_of_isContinuation hc, fun hf => ?_, fun hf => ?_, fun hf => ?_, fun hf => ?_⟩
  · exact Nat.not_lt.mp (h1.resolve_left (not_not_intro (heq 0xE0 hf)))
  · exact Nat.not_le.mp (h2.resolve_left (not_not_intro (heq 0xED hf)))
  · exact Nat.not_lt.mp (h3.resolve_left (not_not_intro (heq 0xF0 hf)))
  · exact Nat.not_le.mp (h4.resolve_left (not_not_intro (heq 0xF4 hf)))

lemma ofNat_eq_of_toNat {b : UInt8} {n : Nat} (h : n = b.toNat) : UInt8.ofNat n = b := by
  rw [h, UInt8.ofNat_toNat]

lemma val_ofNat {n : Nat} (h : n.isValidChar) : (Char.ofNat n).val.toNat = n := by
  have htoNat := Char.toNat_ofNat n
  rwa [if_pos h] at htoNat

lemma encode_one {b : UInt8} (h : b.toNat < 0x80) :
    String.utf8EncodeChar (Char.ofNat (leadBits 1 b)) = [b] := by
  have hvalid : b.toNat.isValidChar := .inl (by omega)
  have hval := val_ofNat hvalid
  simp only [leadBits, String.utf8EncodeChar, hval, if_pos (show b.toNat ≤ 0x7f by omega)]
  rw [ofNat_eq_of_toNat rfl]

lemma encode_two {b x : UInt8} (hb : 0xC2 ≤ b.toNat ∧ b.toNat < 0xE0)
    (hx : 0x80 ≤ x.toNat ∧ x.toNat < 0xC0) :
    String.utf8EncodeChar (Char.ofNat (appendBits (leadBits 2 b) x)) = [b, x] := by
  simp only [leadBits, appendBits]
  generalize hv : b.toNat % 32 * 64 + x.toNat % 64 = v
  have hvalid : v.isValidChar := .inl (by omega)
  have hval := val_ofNat hvalid
  simp only [String.utf8EncodeChar, hval]
  rw [if_neg (by omega), if_pos (by omega), ofNat_eq_of_toNat (b := b) (by omega),
    ofNat_eq_of_toNat (b := x) (by omega)]

lemma encode_three {b x y : UInt8} (hb : 0xE0 ≤ b.toNat ∧ b.toNat < 0xF0)
    (hx : isSecond b x = true) (hy : 0x80 ≤ y.toNat ∧ y.toNat < 0xC0) :
    String.utf8EncodeChar (Char.ofNat (appendBits (appendBits (leadBits 3 b) x) y)) = [b, x, y] := by
  obtain ⟨hxc, hlow, hhalf, -, -⟩ := bounds_of_isSecond hx
  simp only [leadBits, appendBits]
  generalize hv : (b.toNat % 16 * 64 + x.toNat % 64) * 64 + y.toNat % 64 = v
  have hvalid : v.isValidChar := by
    rcases Nat.lt_or_ge b.toNat 0xED with h | h
    · exact .inl (by omega)
    · rcases Nat.eq_or_lt_of_le h with h | h
      · exact .inl (by have := hhalf h.symm; omega)
      · exact .inr ⟨by omega, by omega⟩
  have hval := val_ofNat hvalid
  simp only [String.utf8EncodeChar, hval]
  have hlong : 0x7ff < v := by
    rcases Nat.eq_or_lt_of_le hb.1 with h | h
    · have := hlow h.symm
      omega
    · omega
  rw [if_neg (by omega), if_neg (by omega), if_pos (by omega), ofNat_eq_of_toNat (b := b) (by omega),
    ofNat_eq_of_toNat (b := x) (by omega), ofNat_eq_of_toNat (b := y) (by omega)]

lemma encode_four {b x y z : UInt8} (hb : 0xF0 ≤ b.toNat ∧ b.toNat < 0xF5)
    (hx : isSecond b x = true) (hy : 0x80 ≤ y.toNat ∧ y.toNat < 0xC0)
    (hz : 0x80 ≤ z.toNat ∧ z.toNat < 0xC0) :
    String.utf8EncodeChar (Char.ofNat (appendBits (appendBits (appendBits (leadBits 4 b) x) y) z)) =
      [b, x, y, z] := by
  obtain ⟨hxc, -, -, hlow, hhigh⟩ := bounds_of_isSecond hx
  simp only [leadBits, appendBits]
  generalize hv : ((b.toNat % 8 * 64 + x.toNat % 64) * 64 + y.toNat % 64) * 64 + z.toNat % 64 = v
  have hlong : 0xffff < v := by
    rcases Nat.eq_or_lt_of_le hb.1 with h | h
    · have := hlow h.symm
      omega
    · omega
  have hvalid : v.isValidChar := by
    refine .inr ⟨by omega, ?_⟩
    rcases Nat.lt_or_ge b.toNat 0xF4 with h | h
    · omega
    · have := hhigh (by omega)
      omega
  have hval := val_ofNat hvalid
  simp only [String.utf8EncodeChar, hval]
  rw [if_neg (by omega), if_neg (by omega), if_neg (by omega), ofNat_eq_of_toNat (b := b) (by omega),
    ofNat_eq_of_toNat (b := x) (by omega), ofNat_eq_of_toNat (b := y) (by omega),
    ofNat_eq_of_toNat (b := z) (by omega)]

/-- The first byte says how many there are. -/
lemma sequenceLength_cases {b : UInt8} {n : Nat} (h : sequenceLength b = some n) :
    n = 1 ∧ b.toNat < 0x80 ∨ n = 2 ∧ 0xC2 ≤ b.toNat ∧ b.toNat < 0xE0 ∨
      n = 3 ∧ 0xE0 ≤ b.toNat ∧ b.toNat < 0xF0 ∨ n = 4 ∧ 0xF0 ≤ b.toNat ∧ b.toNat < 0xF5 := by
  simp only [sequenceLength, UInt8.lt_iff_toNat_lt, UInt8.reduceToNat] at h
  repeat' split at h
  all_goals cases h
  all_goals omega

/-- A whole sequence is the form in which its character is written. -/
lemma encode_sequence {b : UInt8} {n : Nat} {bs : List UInt8} (hn : sequenceLength b = some n)
    (hk : continuationCount b (n - 1) bs + 1 = n) :
    String.utf8EncodeChar (Char.ofNat ((bs.take (n - 1)).foldl appendBits (leadBits n b))) =
      b :: bs.take (n - 1) := by
  rcases sequenceLength_cases hn with ⟨rfl, hb⟩ | ⟨rfl, hb⟩ | ⟨rfl, hb⟩ | ⟨rfl, hb⟩
  · simpa using encode_one hb
  · have hk : continuationCount b (0 + 1) bs = 0 + 1 := Nat.succ.inj hk
    obtain ⟨x, more, rest, rfl, hx, hlen, -⟩ := exists_of_continuationCount hk
    obtain rfl := List.length_eq_zero_iff.mp hlen
    simpa using encode_two hb (bounds_of_isSecond hx).1
  · have hk : continuationCount b (1 + 1) bs = 1 + 1 := Nat.succ.inj hk
    obtain ⟨x, more, rest, rfl, hx, hlen, hmore⟩ := exists_of_continuationCount hk
    obtain ⟨y, rfl⟩ := List.length_eq_one_iff.mp hlen
    simpa using encode_three hb hx (bounds_of_isContinuation (hmore y (by simp)))
  · have hk : continuationCount b (2 + 1) bs = 2 + 1 := Nat.succ.inj hk
    obtain ⟨x, more, rest, rfl, hx, hlen, hmore⟩ := exists_of_continuationCount hk
    obtain ⟨y, z, rfl⟩ := List.length_eq_two.mp hlen
    simpa using encode_four hb hx (bounds_of_isContinuation (hmore y (by simp)))
      (bounds_of_isContinuation (hmore z (by simp)))

/-! ## Texts -/

/-- What is read without a fault is the form in which the characters are written. -/
lemma exists_of_decodeFrom {fuel pos : Nat} {done cs : List Char} {bs : List UInt8}
    (h : decodeFrom fuel pos done bs = .ok cs) (hfuel : bs.length ≤ fuel) :
    ∃ more, cs = done.reverse ++ more ∧ bs = more.flatMap String.utf8EncodeChar := by
  fun_induction decodeFrom fuel pos done bs with
  | case1 pos done bs =>
    obtain rfl := List.length_eq_zero_iff.mp (Nat.le_zero.mp hfuel)
    exact ⟨[], by simpa using (Except.ok.inj h).symm, rfl⟩
  | case2 fuel pos done _ => exact ⟨[], by simpa using (Except.ok.inj h).symm, rfl⟩
  | case3 => cases h
  | case4 fuel pos done b bs n hn k hk ih =>
    have hk' : k = n - 1 := by omega
    have hroom : (bs.drop k).length ≤ fuel := by
      simp only [List.length_drop, List.length_cons] at hfuel ⊢
      omega
    obtain ⟨more, rfl, hmore⟩ := ih h hroom
    refine ⟨_ :: more, by rw [List.reverse_cons, List.append_assoc]; rfl, ?_⟩
    rw [List.flatMap_cons, ← hmore, hk', encode_sequence hn hk, List.cons_append,
      List.take_append_drop]
  | case5 => cases h

/-- **Reading UTF-8.**  Bytes are read as a text just if they are the bytes of the text. -/
lemma decodeUtf8_eq_ok_iff {bytes : ByteArray} {text : String} :
    decodeUtf8 bytes = .ok text ↔ bytes = text.toUTF8 := by
  constructor
  · intro h
    rw [decodeUtf8] at h
    by_cases hvalid : bytes.IsValidUTF8
    · simp only [String.fromUTF8?, dif_pos hvalid] at h
      rw [← Except.ok.inj h]
      rfl
    · -- without a fault the bytes would be those of the characters
      simp only [String.fromUTF8?, dif_neg hvalid] at h
      cases hread : decodeFrom bytes.size 0 [] bytes.toList with
      | error f => simp [hread, Except.map] at h
      | ok cs =>
        have hsize : bytes.toList.length ≤ bytes.size := by
          rw [toList_eq]
          exact le_refl _
        obtain ⟨more, -, hmore⟩ := exists_of_decodeFrom hread hsize
        exact absurd ⟨more, eq_toByteArray hmore⟩ hvalid
  · rintro rfl
    exact Disk.decodeUtf8_toUTF8 text

/-- A text that is written behind another one is read behind it. -/
lemma decodeUtf8_append {bytes : ByteArray} {text : String} (h : decodeUtf8 bytes = .ok text)
    (more : String) : decodeUtf8 (bytes ++ more.toUTF8) = .ok (text ++ more) := by
  rw [decodeUtf8_eq_ok_iff] at h ⊢
  rw [h]
  simp only [String.toUTF8_eq_toByteArray, String.toByteArray_append]

end QualityGate.Text
