/-
# The texts that a watcher takes for functions

In a Python file the functions are pieces of the text: each goes from its head to the next one.  In a
script the text of a function is followed from a place on, and its braces are counted.

* `flatten_cutAt`, `flatMap_countedLines`: pieces that start at increasing places, each at the start
  of a line, put the text together again, and each line that counts is in one of them;
* `scanned_bracedFrom`: what the count of braces knows of the text that has been read;
* `splitUnits_dropUnits`, `splitUnits_bracedFrom`: reading by characters is reading by units of
  sixteen bits.
-/
import Mathlib
import QualityGate.Proofs.WatcherHeads

namespace QualityGate.Watch

open Text

/-! ## Pieces of a text -/

/-- Each head starts behind the one before it. -/
lemma start_headsFrom (lineStart : Bool) (n : Nat) (cs : List Char) :
    (∀ h ∈ headsFrom lineStart n cs, n ≤ h.start) ∧
      (headsFrom lineStart n cs).Pairwise fun a b => a.start < b.start := by
  fun_induction headsFrom lineStart n cs with
  | case1 => simp
  | case2 lineStart n c rest name after _ hshorter ih =>
    obtain ⟨hle, hpairwise⟩ := ih
    have hlater : ∀ h ∈ headsFrom false (n + ((c :: rest).length - after.length)) after,
        n < h.start := fun h hh => by
      have hstart := hle h hh
      omega
    refine ⟨?_, List.pairwise_cons.mpr ⟨hlater, hpairwise⟩⟩
    rintro h (_ | ⟨_, hh⟩)
    · exact le_rfl
    · exact (hlater h hh).le
  | case3 => simp
  | case4 lineStart n c rest _ ih =>
    exact ⟨fun h hh => Nat.le_of_succ_le (ih.1 h hh), ih.2⟩

/-- A line that is neither blank nor starts with a comment mark. -/
def counts (mark : String) (line : List Char) : Bool :=
  !(stripSpaces line).isEmpty && !mark.toList.isPrefixOf (stripSpaces line)

/-- The lines of a text that count. -/
def countedLines (mark : String) (cs : List Char) : List (List Char) :=
  (splitAtNewlines cs).filter (counts mark)

lemma codeLines_eq (mark : String) (cs : List Char) :
    codeLines mark cs = (countedLines mark cs).length := rfl

/-- A text that ends with a line has no part in the first line of what follows it. -/
lemma countedLines_append (mark : String) {xs : List Char} (ys : List Char)
    (hxs : ∀ c, xs.getLast? = some c → c = '\n') :
    countedLines mark (xs ++ ys) = countedLines mark xs ++ countedLines mark ys := by
  have hnil : countedLines mark [] = [] := rfl
  rcases List.eq_nil_or_concat xs with rfl | ⟨zs, c, rfl⟩
  · rw [List.nil_append, hnil, List.nil_append]
  · rw [List.concat_eq_append] at hxs ⊢
    obtain rfl : c = '\n' := hxs c List.getLast?_concat
    have hend : countedLines mark (zs ++ ['\n']) = countedLines mark zs ++ countedLines mark [] := by
      rw [countedLines, splitAtNewlines_append, List.filter_append]
      rfl
    rw [hend, hnil, List.append_nil, List.append_assoc, List.singleton_append, countedLines,
      splitAtNewlines_append, List.filter_append]
    rfl

section

variable {cs : List Char} {h : Head} {hs : List Head}

/-- The piece from one place to another, and the rest. -/
lemma drop_take_append_drop {m n : Nat} (hmn : m ≤ n) :
    (cs.take n).drop m ++ cs.drop n = cs.drop m := by
  obtain ⟨k, rfl⟩ := Nat.exists_eq_add_of_le hmn
  rw [List.drop_take, Nat.add_sub_cancel_left, ← List.drop_drop, List.take_append_drop]

/-- The pieces put together are the text from the first head on. -/
lemma flatten_cutAt (hstarts : (h :: hs).Pairwise fun a b => a.start < b.start) :
    ((cutAt cs (h :: hs)).map Segment.text).flatten = cs.drop h.start := by
  induction hs generalizing h with
  | nil => simp [cutAt]
  | cons next more ih =>
    obtain ⟨hfirst, hrest⟩ := List.pairwise_cons.mp hstarts
    rw [cutAt, List.map_cons, List.flatten_cons, ih hrest,
      drop_take_append_drop (hfirst next List.mem_cons_self).le]

/-- Each piece is what stands in the text from its start on. -/
lemma prefix_of_mem_cutAt {s : Segment} :
    ∀ {hs : List Head}, s ∈ cutAt cs hs → s.text <+: cs.drop s.start
  | [], hs => by simp [cutAt] at hs
  | [h], hs => by
    obtain rfl := List.mem_singleton.mp hs
    exact List.prefix_rfl
  | h :: next :: more, hs => by
    rw [cutAt] at hs
    rcases List.mem_cons.mp hs with rfl | hs
    · show (cs.take next.start).drop h.start <+: cs.drop h.start
      rw [List.drop_take]
      exact List.take_prefix _ _
    · exact prefix_of_mem_cutAt hs

/-- The lines that count in the pieces are those of the text from the first head on, if each head is
at the start of a line. -/
lemma flatMap_countedLines (mark : String)
    (hstarts : (h :: hs).Pairwise fun a b => a.start < b.start)
    (hlines : ∀ h' ∈ hs, ∀ c, (cs.take h'.start).getLast? = some c → c = '\n') :
    (cutAt cs (h :: hs)).flatMap (fun s => countedLines mark s.text) =
      countedLines mark (cs.drop h.start) := by
  induction hs generalizing h with
  | nil => simp [cutAt]
  | cons next more ih =>
    obtain ⟨hfirst, hrest⟩ := List.pairwise_cons.mp hstarts
    have hend : ∀ c, ((cs.take next.start).drop h.start).getLast? = some c → c = '\n' := by
      intro c hc
      rw [List.getLast?_drop] at hc
      split at hc
      · cases hc
      · exact hlines next List.mem_cons_self c hc
    rw [cutAt, List.flatMap_cons, ih hrest fun h' hh => hlines h' (List.mem_cons_of_mem _ hh),
      ← countedLines_append mark _ hend, drop_take_append_drop (hfirst next List.mem_cons_self).le]

lemma map_start_segments (cs : List Char) : (segments cs).map Segment.start = (heads cs).map Head.start := by
  have hmap := congrArg (List.map fun t : String × Nat × Nat => t.2.1) (map_cutAt cs (heads cs))
  simpa [List.map_map, Function.comp_def, segments] using hmap

/-- A head starts at the start of a line. -/
lemma lineStart_of_mem_heads (hplain : ∀ c ∈ cs, isLineEnd c = true → c = '\n') (hh : h ∈ heads cs)
    {c : Char} (hc : (cs.take h.start).getLast? = some c) : c = '\n' := by
  obtain ⟨k, hat⟩ := (heads_spec cs).1 h hh
  exact hplain c (List.mem_of_mem_take (List.mem_of_getLast? hc)) (hat.lead.start c hc)

end

/-- In a text with one kind of line end the functions are pieces that lie one behind the other, each
from the start of a line on.  Put together they are the text from the first one on, so each line there
that is neither blank nor a comment counts for one of them. -/
theorem segments_tile {cs : List Char} (hplain : ∀ c ∈ cs, isLineEnd c = true → c = '\n') :
    ((segments cs).map Segment.start).Pairwise (· < ·) ∧
      (∀ s ∈ segments cs, s.text <+: cs.drop s.start ∧
        ∀ c, (cs.take s.start).getLast? = some c → c = '\n') ∧
      ∀ first, (segments cs).head? = some first →
        ((segments cs).map Segment.text).flatten = cs.drop first.start ∧
        (segments cs).flatMap (fun s => countedLines "#" s.text) =
          countedLines "#" (cs.drop first.start) ∧
        ((segments cs).map fun s => codeLines "#" s.text).sum =
          codeLines "#" (cs.drop first.start) := by
  have hstarts := (start_headsFrom true 0 cs).2
  have hlines : ∀ h ∈ heads cs, ∀ c, (cs.take h.start).getLast? = some c → c = '\n' :=
    fun h hh c hc => lineStart_of_mem_heads hplain hh hc
  refine ⟨?_, fun s hs => ⟨prefix_of_mem_cutAt hs, ?_⟩, fun first hfirst => ?_⟩
  · rw [map_start_segments, List.pairwise_map]
    exact hstarts
  · obtain ⟨h, hh, -, hstart, -⟩ := exists_head hs
    rw [hstart]
    exact hlines h hh
  · cases hheads : heads cs with
    | nil => simp [segments, hheads, cutAt] at hfirst
    | cons h hs =>
      have hcut : segments cs = cutAt cs (h :: hs) := congrArg (cutAt cs) hheads
      have hstart : first.start = h.start := by
        have hmap := congrArg List.head? (map_start_segments cs)
        rw [List.head?_map, hfirst, hheads] at hmap
        simpa using hmap
      have hordered : (h :: hs).Pairwise fun a b => a.start < b.start := hheads ▸ hstarts
      have hcounted : (cutAt cs (h :: hs)).flatMap (fun s => countedLines "#" s.text) =
          countedLines "#" (cs.drop h.start) :=
        flatMap_countedLines "#" hordered fun h' hh =>
          hlines h' (hheads ▸ List.mem_cons_of_mem h hh)
      rw [hcut, hstart]
      refine ⟨flatten_cutAt hordered, hcounted, ?_⟩
      rw [codeLines_eq, ← hcounted, List.length_flatMap]
      rfl

/-- Two functions, with lines above, between and in them that do not count. -/
def twoFunctions : String := "x\n\ndef f():\n #\n 0\n\ndef g():0"

lemma segments_twoFunctions : segments twoFunctions.toList =
    [⟨"f", 2, 2, "\ndef f():\n #\n 0\n".toList⟩, ⟨"g", 18, 6, "\ndef g():0".toList⟩] := by
  decide +kernel

theorem segments_tile_twoFunctions :
    (∀ c ∈ twoFunctions.toList, isLineEnd c = true → c = '\n') ∧
      ((segments twoFunctions.toList).map fun s => codeLines "#" s.text).sum =
        codeLines "#" (twoFunctions.toList.drop 2) ∧
      codeLines "#" (twoFunctions.toList.drop 2) = 3 := by
  have hplain : ∀ c ∈ twoFunctions.toList, isLineEnd c = true → c = '\n' := by
    simp [twoFunctions, isLineEnd]
  have hfirst : (segments twoFunctions.toList).head? =
      some ⟨"f", 2, 2, "\ndef f():\n #\n 0\n".toList⟩ := by rw [segments_twoFunctions]; rfl
  exact ⟨hplain, ((segments_tile hplain).2.2 _ hfirst).2.2, by decide⟩

end QualityGate.Watch

namespace QualityGate.Text

/-! ## Units -/

variable {n : Nat} {c : Char}

lemma toNat_halfChar (h : firstHalf ≤ n ∧ n < firstHalf + halfCount) :
    (halfChar n).toNat = n - firstHalf + halfBase := by
  have hvalid : (n - firstHalf + halfBase).isValidChar := by
    refine .inr ?_
    simp only [firstHalf, halfBase, halfCount] at h ⊢
    omega
  rw [halfChar, Char.toNat_ofNat, if_pos hvalid]

lemma units_halfChar (h : firstHalf ≤ n ∧ n < firstHalf + halfCount) : units (halfChar n) = 1 := by
  have hrange : halfBase ≤ (halfChar n).toNat ∧ (halfChar n).toNat < halfBase + halfCount := by
    rw [toNat_halfChar h]
    omega
  have hhalf : (half? (halfChar n)).isSome = true := by
    rw [half?, if_pos (by simpa using hrange), Option.isSome_some]
  rw [units, if_pos hhalf, ite_self]

lemma halfChar_ne (h : firstHalf ≤ n ∧ n < firstHalf + halfCount) (hc : c.toNat < halfBase) :
    halfChar n ≠ c := by
  rintro rfl
  rw [toNat_halfChar h] at hc
  omega

lemma units_eq (c : Char) : units c = 1 ∨ units c = 2 := by
  rw [units]
  split
  · exact .inl rfl
  · split
    · exact .inl rfl
    · exact .inr rfl

/-- The units of a character that takes two are halves. -/
lemma halves_of_units (h : units c = 2) :
    (firstHalf ≤ firstUnit c ∧ firstUnit c < firstHalf + halfCount) ∧
      firstHalf ≤ secondUnit c ∧ secondUnit c < firstHalf + halfCount := by
  have hlarge : 0x10000 ≤ c.toNat := by
    by_contra hsmall
    rw [units, if_pos (by omega)] at h
    cases h
  have hvalid : c.toNat < 0x110000 := by
    rcases c.valid with hc | hc
    · exact lt_of_lt_of_le hc (by decide)
    · exact hc.2
  simp only [firstHalf, halfCount, firstUnit, secondUnit]
  omega

lemma splitUnits_of_one {cs : List Char} (h : units c = 1) :
    splitUnits (c :: cs) = c :: splitUnits cs := by
  rw [splitUnits, List.flatMap_cons, if_neg (by omega)]
  rfl

lemma splitUnits_of_two {cs : List Char} (h : units c = 2) :
    splitUnits (c :: cs) = halfChar (firstUnit c) :: halfChar (secondUnit c) :: splitUnits cs := by
  rw [splitUnits, List.flatMap_cons, if_pos h]
  rfl

/-- Units are left out one by one. -/
lemma splitUnits_dropUnits (n : Nat) (cs : List Char) :
    splitUnits (dropUnits n cs) = (splitUnits cs).drop n := by
  fun_induction dropUnits n cs with
  | case1 => rfl
  | case2 => simp [splitUnits]
  | case3 c cs n hone ih => rw [ih, splitUnits_of_one hone, List.drop_succ_cons]
  | case4 c cs hone =>
    have htwo := (units_eq c).resolve_left hone
    rw [splitUnits_of_one (units_halfChar (halves_of_units htwo).2), splitUnits_of_two htwo]
    rfl
  | case5 c cs hone m ih =>
    rw [ih, splitUnits_of_two ((units_eq c).resolve_left hone), List.drop_succ_cons,
      List.drop_succ_cons]

end QualityGate.Text

namespace QualityGate.Watch

open Text

/-! ## Braces -/

/-- Braces are units, and the halves of other characters are no braces. -/
lemma splitUnits_bracedFrom (opened : Bool) (depth : Int) (cs : List Char) :
    splitUnits (bracedFrom opened depth cs) = bracedFrom opened depth (splitUnits cs) := by
  induction cs generalizing opened depth with
  | nil => rfl
  | cons c cs ih =>
    rcases units_eq c with hone | htwo
    · rw [splitUnits_of_one hone, bracedFrom, bracedFrom]
      split
      · rw [splitUnits_of_one hone, ih]
      · split
        · split
          · rw [splitUnits_of_one hone]
            rfl
          · rw [splitUnits_of_one hone, ih]
        · rw [splitUnits_of_one hone, ih]
    · obtain ⟨hfirst, hsecond⟩ := halves_of_units htwo
      have hbrace : c ≠ '\x7b' ∧ c ≠ '\x7d' := by
        constructor <;> rintro rfl <;> cases htwo
      have hskip : ∀ n rest, firstHalf ≤ n ∧ n < firstHalf + halfCount →
          bracedFrom opened depth (halfChar n :: rest) =
            halfChar n :: bracedFrom opened depth rest := fun n rest hn => by
        rw [bracedFrom, if_neg (halfChar_ne hn (by decide)), if_neg (halfChar_ne hn (by decide))]
      rw [splitUnits_of_two htwo, hskip _ _ hfirst, hskip _ _ hsecond, bracedFrom, if_neg hbrace.1,
        if_neg hbrace.2, splitUnits_of_two htwo, ih]

/-- A text that ends with the brace that makes as many closed as opened, at least one. -/
structure Closed (p : List Char) : Prop where
  ends : p.getLast? = some '\x7d'
  opened : '\x7b' ∈ p
  balanced : p.count '\x7b' = p.count '\x7d'

/-- When `read` has been read, `p` is what is taken of the rest: up to the first place where all of
it is closed, or to the end. -/
structure Scanned (read rest p : List Char) : Prop where
  isPrefix : p <+: rest
  complete : Closed (read ++ p) ∨ p = rest
  shortest : ∀ q, q <+: rest → Closed (read ++ q) → p <+: q

section

variable {read cs p : List Char} {c : Char}

lemma Closed.of_concat (h : Closed (read ++ [c])) : c = '\x7d' := by
  simpa using h.ends

/-- A text is closed by a brace when one more has been opened than closed. -/
lemma closed_concat_iff : Closed (read ++ ['\x7d']) ↔
    '\x7b' ∈ read ∧ (read.count '\x7b' : Int) - read.count '\x7d' = 1 := by
  have hopen : (read ++ ['\x7d']).count '\x7b' = read.count '\x7b' := by simp
  have hclose : (read ++ ['\x7d']).count '\x7d' = read.count '\x7d' + 1 := by simp
  constructor
  · intro h
    have hbalanced := h.balanced
    rw [hopen, hclose] at hbalanced
    exact ⟨by simpa using h.opened, by omega⟩
  · rintro ⟨hmem, hone⟩
    refine ⟨by simp, by simp [hmem], ?_⟩
    rw [hopen, hclose]
    omega

/-- A text that is not closed is read on by one character. -/
lemma Scanned.cons (h : Scanned (read ++ [c]) cs p) (hread : ¬ Closed read) :
    Scanned read (c :: cs) (c :: p) where
  isPrefix := List.cons_prefix_cons.mpr ⟨rfl, h.isPrefix⟩
  complete := h.complete.imp (fun hclosed => by simpa using hclosed) fun hall => by rw [hall]
  shortest q hq hclosed := by
    rcases List.prefix_cons_iff.mp hq with rfl | ⟨t, rfl, ht⟩
    · exact absurd (by simpa using hclosed) hread
    · exact List.cons_prefix_cons.mpr ⟨rfl, h.shortest t ht (by simpa using hclosed)⟩

/-- A character that closes the text is the last that is read. -/
lemma Scanned.close (h : Closed (read ++ [c])) (hread : ¬ Closed read) :
    Scanned read (c :: cs) [c] where
  isPrefix := by simp
  complete := .inl h
  shortest q hq hclosed := by
    rcases List.prefix_cons_iff.mp hq with rfl | ⟨t, rfl, -⟩
    · exact absurd (by simpa using hclosed) hread
    · simp

/-- The invariant of the count of braces: the flag tells whether a brace has been opened in the text
that has been read, and the count how many more have been opened there than closed. -/
lemma scanned_bracedFrom {opened : Bool} {depth : Int} (hread : ¬ Closed read)
    (hopened : opened = true ↔ '\x7b' ∈ read)
    (hdepth : depth = (read.count '\x7b' : Int) - read.count '\x7d') :
    Scanned read cs (bracedFrom opened depth cs) := by
  induction cs generalizing read opened depth with
  | nil => exact ⟨List.prefix_rfl, .inr rfl, fun q _ _ => List.nil_prefix⟩
  | cons c cs ih =>
    rw [bracedFrom]
    split
    · next hc =>
      subst hc
      refine .cons (ih (fun h => absurd h.of_concat (by decide)) (by simp) ?_) hread
      rw [hdepth, List.count_append, List.count_append]
      simp
      omega
    · next hopen =>
      split
      · next hc =>
        subst hc
        have hclosed : Closed (read ++ ['\x7d']) ↔ (opened && decide (depth = 1)) = true := by
          rw [closed_concat_iff, Bool.and_eq_true, decide_eq_true_eq, hopened, hdepth]
        split
        · next hlast => exact .close (hclosed.mpr hlast) hread
        · next hlast =>
          refine .cons (ih (fun h => hlast (hclosed.mp h)) (by simpa using hopened) ?_) hread
          rw [hdepth, List.count_append, List.count_append]
          simp
          omega
      · next hclose =>
        refine .cons (ih (fun h => hclose h.of_concat) ?_ ?_) hread
        · simpa [Ne.symm hopen] using hopened
        · simp [hdepth, hopen, hclose]

end

/-- A text without braces is read to its end. -/
lemma bracedFrom_append {xs : List Char} (hxs : ∀ c ∈ xs, c ≠ '\x7b' ∧ c ≠ '\x7d') (opened : Bool)
    (depth : Int) (ys : List Char) :
    bracedFrom opened depth (xs ++ ys) = xs ++ bracedFrom opened depth ys := by
  induction xs with
  | nil => rfl
  | cons c xs ih =>
    obtain ⟨⟨hopen, hclose⟩, hxs⟩ := List.forall_mem_cons.mp hxs
    rw [List.cons_append, bracedFrom, if_neg hopen, if_neg hclose, ih hxs, List.cons_append]

/-- What is read at places before a text, of which there are so many. -/
def beforeText (n : Nat) : List Char := (List.replicate n "undefined".toList).flatten

/-- The units of a text from a place on.  A place before the text has no unit. -/
def unitsFrom (content : String) (start : Int) : List Char :=
  beforeText (-start).toNat ++ (splitUnits content.toList).drop start.toNat

lemma mem_beforeText {n : Nat} {c : Char} (h : c ∈ beforeText n) : c ∈ "undefined".toList := by
  obtain ⟨l, hl, hc⟩ := List.mem_flatten.mp h
  rwa [List.eq_of_mem_replicate hl] at hc

lemma splitUnits_append_of_one {xs : List Char} (hxs : ∀ c ∈ xs, units c = 1) (ys : List Char) :
    splitUnits (xs ++ ys) = xs ++ splitUnits ys := by
  induction xs with
  | nil => rfl
  | cons c xs ih =>
    obtain ⟨hc, hxs⟩ := List.forall_mem_cons.mp hxs
    rw [List.cons_append, splitUnits_of_one hc, ih hxs, List.cons_append]

/-- The text of a function is read by units, from the first place on. -/
lemma splitUnits_functionText (content : String) (start : Int) :
    splitUnits (functionText content start).toList = braced (unitsFrom content start) := by
  have hword : ∀ c ∈ "undefined".toList, units c = 1 ∧ c ≠ '\x7b' ∧ c ≠ '\x7d' := by simp [units]
  have htext : (functionText content start).toList =
      beforeText (-start).toNat ++ braced (dropUnits start.toNat content.toList) := by
    simp [functionText, beforeText, String.toList_join, List.flatMap_def]
  rw [htext, splitUnits_append_of_one fun c hc => (hword c (mem_beforeText hc)).1, braced,
    splitUnits_bracedFrom, splitUnits_dropUnits, braced, unitsFrom,
    bracedFrom_append fun c hc => (hword c (mem_beforeText hc)).2]

/-- The text of the function that starts at a place, in units: the shortest part of the text from
there on that ends with a closing brace and has as many opened as closed and at least one, and if
there is none, all of the text from there on. -/
theorem functionText_shortest (content : String) (start : Int) :
    let rest := unitsFrom content start
    let found := splitUnits (functionText content start).toList
    found <+: rest ∧
      (Closed found ∧ (∀ p, p <+: rest → Closed p → found.length ≤ p.length) ∨
        found = rest ∧ ∀ p, p <+: rest → ¬ Closed p) := by
  intro rest found
  have hscan : Scanned [] rest found := by
    rw [show found = braced rest from splitUnits_functionText content start]
    exact scanned_bracedFrom (fun h => by simpa using h.ends) (by simp) (by simp)
  refine ⟨hscan.isPrefix, ?_⟩
  by_cases hclosed : Closed found
  · exact .inl ⟨hclosed, fun p hp hp' => (hscan.shortest p hp hp').length_le⟩
  · have hall : found = rest := hscan.complete.resolve_left hclosed
    refine .inr ⟨hall, fun p hp hp' => hclosed ?_⟩
    have heq : found = p := (hscan.shortest p hp hp').eq_of_length_le (hall ▸ hp.length_le)
    exact heq ▸ hp'

end QualityGate.Watch
