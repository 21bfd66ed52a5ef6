/-
# Where the functions of a watched file start

The watcher looks for the head of a function from the start of a line on, and takes all spaces before
the word `def` for part of the head, the ends of blank lines among them.  So a head starts on the
first of the blank lines right above its keyword, and this is the line that is recorded for the
function.

* `headsFrom_spec`: the heads are those of the keywords with only spaces before them on their line,
  each with the first line start from which there are only spaces to the keyword;
* `lineAt_keyword`: the line of the keyword is the line of the head and the blank lines above the
  keyword;
* `segments_line`: what this means for the functions that are found and for what is reported of them.
-/
import Mathlib
import QualityGate.Proofs.FileLengths

namespace QualityGate.Text

/-! ## Spaces and words in front -/

lemma isSpace_of_isLineEnd {c : Char} (h : isLineEnd c = true) : isSpace c = true := by
  simp only [isLineEnd, Bool.or_eq_true, decide_eq_true_eq] at h
  rcases h with ((rfl | rfl) | rfl) | rfl <;> decide

lemma isSpace_of_isWordPart {c : Char} (h : isWordPart c = true) : isSpace c = false := by
  simp only [isWordPart, Char.isAlphanum, Char.isAlpha, Char.isUpper, Char.isLower, Char.isDigit,
    Bool.or_eq_true, Bool.and_eq_true, decide_eq_true_eq, ge_iff_le, UInt32.le_iff_toNat_le] at h
  have hbounds : 48 ≤ c.toNat ∧ c.toNat ≤ 122 := by
    rcases h with ((h | h) | h) | rfl
    · exact ⟨le_trans (by decide) h.1, le_trans h.2 (by decide)⟩
    · exact ⟨le_trans (by decide) h.1, le_trans h.2 (by decide)⟩
    · exact ⟨le_trans (by decide) h.1, le_trans h.2 (by decide)⟩
    · decide
  simp only [isSpace, Bool.or_eq_false_iff, Bool.and_eq_false_iff, decide_eq_false_iff_not]
  omega

lemma afterText_eq_some {text : String} {cs rest : List Char} :
    afterText text cs = some rest ↔ cs = text.toList ++ rest := by
  rw [afterText]
  constructor
  · intro h
    split at h
    · next hstart =>
      obtain ⟨t, rfl⟩ := List.isPrefixOf_iff_prefix.mp hstart
      rw [← String.length_toList, List.drop_left] at h
      rw [Option.some.inj h]
    · cases h
  · rintro rfl
    rw [if_pos (List.isPrefixOf_iff_prefix.mpr (List.prefix_append _ _)), ← String.length_toList,
      List.drop_left]

/-- The text does not go on with a character of a kind. -/
def Stops (p : Char → Bool) (cs : List Char) : Prop := ∀ c, cs.head? = some c → p c = false

variable {p : Char → Bool} {xs ys : List Char}

lemma dropWhile_append_of_stops (hxs : ∀ c ∈ xs, p c = true) (hys : Stops p ys) :
    (xs ++ ys).dropWhile p = ys := by
  rw [List.dropWhile_append_of_pos hxs]
  cases ys with
  | nil => rfl
  | cons c ys => exact List.dropWhile_cons_of_neg (by simp [hys c rfl])

lemma takeWhile_append_of_stops (hxs : ∀ c ∈ xs, p c = true) (hys : Stops p ys) :
    (xs ++ ys).takeWhile p = xs := by
  rw [List.takeWhile_append_of_pos hxs]
  cases ys with
  | nil => simp
  | cons c ys => rw [List.takeWhile_cons_of_neg (by simp [hys c rfl]), List.append_nil]

/-! ## Lines -/

/-- The last line of a text stands behind a line end, or there is nothing before it. -/
lemma exists_last_line {line : List Char} (h : (splitAtNewlines xs).getLast? = some line) :
    ∃ before, xs = before ++ line ∧ ∀ c, before.getLast? = some c → c = '\n' := by
  by_cases hmem : '\n' ∈ xs
  · obtain ⟨as, bs, hxs, hnot⟩ := List.eq_append_cons_of_mem (List.mem_reverse.mpr hmem)
    have hsplit : xs = bs.reverse ++ '\n' :: as.reverse := by
      rw [← List.reverse_reverse xs, hxs]
      simp
    have hline : splitAtNewlines as.reverse = [as.reverse] :=
      splitAtNewlines_of_not_mem (by simpa using hnot)
    rw [hsplit, splitAtNewlines_append, hline] at h
    obtain rfl : as.reverse = line := by simpa using h
    exact ⟨bs.reverse ++ ['\n'], by simp [hsplit], by simp⟩
  · rw [splitAtNewlines_of_not_mem hmem] at h
    obtain rfl : xs = line := by simpa using h
    exact ⟨[], rfl, by simp⟩

/-- Lines that end among spaces at the start of a text hold nothing else. -/
lemma all_isSpace_of_mem_take (hxs : ∀ c ∈ xs, isSpace c = true) : ∀ line ∈
    (splitAtNewlines (xs ++ ys)).take (xs.count '\n'), line.all isSpace = true := by
  induction xs with
  | nil => simp
  | cons c xs ih =>
    have hrest := ih fun x hx => hxs x (List.mem_cons_of_mem c hx)
    rw [List.cons_append, splitAtNewlines, List.count_cons]
    by_cases hc : c = '\n'
    · simpa [hc] using hrest
    · rw [if_neg hc]
      cases h : splitAtNewlines (xs ++ ys) with
      | nil => exact absurd h (splitAtNewlines_ne_nil (xs ++ ys))
      | cons l ls =>
        rw [h] at hrest
        cases hcount : xs.count '\n' with
        | zero => simp [hc]
        | succ n =>
          rw [hcount] at hrest
          simpa [hc, hxs c (by simp)] using hrest

end QualityGate.Text

namespace QualityGate.Watch

open Text

/-! ## Heads -/

/-- The head of a function from its keyword on: the word `def`, spaces, the name, perhaps spaces, and
a bracket. -/
def Opens (name : String) (cs rest : List Char) : Prop :=
  ∃ gap more, gap ≠ [] ∧ (∀ c ∈ gap, isSpace c = true) ∧ name ≠ "" ∧
    (∀ c ∈ name.toList, isWordPart c = true) ∧ (∀ c ∈ more, isSpace c = true) ∧
    cs = "def".toList ++ (gap ++ (name.toList ++ (more ++ '(' :: rest)))

section

variable {name : String} {cs rest : List Char}

lemma stops_of_isWordPart {w : List Char} (hne : w ≠ []) (hw : ∀ c ∈ w, isWordPart c = true)
    (cs : List Char) : Stops isSpace (w ++ cs) := by
  obtain ⟨c, w, rfl⟩ := List.exists_cons_of_ne_nil hne
  intro x hx
  obtain rfl : c = x := by simpa using hx
  exact isSpace_of_isWordPart (hw c (by simp))

lemma stops_of_isSpace {gap : List Char} (hgap : ∀ c ∈ gap, isSpace c = true)
    (hcs : gap = [] → Stops isWordPart cs) : Stops isWordPart (gap ++ cs) := by
  cases gap with
  | nil => exact hcs rfl
  | cons c gap =>
    intro x hx
    obtain rfl : c = x := by simpa using hx
    rw [← Bool.not_eq_true]
    intro hword
    have hc := hgap c (by simp)
    rw [isSpace_of_isWordPart hword] at hc
    cases hc

lemma stops_def (cs : List Char) : Stops isSpace ("def".toList ++ cs) :=
  stops_of_isWordPart (by simp) (by simp [isWordPart, Char.isAlphanum]) cs

lemma stops_bracket (p : Char → Bool) (hp : p '(' = false) (cs : List Char) :
    Stops p ('(' :: cs) := by
  intro c hc
  obtain rfl : '(' = c := by simpa using hc
  exact hp

/-- The head in front of a text: spaces, and the head from its keyword on. -/
lemma headAt_eq_some : headAt cs = some (name, rest) ↔
    ∃ lead body, cs = lead ++ body ∧ (∀ c ∈ lead, isSpace c = true) ∧ Opens name body rest := by
  constructor
  · intro h
    simp only [headAt, Option.bind_eq_bind, Option.bind_eq_some_iff, Option.pure_def,
      Option.some.injEq, Prod.mk.injEq] at h
    obtain ⟨gap, hdef, start, hgap, word, hword, after, hafter, hname, rfl⟩ := h
    rw [afterText_eq_some] at hdef hafter
    refine ⟨cs.takeWhile isSpace, cs.dropWhile isSpace, (List.takeWhile_append_dropWhile).symm,
      fun c hc => List.mem_takeWhile_imp hc, ?_⟩
    -- behind the keyword each piece is taken as far as it goes
    cases gap with
    | nil => simp [afterSpaces] at hgap
    | cons g gap =>
      rw [afterSpaces] at hgap
      split at hgap
      swap
      · cases hgap
      next hg =>
      have hstart : gap.dropWhile isSpace = start := Option.some.inj hgap
      cases start with
      | nil => simp [afterWord] at hword
      | cons c start =>
        rw [afterWord] at hword
        split at hword
        swap
        · cases hword
        next hc =>
        have hrest : start.dropWhile isWordPart = word := Option.some.inj hword
        have hletters : name.toList = c :: start.takeWhile isWordPart := by
          rw [← hname, String.toList_ofList, List.takeWhile_cons_of_pos hc]
        refine ⟨g :: gap.takeWhile isSpace, word.takeWhile isSpace, by simp, ?_, ?_, ?_, ?_, ?_⟩
        · intro x hx
          rcases List.mem_cons.mp hx with rfl | hx
          · exact hg
          · exact List.mem_takeWhile_imp hx
        · rintro rfl
          simp at hletters
        · intro x hx
          rw [hletters] at hx
          rcases List.mem_cons.mp hx with rfl | hx
          · exact hc
          · exact List.mem_takeWhile_imp hx
        · exact fun x hx => List.mem_takeWhile_imp hx
        · have hword' : word = word.takeWhile isSpace ++ '(' :: after := by
            have h := List.takeWhile_append_dropWhile (p := isSpace) (l := word)
            rw [hafter] at h
            exact h.symm
          have hstart' : c :: start = name.toList ++ word := by
            rw [hletters, ← hrest, List.cons_append, List.takeWhile_append_dropWhile]
          have hgap' : gap = gap.takeWhile isSpace ++ (c :: start) := by
            rw [← hstart, List.takeWhile_append_dropWhile]
          rw [hdef, List.cons_append, ← hword', ← hstart', ← hgap']
  · rintro ⟨lead, body, rfl, hlead, gap, more, hne, hgap, hname, hletters, hmore, rfl⟩
    have hname' : name.toList ≠ [] := by simpa using hname
    -- each piece ends where the next one starts, so the scan takes no more than it
    have hend : Stops isWordPart (more ++ '(' :: rest) :=
      stops_of_isSpace hmore fun _ => stops_bracket _ (by decide) rest
    obtain ⟨g, gap, rfl⟩ := List.exists_cons_of_ne_nil hne
    obtain ⟨c, w, hw⟩ := List.exists_cons_of_ne_nil hname'
    have hspaces : afterSpaces (g :: gap ++ (name.toList ++ (more ++ '(' :: rest))) =
        some (name.toList ++ (more ++ '(' :: rest)) := by
      rw [List.cons_append, afterSpaces, if_pos (hgap g (by simp)), dropWhile_append_of_stops
        (fun x hx => hgap x (by simp [hx])) (stops_of_isWordPart hname' hletters _)]
    have hword : afterWord (name.toList ++ (more ++ '(' :: rest)) = some (more ++ '(' :: rest) := by
      rw [hw] at hletters ⊢
      rw [List.cons_append, afterWord, if_pos (hletters c (by simp)),
        dropWhile_append_of_stops (fun x hx => hletters x (by simp [hx])) hend]
    have hbracket : afterText "(" ((more ++ '(' :: rest).dropWhile isSpace) = some rest := by
      rw [dropWhile_append_of_stops hmore (stops_bracket _ (by decide) rest), afterText_eq_some]
      rfl
    rw [headAt, dropWhile_append_of_stops hlead (stops_def _)]
    simp only [Option.bind_eq_bind, afterText_eq_some.mpr rfl, Option.bind_some, hspaces, hword,
      hbracket, takeWhile_append_of_stops hletters hend, String.ofList_toList, Option.pure_def]

lemma Opens.headAt_eq (h : Opens name cs rest) : headAt cs = some (name, rest) :=
  headAt_eq_some.mpr ⟨[], cs, rfl, by simp, h⟩

/-- A head is read in one way only. -/
lemma Opens.unique {name' : String} {rest' : List Char} (h : Opens name cs rest)
    (h' : Opens name' cs rest') : name = name' ∧ rest = rest' := by
  have heq := h.headAt_eq.symm.trans h'.headAt_eq
  simpa using heq

lemma Opens.eq_cons (h : Opens name cs rest) : ∃ more, cs = 'd' :: more := by
  obtain ⟨gap, more, -, -, -, -, -, rfl⟩ := h
  exact ⟨_, rfl⟩

lemma Opens.ends (h : Opens name cs rest) : ∃ front, cs = front ++ '(' :: rest := by
  obtain ⟨gap, more, -, -, -, -, -, rfl⟩ := h
  exact ⟨"def".toList ++ (gap ++ (name.toList ++ more)), by simp⟩

end

/-- Inside a head no other one starts behind a space: there the text goes on with a space, the name or
the bracket, and the name is followed by the bracket. -/
lemma Opens.not_inside {name name' : String} {before body rest rest' : List Char}
    (h : Opens name (before ++ body) rest) (h' : Opens name' body rest')
    (hbefore : ∃ c, before.getLast? = some c ∧ isSpace c = true)
    (hinside : rest.length < body.length) : False := by
  obtain ⟨gap, more, hne, hgap, hname, hletters, hmore, hcs⟩ := h
  obtain ⟨x, hx, hspace⟩ := hbefore
  obtain ⟨_, hd⟩ := h'.eq_cons
  have hname' : name.toList ≠ [] := by simpa using hname
  -- what follows the name is no head, even if the name itself is the keyword
  have hlast : body ≠ name.toList ++ (more ++ '(' :: rest) := by
    rintro hbody
    obtain ⟨gap₂, more₂, hne₂, hgap₂, hname₂, hletters₂, -, hbody₂⟩ := h'
    have heq := congrArg (List.dropWhile isWordPart) (hbody.symm.trans hbody₂)
    have hstop : Stops isWordPart (more ++ '(' :: rest) :=
      stops_of_isSpace hmore fun _ => stops_bracket _ (by decide) rest
    have hstop₂ : Stops isWordPart (gap₂ ++ (name'.toList ++ (more₂ ++ '(' :: rest'))) :=
      stops_of_isSpace hgap₂ fun h => absurd h hne₂
    rw [dropWhile_append_of_stops hletters hstop,
      dropWhile_append_of_stops (by simp [isWordPart, Char.isAlphanum]) hstop₂] at heq
    have hfirst := congrArg (List.dropWhile isSpace) heq
    rw [dropWhile_append_of_stops hmore (stops_bracket _ (by decide) rest),
      dropWhile_append_of_stops hgap₂
        (stops_of_isWordPart (by simpa using hname₂) hletters₂ _)] at hfirst
    obtain ⟨c, w, hw⟩ := List.exists_cons_of_ne_nil (show name'.toList ≠ [] by simpa using hname₂)
    rw [hw, List.cons_append, List.cons.injEq] at hfirst
    exact absurd (hletters₂ '(' (by rw [hw, hfirst.1]; simp)) (by decide)
  rcases List.append_eq_append_iff.mp hcs with ⟨a, ha, -⟩ | ⟨u, rfl, hu⟩
  · -- the space is not in the keyword
    have hmem : x ∈ "def".toList := by
      rw [ha]
      exact List.mem_append_left _ (List.mem_of_getLast? hx)
    have hplain : ∀ c ∈ "def".toList, isSpace c = false := by simp [isSpace]
    simp [hplain x hmem] at hspace
  rcases List.append_eq_append_iff.mp hu.symm with ⟨a, ha, hbody⟩ | ⟨v, rfl, hv⟩
  · cases a with
    | nil => exact hlast hbody
    | cons c a =>
      obtain rfl : c = 'd' := by
        rw [hbody, List.cons_append, List.cons.injEq] at hd
        exact hd.1
      exact absurd (hgap 'd' (by simp [ha])) (by decide)
  rcases List.append_eq_append_iff.mp hv.symm with ⟨a, ha, hbody⟩ | ⟨t, rfl, ht⟩
  · by_cases hempty : v = []
    · subst hempty
      rw [List.nil_append] at ha
      exact hlast (by rw [hbody, ha])
    · -- the space is not in the name
      have hmem : x ∈ name.toList := by
        rw [ha]
        refine List.mem_append_left _ (List.mem_of_getLast? ?_)
        rwa [List.getLast?_append_of_ne_nil _ (by simp [hempty]),
          List.getLast?_append_of_ne_nil _ hempty] at hx
      simp [isSpace_of_isWordPart (hletters x hmem)] at hspace
  rcases List.append_eq_append_iff.mp ht.symm with ⟨a, ha, hbody⟩ | ⟨k, rfl, hk⟩
  · cases a with
    | nil => simp [hbody] at hd
    | cons c a =>
      obtain rfl : c = 'd' := by
        rw [hbody, List.cons_append, List.cons.injEq] at hd
        exact hd.1
      exact absurd (hmore 'd' (by simp [ha])) (by decide)
  · cases k with
    | nil =>
      rw [← List.nil_append body, ← hk] at hd
      simp at hd
    | cons c k =>
      have hlen := congrArg List.length hk
      simp at hlen
      omega

/-! ## The heads of a text -/

/-- A line starts behind the first `m` characters. -/
def LineStart (cs : List Char) (m : Nat) : Prop :=
  ∀ c, (cs.take m).getLast? = some c → isLineEnd c = true

/-- A line starts at `m`, and there are only spaces from there to `n`. -/
structure Lead (cs : List Char) (m n : Nat) : Prop where
  start : LineStart cs m
  le : m ≤ n
  spaces : ∀ c ∈ (cs.take n).drop m, isSpace c = true

/-- The last character before the end of a lead is a space. -/
lemma Lead.isSpace_before {cs : List Char} {m n : Nat} (h : Lead cs m n) {c : Char}
    (hc : (cs.take n).getLast? = some c) : isSpace c = true := by
  by_cases hspaces : (cs.take n).drop m = []
  · -- the lead is empty, and a line starts behind the character
    have htake : cs.take n = cs.take m := by
      rw [← List.take_append_drop m (cs.take n), hspaces, List.append_nil, List.take_take,
        Nat.min_eq_left h.le]
    exact isSpace_of_isLineEnd (h.start c (htake ▸ hc))
  · refine h.spaces c (List.mem_of_getLast? ?_)
    rw [← hc]
    nth_rewrite 2 [← List.take_append_drop m (cs.take n)]
    rw [List.getLast?_append_of_ne_nil _ hspaces]

/-- A head of a text: the keyword with the name stands at `n`, and the head starts at the first line
start from which there are only spaces to the keyword. -/
structure Head.At (cs : List Char) (h : Head) (n : Nat) : Prop where
  lead : Lead cs h.start n
  opens : ∃ rest, Opens h.name (cs.drop n) rest
  least : ∀ m, Lead cs m n → h.start ≤ m

section

variable {all lead body after front rest xs ys : List Char} {name name' : String} {m n k : Nat}

lemma drop_add_of_append (h : all.drop n = xs ++ ys) : all.drop (n + xs.length) = ys := by
  rw [← List.drop_drop, h, List.drop_left]

lemma take_add_of_append (h : all.drop n = xs ++ ys) :
    all.take (n + xs.length) = all.take n ++ xs := by
  rw [List.take_add, h, List.take_left]

/-- The keyword of the head in front of a text is the only one inside the head. -/
lemma Opens.place_unique (hall : all.drop n = lead ++ body)
    (hlead : ∀ c ∈ lead, isSpace c = true) (hopens : Opens name body after)
    (hother : Opens name' (all.drop k) rest) (hbefore : Lead all m k) (hk : n ≤ k)
    (hinside : after.length < (all.drop k).length) : k = n + lead.length := by
  obtain ⟨i, rfl⟩ := Nat.exists_eq_add_of_le hk
  have hdrop : all.drop (n + i) = (lead ++ body).drop i := by rw [← List.drop_drop, hall]
  rcases Nat.lt_trichotomy i lead.length with hi | rfl | hi
  · -- there is a space in place of the keyword
    obtain ⟨_, hd⟩ := hother.eq_cons
    obtain ⟨c, _, hc⟩ := List.exists_cons_of_ne_nil (show lead.drop i ≠ [] by simpa using hi)
    rw [hdrop, List.drop_append_of_le_length hi.le, hc, List.cons_append, List.cons.injEq] at hd
    have hmem : 'd' ∈ lead := List.mem_of_mem_drop (by rw [hc, hd.1]; simp)
    exact absurd (hlead 'd' hmem) (by decide)
  · rfl
  · exfalso
    obtain ⟨j, rfl⟩ := Nat.exists_eq_add_of_lt hi
    have hbody : body = body.take (j + 1) ++ all.drop (n + (lead.length + j + 1)) := by
      rw [hdrop, Nat.add_assoc, ← List.drop_drop, List.drop_left, List.take_append_drop]
    have hlong : j + 1 ≤ body.length := by
      have hpos : 0 < (all.drop (n + (lead.length + j + 1))).length := by omega
      rw [hdrop, Nat.add_assoc, ← List.drop_drop, List.drop_left, List.length_drop] at hpos
      omega
    have hne : body.take (j + 1) ≠ [] := by
      rw [← List.length_pos_iff, List.length_take]
      omega
    rw [hbody] at hopens
    refine hopens.not_inside hother ⟨_, List.getLast?_eq_some_getLast hne, ?_⟩ hinside
    refine hbefore.isSpace_before ?_
    have hread : all.drop n = (lead ++ body.take (j + 1)) ++
        all.drop (n + (lead.length + j + 1)) := by
      rw [List.append_assoc, ← hbody, hall]
    have htake := take_add_of_append hread
    rw [List.length_append, List.length_take, Nat.min_eq_left hlong, ← Nat.add_assoc lead.length]
      at htake
    rw [htake, ← List.append_assoc, List.getLast?_append_of_ne_nil _ hne,
      List.getLast?_eq_some_getLast hne]

lemma drop_of_bracket (h : all.drop n = xs ++ '(' :: ys) : all.drop (n + (xs.length + 1)) = ys := by
  have hread : all.drop n = (xs ++ ['(']) ++ ys := by simpa using h
  simpa using drop_add_of_append hread

/-- Where a bracket was read last, no line starts, and no lead goes beyond. -/
lemma not_lead_of_bracket (h : all.drop n = xs ++ '(' :: ys) :
    ¬ LineStart all (n + (xs.length + 1)) ∧
      (Lead all m k → n + (xs.length + 1) ≤ k → n + (xs.length + 1) ≤ m) := by
  have hread : all.drop n = (xs ++ ['(']) ++ ys := by simpa using h
  have htake : all.take (n + (xs.length + 1)) = all.take n ++ (xs ++ ['(']) := by
    simpa using take_add_of_append hread
  constructor
  · intro hstart
    exact absurd (hstart '(' (by simp [htake])) (by decide)
  · intro hlead hk
    by_contra hm
    obtain ⟨i, rfl⟩ := Nat.exists_eq_add_of_le hk
    have hlen : (all.take n).length = n := by
      have hpos := congrArg List.length h
      simp only [List.length_drop, List.length_append, List.length_cons] at hpos
      rw [List.length_take]
      omega
    have hsplit : all.take (n + (xs.length + 1) + i) = (all.take n ++ xs) ++ '(' :: ys.take i := by
      rw [List.take_add, htake, drop_of_bracket h]
      simp
    have hmem : '(' ∈ (all.take (n + (xs.length + 1) + i)).drop m := by
      rw [hsplit, List.drop_append_of_le_length (by simp only [List.length_append, hlen]; omega)]
      simp
    exact absurd (hlead.spaces '(' hmem) (by decide)

lemma lineStart_succ {c : Char} (hall : all.drop n = c :: rest) :
    LineStart all (n + 1) ↔ isLineEnd c = true := by
  have htake : all.take (n + 1) = all.take n ++ [c] := 
    take_add_of_append (show all.drop n = [c] ++ rest from hall)
  simp [LineStart, htake]

/-- What the heads of a text are, from a place on behind which no keyword has a lead that starts
before the place. -/
lemma headsFrom_spec (lineStart : Bool) (n : Nat) (cs : List Char) (hall : all.drop n = cs)
    (hflag : lineStart = true ↔ LineStart all n)
    (hleads : ∀ m k name rest, Lead all m k → Opens name (all.drop k) rest → n ≤ k → n ≤ m) :
    (∀ h ∈ headsFrom lineStart n cs, ∃ k, h.At all k) ∧
      ∀ m k name rest, Lead all m k → Opens name (all.drop k) rest → n ≤ k →
        ∃ h ∈ headsFrom lineStart n cs, h.name = name ∧ h.At all k := by
  fun_induction headsFrom lineStart n cs with
  | case1 lineStart n =>
    refine ⟨by simp, fun m k name rest _ hopens hk => ?_⟩
    obtain ⟨_, hd⟩ := hopens.eq_cons
    have hnil : all.drop k = [] := by
      rw [← Nat.add_sub_cancel' hk, ← List.drop_drop, hall, List.drop_nil]
    simp [hnil] at hd
  | case2 lineStart n c rest name after hhead hshorter ih =>
    obtain ⟨hstart, hhead⟩ : LineStart all n ∧ headAt (c :: rest) = some (name, after) := by
      split at hhead
      · next h => exact ⟨hflag.mp h, hhead⟩
      · cases hhead
    obtain ⟨lead, body, hsplit, hlead, hopens⟩ := headAt_eq_some.mp hhead
    obtain ⟨front, hfront⟩ := hopens.ends
    rw [hsplit] at hall
    have hkeyword := drop_add_of_append hall
    have hat : Head.At all ⟨name, n⟩ (n + lead.length) := by
      have hlead' : Lead all n (n + lead.length) := by
        refine ⟨hstart, by omega, fun c hc => hlead c ?_⟩
        rwa [List.drop_take, hall, Nat.add_sub_cancel_left, List.take_left] at hc
      have hopens' : Opens name (all.drop (n + lead.length)) after := hkeyword.symm ▸ hopens
      exact ⟨hlead', ⟨after, hopens'⟩, fun m hm => hleads m _ _ _ hm hopens' (by omega)⟩
    -- reading goes on behind the bracket
    have hread : all.drop n = (lead ++ front) ++ '(' :: after := by
      rw [hall, hfront, List.append_assoc]
    have hnext : n + ((c :: rest).length - after.length) = n + ((lead ++ front).length + 1) := by
      rw [hsplit, hfront]
      simp only [List.length_append, List.length_cons]
      omega
    rw [hnext] at ih ⊢
    obtain ⟨ihsound, ihcomplete⟩ := ih (drop_of_bracket hread)
      (iff_of_false (by simp) (not_lead_of_bracket (m := 0) (k := 0) hread).1)
      fun m k _ _ hm _ hk => (not_lead_of_bracket hread).2 hm hk
    refine ⟨?_, fun m k name' rest' hm hother hk => ?_⟩
    · rintro h (_ | ⟨_, hmem⟩)
      · exact ⟨_, hat⟩
      · exact ihsound h hmem
    · by_cases hlater : n + ((lead ++ front).length + 1) ≤ k
      · obtain ⟨h, hmem, hname⟩ := ihcomplete m k name' rest' hm hother hlater
        exact ⟨h, List.mem_cons_of_mem _ hmem, hname⟩
      · have hinside : after.length < (all.drop k).length := by
          have hlen := congrArg List.length hread
          simp only [List.length_drop, List.length_append, List.length_cons] at hlen hlater ⊢
          omega
        obtain rfl := Opens.place_unique hall hlead hopens hother hm hk hinside
        rw [hkeyword] at hother
        exact ⟨_, List.mem_cons_self, (hopens.unique hother).1, hat⟩
  | case3 lineStart n c rest name after hhead hshorter =>
    -- a head is never empty
    obtain ⟨lead, body, hsplit, -, hopens⟩ : ∃ lead body, c :: rest = lead ++ body ∧
        (∀ c ∈ lead, isSpace c = true) ∧ Opens name body after := by
      split at hhead
      · exact headAt_eq_some.mp hhead
      · cases hhead
    obtain ⟨front, rfl⟩ := hopens.ends
    refine absurd ?_ hshorter
    rw [hsplit]
    simp only [List.length_append, List.length_cons]
    omega
  | case4 lineStart n c rest hnone ih =>
    have hdrop : all.drop (n + 1) = rest :=
      drop_add_of_append (show all.drop n = [c] ++ rest from hall)
    -- a lead that starts here would make a head
    have hlater : ∀ m k name rest, Lead all m k → Opens name (all.drop k) rest → n ≤ k → n < m := by
      intro m k name rest' hm hopens hk
      refine lt_of_le_of_ne (hleads m k name rest' hm hopens hk) ?_
      rintro rfl
      have hhead : headAt (c :: rest) = some (name, rest') := by
        refine headAt_eq_some.mpr ⟨(all.take k).drop n, all.drop k, ?_, hm.spaces, hopens⟩
        rw [← hall, List.drop_take, ← Nat.add_sub_cancel' hk, ← List.drop_drop,
          Nat.add_sub_cancel_left, List.take_append_drop]
      rw [dif_pos (hflag.mpr hm.start), hhead] at hnone
      cases hnone
    have hnext : ∀ m k name rest, Lead all m k → Opens name (all.drop k) rest → n ≤ k → n + 1 ≤ k :=
      fun m k name rest' hm hopens hk => (hlater m k name rest' hm hopens hk).trans_le hm.le
    obtain ⟨ihsound, ihcomplete⟩ := ih hdrop (lineStart_succ hall).symm
      fun m k name rest' hm hopens hk => hlater m k name rest' hm hopens (by omega)
    exact ⟨ihsound, fun m k name rest' hm hopens hk =>
      ihcomplete m k name rest' hm hopens (hnext m k name rest' hm hopens hk)⟩

/-- The heads of a text are those of its keywords with only spaces before them on their line. -/
lemma heads_spec (all : List Char) :
    (∀ h ∈ heads all, ∃ k, h.At all k) ∧
      ∀ m k name rest, Lead all m k → Opens name (all.drop k) rest →
        ∃ h ∈ heads all, h.name = name ∧ h.At all k := by
  obtain ⟨hsound, hcomplete⟩ := headsFrom_spec true 0 all List.drop_zero
    (iff_of_true rfl (by simp [LineStart])) (by simp)
  exact ⟨hsound, fun m k name rest hm hopens => hcomplete m k name rest hm hopens (Nat.zero_le k)⟩

end

/-! ## The line of a function -/

/-- The number of blank lines right above a line. -/
def blankAbove (cs : List Char) (line : Nat) : Nat :=
  (((splitAtNewlines cs).take (line - 1)).reverse.takeWhile (·.all isSpace)).length

/-- Where the keyword of a function stands: at the first character of its text that is no space. -/
def keyword (cs : List Char) (s : Segment) : Nat :=
  s.start + ((cs.drop s.start).takeWhile isSpace).length

/-- The lines that end in the spaces behind a line that is not blank are the blank ones. -/
lemma blankAbove_of_lead {cs lead body : List Char} {rows : List (List Char)}
    (hcs : splitAtNewlines cs = rows ++ splitAtNewlines (lead ++ body))
    (hlead : ∀ c ∈ lead, isSpace c = true)
    (hrows : ∀ line, rows.getLast? = some line → line.all isSpace = false) :
    blankAbove cs (rows.length + lead.count '\n' + 1) = lead.count '\n' := by
  have hlen : lead.count '\n' ≤ (splitAtNewlines (lead ++ body)).length := by
    rw [length_splitAtNewlines, List.count_append]
    omega
  have hstop : rows.reverse.takeWhile (·.all isSpace) = [] := by
    cases hrev : rows.reverse with
    | nil => rfl
    | cons line more =>
      have hline := hrows line (by rw [← List.head?_reverse, hrev]; rfl)
      exact List.takeWhile_cons_of_neg (by simp [hline])
  rw [blankAbove, hcs, Nat.add_sub_cancel, List.take_length_add_append, List.reverse_append,
    List.takeWhile_append_of_pos, hstop, List.append_nil, List.length_reverse, List.length_take,
    Nat.min_eq_left hlen]
  intro line hline
  exact all_isSpace_of_mem_take hlead line (List.mem_reverse.mp hline)

section

variable {cs : List Char} {h : Head} {n : Nat}

lemma Head.At.split (hat : h.At cs n) : n ≤ cs.length ∧
    cs = cs.take h.start ++ ((cs.take n).drop h.start ++ cs.drop n) ∧
    cs.take n = cs.take h.start ++ (cs.take n).drop h.start := by
  have hn : n ≤ cs.length := by
    obtain ⟨rest, hopens⟩ := hat.opens
    obtain ⟨_, hd⟩ := hopens.eq_cons
    have hpos := congrArg List.length hd
    simp only [List.length_drop, List.length_cons] at hpos
    omega
  have htake : cs.take n = cs.take h.start ++ (cs.take n).drop h.start := by
    nth_rewrite 1 [← List.take_append_drop h.start (cs.take n)]
    rw [List.take_take, Nat.min_eq_left hat.lead.le]
  refine ⟨hn, ?_, htake⟩
  rw [← List.append_assoc, ← htake, List.take_append_drop]

lemma Head.At.keyword_eq (hat : h.At cs n) {s : Segment} (hs : s.start = h.start) :
    keyword cs s = n := by
  obtain ⟨hn, hcs, htake⟩ := hat.split
  have hle := hat.lead.le
  have hdrop : cs.drop h.start = (cs.take n).drop h.start ++ cs.drop n := by
    nth_rewrite 1 [hcs]
    rw [List.drop_left' (by rw [List.length_take]; omega)]
  have hstop : Stops isSpace (cs.drop n) := by
    obtain ⟨rest, gap, more, -, -, -, -, -, hopens⟩ := hat.opens
    rw [hopens]
    exact stops_def _
  rw [keyword, hs, hdrop, takeWhile_append_of_stops hat.lead.spaces hstop, List.length_drop,
    List.length_take]
  omega

/-- The line of a keyword is that of the head and the blank lines above the keyword. -/
lemma lineAt_keyword (hplain : ∀ c ∈ cs, isLineEnd c = true → c = '\n') (hat : h.At cs n) :
    lineAt cs h.start + blankAbove cs (lineAt cs n) = lineAt cs n := by
  obtain ⟨hn, hcs, htake⟩ := hat.split
  have hle := hat.lead.le
  set before := cs.take h.start with hbefore
  set lead := (cs.take n).drop h.start with hlead
  have hlen : before.length = h.start := by
    rw [hbefore, List.length_take]
    omega
  -- the lines that end before the head; the last of them is not blank, or the head would start there
  obtain ⟨rows, hrows, hcount, hlast⟩ : ∃ rows,
      splitAtNewlines cs = rows ++ splitAtNewlines (lead ++ cs.drop n) ∧
      rows.length = before.count '\n' ∧
      ∀ line, rows.getLast? = some line → line.all isSpace = false := by
    cases hend : before.getLast? with
    | none =>
      have hnil : before = [] := List.getLast?_eq_none_iff.mp hend
      exact ⟨[], by nth_rewrite 1 [hcs]; simp [hnil], by simp [hnil], by simp⟩
    | some c =>
      have hmem : c ∈ cs := List.mem_of_mem_take (List.mem_of_getLast? hend)
      obtain rfl : c = '\n' := hplain c hmem (hat.lead.start c hend)
      have hline : before = before.dropLast ++ ['\n'] :=
        (List.dropLast_append_getLast? '\n' hend).symm
      refine ⟨splitAtNewlines before.dropLast, ?_, ?_, fun line hline' => ?_⟩
      · nth_rewrite 1 [hcs]
        rw [hline, List.append_assoc, List.singleton_append, splitAtNewlines_append,
          List.dropLast_concat]
      · rw [length_splitAtNewlines]
        nth_rewrite 2 [hline]
        simp
      · by_contra hblank
        rw [Bool.not_eq_false] at hblank
        obtain ⟨earlier, hsplit, hearlier⟩ := exists_last_line hline'
        rw [hsplit, List.append_assoc] at hline
        have hshorter : earlier.length < h.start := by
          rw [← hlen, hline]
          simp
        have htaken : cs.take earlier.length = earlier := by
          rw [hcs, hline, List.append_assoc, List.take_left]
        have hleads : Lead cs earlier.length n := by
          refine ⟨fun c hc => ?_, by omega, fun c hc => ?_⟩
          · rw [htaken] at hc
            rw [hearlier c hc]
            rfl
          · rw [htake, hline, List.append_assoc, List.drop_left, List.append_assoc] at hc
            simp only [List.mem_append, List.mem_singleton] at hc
            rcases hc with hc | rfl | hc
            · exact List.all_eq_true.mp hblank c hc
            · decide
            · exact hat.lead.spaces c hc
        have := hat.least _ hleads
        omega
  have hn' : lineAt cs n = rows.length + lead.count '\n' + 1 := by
    rw [lineAt, htake, List.count_append, hcount]
  rw [hn', blankAbove_of_lead hrows hat.lead.spaces hlast, hcount, lineAt, ← hbefore]
  omega

end

/-! ## Functions -/

/-- A function has the name and the start of its head, and the line on which that stands. -/
lemma map_cutAt (cs : List Char) : ∀ hs : List Head,
    (cutAt cs hs).map (fun s => (s.name, s.start, s.line)) =
      hs.map fun h => (h.name, h.start, lineAt cs h.start)
  | [] => rfl
  | [_] => rfl
  | _ :: next :: more => by
    rw [cutAt, List.map_cons, map_cutAt cs (next :: more)]
    rfl

lemma exists_head {cs : List Char} {s : Segment} (hs : s ∈ segments cs) :
    ∃ h ∈ heads cs, s.name = h.name ∧ s.start = h.start ∧ s.line = lineAt cs h.start := by
  have hmem := List.mem_map_of_mem (f := fun s => (s.name, s.start, s.line)) hs
  rw [segments, map_cutAt, List.mem_map] at hmem
  obtain ⟨h, hh, heq⟩ := hmem
  simp only [Prod.mk.injEq] at heq
  exact ⟨h, hh, heq.1.symm, heq.2.1.symm, heq.2.2.symm⟩

lemma exists_segment {cs : List Char} {h : Head} (hh : h ∈ heads cs) :
    ∃ s ∈ segments cs, s.name = h.name ∧ s.start = h.start := by
  have hmem := List.mem_map_of_mem (f := fun h => (h.name, h.start, lineAt cs h.start)) hh
  rw [← map_cutAt, List.mem_map] at hmem
  obtain ⟨s, hs, heq⟩ := hmem
  simp only [Prod.mk.injEq] at heq
  exact ⟨s, hs, heq.1, heq.2.1⟩

/-- What is reported of a function in a Python file is reported on the line of the function. -/
lemma exists_segment_of_mem_analyze {d : Disk} {here : Location} {quality : Value}
    {path text : String} {found : List Violation} (hfile : d.read here path = .ok text.toUTF8)
    (hpath : Path.lastEnding path = ".py") (hfound : analyze d here quality path = .ok found)
    {v : Violation} (hv : v ∈ found) (hcode : v.finding.code ≠ "FILE_TOO_LARGE") :
    ∃ s ∈ segments text.toList, v.finding.function? = some s.name ∧ v.line = s.line := by
  cases hrules : rulesOf quality with
  | error e =>
    rw [analyze_of_rules_error hfile hrules] at hfound
    cases hfound
  | ok rules =>
    rw [analyze_module hfile hpath hrules] at hfound
    cases hmodule : checkModule d here rules path text.toList with
    | error e => simp [hmodule, Except.map] at hfound
    | ok vs =>
      rw [hmodule] at hfound
      obtain rfl : checkLength rules text.toList ++ vs = found := Except.ok.inj hfound
      rcases List.mem_append.mp hv with hlength | hmem
      · rw [checkLength] at hlength
        simp only [List.mem_ite_nil_right, List.mem_singleton] at hlength
        exact absurd (by rw [hlength.2]; rfl) hcode
      · obtain ⟨s, hs, hline, hname⟩ := mem_checkModule hmodule v hmem
        exact ⟨s, hs, hname, hline⟩

/-- **The line of a function.**  Take a text in which only `\n` ends a line.  A function is found for
each keyword with a name and a bracket that has only spaces before it on its line, and for nothing
else.  The line that is recorded for it, together with the blank lines right above the keyword, makes
the line of the keyword; so it is that line just if there is no blank line above.  Whatever is
reported of a function in a file with this text is reported on the line recorded for the function. -/
theorem segments_line {text : String}
    (hplain : ∀ c ∈ text.toList, isLineEnd c = true → c = '\n') :
    let cs := text.toList
    (∀ s ∈ segments cs, (∃ rest, Opens s.name (cs.drop (keyword cs s)) rest) ∧
        s.line + blankAbove cs (lineAt cs (keyword cs s)) = lineAt cs (keyword cs s)) ∧
      (∀ n name rest, Opens name (cs.drop n) rest → (∃ m, Lead cs m n) →
        ∃ s ∈ segments cs, s.name = name ∧ keyword cs s = n) ∧
      ∀ (d : Disk) (here : Location) (quality : Value) (path : String) (found : List Violation),
        d.read here path = .ok text.toUTF8 → Path.lastEnding path = ".py" →
        analyze d here quality path = .ok found →
        ∀ v ∈ found, v.finding.code ≠ "FILE_TOO_LARGE" →
          ∃ s ∈ segments cs, v.finding.function? = some s.name ∧ v.line = s.line := by
  intro cs
  obtain ⟨hsound, hcomplete⟩ := heads_spec cs
  refine ⟨fun s hs => ?_, fun n name rest hopens ⟨m, hm⟩ => ?_, ?_⟩
  · obtain ⟨h, hh, hname, hstart, hline⟩ := exists_head hs
    obtain ⟨n, hat⟩ := hsound h hh
    rw [hat.keyword_eq hstart, hname, hline]
    exact ⟨hat.opens, lineAt_keyword hplain hat⟩
  · obtain ⟨h, hh, hname, hat⟩ := hcomplete m n name rest hm hopens
    obtain ⟨s, hs, hsname, hstart⟩ := exists_segment hh
    exact ⟨s, hs, hsname.trans hname, hat.keyword_eq hstart⟩
  · exact fun d here quality path found hfile hpath hfound v hv hcode =>
      exists_segment_of_mem_analyze hfile hpath hfound hv hcode

/-- A function below a blank line. -/
def belowBlank : String := "x\n\n def f(): 0\n"

/-- The rules of a watcher that allows no lines in a function. -/
def noneAllowed : Value := .object [("max_function_lines", .int 0)]

lemma lineAt_belowBlank : lineAt belowBlank.toList 4 = 3 := by decide

lemma segments_belowBlank :
    segments belowBlank.toList = [⟨"f", 2, 2, "\n def f(): 0\n".toList⟩] := by decide +kernel

lemma read_belowBlank :
    Disk.read ⟨[(["m.py"], .file belowBlank.toUTF8)]⟩ [] "m.py" = .ok belowBlank.toUTF8 :=
  Disk.read_in_root (by decide) (by decide) (by decide) rfl

lemma analyze_belowBlank :
    analyze ⟨[(["m.py"], .file belowBlank.toUTF8)]⟩ [] (.object [("rules", noneAllowed)]) "m.py" =
      .ok [⟨2, .functionTooLong "f" 1 "0"⟩] := by
  have hlength : checkLength noneAllowed belowBlank.toList = [] := by decide
  have hsegment : checkSegment noneAllowed ⟨"f", 2, 2, "\n def f(): 0\n".toList⟩ =
      [⟨2, .functionTooLong "f" 1 "0"⟩] := by decide
  have htests : isSet (noneAllowed.get? "require_tests") = false := by decide
  rw [analyze_module read_belowBlank (by decide) rfl, checkModule, segments_belowBlank, hlength]
  simp only [htests, List.flatMap_cons, hsegment]
  rfl

/-- The keyword of the function stands on line 3, and the function is recorded on line 2. -/
theorem segments_line_belowBlank :
    (∀ c ∈ belowBlank.toList, isLineEnd c = true → c = '\n') ∧
      (∃ s ∈ segments belowBlank.toList, s.name = "f" ∧ keyword belowBlank.toList s = 4 ∧
        lineAt belowBlank.toList 4 = 3 ∧ s.line = 2) ∧
      ∃ s ∈ segments belowBlank.toList,
        Finding.function? (.functionTooLong "f" 1 "0") = some s.name ∧ 2 = s.line := by
  have hplain : ∀ c ∈ belowBlank.toList, isLineEnd c = true → c = '\n' := by
    simp [belowBlank, isLineEnd]
  have hblank : blankAbove belowBlank.toList 3 = 1 := by decide
  have hopens : Opens "f" (belowBlank.toList.drop 4) "): 0\n".toList :=
    ⟨[' '], [], by simp, by simp [isSpace], by simp, by simp [isWordPart, Char.isAlphanum], by simp,
      by decide⟩
  have hstart : LineStart belowBlank.toList 3 := by simp [LineStart, belowBlank, isLineEnd]
  have hlead : Lead belowBlank.toList 3 4 := ⟨hstart, by simp, by simp [belowBlank, isSpace]⟩
  obtain ⟨hsound, hcomplete, hreported⟩ := segments_line hplain
  obtain ⟨s, hs, hname, hkeyword⟩ := hcomplete 4 "f" _ hopens ⟨3, hlead⟩
  have hsum := (hsound s hs).2
  rw [hkeyword, lineAt_belowBlank, hblank] at hsum
  have hline := hreported _ _ _ _ _ read_belowBlank (by decide) analyze_belowBlank _
    (List.mem_singleton.mpr rfl) (by decide)
  exact ⟨hplain, ⟨s, hs, hname, hkeyword, lineAt_belowBlank, by omega⟩, hline⟩

/-- The function is reported on the blank line, and not where its keyword stands. -/
theorem analyze_line_apart :
    analyze ⟨[(["m.py"], .file belowBlank.toUTF8)]⟩ [] (.object [("rules", noneAllowed)]) "m.py" =
        .ok [⟨2, .functionTooLong "f" 1 "0"⟩] ∧
      belowBlank.toList.drop 4 = "def f(): 0\n".toList ∧ lineAt belowBlank.toList 4 = 3 :=
  ⟨analyze_belowBlank, by decide, lineAt_belowBlank⟩

end QualityGate.Watch
