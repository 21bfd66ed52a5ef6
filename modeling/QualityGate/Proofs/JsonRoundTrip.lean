/-
# Values written and read again

What is written of a value is read as that value again, in every style (`parseWithin_render`), if
the value fits into what can be read: no integers with too many digits, not too many parts inside
each other, and no key twice in an object.  No carriage return is written (`not_mem_renderAt`).

The proof follows the reader.  `Reads` says of a part of a text what it is read as, whatever
follows; arrays and objects are read one part after the other (`reads_elements`, `reads_members`),
and values by induction on their structure (`readable`).
-/
import Mathlib
import QualityGate.Proofs.JsonNumbers
import QualityGate.Proofs.JsonStrings

namespace QualityGate.Json

/-! ## Blanks -/

/-- A text that does not start with a blank. -/
def Solid (cs : List Char) : Prop := ∀ c, cs.head? = some c → isBlank c = false

lemma solid_cons {c : Char} (hc : isBlank c = false) (cs : List Char) : Solid (c :: cs) := by
  intro d hd
  cases hd
  exact hc

lemma skipBlanks_append {blanks rest : List Char} (hb : ∀ c ∈ blanks, isBlank c = true)
    (hr : Solid rest) (pos : Nat) :
    Input.skipBlanks ⟨blanks ++ rest, pos⟩ = ⟨rest, pos + blanks.length⟩ := by
  have htake : (blanks ++ rest).takeWhile isBlank = blanks := by
    rw [List.takeWhile_append_of_pos hb]
    cases rest with
    | nil => simp
    | cons c cs => simp [hr c rfl]
  rw [Input.skipBlanks, htake, Input.drop, List.drop_left]

lemma skipBlanks_solid {rest : List Char} (hr : Solid rest) (pos : Nat) :
    Input.skipBlanks ⟨rest, pos⟩ = ⟨rest, pos⟩ := by
  have hnil : ∀ c ∈ ([] : List Char), isBlank c = true := by simp
  exact skipBlanks_append hnil hr pos

lemma isBlank_lineBreak (style : Style) (level : Nat) :
    ∀ c ∈ (lineBreak style level).toList, isBlank c = true := by
  intro c hc
  rw [lineBreak] at hc
  cases hi : style.indent with
  | none => simp [hi] at hc
  | some n =>
    simp only [hi, String.toList_ofList, List.mem_cons, List.mem_replicate] at hc
    rcases hc with rfl | ⟨-, rfl⟩ <;> decide

lemma toList_separator (style : Style) (level : Nat) :
    ∃ blanks, (separator style level).toList = ',' :: blanks ∧ ∀ c ∈ blanks, isBlank c = true := by
  rw [separator]
  cases hi : style.indent with
  | none => exact ⟨[' '], by simp, by simp [isBlank]⟩
  | some n =>
    refine ⟨(lineBreak style level).toList, ?_, isBlank_lineBreak style level⟩
    simp only [String.toList_append]
    rfl

lemma endsNumber_cons {c : Char} {rest : List Char}
    (hc : c.isDigit = false ∧ c ≠ '.' ∧ c ≠ 'e' ∧ c ≠ 'E') : EndsNumber (c :: rest) := by
  intro d hd
  cases hd
  exact hc

lemma endsNumber_append {blanks rest : List Char} (hb : ∀ c ∈ blanks, isBlank c = true)
    (h : EndsNumber rest) : EndsNumber (blanks ++ rest) := by
  cases blanks with
  | nil => exact h
  | cons c cs =>
    have hc := hb c (by simp)
    refine endsNumber_cons ?_
    simp only [isBlank, Bool.or_eq_true, decide_eq_true_eq] at hc
    rcases hc with ((rfl | rfl) | rfl) | rfl <;> decide

/-! ## Values -/

mutual

/-- A value inside so many others fits into what can be read within bounds. -/
def Fits (b : Bounds) : Nat → Value → Prop
  | _, .null => True
  | _, .bool _ => True
  | _, .int n => Bounds.exceeded b.digits (digitCount n) = false
  | _, .float _ => True
  | _, .text s => Unpaired s.toList
  | depth, .list vs => Bounds.exceeded b.depth (depth + 1) = false ∧ FitsAll b (depth + 1) vs
  | depth, .object fs =>
    Bounds.exceeded b.depth (depth + 1) = false ∧ (fs.map (·.1)).Nodup ∧ FitsFields b (depth + 1) fs

/-- All of several values fit. -/
def FitsAll (b : Bounds) : Nat → List Value → Prop
  | _, [] => True
  | depth, v :: vs => Fits b depth v ∧ FitsAll b depth vs

/-- All of several fields fit. -/
def FitsFields (b : Bounds) : Nat → List (String × Value) → Prop
  | _, [] => True
  | depth, (k, v) :: fs => Unpaired k.toList ∧ Fits b depth v ∧ FitsFields b depth fs

end

mutual

/-- How many steps the reading of a value takes at most. -/
def steps : Value → Nat
  | .list vs => stepsAll vs + 1
  | .object fs => stepsFields fs + 1
  | _ => 1

/-- How many steps the reading of several values takes at most. -/
def stepsAll : List Value → Nat
  | [] => 0
  | v :: vs => steps v + stepsAll vs + 1

/-- How many steps the reading of several fields takes at most. -/
def stepsFields : List (String × Value) → Nat
  | [] => 0
  | (_, v) :: fs => steps v + stepsFields fs + 1

end

/-- A part of a text is read as something, whatever follows that does not go on with a number. -/
def Reads {α : Type} (r : Reader α) (text : List Char) (x : α) : Prop :=
  ∀ rest pos, EndsNumber rest → ∃ pos', r ⟨text ++ rest, pos⟩ = .ok (x, ⟨rest, pos'⟩)

lemma head?_of_plain {cs : List Char} (hne : cs ≠ []) (h : ∀ c ∈ cs, Plain c) :
    ∃ c, cs.head? = some c ∧ Plain c := by
  obtain ⟨c, cs, rfl⟩ := List.exists_cons_of_ne_nil hne
  exact ⟨c, rfl, h c List.mem_cons_self⟩

/-- The text of a value starts with a character that is neither blank nor the end of an array, nor
the mark that some texts start with. -/
lemma head?_renderAt (style : Style) (level : Nat) (v : Value) :
    ∃ c, (renderAt style level v).toList.head? = some c ∧ Plain c := by
  cases v with
  | null => exact ⟨'n', by simp [renderAt], by decide, by decide, by decide⟩
  | bool t =>
    cases t with
    | true => exact ⟨'t', by simp [renderAt], by decide, by decide, by decide⟩
    | false => exact ⟨'f', by simp [renderAt], by decide, by decide, by decide⟩
  | int n =>
    rw [renderAt]
    exact head?_of_plain (toString_ne_nil n) fun c hc => plain_toString n hc
  | float x =>
    rw [renderAt]
    exact head?_of_plain (floatText_ne_nil x) fun c hc => plain_floatText x hc
  | text s => exact ⟨'"', by simp [renderAt, quoted], by decide, by decide, by decide⟩
  | list vs => cases vs <;> exact ⟨'[', by simp [renderAt], by decide, by decide, by decide⟩
  | object fs => cases fs <;> exact ⟨'{', by simp [renderAt], by decide, by decide, by decide⟩

section

variable (b : Bounds) (fuel depth : Nat) (cs : List Char) (pos : Nat)

lemma value_quote : value b (fuel + 1) depth ⟨'"' :: cs, pos⟩ =
    (stringTail pos cs (pos + 1) 0).map fun p => (.text (String.ofList p.1), p.2) := by
  rw [value]
  rfl

lemma value_brace (hdepth : Bounds.exceeded b.depth (depth + 1) = false) {i : Input}
    (hi : Input.skipBlanks ⟨cs, pos + 1⟩ = i) : value b (fuel + 1) depth ⟨'{' :: cs, pos⟩ =
    if i.rest.head? = some '}' then .ok (.object [], i.drop 1)
    else members b fuel (depth + 1) [] i := by
  subst hi
  rw [value]
  simp only [hdepth, Bool.false_eq_true, if_false]
  rfl

lemma value_bracket (hdepth : Bounds.exceeded b.depth (depth + 1) = false) {i : Input}
    (hi : Input.skipBlanks ⟨cs, pos + 1⟩ = i) : value b (fuel + 1) depth ⟨'[' :: cs, pos⟩ =
    if i.rest.head? = some ']' then .ok (.list [], i.drop 1)
    else elements b fuel (depth + 1) [] i := by
  subst hi
  rw [value]
  simp only [hdepth, Bool.false_eq_true, if_false]
  rfl

lemma value_number {c : Char} (hc : StartsNumber c cs) :
    value b (fuel + 1) depth ⟨c :: cs, pos⟩ = number b ⟨c :: cs, pos⟩ := by
  rw [value]
  split
  · next h => exact absurd (List.cons.inj h).1 (hc.ne (by decide) (by decide))
  · next h => exact absurd (List.cons.inj h).1 (hc.ne (by decide) (by decide))
  · next h => exact absurd (List.cons.inj h).1 (hc.ne (by decide) (by decide))
  · simp only [find?_words hc]

end

lemma value_int {b : Bounds} {n : Int} (hn : Bounds.exceeded b.digits (digitCount n) = false)
    (fuel depth : Nat) : Reads (value b (fuel + 1) depth) (toString n).toList (.int n) := by
  intro rest pos hrest
  refine ⟨pos + (toString n).toList.length, ?_⟩
  rw [← number_toString hn hrest pos]
  obtain ⟨c, cs, htext, hc⟩ := startsNumber_toString n
  rw [htext, List.cons_append]
  exact value_number b fuel depth _ pos (hc.append rest)

lemma value_text {b : Bounds} {s : String} (hs : Unpaired s.toList) (style : Style)
    (fuel depth : Nat) : Reads (value b (fuel + 1) depth) (quoted style s).toList (.text s) := by
  intro rest pos _
  refine ⟨pos + 1 + ((s.toList.flatMap (escapeChar style.ascii)).length + 1), ?_⟩
  rw [quoted, String.toList_ofList, List.cons_append, List.cons_append, List.append_assoc,
    List.singleton_append, value_quote, stringTail_text _ _ _ _ _ hs]
  simp only [Except.map, String.ofList_toList]

lemma value_word {b : Bounds} {w : List Char} {v : Value} (hw : (w, v) ∈ words)
    (fuel depth : Nat) : Reads (value b (fuel + 1) depth) w v := by
  intro rest pos _
  refine ⟨pos + w.length, ?_⟩
  simp only [words, List.mem_cons, Prod.mk.injEq, List.not_mem_nil, or_false] at hw
  rcases hw with ⟨rfl, rfl⟩ | ⟨rfl, rfl⟩ | ⟨rfl, rfl⟩ | ⟨rfl, rfl⟩ | ⟨rfl, rfl⟩ | ⟨rfl, rfl⟩ <;>
    simp [value, words, List.isPrefixOf, Input.drop]

lemma value_float {b : Bounds} (x : Float) (fuel depth : Nat) :
    Reads (value b (fuel + 1) depth) (floatText x).toList (.float x) := by
  by_cases hword : x.isNaN = true ∨ x.isInf = true
  · exact value_word (floatText_word hword) fuel depth
  · simp only [not_or, Bool.not_eq_true] at hword
    intro rest pos hrest
    refine ⟨pos + (floatText x).toList.length, ?_⟩
    rw [← number_floatText b hword.1 hword.2 hrest pos]
    obtain ⟨c, cs, htext, hc⟩ := startsNumber_floatText hword.1 hword.2
    rw [htext, List.cons_append]
    exact value_number b fuel depth _ pos (hc.append rest)

/-! ### Elements and members, one step -/

lemma solid_renderAt (style : Style) (level : Nat) (v : Value) (rest : List Char) :
    Solid ((renderAt style level v).toList ++ rest) ∧
      ((renderAt style level v).toList ++ rest).head? ≠ some ']' := by
  obtain ⟨c, hc, hblank, hend, -⟩ := head?_renderAt style level v
  have hhead : ((renderAt style level v).toList ++ rest).head? = some c := by
    rw [List.head?_append, hc]
    rfl
  refine ⟨fun d hd => ?_, ?_⟩
  · rw [hhead] at hd
    cases hd
    exact hblank
  · rw [hhead]
    simpa using hend

section

variable {b : Bounds} {fuel depth : Nat} {v : Value} {blanks rest : List Char} {pos : Nat}

lemma elements_last (acc : List Value) {i : Input} (hb : ∀ c ∈ blanks, isBlank c = true)
    (hv : value b fuel depth i = .ok (v, ⟨blanks ++ ']' :: rest, pos⟩)) :
    elements b (fuel + 1) depth acc i =
      .ok (.list (v :: acc).reverse, ⟨rest, pos + blanks.length + 1⟩) := by
  rw [elements, hv]
  simp only [bind, Except.bind]
  rw [skipBlanks_append hb (solid_cons (by decide) rest)]
  rfl

lemma elements_more (acc : List Value) {i : Input} (hb : ∀ c ∈ blanks, isBlank c = true)
    (hr : Solid rest) (hv : value b fuel depth i = .ok (v, ⟨',' :: (blanks ++ rest), pos⟩)) :
    elements b (fuel + 1) depth acc i =
      elements b fuel depth (v :: acc) ⟨rest, pos + 1 + blanks.length⟩ := by
  have hnext : Input.skipBlanks ⟨blanks ++ rest, pos + 1⟩ = ⟨rest, pos + 1 + blanks.length⟩ :=
    skipBlanks_append hb hr (pos + 1)
  rw [elements, hv]
  simp only [bind, Except.bind]
  rw [skipBlanks_solid (solid_cons (by decide) _), if_neg (by simp), if_pos (by simp), ← hnext]
  rfl

lemma members_last (acc : List (String × Value)) {key : String} {i j : Input}
    (hb : ∀ c ∈ blanks, isBlank c = true) (hkey : memberKey i = .ok (key, j))
    (hv : value b fuel depth j = .ok (v, ⟨blanks ++ '}' :: rest, pos⟩)) :
    members b (fuel + 1) depth acc i =
      .ok (.object (Value.setField key v acc), ⟨rest, pos + blanks.length + 1⟩) := by
  rw [members, hkey]
  simp only [bind, Except.bind, hv]
  rw [skipBlanks_append hb (solid_cons (by decide) rest)]
  rfl

lemma members_more (acc : List (String × Value)) {key : String} {i j : Input}
    (hb : ∀ c ∈ blanks, isBlank c = true) (hr : Solid rest) (hkey : memberKey i = .ok (key, j))
    (hv : value b fuel depth j = .ok (v, ⟨',' :: (blanks ++ rest), pos⟩)) :
    members b (fuel + 1) depth acc i =
      members b fuel depth (Value.setField key v acc) ⟨rest, pos + 1 + blanks.length⟩ := by
  have hnext : Input.skipBlanks ⟨blanks ++ rest, pos + 1⟩ = ⟨rest, pos + 1 + blanks.length⟩ :=
    skipBlanks_append hb hr (pos + 1)
  rw [members, hkey]
  simp only [bind, Except.bind, hv]
  rw [skipBlanks_solid (solid_cons (by decide) _), if_neg (by simp), if_pos (by simp), ← hnext]
  rfl

end

/-- What is written of a key is read as the key, with everything up to the value. -/
lemma memberKey_quoted {key : String} (hk : Unpaired key.toList) (style : Style) {cs : List Char}
    (hcs : Solid cs) (pos : Nat) :
    ∃ pos', memberKey ⟨(quoted style key).toList ++ ':' :: ' ' :: cs, pos⟩ =
      .ok (key, ⟨cs, pos'⟩) := by
  have hspace : ∀ c ∈ [' '], isBlank c = true := by simp [isBlank]
  have hquoted : (quoted style key).toList ++ ':' :: ' ' :: cs =
      '"' :: (key.toList.flatMap (escapeChar style.ascii) ++ '"' :: ':' :: ' ' :: cs) := by
    simp [quoted]
  have hstring := stringTail_text style.ascii pos (':' :: ' ' :: cs) key.toList (pos + 1) hk
  refine ⟨pos + 1 + ((key.toList.flatMap (escapeChar style.ascii)).length + 1) + 1 + 1, ?_⟩
  rw [hquoted, memberKey]
  simp only [hstring, bind, Except.bind]
  rw [skipBlanks_solid (solid_cons (by decide) _), if_pos (by simp), String.ofList_toList]
  simp only [Input.drop, List.drop_succ_cons, List.drop_zero]
  rw [← List.singleton_append, skipBlanks_append hspace hcs]
  rfl

/-! ### Whole values -/

lemma setField_of_not_mem {key : String} {v : Value} :
    ∀ {fs : List (String × Value)}, key ∉ fs.map (·.1) → Value.setField key v fs = fs ++ [(key, v)]
  | [], _ => rfl
  | (k, w) :: fs, h => by
    simp only [List.map_cons, List.mem_cons, not_or] at h
    rw [Value.setField, if_neg (Ne.symm h.1), setField_of_not_mem h.2, List.cons_append]

lemma setField_of_nodup {key : String} {v : Value} {acc fs : List (String × Value)}
    (h : ((acc ++ (key, v) :: fs).map (·.1)).Nodup) :
    Value.setField key v acc = acc ++ [(key, v)] := by
  refine setField_of_not_mem fun hmem => ?_
  rw [List.map_append, List.nodup_append] at h
  exact h.2.2 key hmem key (by simp) rfl

lemma endsNumber_close {close : List Char} (hb : ∀ c ∈ close, isBlank c = true) {c : Char}
    (hc : c = ']' ∨ c = '}') (rest : List Char) : EndsNumber (close ++ c :: rest) := by
  refine endsNumber_append hb (endsNumber_cons ?_)
  rcases hc with rfl | rfl <;> decide

lemma endsNumber_comma (rest : List Char) : EndsNumber (',' :: rest) :=
  endsNumber_cons (by decide)

section

variable (b : Bounds) (style : Style) (level depth : Nat)

/-- What is written of a value is read as the value. -/
def Readable (v : Value) : Prop :=
  ∀ fuel, steps v ≤ fuel → Reads (value b fuel depth) (renderAt style level v).toList v

variable {b style level depth} {close : List Char} (hclose : ∀ c ∈ close, isBlank c = true)
include hclose

/-- What is written of the elements of an array is read as these elements. -/
lemma reads_elements {v : Value} {vs : List Value}
    (hvs : ∀ u ∈ v :: vs, Readable b style level depth u) (acc : List Value) (fuel : Nat)
    (hfuel : stepsAll (v :: vs) ≤ fuel + 1) :
    Reads (elements b (fuel + 1) depth acc) ((renderAt style level v).toList ++
      ((renderElements style level vs).toList ++ (close ++ [']']))) (.list (acc.reverse ++ v :: vs)) := by
  induction vs generalizing v acc fuel with
  | nil =>
    intro rest pos _
    have hsteps : steps v ≤ fuel := by simp only [stepsAll] at hfuel; omega
    obtain ⟨pos', hv⟩ := hvs v (by simp) fuel hsteps (close ++ ']' :: rest) pos
      (endsNumber_close hclose (.inl rfl) rest)
    refine ⟨pos' + close.length + 1, ?_⟩
    simpa [renderElements] using elements_last acc hclose hv
  | cons w ws ih =>
    intro rest pos hrest
    obtain ⟨blanks, hsep, hblanks⟩ := toList_separator style level
    have hsteps : steps v ≤ fuel := by simp only [stepsAll] at hfuel; omega
    obtain ⟨fuel, rfl⟩ : ∃ n, fuel = n + 1 := ⟨fuel - 1, by simp only [stepsAll] at hfuel; omega⟩
    let next := (renderAt style level w).toList ++
      ((renderElements style level ws).toList ++ (close ++ [']']))
    have hnext : Solid (next ++ rest) := by
      rw [List.append_assoc]
      exact (solid_renderAt style level w _).1
    obtain ⟨pos', hv⟩ := hvs v (by simp) (fuel + 1) hsteps (',' :: (blanks ++ (next ++ rest)))
      pos (endsNumber_comma _)
    have hmore := elements_more acc hblanks hnext hv
    have hws : ∀ u ∈ w :: ws, Readable b style level depth u :=
      fun u hu => hvs u (List.mem_cons_of_mem v hu)
    obtain ⟨pos'', hrun⟩ := ih hws (v :: acc) fuel (by simp only [stepsAll] at hfuel ⊢; omega) rest
      (pos' + 1 + blanks.length) hrest
    refine ⟨pos'', ?_⟩
    rw [hrun] at hmore
    simpa [renderElements, hsep, next] using hmore

/-- What is written of the members of an object is read as these members. -/
lemma reads_members {key : String} {v : Value} {fs : List (String × Value)}
    (hfs : ∀ f ∈ (key, v) :: fs, Unpaired f.1.toList ∧ Readable b style level depth f.2)
    (acc : List (String × Value)) (hkeys : ((acc ++ (key, v) :: fs).map (·.1)).Nodup) (fuel : Nat)
    (hfuel : stepsFields ((key, v) :: fs) ≤ fuel + 1) :
    Reads (members b (fuel + 1) depth acc) ((quoted style key).toList ++ ':' :: ' ' ::
      ((renderAt style level v).toList ++ ((renderMembers style level fs).toList ++
        (close ++ ['}'])))) (.object (acc ++ (key, v) :: fs)) := by
  induction fs generalizing key v acc fuel with
  | nil =>
    intro rest pos _
    obtain ⟨hkey, hv⟩ := hfs (key, v) (by simp)
    have hsteps : steps v ≤ fuel := by simp only [stepsFields] at hfuel; omega
    obtain ⟨pos', hread⟩ := memberKey_quoted hkey style
      (solid_renderAt style level v (close ++ '}' :: rest)).1 pos
    obtain ⟨pos'', hval⟩ := hv fuel hsteps (close ++ '}' :: rest) pos'
      (endsNumber_close hclose (.inr rfl) rest)
    refine ⟨pos'' + close.length + 1, ?_⟩
    simpa [renderMembers, setField_of_nodup hkeys] using members_last acc hclose hread hval
  | cons f fs ih =>
    intro rest pos hrest
    obtain ⟨key', v'⟩ := f
    obtain ⟨blanks, hsep, hblanks⟩ := toList_separator style level
    obtain ⟨hkey, hv⟩ := hfs (key, v) (by simp)
    have hsteps : steps v ≤ fuel := by simp only [stepsFields] at hfuel; omega
    obtain ⟨fuel, rfl⟩ : ∃ n, fuel = n + 1 := ⟨fuel - 1, by simp only [stepsFields] at hfuel; omega⟩
    let next := (quoted style key').toList ++ ':' :: ' ' :: ((renderAt style level v').toList ++
      ((renderMembers style level fs).toList ++ (close ++ ['}'])))
    have hnext : Solid (next ++ rest) := by
      simp only [next, quoted, String.toList_ofList, List.cons_append]
      exact solid_cons (by decide) _
    obtain ⟨pos', hread⟩ := memberKey_quoted hkey style
      (solid_renderAt style level v (',' :: (blanks ++ (next ++ rest)))).1 pos
    obtain ⟨pos'', hval⟩ := hv (fuel + 1) hsteps (',' :: (blanks ++ (next ++ rest))) pos'
      (endsNumber_comma _)
    have hmore := members_more acc hblanks hnext hread hval
    have hfs' : ∀ f ∈ (key', v') :: fs, Unpaired f.1.toList ∧ Readable b style level depth f.2 :=
      fun f hf => hfs f (List.mem_cons_of_mem _ hf)
    rw [setField_of_nodup hkeys] at hmore
    obtain ⟨pos₃, hrun⟩ := ih hfs' (acc ++ [(key, v)]) (by simpa using hkeys) fuel
      (by simp only [stepsFields] at hfuel ⊢; omega) rest (pos'' + 1 + blanks.length) hrest
    refine ⟨pos₃, ?_⟩
    rw [hrun] at hmore
    simpa [renderMembers, hsep, next] using hmore

end

section

variable {b : Bounds} (style : Style)

lemma reads_list {level depth : Nat} {vs : List Value} (hv : Fits b depth (.list vs))
    (hvs : ∀ u ∈ vs, Readable b style (level + 1) (depth + 1) u) (fuel : Nat)
    (hfuel : stepsAll vs ≤ fuel) :
    Reads (value b (fuel + 1) depth) (renderAt style level (.list vs)).toList (.list vs) := by
  intro rest pos hrest
  cases vs with
  | nil =>
    refine ⟨pos + 1 + 1, ?_⟩
    have hi := skipBlanks_solid (solid_cons (show isBlank ']' = false by decide) rest) (pos + 1)
    simpa [renderAt, Input.drop] using value_bracket b fuel depth (']' :: rest) pos hv.1 hi
  | cons v vs =>
    obtain ⟨fuel, rfl⟩ : ∃ n, fuel = n + 1 := ⟨fuel - 1, by simp only [stepsAll] at hfuel; omega⟩
    let inner := (renderAt style (level + 1) v).toList ++
      ((renderElements style (level + 1) vs).toList ++ ((lineBreak style level).toList ++ [']']))
    have hsolid : Solid (inner ++ rest) ∧ (inner ++ rest).head? ≠ some ']' := by
      simp only [inner, List.append_assoc]
      exact solid_renderAt style (level + 1) v _
    have hi := skipBlanks_append (isBlank_lineBreak style (level + 1)) hsolid.1 (pos + 1)
    obtain ⟨pos', hrun⟩ := reads_elements (isBlank_lineBreak style level) hvs [] fuel hfuel rest
      (pos + 1 + (lineBreak style (level + 1)).toList.length) hrest
    have hvalue := value_bracket b (fuel + 1) depth _ pos hv.1 hi
    rw [if_neg hsolid.2, hrun] at hvalue
    exact ⟨pos', by simpa [renderAt, inner] using hvalue⟩

lemma reads_object {level depth : Nat} {fs : List (String × Value)} (hv : Fits b depth (.object fs))
    (hfs : ∀ f ∈ fs, Unpaired f.1.toList ∧ Readable b style (level + 1) (depth + 1) f.2) (fuel : Nat)
    (hfuel : stepsFields fs ≤ fuel) :
    Reads (value b (fuel + 1) depth) (renderAt style level (.object fs)).toList (.object fs) := by
  intro rest pos hrest
  cases fs with
  | nil =>
    refine ⟨pos + 1 + 1, ?_⟩
    have hi := skipBlanks_solid (solid_cons (show isBlank '}' = false by decide) rest) (pos + 1)
    simpa [renderAt, Input.drop] using value_brace b fuel depth ('}' :: rest) pos hv.1 hi
  | cons f fs =>
    obtain ⟨key, v⟩ := f
    obtain ⟨fuel, rfl⟩ : ∃ n, fuel = n + 1 := ⟨fuel - 1, by simp only [stepsFields] at hfuel; omega⟩
    let inner := (quoted style key).toList ++ ':' :: ' ' :: ((renderAt style (level + 1) v).toList ++
      ((renderMembers style (level + 1) fs).toList ++ ((lineBreak style level).toList ++ ['}'])))
    have hsolid : Solid (inner ++ rest) ∧ (inner ++ rest).head? ≠ some '}' := by
      simp only [inner, quoted, String.toList_ofList, List.cons_append]
      exact ⟨solid_cons (by decide) _, by simp⟩
    have hi := skipBlanks_append (isBlank_lineBreak style (level + 1)) hsolid.1 (pos + 1)
    obtain ⟨pos', hrun⟩ := reads_members (isBlank_lineBreak style level) hfs [] hv.2.1 fuel hfuel rest
      (pos + 1 + (lineBreak style (level + 1)).toList.length) hrest
    have hvalue := value_brace b (fuel + 1) depth _ pos hv.1 hi
    rw [if_neg hsolid.2, hrun] at hvalue
    exact ⟨pos', by simpa [renderAt, inner] using hvalue⟩

lemma steps_pos (v : Value) : 0 < steps v := by
  cases v <;> simp [steps]

lemma Readable.of_succ {level depth : Nat} {v : Value} (h : ∀ fuel, steps v ≤ fuel + 1 →
      Reads (value b (fuel + 1) depth) (renderAt style level v).toList v) :
    Readable b style level depth v := by
  intro fuel hfuel
  have hpos := steps_pos v
  obtain ⟨fuel, rfl⟩ : ∃ n, fuel = n + 1 := ⟨fuel - 1, by omega⟩
  exact h fuel hfuel

mutual

/-- What is written of a value is read as the value. -/
lemma readable : ∀ (v : Value) (level depth : Nat), Fits b depth v → Readable b style level depth v
  | .null, level, depth, _ => by
    refine .of_succ style fun fuel _ => ?_
    rw [renderAt]
    exact value_word (by simp [words]) fuel depth
  | .bool t, level, depth, _ => by
    refine .of_succ style fun fuel _ => ?_
    cases t <;> rw [renderAt] <;> exact value_word (by simp [words]) fuel depth
  | .int n, level, depth, hv => by
    refine .of_succ style fun fuel _ => ?_
    rw [renderAt]
    exact value_int hv fuel depth
  | .float x, level, depth, _ => by
    refine .of_succ style fun fuel _ => ?_
    rw [renderAt]
    exact value_float x fuel depth
  | .text s, level, depth, hv => by
    refine .of_succ style fun fuel _ => ?_
    rw [renderAt]
    exact value_text hv style fuel depth
  | .list vs, level, depth, hv => by
    have hvs := readableAll vs (level + 1) (depth + 1) hv.2
    refine .of_succ style fun fuel hfuel => reads_list style hv hvs fuel ?_
    rw [steps] at hfuel
    omega
  | .object fs, level, depth, hv => by
    have hfs := readableFields fs (level + 1) (depth + 1) hv.2.2
    refine .of_succ style fun fuel hfuel => reads_object style hv hfs fuel ?_
    rw [steps] at hfuel
    omega

lemma readableAll : ∀ (vs : List Value) (level depth : Nat), FitsAll b depth vs →
    ∀ u ∈ vs, Readable b style level depth u
  | [], _, _, _ => by simp
  | v :: vs, level, depth, h => by
    have hv := readable v level depth h.1
    have hvs := readableAll vs level depth h.2
    intro u hu
    rcases List.mem_cons.mp hu with rfl | hu
    · exact hv
    · exact hvs u hu

lemma readableFields : ∀ (fs : List (String × Value)) (level depth : Nat), FitsFields b depth fs →
    ∀ f ∈ fs, Unpaired f.1.toList ∧ Readable b style level depth f.2
  | [], _, _, _ => by simp
  | (k, v) :: fs, level, depth, h => by
    have hv := readable v level depth h.2.1
    have hfs := readableFields fs level depth h.2.2
    intro f hf
    rcases List.mem_cons.mp hf with rfl | hf
    · exact ⟨h.1, hv⟩
    · exact hfs f hf

end

/-! ### Whole texts -/

lemma length_renderAt_pos (level : Nat) (v : Value) :
    0 < (renderAt style level v).toList.length := by
  obtain ⟨c, hc, -⟩ := head?_renderAt style level v
  exact List.length_pos_of_mem (List.mem_of_head? hc)

mutual

/-- The reading of a value takes no more steps than the value has characters. -/
lemma steps_le : ∀ (v : Value) (level : Nat),
    steps v ≤ (renderAt style level v).toList.length
  | .list [], _ => by simp [steps, stepsAll, renderAt]
  | .list (v :: vs), level => by
    have h1 := steps_le v (level + 1)
    have h2 := stepsAll_le vs (level + 1)
    simp only [steps, stepsAll, renderAt, String.toList_append, List.length_append]
    have hopen : ("[" : String).toList.length = 1 := rfl
    have hclose : ("]" : String).toList.length = 1 := rfl
    omega
  | .object [], _ => by simp [steps, stepsFields, renderAt]
  | .object ((k, v) :: fs), level => by
    have h1 := steps_le v (level + 1)
    have h2 := stepsFields_le fs (level + 1)
    simp only [steps, stepsFields, renderAt, String.toList_append, List.length_append]
    have hcolon : (": " : String).toList.length = 2 := rfl
    omega
  | .null, level => length_renderAt_pos style level _
  | .bool _, level => length_renderAt_pos style level _
  | .int _, level => length_renderAt_pos style level _
  | .float _, level => length_renderAt_pos style level _
  | .text _, level => length_renderAt_pos style level _

lemma stepsAll_le : ∀ (vs : List Value) (level : Nat),
    stepsAll vs ≤ (renderElements style level vs).toList.length
  | [], _ => by simp [stepsAll]
  | v :: vs, level => by
    have h1 := steps_le v level
    have h2 := stepsAll_le vs level
    obtain ⟨blanks, hsep, -⟩ := toList_separator style level
    simp only [stepsAll, renderElements, String.toList_append, List.length_append, hsep,
      List.length_cons]
    omega

lemma stepsFields_le : ∀ (fs : List (String × Value)) (level : Nat),
    stepsFields fs ≤ (renderMembers style level fs).toList.length
  | [], _ => by simp [stepsFields]
  | (k, v) :: fs, level => by
    have h1 := steps_le v level
    have h2 := stepsFields_le fs level
    obtain ⟨blanks, hsep, -⟩ := toList_separator style level
    simp only [stepsFields, renderMembers, String.toList_append, List.length_append, hsep,
      List.length_cons]
    omega

end

/-- **Values written and read.**  What is written of a value that fits, in any style, is read as
that value again. -/
lemma parseWithin_render {v : Value} (hv : Fits b 0 v) : parseWithin b (render style v) = .ok v := by
  have hsolid : Solid (render style v).toList := by
    simpa [render] using (solid_renderAt style 0 v []).1
  have hfuel : steps v ≤ 2 * (render style v).toList.length + 2 := by
    have := steps_le style v 0
    rw [render]
    omega
  have hend : EndsNumber [] := by
    intro c hc
    cases hc
  obtain ⟨pos, hread⟩ := readable style v 0 0 hv _ hfuel [] 0 hend
  have hmark : (render style v).toList.head? ≠ some '\ufeff' := by
    obtain ⟨c, hc, -, -, hmark⟩ := head?_renderAt style 0 v
    rw [render, hc]
    simpa using hmark
  rw [List.append_nil] at hread
  rw [parseWithin]
  simp only [hmark, if_false, skipBlanks_solid hsolid]
  rw [render] at *
  simp only [hread, bind, Except.bind]
  rfl

/-! ### Carriage returns

A text that is written holds none, so that nothing is lost when line ends are made the same. -/

lemma not_mem_unitEscape {n : Nat} (h : n < 0x10000) : '\r' ∉ unitEscape n := by
  have hdigit : ∀ k < 16, '\r' ≠ Nat.digitChar k := by decide
  rw [unitEscape_eq h]
  simp only [List.mem_cons, List.not_mem_nil, or_false, not_or]
  exact ⟨by decide, by decide, hdigit _ (by omega), hdigit _ (by omega), hdigit _ (by omega),
    hdigit _ (by omega)⟩

lemma Written.not_mem {c : Char} {e : List Char} (h : Written c e) : '\r' ∉ e := by
  cases h with
  | plain _ _ hctl =>
    rw [List.mem_singleton]
    rintro rfl
    exact absurd hctl (by decide)
  | @escape x _ hx =>
    simp only [List.mem_cons, List.not_mem_nil, or_false, not_or]
    refine ⟨by decide, ?_⟩
    rintro rfl
    exact absurd hx (by simp [escape?])
  | unit hn _ => exact not_mem_unitEscape hn
  | pair _ hn _ hm _ =>
    rw [List.mem_append, not_or]
    exact ⟨not_mem_unitEscape (by omega), not_mem_unitEscape (by omega)⟩

lemma not_mem_quoted (s : String) : '\r' ∉ (quoted style s).toList := by
  simp only [quoted, String.toList_ofList, List.cons_append, List.mem_cons, List.mem_append,
    List.mem_flatMap, not_or, not_exists, not_and]
  exact ⟨by decide, fun c _ => (written_escapeChar style.ascii c).not_mem, by simp⟩

lemma not_mem_lineBreak (level : Nat) : '\r' ∉ (lineBreak style level).toList := by
  rw [lineBreak]
  cases style.indent with
  | none => simp
  | some n => simp [List.mem_replicate]

lemma not_mem_separator (level : Nat) : '\r' ∉ (separator style level).toList := by
  rw [separator]
  cases style.indent with
  | none => simp
  | some n => simpa using not_mem_lineBreak style level

mutual

lemma not_mem_renderAt : ∀ (v : Value) (level : Nat),
    '\r' ∉ (renderAt style level v).toList
  | .null, _ => by simp [renderAt]
  | .bool true, _ => by simp [renderAt]
  | .bool false, _ => by simp [renderAt]
  | .int n, _ => by
    rw [renderAt]
    exact fun h => absurd (plain_toString n h).1 (by decide)
  | .float x, _ => by
    rw [renderAt]
    exact fun h => absurd (plain_floatText x h).1 (by decide)
  | .text s, _ => by
    rw [renderAt]
    exact not_mem_quoted style s
  | .list [], _ => by simp [renderAt]
  | .list (v :: vs), level => by
    have h1 := not_mem_renderAt v (level + 1)
    have h2 := not_mem_renderElements vs (level + 1)
    simp [renderAt, not_mem_lineBreak, h1, h2]
  | .object [], _ => by simp [renderAt]
  | .object ((k, v) :: fs), level => by
    have h1 := not_mem_renderAt v (level + 1)
    have h2 := not_mem_renderMembers fs (level + 1)
    simp [renderAt, not_mem_lineBreak, not_mem_quoted, h1, h2]

lemma not_mem_renderElements : ∀ (vs : List Value) (level : Nat),
    '\r' ∉ (renderElements style level vs).toList
  | [], _ => by simp [renderElements]
  | v :: vs, level => by
    have h1 := not_mem_renderAt v level
    have h2 := not_mem_renderElements vs level
    simp [renderElements, not_mem_separator, h1, h2]

lemma not_mem_renderMembers : ∀ (fs : List (String × Value)) (level : Nat),
    '\r' ∉ (renderMembers style level fs).toList
  | [], _ => by simp [renderMembers]
  | (k, v) :: fs, level => by
    have h1 := not_mem_renderAt v level
    have h2 := not_mem_renderMembers fs level
    simp [renderMembers, not_mem_separator, not_mem_quoted, h1, h2]

end

end

end QualityGate.Json
