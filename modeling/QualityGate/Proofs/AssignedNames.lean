/-
# Which assignments the check of names sees

The check of names reads a text line by line: it takes what stands before the first equals sign of
a line for a name, but passes over the lines that start with the letters `def`.  So it stops at the
first line that assigns to a name in another case, and it is blind to the names that start with
these letters, not only to the heads of functions.

* `checkNamesFrom_append`: lines are checked up to the first bad one;
* `assignedName_assignment`: the name that an assignment sets;
* `checkNames_assignment`: what an assignment to a name in another case does to the result;
* `checkNames_append`: the result for two texts one below the other.
-/
import Mathlib
import QualityGate.Conventions
import QualityGate.Proofs.LinePieces

namespace QualityGate.Conventions

open Text

lemma checkNamesFrom_append (n : Nat) (xs ys : List (List Char)) :
    checkNamesFrom n (xs ++ ys) =
      if (checkNamesFrom n xs).passed then checkNamesFrom (n + xs.length) ys
      else checkNamesFrom n xs := by
  induction xs generalizing n with
  | nil => simp [checkNamesFrom]
  | cons line xs ih =>
    have hshift : n + (line :: xs).length = n + 1 + xs.length := by
      rw [List.length_cons]
      omega
    rw [hshift, List.cons_append, checkNamesFrom, checkNamesFrom]
    split
    · split
      · rfl
      · exact ih (n + 1)
    · exact ih (n + 1)

/-- A line without a name does not count, except for the numbers of the lines behind it. -/
lemma checkNamesFrom_of_assignedName_none {line : List Char} (h : assignedName line = none)
    (n : Nat) (xs ys : List (List Char)) :
    checkNamesFrom n (xs ++ line :: ys) = checkNamesFrom n (xs ++ [] :: ys) := by
  have hblank : assignedName [] = none := rfl
  rw [checkNamesFrom_append, checkNamesFrom_append]
  simp only [checkNamesFrom, h, hblank]

/-! ## Assignments -/

/-- A text that may stand before an equals sign as a name: it is not empty, and it has neither
blanks nor an equals sign in it, as no identifier has. -/
structure IsName (v : List Char) : Prop where
  ne_nil : v ≠ []
  blank : ∀ c ∈ v, isBlank c = false
  equals : '=' ∉ v

/-- The line that sets `v`. -/
def assignment (indent v gap rest : List Char) : List Char := indent ++ v ++ gap ++ '=' :: rest

variable {indent v gap rest : List Char}

lemma IsName.dropWhile_append (hv : IsName v) (tail : List Char) :
    (v ++ tail).dropWhile isBlank = v ++ tail := by
  obtain ⟨c, cs, rfl⟩ := List.exists_cons_of_ne_nil hv.ne_nil
  exact List.dropWhile_cons_of_neg (by simp [hv.blank c])

lemma IsName.dropWhile_reverse (hv : IsName v) : v.reverse.dropWhile isBlank = v.reverse := by
  have hback : IsName v.reverse :=
    ⟨by simpa using hv.ne_nil, by simpa using hv.blank, by simpa using hv.equals⟩
  simpa using hback.dropWhile_append []

lemma trimLeft_assignment (hindent : ∀ c ∈ indent, isBlank c = true) (hv : IsName v)
    (tail : List Char) : trimLeft (indent ++ v ++ tail) = v ++ tail := by
  rw [trimLeft, List.append_assoc, List.dropWhile_append_of_pos hindent, hv.dropWhile_append]

lemma trimRight_append (hgap : ∀ c ∈ gap, isBlank c = true) (hv : IsName v) :
    trimRight (v ++ gap) = v := by
  have hback : ∀ c ∈ gap.reverse, isBlank c = true := by simpa using hgap
  rw [trimRight, List.reverse_append, List.dropWhile_append_of_pos hback, hv.dropWhile_reverse,
    List.reverse_reverse]

lemma not_mem_equals_of_blank {cs : List Char} (h : ∀ c ∈ cs, isBlank c = true) : '=' ∉ cs := by
  intro hmem
  have hequals : isBlank '=' = false := by decide
  rw [h '=' hmem] at hequals
  cases hequals

/-- Behind a name there is a blank or the equals sign, so that the letters `def` cannot reach
beyond it. -/
lemma def_isPrefix_append_iff (hgap : ∀ c ∈ gap, isBlank c = true) :
    "def".toList <+: v ++ (gap ++ '=' :: rest) ↔ "def".toList <+: v := by
  constructor
  · intro h
    rcases List.prefix_or_prefix_of_prefix h (List.prefix_append v _) with hdef | ⟨x, hx⟩
    · exact hdef
    · rw [← hx, List.prefix_append_right_inj] at h
      cases x with
      | nil => rw [← hx, List.append_nil]
      | cons c x =>
        have hletters : ("def".toList.all fun c => c ≠ '=' && !isBlank c) = true := by
          decide
        have hletter : c ≠ '=' ∧ isBlank c = false := by
          simpa using List.all_eq_true.mp hletters c (by simp [← hx])
        cases gap with
        | nil => exact absurd (List.cons_prefix_cons.mp h).1 hletter.1
        | cons b gap =>
          obtain ⟨rfl, -⟩ := List.cons_prefix_cons.mp h
          simp [hgap c] at hletter
  · intro h
    exact h.trans (List.prefix_append v _)

lemma assignedName_assignment (hindent : ∀ c ∈ indent, isBlank c = true) (hv : IsName v)
    (hgap : ∀ c ∈ gap, isBlank c = true) :
    assignedName (assignment indent v gap rest) =
      if "def".toList <+: v then none else some (String.ofList v) := by
  have hcontains : (assignment indent v gap rest).contains '=' = true := by simp [assignment]
  have hdef : "def".toList.isPrefixOf (trimLeft (assignment indent v gap rest)) =
      decide ("def".toList <+: v) := by
    rw [assignment, List.append_assoc, trimLeft_assignment hindent hv, Bool.eq_iff_iff,
      List.isPrefixOf_iff_prefix, def_isPrefix_append_iff hgap, decide_eq_true_iff]
  have htake : (assignment indent v gap rest).takeWhile (· ≠ '=') = indent ++ v ++ gap := by
    have hnot : '=' ∉ indent ++ v ++ gap := by
      simp [not_mem_equals_of_blank hindent, hv.equals, not_mem_equals_of_blank hgap]
    rw [assignment, List.takeWhile_append_of_pos fun c hc => by
      simpa using ne_of_mem_of_not_mem hc hnot]
    simp
  rw [assignedName, hcontains, hdef, htake, trimLeft_assignment hindent hv,
    trimRight_append hgap hv]
  by_cases h : "def".toList <+: v
  · rw [if_pos h, if_neg (by simpa using h)]
  · rw [if_neg h, if_pos (by simpa using h)]

/-! ## The result for a text with an assignment -/

/-- A line that assigns to a name in another case fails the check, and is reported unless a line
before it is, if the name does not start with the letters `def`.  If it does, then the line counts
for nothing, as a blank one in its place. -/
theorem checkNames_assignment {text : String} {before after : List (List Char)}
    (hindent : ∀ c ∈ indent, isBlank c = true) (hv : IsName v)
    (hgap : ∀ c ∈ gap, isBlank c = true) (hcase : isSnakeCase (String.ofList v) = false)
    (hlines : splitAtNewlines text.toList = before ++ assignment indent v gap rest :: after) :
    (¬ "def".toList <+: v →
      (checkNames text).passed = false ∧
      checkNames text =
        if (checkNamesFrom 1 before).passed then
          ⟨false, s!"Variable '{String.ofList v}' should be in snake_case", "error",
            some (before.length + 1)⟩
        else checkNamesFrom 1 before) ∧
    ("def".toList <+: v → checkNames text = checkNamesFrom 1 (before ++ [] :: after)) := by
  have hname := @assignedName_assignment indent v gap rest hindent hv hgap
  rw [checkNames, hlines]
  constructor
  · intro hdef
    rw [if_neg hdef] at hname
    have hempty : (String.ofList v).isEmpty = false := by simp [hv.ne_nil]
    rw [checkNamesFrom_append, checkNamesFrom, hname]
    simp only [hempty, hcase, Bool.not_false, Bool.and_self, if_true, Nat.add_comm 1]
    refine ⟨?_, trivial⟩
    split
    · rfl
    · next h => simpa using h
  · intro hdef
    rw [if_pos hdef] at hname
    exact checkNamesFrom_of_assignedName_none hname 1 before after

/-- The second line of this text is reported. -/
theorem checkNames_camelCase :
    checkNames "x = 1\n    camelCase = x\n" =
      ⟨false, "Variable 'camelCase' should be in snake_case", "error", some 2⟩ := by
  have hspace : isBlank ' ' = true := by decide
  have hletters : ("camelCase".toList.all fun c => !isBlank c) = true := by decide
  have h := @checkNames_assignment "    ".toList "camelCase".toList " ".toList " x".toList
    "x = 1\n    camelCase = x\n" ["x = 1".toList] [[]] (by simp [hspace])
    ⟨by decide, by simpa using hletters, by decide⟩ (by simp [hspace]) (by decide)
    (by decide)
  rw [(h.1 (by decide)).2, if_pos (by decide)]
  rfl

/-- A name that starts with the letters `def` is not seen. -/
theorem checkNames_defX :
    isSnakeCase "defX" = false ∧ (checkNames "defX = 1").passed = true := by
  decide

/-! ## Texts one below the other -/

/-- A result for a text that has `n` lines above it. -/
def Result.below (n : Nat) (r : Result) : Result := { r with line := r.line.map (n + ·) }

lemma checkNamesFrom_add (k : Nat) (lines : List (List Char)) (n : Nat) :
    checkNamesFrom (k + n) lines = (checkNamesFrom n lines).below k := by
  induction lines generalizing n with
  | nil => rfl
  | cons line lines ih =>
    rw [checkNamesFrom, checkNamesFrom]
    split
    · split
      · rfl
      · exact ih (n + 1)
    · exact ih (n + 1)

/-- A line assigns to a name in another case. -/
def Offends (line : List Char) (name : String) : Prop :=
  assignedName line = some name ∧ name ≠ "" ∧ isSnakeCase name = false

lemma checkNamesFrom_of_offends {line : List Char} {name : String} (h : Offends line name) (n : Nat)
    (lines : List (List Char)) : checkNamesFrom n (line :: lines) =
      ⟨false, s!"Variable '{name}' should be in snake_case", "error", some n⟩ := by
  obtain ⟨hname, hne, hcase⟩ := h
  have hempty : name.isEmpty = false := by simpa using hne
  simp only [checkNamesFrom, hname, hempty, hcase, Bool.not_false, Bool.and_self, if_true]

lemma checkNamesFrom_of_not_offends {line : List Char} (h : ∀ name, ¬ Offends line name) (n : Nat)
    (lines : List (List Char)) : checkNamesFrom n (line :: lines) = checkNamesFrom (n + 1) lines := by
  rw [checkNamesFrom]
  split
  · next name hname =>
    split
    · next hbad =>
      simp only [Bool.and_eq_true, Bool.not_eq_true', String.isEmpty_eq_false_iff] at hbad
      exact absurd ⟨hname, hbad.1, hbad.2⟩ (h name)
    · rfl
  · rfl

/-- The lines are read up to the first one that offends. -/
lemma checkNamesFrom_spec (n : Nat) (lines : List (List Char)) :
    ((∀ line ∈ lines, ∀ name, ¬ Offends line name) ∧ (checkNamesFrom n lines).passed = true) ∨
    ∃ before line after name, lines = before ++ line :: after ∧
      (∀ l ∈ before, ∀ x, ¬ Offends l x) ∧ Offends line name ∧
      checkNamesFrom n lines = ⟨false, s!"Variable '{name}' should be in snake_case", "error",
        some (n + before.length)⟩ := by
  induction lines generalizing n with
  | nil => exact .inl ⟨by simp, rfl⟩
  | cons line lines ih =>
    by_cases h : ∃ name, Offends line name
    · obtain ⟨name, hname⟩ := h
      exact .inr ⟨[], line, lines, name, rfl, by simp, hname, checkNamesFrom_of_offends hname n lines⟩
    · rw [not_exists] at h
      rw [checkNamesFrom_of_not_offends h]
      rcases ih (n + 1) with ⟨hrest, hpassed⟩ | ⟨before, bad, after, name, rfl, hbefore, hbad, heq⟩
      · exact .inl ⟨List.forall_mem_cons.mpr ⟨h, hrest⟩, hpassed⟩
      · refine .inr ⟨line :: before, bad, after, name, rfl, List.forall_mem_cons.mpr ⟨h, hbefore⟩,
          hbad, ?_⟩
        rw [heq, List.length_cons, Nat.add_right_comm, Nat.add_assoc]

/-- Of two texts one below the other the upper one decides if it fails; else the result is that for
the lower one, whose lines count on from those above.  A text passes if none of its lines offends,
and a failure is that of the first one that does. -/
theorem checkNames_append (s t : String) :
    checkNames (s ++ "\n" ++ t) =
      (if (checkNames s).passed then (checkNames t).below (s.toList.count '\n' + 1)
      else checkNames s) ∧
    ((checkNames s).passed = true ↔
      ∀ line ∈ splitAtNewlines s.toList, ∀ name, ¬ Offends line name) ∧
    ((checkNames s).passed = false → ∃ before line after name,
      splitAtNewlines s.toList = before ++ line :: after ∧
      (∀ l ∈ before, ∀ x, ¬ Offends l x) ∧ Offends line name ∧
      checkNames s = ⟨false, s!"Variable '{name}' should be in snake_case", "error",
        some (before.length + 1)⟩) := by
  refine ⟨?_, ?_⟩
  · have hlines : splitAtNewlines (s ++ "\n" ++ t).toList =
        splitAtNewlines s.toList ++ splitAtNewlines t.toList := by
      rw [← splitAtNewlines_append]
      simp
    rw [checkNames, hlines, checkNamesFrom_append, Nat.add_comm 1, checkNamesFrom_add,
      length_splitAtNewlines]
    rfl
  · rw [checkNames]
    rcases checkNamesFrom_spec 1 (splitAtNewlines s.toList) with
      ⟨hnone, hpassed⟩ | ⟨before, line, after, name, hlines, hbefore, hline, heq⟩
    · exact ⟨iff_of_true hpassed hnone, fun h => by simp [hpassed] at h⟩
    · refine ⟨iff_of_false (by simp [heq]) fun h => ?_, fun _ => ?_⟩
      · exact h line (by simp [hlines]) name hline
      · exact ⟨before, line, after, name, hlines, hbefore, hline, by rw [heq, Nat.add_comm]⟩

end QualityGate.Conventions
