/-
# Which drafts are written

A draft is passed over when its test is mentioned in the test file, and the file mentions more tests
than it defines: a test is mentioned wherever its name stands inside a longer one.  So a function is
hidden by one that came before it with a longer name (`Hides`), and which functions get a draft
depends on their order.  `generateTests_definitions` says which do, and that all of them do, in
whatever order, if none hides another one.
-/
import Mathlib
import QualityGate.Proofs.TestAgreement

namespace QualityGate.Guard

/-! ## Words between other characters -/

section

variable {word xs ys : List Char} {c c' : Char} {s t u : String}

lemma infix_cons_of_not_mem (hc : c ∉ word) : word <:+: c :: ys ↔ word <:+: ys := by
  refine ⟨fun h => ?_, fun h => h.trans (List.suffix_cons _ _).isInfix⟩
  rcases List.infix_cons_iff.mp h with h | h
  · rcases List.prefix_cons_iff.mp h with rfl | ⟨r, rfl, -⟩
    · exact List.nil_infix
    · exact absurd List.mem_cons_self hc
  · exact h

/-- A word does not reach over a character that it does not hold. -/
lemma infix_append_cons_iff (hc : c ∉ word) :
    word <:+: xs ++ c :: ys ↔ word <:+: xs ∨ word <:+: ys := by
  rw [List.infix_append_iff, infix_cons_of_not_mem hc, ← or_assoc, or_iff_left_iff_imp]
  rintro ⟨l, r, rfl, hl, hr⟩
  rcases List.prefix_cons_iff.mp hr with rfl | ⟨r, rfl, -⟩
  · exact .inl (by simpa using hl.isInfix)
  · exact absurd (by simp) hc

/-- The first text ends with a character that the word does not hold. -/
lemma infix_behind (hs : s.toList.getLast? = some c) (hc : c ∉ word) :
    word <:+: (s ++ t).toList ↔ word <:+: s.toList ∨ word <:+: t.toList := by
  have hsplit : s.toList = s.toList.dropLast ++ [c] := (List.dropLast_append_getLast? c hs).symm
  rw [String.toList_append, hsplit, List.append_assoc, List.singleton_append,
    infix_append_cons_iff hc, infix_append_cons_iff hc, List.infix_nil]
  refine or_congr_left ⟨.inl, ?_⟩
  rintro (h | rfl)
  · exact h
  · exact List.nil_infix

/-- The second text starts with such a character. -/
lemma infix_before (ht : t.toList.head? = some c) (hc : c ∉ word) :
    word <:+: (s ++ t).toList ↔ word <:+: s.toList ∨ word <:+: t.toList := by
  obtain ⟨cs, hcs⟩ : ∃ cs, t.toList = c :: cs := List.head?_eq_some_iff.mp ht
  rw [String.toList_append, hcs, infix_append_cons_iff hc, infix_cons_of_not_mem hc]

lemma not_infix (hc : c ∈ word) (hs : c ∉ s.toList) : ¬ word <:+: s.toList :=
  fun h => hs (h.mem hc)

/-- What stands around a text does not matter for a word that does not reach over it. -/
lemma infix_slot (hs : s.toList.getLast? = some c) (hc : c ∉ word) (hu : u.toList.head? = some c')
    (hc' : c' ∉ word) (hs' : ¬ word <:+: s.toList) (hu' : ¬ word <:+: u.toList) :
    word <:+: (s ++ t ++ u).toList ↔ word <:+: t.toList := by
  rw [infix_before hu hc', or_iff_left hu', infix_behind hs hc, or_iff_right hs']

/-- A word without a line end stands in one of the lines. -/
lemma infix_lines_iff (hc : '\n' ∉ word) (hne : word ≠ []) {lines : List String} :
    word <:+: lines.flatMap (fun line => line.toList ++ ['\n']) ↔
      ∃ line ∈ lines, word <:+: line.toList := by
  induction lines with
  | nil => simp [hne]
  | cons line lines ih =>
    rw [List.flatMap_cons, List.append_assoc, List.singleton_append, infix_append_cons_iff hc, ih]
    simp

end

/-! ## Names in drafts -/

/-- A text that can be written and has none of these characters in it. -/
def Lacks (bad : List Char) (s : String) : Prop :=
  (∀ c ∈ bad, c ∉ s.toList) ∧ Text.halfFault? s = none

/-- A name of a function that does not reach over what stands around it in a draft. -/
abbrev IsName : String → Prop := Lacks [' ', '"', '\n', '\r', '(', ':']

/-- A name of a module that stays on its line and defines nothing. -/
abbrev IsModule : String → Prop := Lacks ['\n', '\r', '(']

/-- Once there is a draft for the function `p` of a module, the test of `n` is mentioned. -/
def Hides (module p n : String) : Prop :=
  ("test_" ++ n).toList <:+: ("test_" ++ p ++ "_edge_cases").toList ∨
    ("test_" ++ n).toList <:+: module.toList

instance (module p n : String) : Decidable (Hides module p n) :=
  inferInstanceAs (Decidable (_ ∨ _))

/-- A text defines the test of a function. -/
def Defines (text name : String) : Prop := ("def test_" ++ name ++ "():").toList <:+: text.toList

lemma testLines_eq (name module : String) : testLines name module =
    ["# Auto-generated test for " ++ name, "import pytest", "from " ++ module ++ " import " ++ name,
      "", "def test_" ++ name ++ "():", "    \"\"\"Test for " ++ name ++ " function\"\"\"",
      "    # TODO: Implement proper test", "    # Arrange", "    # Act",
      "    result = " ++ name ++ "()  # Adjust parameters as needed", "    # Assert",
      "    assert result is not None", "", "def test_" ++ name ++ "_edge_cases():",
      "    \"\"\"Test edge cases for " ++ name ++ "\"\"\"", "    # TODO: Add edge case tests",
      "    pass"] := rfl

lemma def_test (name : String) : "def test_" ++ name ++ "():" = "def " ++ ("test_" ++ name) ++ "():" := by
  simp [← String.toList_inj]

lemma def_edge_cases (name : String) :
    "def test_" ++ name ++ "_edge_cases():" = "def test_" ++ (name ++ "_edge_cases") ++ "():" := by
  simp [← String.toList_inj]

variable {module p n : String}

/-- The words of a draft that hold an underscore and stand between blanks, quotes and brackets are
those of the longer one of the names of its two tests, and those of the module. -/
lemma infix_testDraft_iff {word : List Char} (hlow : '_' ∈ word) (hline : '\n' ∉ word)
    (hspace : ' ' ∉ word) (hquote : '"' ∉ word) (hopen : '(' ∉ word) :
    word <:+: (testDraft p module).toList ↔
      word <:+: ("test_" ++ p ++ "_edge_cases").toList ∨ word <:+: module.toList := by
  rw [toList_testDraft, infix_lines_iff hline (List.ne_nil_of_mem hlow), testLines_eq]
  have hfixed {s : String} (hs : '_' ∉ s.toList) : ¬ word <:+: s.toList := not_infix hlow hs
  -- the words of a draft that are not always the same
  have hhead : word <:+: ("# Auto-generated test for " ++ p).toList ↔ word <:+: p.toList := by
    rw [infix_behind (by decide) hspace, or_iff_right (hfixed (by decide))]
  have himport : word <:+: ("from " ++ module ++ " import " ++ p).toList ↔
      word <:+: module.toList ∨ word <:+: p.toList := by
    have hfrom : ¬ word <:+: "from ".toList := hfixed (by decide)
    have hgap : ¬ word <:+: " import ".toList := hfixed (by decide)
    rw [String.append_assoc, infix_before (by simp) hspace, infix_behind (by decide) hspace,
      infix_behind (by decide) hspace, or_iff_right hfrom, or_iff_right hgap]
  have hslot {s u : String} {c c' : Char} (hs : s.toList.getLast? = some c) (hc : c ∉ word)
      (hu : u.toList.head? = some c') (hc' : c' ∉ word) (hlit : '_' ∉ s.toList ++ u.toList) (t : String) :
      word <:+: (s ++ t ++ u).toList ↔ word <:+: t.toList := by
    rw [List.mem_append, not_or] at hlit
    exact infix_slot hs hc hu hc' (hfixed hlit.1) (hfixed hlit.2)
  have hdef := hslot (s := "def ") (u := "():") rfl hspace rfl hopen (by decide)
  have hdoc := hslot (s := "    \"\"\"Test for ") (u := " function\"\"\"") (by decide) hspace
    (by decide) hspace (by decide)
  have hcall := hslot (s := "    result = ") (u := "()  # Adjust parameters as needed")
    (by decide) hspace (by decide) hopen (by decide)
  have hedge := hslot (s := "    \"\"\"Test edge cases for ") (u := "\"\"\"") (by decide) hspace
    (by decide) hquote (by decide)
  have hrest : ∀ line ∈ ["import pytest", "", "    # TODO: Implement proper test", "    # Arrange",
      "    # Act", "    # Assert", "    assert result is not None", "    # TODO: Add edge case tests",
      "    pass"], ¬ word <:+: line.toList := fun line hline => hfixed
    ((show ∀ s ∈ _, '_' ∉ String.toList s by decide) line hline)
  -- the name of the function stands in that of its test, and that in the name of the other test
  have hname : word <:+: p.toList → word <:+: ("test_" ++ p ++ "_edge_cases").toList :=
    fun h => h.trans ⟨"test_".toList, "_edge_cases".toList, by simp⟩
  have hown : word <:+: ("test_" ++ p).toList → word <:+: ("test_" ++ p ++ "_edge_cases").toList :=
    fun h => h.trans ⟨[], "_edge_cases".toList, by simp⟩
  rw [def_edge_cases, def_test, def_test,
    show "test_" ++ (p ++ "_edge_cases") = "test_" ++ p ++ "_edge_cases" from String.append_assoc.symm]
  simp only [List.forall_mem_cons] at hrest
  simp only [List.mem_cons, List.not_mem_nil, or_false, exists_eq_or_imp, exists_eq_left, hhead,
    himport, hdef, hdoc, hcall, hedge, hrest, false_or]
  constructor
  · rintro (h | (h | h) | h | h | h | h | h)
    · exact .inl (hname h)
    · exact .inr h
    · exact .inl (hname h)
    · exact .inl (hown h)
    · exact .inl (hname h)
    · exact .inl (hname h)
    · exact .inl h
    · exact .inl (hname h)
  · rintro (h | h)
    · exact .inr (.inr (.inr (.inr (.inr (.inl h)))))
    · exact .inr (.inl (.inl h))

lemma mentions_testDraft_iff (hn : IsName n) :
    Mentions (testDraft p module) n ↔ Hides module p n := by
  have hlacks : ∀ c ∈ ['\n', ' ', '"', '('], c ∉ ("test_" ++ n).toList := by
    have hplain := hn.1
    simp_all
  exact infix_testDraft_iff (by simp) (hlacks '\n' (by decide)) (hlacks ' ' (by decide))
    (hlacks '"' (by decide)) (hlacks '(' (by decide))

/-- The definition of a test is that of no other one. -/
lemma infix_def_iff {x y : String} (hspace : ' ' ∉ y.toList) (hopen : '(' ∉ y.toList) :
    ("def " ++ x ++ "():").toList <:+: ("def " ++ y ++ "():").toList ↔ x = y := by
  refine ⟨?_, fun h => h ▸ List.infix_refl _⟩
  rintro ⟨s, t, h⟩
  have hword : "def".toList ++ ' ' :: (y.toList ++ "():".toList) =
      (s ++ "def".toList) ++ ' ' :: (x.toList ++ "():".toList ++ t) := by
    simpa using h.symm
  obtain ⟨-, -, htail⟩ := (List.append_cons_inj_of_notMem (by decide) (by simp [hspace])).mp hword
  have hname : y.toList ++ '(' :: "):".toList = x.toList ++ '(' :: ("):".toList ++ t) := by
    simpa using htail
  obtain ⟨hxy, -, -⟩ := (List.append_cons_inj_of_notMem hopen (by decide)).mp hname
  exact (String.toList_inj.mp hxy).symm

/-- The two lines of a draft that hold both a bracket and a colon. -/
lemma bracket_and_colon (hp : IsName p) (hm : IsModule module) : ∀ line ∈ testLines p module,
    '(' ∈ line.toList → ':' ∈ line.toList →
      line = "def test_" ++ p ++ "():" ∨ line = "def test_" ++ p ++ "_edge_cases():" := by
  have hopen : '(' ∉ p.toList := hp.1 _ (by decide)
  have hcolon : ':' ∉ p.toList := hp.1 _ (by decide)
  have hmodule : '(' ∉ module.toList := hm.1 _ (by decide)
  rw [testLines_eq]
  simp [hopen, hcolon, hmodule]

/-- A draft defines the two tests of its function and nothing else. -/
lemma defines_testDraft_iff (hn : IsName n) (hp : IsName p) (hm : IsModule module) :
    Defines (testDraft p module) n ↔ n = p ∨ n = p ++ "_edge_cases" := by
  have hline : '\n' ∉ ("def test_" ++ n ++ "():").toList := by
    have hn' := hn.1 '\n' (by decide)
    simp [hn']
  have hspace : ' ' ∉ p.toList := hp.1 _ (by decide)
  have hopen : '(' ∉ p.toList := hp.1 _ (by decide)
  have hown : ("def test_" ++ n ++ "():").toList <:+: ("def test_" ++ p ++ "():").toList ↔ n = p := by
    rw [def_test, def_test, infix_def_iff (by simp [hspace]) (by simp [hopen]), String.append_right_inj]
  have hedge : ("def test_" ++ n ++ "():").toList <:+:
      ("def test_" ++ p ++ "_edge_cases():").toList ↔ n = p ++ "_edge_cases" := by
    rw [def_edge_cases, def_test, def_test, infix_def_iff (by simp [hspace]) (by simp [hopen]),
      String.append_right_inj]
  rw [Defines, toList_testDraft, infix_lines_iff hline (by simp)]
  constructor
  · rintro ⟨line, hmem, hpart⟩
    rcases bracket_and_colon hp hm line hmem (hpart.mem (by simp)) (hpart.mem (by simp)) with rfl | rfl
    · exact .inl (hown.mp hpart)
    · exact .inr (hedge.mp hpart)
  · rintro (h | h)
    · exact ⟨_, List.mem_of_getElem? (i := 4) rfl, hown.mpr h⟩
    · exact ⟨_, List.mem_of_getElem? (i := 13) rfl, hedge.mpr h⟩

/-! ## Drafts behind each other -/

/-- The text of a test file with drafts for some functions of a module. -/
def draftsText (module : String) : List String → String
  | [] => ""
  | n :: names =>
    names.foldl (fun text n => text ++ ("\n\n" ++ testDraft n module)) (testDraft n module)

lemma draftsText_singleton : draftsText module [n] = testDraft n module := by
  rw [draftsText, List.foldl_nil]

lemma draftsText_concat {names : List String} (hne : names ≠ []) :
    draftsText module (names ++ [n]) = draftsText module names ++ ("\n\n" ++ testDraft n module) := by
  obtain ⟨p, ps, rfl⟩ := List.exists_cons_of_ne_nil hne
  rw [List.cons_append, draftsText, draftsText, List.foldl_concat]

/-- A word without a line end stands in one of the drafts. -/
lemma infix_draftsText_iff {word : List Char} (hline : '\n' ∉ word) (hne : word ≠ [])
    {names : List String} : word <:+: (draftsText module names).toList ↔
      ∃ p ∈ names, word <:+: (testDraft p module).toList := by
  induction names using List.reverseRecOn with
  | nil => simp [draftsText, hne]
  | append_singleton names n ih =>
    by_cases hnames : names = []
    · subst hnames
      simp [draftsText]
    · have hends : "\n\n".toList = ['\n', '\n'] := rfl
      rw [draftsText_concat hnames, String.toList_append, String.toList_append, hends,
        List.cons_append, infix_append_cons_iff hline, List.singleton_append,
        infix_cons_of_not_mem hline, ih]
      simp [or_and_right, exists_or]

lemma mentions_draftsText_iff (hn : IsName n) {names : List String} :
    Mentions (draftsText module names) n ↔ ∃ p ∈ names, Hides module p n := by
  have hline : '\n' ∉ n.toList := hn.1 _ (by decide)
  rw [Mentions, infix_draftsText_iff (by simp [hline]) (by simp)]
  simp only [← mentions_testDraft_iff hn, Mentions]

section

variable {names : List String} (hnames : ∀ p ∈ names, IsName p) (hm : IsModule module)

include hnames hm

lemma return_not_mem_draftsText : '\r' ∉ (draftsText module names).toList := by
  rw [← List.singleton_infix_iff, infix_draftsText_iff (by decide) (by simp)]
  rintro ⟨p, hp, h⟩
  have hname : '\r' ∉ p.toList := (hnames p hp).1 _ (by decide)
  have hmodule : '\r' ∉ module.toList := hm.1 _ (by decide)
  rw [toList_testDraft, infix_lines_iff (by decide) (by simp), testLines_eq] at h
  simp [List.singleton_infix_iff, hname, hmodule] at h

lemma defines_draftsText_iff (hn : IsName n) : Defines (draftsText module names) n ↔
    n ∈ names ∨ ∃ p ∈ names, n = p ++ "_edge_cases" := by
  have hline : '\n' ∉ n.toList := hn.1 _ (by decide)
  rw [Defines, infix_draftsText_iff (by simp [hline]) (by simp)]
  calc (∃ p ∈ names, Defines (testDraft p module) n)
      ↔ ∃ p ∈ names, n = p ∨ n = p ++ "_edge_cases" :=
        exists_congr fun p => and_congr_right fun hp => defines_testDraft_iff hn (hnames p hp) hm
    _ ↔ _ := by simp [and_or_left, exists_or]

end

/-! ## One function after the other -/

/-- The functions with a draft after one more was handled: it gets one unless it is hidden. -/
def draftNext (module : String) (kept : List String) (n : String) : List String :=
  if ∃ p ∈ kept, Hides module p n then kept else kept ++ [n]

/-- The functions that get a draft when they come in this order. -/
def withDraft (module : String) (names : List String) : List String :=
  names.foldl (draftNext module) []

/-- The test file of a module holds the drafts for these functions, and it is not there yet if there
are none. -/
def Keeps (w : Session) (module : String) (kept : List String) : Prop :=
  (kept = [] ∧ ∃ d loc, w.disk.Ready w.places.here module d loc) ∨
    (kept ≠ [] ∧ ∃ loc, w.disk.Stored w.places.here module loc (draftsText module kept).toUTF8)

section

variable {w : Session} {kept names : List String}

/-- One step: the test file holds the drafts for the next list of functions. -/
lemma Keeps.writeTest (h : Keeps w module kept) (hkept : ∀ p ∈ kept, IsName p) (hn : IsName n)
    (hm : IsModule module) : ∃ w', writeTest n module "tests" w = .ok () w' ∧
      Keeps w' module (draftNext module kept n) ∧ w' = { w with disk := w'.disk, out := w'.out } := by
  have hhalf : Text.halfFault? (testDraft n module) = none := halfFault?_testDraft hn.2 hm.2
  rcases h with ⟨rfl, d, loc, hready⟩ | ⟨hne, loc, hstored⟩
  · have hnext : draftNext module [] n = [n] := by simp [draftNext]
    rw [hnext]
    refine ⟨_, writeTest_created hready hhalf, .inr ⟨by simp, loc, ?_⟩, rfl⟩
    rw [draftsText_singleton]
    exact hready.stored _
  · have hdecode : Text.decodeUtf8 (draftsText module kept).toUTF8 = .ok (draftsText module kept) :=
      Disk.decodeUtf8_toUTF8 _
    have hsame : Text.unified (draftsText module kept) = draftsText module kept := by
      rw [Text.unified, Disk.unifyLineEnds_of_not_mem (return_not_mem_draftsText hkept hm),
        String.ofList_toList]
    by_cases hhidden : ∃ p ∈ kept, Hides module p n
    · have hmention : Mentions (Text.unified (draftsText module kept)) n := by
        rwa [hsame, mentions_draftsText_iff hn]
      rw [draftNext, if_pos hhidden]
      exact ⟨w, writeTest_mentioned hstored hdecode hmention, .inr ⟨hne, loc, hstored⟩, rfl⟩
    · have hmention : ¬ Mentions (Text.unified (draftsText module kept)) n := by
        rwa [hsame, mentions_draftsText_iff hn]
      have hbytes : (draftsText module (kept ++ [n])).toUTF8 =
          (draftsText module kept).toUTF8 ++ ("\n\n" ++ testDraft n module).toUTF8 := by
        simp only [draftsText_concat hne, String.toUTF8_eq_toByteArray, String.toByteArray_append]
      rw [draftNext, if_neg hhidden]
      refine ⟨_, writeTest_added hstored hdecode hmention hhalf, .inr ⟨by simp, loc, ?_⟩, rfl⟩
      rw [hbytes]
      exact hstored.set _

lemma draftNext_isName (hkept : ∀ p ∈ kept, IsName p) (hn : IsName n) :
    ∀ p ∈ draftNext module kept n, IsName p := by
  rw [draftNext]
  split
  · exact hkept
  · simpa [or_imp, forall_and] using ⟨hkept, hn⟩

/-! ## Which functions get a draft -/

lemma subset_draftNext : kept ⊆ draftNext module kept n := by
  rw [draftNext]
  split
  · exact List.Subset.refl _
  · exact List.subset_append_left _ _

/-- A function with a draft keeps it. -/
lemma subset_foldl_draftNext : kept ⊆ names.foldl (draftNext module) kept := by
  induction names generalizing kept with
  | nil => exact List.Subset.refl _
  | cons n names ih => exact List.Subset.trans subset_draftNext ih

/-- A function without a draft is hidden by one that has a draft. -/
lemma hidden_of_not_mem_foldl (hn : n ∈ names) (hnot : n ∉ names.foldl (draftNext module) kept) :
    ∃ p ∈ names.foldl (draftNext module) kept, Hides module p n := by
  induction names generalizing kept with
  | nil => cases hn
  | cons m names ih =>
    rw [List.foldl_cons] at hnot ⊢
    rcases List.mem_cons.mp hn with rfl | hn
    · by_cases hhidden : ∃ p ∈ kept, Hides module p n
      · obtain ⟨p, hp, hides⟩ := hhidden
        exact ⟨p, subset_foldl_draftNext (subset_draftNext hp), hides⟩
      · refine absurd (subset_foldl_draftNext ?_) hnot
        rw [draftNext, if_neg hhidden]
        exact List.mem_append_right _ List.mem_cons_self
    · exact ih hn hnot

/-- What comes after a function with a draft and gets one is not hidden by that function. -/
lemma not_hides_of_mem_foldl {q : String} (hp : p ∈ kept) (hq : q ∈ names.foldl (draftNext module) kept)
    (hnew : q ∉ kept) : ¬ Hides module p q := by
  induction names generalizing kept with
  | nil => exact absurd hq hnew
  | cons m names ih =>
    rw [List.foldl_cons] at hq
    by_cases hnext : q ∈ draftNext module kept m
    · rw [draftNext] at hnext
      split at hnext
      · exact absurd hnext hnew
      · next hfree =>
        obtain rfl : q = m := by simpa [hnew] using hnext
        exact fun hides => hfree ⟨p, hp, hides⟩
    · exact ih (subset_draftNext hp) hq hnext

lemma withDraft_subset : withDraft module names ⊆ names := by
  have hfold (kept : List String) : names.foldl (draftNext module) kept ⊆ kept ++ names := by
    induction names generalizing kept with
    | nil => simp
    | cons n names ih =>
      intro q hq
      have hmem := ih _ hq
      rw [draftNext] at hmem
      split at hmem <;> simp at hmem ⊢ <;> tauto
  exact hfold []

/-- Who hides the edge cases of a function hides the function. -/
lemma Hides.of_edge_cases {q : String} (h : Hides module p (q ++ "_edge_cases")) : Hides module p q := by
  have hstart : ("test_" ++ q).toList <:+: ("test_" ++ (q ++ "_edge_cases")).toList :=
    ⟨[], "_edge_cases".toList, by simp⟩
  exact h.imp hstart.trans hstart.trans

/-- A test of the function is defined by its own draft or by that of a function for whose edge cases
it stands. -/
def DraftDefines (kept : List String) (n : String) : Prop :=
  n ∈ kept ∨ ∃ p ∈ kept, n = p ++ "_edge_cases"

/-- All functions get a test if who hides another one defines its test as that of the edge cases. -/
lemma draftDefines_of_clear (hclear : ∀ p ∈ names, ∀ n ∈ names, p ≠ n → Hides module p n →
    n = p ++ "_edge_cases") (hn : n ∈ names) : DraftDefines (withDraft module names) n := by
  by_cases hmem : n ∈ withDraft module names
  · exact .inl hmem
  · obtain ⟨p, hp, hides⟩ := hidden_of_not_mem_foldl hn hmem
    have hne : p ≠ n := ne_of_mem_of_not_mem hp hmem
    exact .inr ⟨p, hp, hclear p (withDraft_subset hp) n hn hne hides⟩

/-- A function that is hidden by the first one gets no test, unless it stands for the edge cases of
the first one. -/
lemma not_draftDefines (hne : p ≠ n) (hides : Hides module p n) (hedge : n ≠ p ++ "_edge_cases") :
    ¬ DraftDefines (withDraft module (p :: names)) n := by
  have hfirst : withDraft module (p :: names) = names.foldl (draftNext module) [p] := by
    simp [withDraft, draftNext]
  rw [hfirst]
  rintro (hmem | ⟨q, hq, rfl⟩)
  · exact not_hides_of_mem_foldl (by simp) hmem (by simpa using hne.symm) hides
  · have hqp : q ≠ p := by
      rintro rfl
      exact hedge rfl
    exact not_hides_of_mem_foldl (by simp) hq (by simpa using hqp) hides.of_edge_cases

end

end QualityGate.Guard

namespace QualityGate.Program

open Guard (IsName IsModule Hides Keeps DraftDefines draftNext withDraft)

/-- An object is a function with this name, from the file of a module. -/
structure FunctionOf (w : Session) (module : String) (o : Object) (name : String) : Prop where
  function : ∃ f, w.store.asFunction? o = some f ∧ f.name = name
  file : ∃ file, w.store.fileOf w.places.tool o = .ok file ∧ (Path.ofText file).stem = module

/-- Write drafts of tests for some objects, one after the other. -/
def generateTests : List Object → Act Unit
  | [] => pure ()
  | o :: os => do
    Guard.generateTest o "tests"
    generateTests os

/-- The test file of a module defines the test of a function. -/
def DefinesTest (w : Session) (module name : String) : Prop :=
  ∃ text, w.disk.read w.places.here (testPath module) = .ok text.toUTF8 ∧ Guard.Defines text name

section

variable {w : Session} {module : String} {fs order : List (Object × String)} {kept : List String}

lemma FunctionOf.generateTest {o : Object} {n : String} (h : FunctionOf w module o n) :
    Guard.generateTest o "tests" w = Guard.writeTest n module "tests" w := by
  obtain ⟨f, hf, rfl⟩ := h.function
  obtain ⟨file, hfile, rfl⟩ := h.file
  exact generateTest_eq hf hfile "tests"

/-- A run: the drafts are those of the functions that are not hidden when their turn comes. -/
lemma Keeps.generateTests (h : Keeps w module kept) (hkept : ∀ p ∈ kept, IsName p)
    (hfs : ∀ x ∈ fs, FunctionOf w module x.1 x.2 ∧ IsName x.2) (hm : IsModule module) :
    ∃ w', generateTests (fs.map (·.1)) w = .ok () w' ∧
      Keeps w' module ((fs.map (·.2)).foldl (draftNext module) kept) := by
  induction fs generalizing w kept with
  | nil => exact ⟨w, rfl, h⟩
  | cons x fs ih =>
    rw [List.forall_mem_cons] at hfs
    obtain ⟨⟨hx, hname⟩, hfs⟩ := hfs
    obtain ⟨w₁, hstep, hkeeps, hsession⟩ := h.writeTest hkept hname hm
    have hrest : ∀ y ∈ fs, FunctionOf w₁ module y.1 y.2 ∧ IsName y.2 := by
      intro y hy
      obtain ⟨⟨hfunction, hfile⟩, hy⟩ := hfs y hy
      rw [hsession]
      exact ⟨⟨hfunction, hfile⟩, hy⟩
    obtain ⟨w₂, hrun, hlast⟩ := ih hkeeps (Guard.draftNext_isName hkept hname) hrest
    refine ⟨w₂, ?_, hlast⟩
    rw [List.map_cons, Program.generateTests, Act.bind_ok (hx.generateTest.trans hstep)]
    exact hrun

/-- What the test file defines when it holds drafts. -/
lemma definesTest_iff (h : Keeps w module kept) (hne : kept ≠ []) (hkept : ∀ p ∈ kept, IsName p)
    (hm : IsModule module) {n : String} (hn : IsName n) :
    DefinesTest w module n ↔ DraftDefines kept n := by
  obtain ⟨hnil, -⟩ | ⟨-, loc, hstored⟩ := h
  · exact absurd hnil hne
  · rw [DraftDefines, ← Guard.defines_draftsText_iff hkept hm hn]
    constructor
    · rintro ⟨text, hread, hdef⟩
      have hbytes : (Guard.draftsText module kept).toUTF8 = text.toUTF8 :=
        Except.ok.inj (hstored.read.symm.trans hread)
      have htext := Disk.fromUTF8?_toUTF8 (Guard.draftsText module kept)
      rw [hbytes, Disk.fromUTF8?_toUTF8] at htext
      rwa [← Option.some.inj htext]
    · exact fun hdef => ⟨_, hstored.read, hdef⟩

/-- In whatever order the functions come, drafts are written, and the test of a function is defined
just if the drafts that are kept define it. -/
lemma exists_generateTests {d : Disk} {loc : Location} (hm : IsModule module)
    (hnew : w.disk.Ready w.places.here module d loc)
    (hfs : ∀ x ∈ fs, FunctionOf w module x.1 x.2 ∧ IsName x.2) (horder : order.Perm fs) :
    ∃ w', generateTests (order.map (·.1)) w = .ok () w' ∧ ∀ x ∈ fs,
      (DefinesTest w' module x.2 ↔ DraftDefines (withDraft module (order.map (·.2))) x.2) := by
  have horders : ∀ x ∈ order, FunctionOf w module x.1 x.2 ∧ IsName x.2 :=
    fun x hx => hfs x (horder.mem_iff.mp hx)
  obtain ⟨w', hrun, hkeeps⟩ :=
    Keeps.generateTests (.inl ⟨rfl, d, loc, hnew⟩) (by simp) horders hm
  refine ⟨w', hrun, fun x hx => definesTest_iff hkeeps ?_ ?_ hm (hfs x hx).2⟩
  · -- someone has a draft: the function itself, or one that hides it
    intro hnil
    have hmem : x.2 ∈ order.map (·.2) := List.mem_map_of_mem (horder.mem_iff.mpr hx)
    have hnone : x.2 ∉ (order.map (·.2)).foldl (draftNext module) [] := by simp [hnil]
    obtain ⟨p, hp, -⟩ := Guard.hidden_of_not_mem_foldl hmem hnone
    simp [hnil] at hp
  · intro p hp
    obtain ⟨x, hx, rfl⟩ := List.mem_map.mp (Guard.withDraft_subset hp)
    exact (horders x hx).2

end

/-- **Which tests are drafted.**  Take functions of one module with different names, whose test file
is not there yet, and let drafts be written for them in some order.  This succeeds, and then the test
file defines the test of a function just if the function got a draft, as it does unless one with a
draft before it hides it, or if its name is that of another one's edge cases.  So the test of each
function is defined after every order if and only if no function hides another one, those apart that
stand for the edge cases of the one that hides them. -/
theorem generateTests_definitions {w : Session} {module : String} {fs : List (Object × String)}
    {d : Disk} {loc : Location} (hm : IsModule module)
    (hnew : w.disk.Ready w.places.here module d loc)
    (hfs : ∀ x ∈ fs, FunctionOf w module x.1 x.2 ∧ IsName x.2) (hdistinct : (fs.map (·.2)).Nodup) :
    (∀ order : List (Object × String), order.Perm fs →
      ∃ w', generateTests (order.map (·.1)) w = .ok () w' ∧ ∀ x ∈ fs,
        (DefinesTest w' module x.2 ↔ DraftDefines (withDraft module (order.map (·.2))) x.2)) ∧
    ((∀ order : List (Object × String), order.Perm fs →
        ∃ w', generateTests (order.map (·.1)) w = .ok () w' ∧ ∀ x ∈ fs, DefinesTest w' module x.2) ↔
      ∀ x ∈ fs, ∀ y ∈ fs, x ≠ y → Hides module x.2 y.2 → y.2 = x.2 ++ "_edge_cases") := by
  refine ⟨fun order => exists_generateTests hm hnew hfs, fun hall x hx y hy hne hides => ?_, fun hclear order horder => ?_⟩
  · -- let the function come first that hides the other one
    by_contra hedge
    obtain ⟨rest, hfirst⟩ : ∃ rest, (x :: rest).Perm fs := by
      obtain ⟨l₁, l₂, rfl⟩ := List.append_of_mem hx
      exact ⟨l₁ ++ l₂, List.perm_middle.symm⟩
    obtain ⟨w', hrun, hiff⟩ := exists_generateTests hm hnew hfs hfirst
    obtain ⟨w'', hrun', hdefined⟩ := hall _ hfirst
    obtain rfl : w' = w'' := by simpa using hrun.symm.trans hrun'
    have hnames : x.2 ≠ y.2 := fun h => hne (List.inj_on_of_nodup_map hdistinct hx hy h)
    have hdrafts := (hiff y hy).mp (hdefined y hy)
    exact Guard.not_draftDefines hnames hides hedge hdrafts
  · obtain ⟨w', hrun, hiff⟩ := exists_generateTests hm hnew hfs horder
    refine ⟨w', hrun, fun x hx => (hiff x hx).mpr (Guard.draftDefines_of_clear ?_ ?_)⟩
    · intro p hp n hn hne hides
      obtain ⟨x, hx, rfl⟩ := List.mem_map.mp hp
      obtain ⟨y, hy, rfl⟩ := List.mem_map.mp hn
      exact hclear x (horder.mem_iff.mp hx) y (horder.mem_iff.mp hy) (fun h => hne (h ▸ rfl)) hides
    · exact List.mem_map_of_mem (horder.mem_iff.mpr hx)

/-- A session with two functions of a module, the name of one of which starts that of the other. -/
def twoNames : Session where
  disk := {}
  places := ⟨[], [], ""⟩
  store := { functions := #[
    ⟨"a", "a", "m", .null, .closure ⟨default, [], [], [], 0, "/m", 1, none⟩, none, []⟩,
    ⟨"ab", "ab", "m", .null, .closure ⟨default, [], [], [], 0, "/m", 2, none⟩, none, []⟩] }

def bothNames : List (Object × String) := [(.function 0, "a"), (.function 1, "ab")]

lemma functionOf_bothNames :
    ∀ x ∈ bothNames, FunctionOf twoNames "m" x.1 x.2 ∧ IsName x.2 := by
  have hstem : (Path.ofText "/m").stem = "m" := by decide
  have hnames : IsName "a" ∧ IsName "ab" :=
    ⟨⟨by simp, by decide⟩, ⟨by simp, by decide⟩⟩
  simp only [bothNames, List.forall_mem_cons, List.not_mem_nil, false_imp_iff, implies_true, and_true]
  exact ⟨⟨⟨⟨_, rfl, rfl⟩, ⟨"/m", rfl, hstem⟩⟩, hnames.1⟩,
    ⟨⟨⟨_, rfl, rfl⟩, ⟨"/m", rfl, hstem⟩⟩, hnames.2⟩⟩

lemma ready_twoNames : ∃ d loc, twoNames.disk.Ready twoNames.places.here "m" d loc :=
  ⟨_, _, Disk.ready_of_missing (by decide) (by decide) (by decide) rfl rfl⟩

lemma isModule_m : IsModule "m" := ⟨by simp, by decide⟩

lemma hides_ab_a : Hides "m" "ab" "a" := by decide

/-- With the shorter name first both tests are defined, but not after every order. -/
theorem generateTests_definitions_twoNames :
    (∃ w', generateTests [.function 0, .function 1] twoNames = .ok () w' ∧
      DefinesTest w' "m" "a" ∧ DefinesTest w' "m" "ab") ∧
    ¬ ∀ order : List (Object × String), order.Perm bothNames →
      ∃ w', generateTests (order.map (·.1)) twoNames = .ok () w' ∧ ∀ x ∈ bothNames, DefinesTest w' "m" x.2 := by
  obtain ⟨d, loc, hready⟩ := ready_twoNames
  obtain ⟨hruns, hiff⟩ := generateTests_definitions isModule_m hready functionOf_bothNames (by decide)
  have hdrafts : withDraft "m" ["a", "ab"] = ["a", "ab"] := by decide
  constructor
  · obtain ⟨w', hrun, hdefined⟩ := hruns bothNames (List.Perm.refl _)
    refine ⟨w', hrun, (hdefined (.function 0, "a") (by simp [bothNames])).mpr (.inl ?_),
      (hdefined (.function 1, "ab") (by simp [bothNames])).mpr (.inl ?_)⟩
    · show "a" ∈ withDraft "m" ["a", "ab"]
      simp [hdrafts]
    · show "ab" ∈ withDraft "m" ["a", "ab"]
      simp [hdrafts]
  · rw [hiff]
    intro hclear
    have hedge := hclear (.function 1, "ab") (by simp [bothNames]) (.function 0, "a")
      (by simp [bothNames]) (by simp) hides_ab_a
    exact absurd hedge (by decide)

/-- With the longer name first the test of the other function is never written. -/
theorem generateTests_hidden : ∃ w', generateTests [.function 1, .function 0] twoNames = .ok () w' ∧
    ¬ DefinesTest w' "m" "a" := by
  obtain ⟨d, loc, hready⟩ := ready_twoNames
  obtain ⟨w', hrun, hdefined⟩ := exists_generateTests isModule_m hready functionOf_bothNames
    (show [(Object.function 1, "ab"), (.function 0, "a")].Perm bothNames from List.Perm.swap _ _ _)
  refine ⟨w', hrun, fun h => ?_⟩
  have hdrafts := (hdefined (.function 0, "a") (by simp [bothNames])).mp h
  exact Guard.not_draftDefines (by decide) hides_ab_a (by decide) hdrafts

end QualityGate.Program
