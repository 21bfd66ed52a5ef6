/-
# The test file of a module

The drafts of tests for the functions of a module go to one file in the directory for tests.  The
generator makes it, or writes behind it, or leaves it alone if it mentions the test already:
`writeTest_iff` says which of the three happens, `writeTest_created`, `writeTest_added` and
`writeTest_mentioned` say what comes of it.  A file that is `Stored` there is among those that the
pattern for tests stands for (`Stored.mem_find`), and it is read with its line ends made the same,
which a test without a carriage return in its name does not notice (`Mentions.unified`).
-/
import Mathlib
import QualityGate.Guard.Generate
import QualityGate.Proofs.DirectoryListing
import QualityGate.Proofs.GuardRules
import QualityGate.Proofs.IndentedText
import QualityGate.Proofs.Sessions
import QualityGate.Proofs.SourceChecks
import QualityGate.Proofs.Utf8Reading

namespace QualityGate.Disk

/-! ## Names of directories -/

section

variable {d : Disk} {here loc : Location} {s n : String}

/-- A walk passes through the location to which its first names lead. -/
lemma Leads.split {links : Nat} {base : Location} {names more : List String}
    (h : Leads d links base (names ++ more) loc) (hmore : more ≠ []) :
    ∃ mid links', Leads d links base names mid ∧ Leads d links' mid more loc := by
  generalize hall : names ++ more = all at h
  -- each case leaves a walk with fewer names before `more`, or none
  induction h generalizing names with
  | stop => simp [hmore] at hall
  | @dot links base loc rest h ih =>
    cases names with
    | nil =>
      obtain rfl : more = "." :: rest := hall
      exact ⟨base, links, .stop _ _, .dot h⟩
    | cons m names =>
      obtain ⟨rfl, hrest⟩ := List.cons.inj hall
      obtain ⟨mid, links', h1, h2⟩ := ih hrest
      exact ⟨mid, links', .dot h1, h2⟩
  | @dots links base loc rest h ih =>
    cases names with
    | nil =>
      obtain rfl : more = ".." :: rest := hall
      exact ⟨base, links, .stop _ _, .dots h⟩
    | cons m names =>
      obtain ⟨rfl, hrest⟩ := List.cons.inj hall
      obtain ⟨mid, links', h1, h2⟩ := ih hrest
      exact ⟨mid, links', .dots h1, h2⟩
  | @dir links base loc name rest hn hdir h ih =>
    cases names with
    | nil =>
      obtain rfl : more = name :: rest := hall
      exact ⟨base, links, .stop _ _, .dir hn hdir h⟩
    | cons m names =>
      obtain ⟨rfl, hrest⟩ := List.cons.inj hall
      obtain ⟨mid, links', h1, h2⟩ := ih hrest
      exact ⟨mid, links', .dir hn hdir h1, h2⟩
  | @last links base name hn hdir hlink =>
    cases names with
    | nil =>
      obtain rfl : more = [name] := hall
      exact ⟨base, links, .stop _ _, .last links hn hdir hlink⟩
    | cons m names => simp [hmore] at hall
  | @link links base loc name target rest hn hlink h ih =>
    cases names with
    | nil =>
      obtain rfl : more = name :: rest := hall
      exact ⟨base, links + 1, .stop _ _, .link hn hlink h⟩
    | cons m names =>
      obtain ⟨rfl, hrest⟩ := List.cons.inj hall
      have hpassed : ((Path.ofText target).names ++ names) ++ more =
          (Path.ofText target).names ++ rest := by rw [← hrest]; exact List.append_assoc _ _ _
      obtain ⟨mid, links', h1, h2⟩ := ih hpassed
      exact ⟨mid, links', .link hn hlink h1, h2⟩

/-! ## The directory for tests -/

lemma accepted_tests : Accepted "tests" := by decide

lemma writable_tests : Writable ["tests"] := by decide

lemma names_tests : namesToFollow "tests" = ["tests"] := namesToFollow_name writable_tests

lemma get?_of_isDir_tests (h : d.isDir here "tests" = true) : d.get? (here ++ ["tests"]) ≠ none :=
  get?_of_isDir_name writable_tests h

lemma makeNamed_tests : d.makeNamed here "tests" =
    if d.get? (here ++ ["tests"]) = none then (d.set (here ++ ["tests"]) .dir, none)
    else (d, if d.isDir here "tests" then none else some ⟨.alreadyThere, "tests"⟩) :=
  makeNamed_name accepted_tests writable_tests (by decide)

/-- A directory stays where it is when a file is put where there was none, or another one. -/
lemma isDir_set {l : Location} (h : d.isDir here s = true) (hdir : d.get? l ≠ some .dir)
    (hlink : ∀ target, d.get? l ≠ some (.link target)) (bytes : ByteArray) :
    (d.set l (.file bytes)).isDir here s = true := by
  obtain ⟨top, hfind⟩ := isDir_iff.mp h
  obtain ⟨hlocate, htop⟩ := find_eq_ok_iff.mp hfind
  have hne : top ≠ l := by
    rintro rfl
    exact hdir htop
  refine isDir_iff.mpr ⟨top, find_eq_ok_iff.mpr ⟨locate_set hlocate hdir hlink bytes, ?_⟩⟩
  rw [get?_set_of_ne _ hne, htop]

/-- Once the directory for tests was made, it is there; nothing but that has changed. -/
lemma of_makeNamed_tests {d' : Disk} (h : d.makeNamed here "tests" = (d', none)) :
    d'.isDir here "tests" = true ∧ ∀ l, d'.get? l = d.get? l ∨
      l = here ++ ["tests"] ∧ d.get? l = none ∧ d'.get? l = some .dir := by
  rw [makeNamed_tests] at h
  by_cases hnone : d.get? (here ++ ["tests"]) = none
  · rw [if_pos hnone, Prod.mk.injEq] at h
    obtain ⟨rfl, -⟩ := h
    have hfind : (d.set (here ++ ["tests"]) .dir).find here "tests" = .ok (here ++ ["tests"], .dir) :=
      find_name_of_dir accepted_tests writable_tests (get?_set_self _ (by simp))
    refine ⟨isDir_iff.mpr ⟨_, hfind⟩, fun l => ?_⟩
    by_cases hl : l = here ++ ["tests"]
    · subst hl
      exact .inr ⟨rfl, hnone, (find_eq_ok_iff.mp hfind).2⟩
    · exact .inl (get?_set_of_ne _ hl)
  · rw [if_neg hnone, Prod.mk.injEq] at h
    obtain ⟨rfl, hdir⟩ := h
    exact ⟨by simpa using hdir, fun _ => .inl rfl⟩

end

end QualityGate.Disk

namespace QualityGate

/-! ## The test file of a module -/

/-- The name of the test file of a module. -/
def testName (module : String) : String := "test_" ++ module ++ ".py"

/-- The path of the test file of a module. -/
def testPath (module : String) : String := "tests" ++ "/" ++ testName module

lemma joinName_testName (module : String) :
    Path.joinName "tests" (testName module) = testPath module := by
  rw [Path.joinName, if_neg (by decide +kernel), testPath]

lemma toList_testName (module : String) :
    (testName module).toList = "test_".toList ++ (module.toList ++ ".py".toList) := by
  simp [testName]

lemma testName_ne {module : String} :
    testName module ≠ "" ∧ testName module ≠ "." ∧ testName module ≠ ".." := by
  refine ⟨?_, ?_, ?_⟩ <;>
  · intro h
    have hfirst := congrArg (fun s : String => s.toList.head?) h
    simp [toList_testName] at hfirst

lemma Path.slash_not_mem_stem (s : String) : '/' ∉ (Path.ofText s).stem.toList := by
  intro h
  rw [Path.stem, String.toList_ofList] at h
  have hname := List.mem_of_mem_take h
  rw [Path.name] at hname
  cases hlast : (Path.ofText s).names.getLast? with
  | none => simp [hlast] at hname
  | some n =>
    rw [hlast, Option.getD_some] at hname
    exact (Disk.names_ofText s n (List.mem_of_getLast? hlast)).2.2 hname

lemma matchesParts_append (l : List Char) {ps : List Glob.Part} {cs : List Char}
    (h : Glob.matchesParts ps cs = true) :
    Glob.matchesParts (l.map .char ++ ps) (l ++ cs) = true := by
  induction l with
  | nil => exact h
  | cons c l ih => simp [Glob.matchesParts, Glob.Part.has, ih]

lemma matchesName_testName (module : String) :
    Glob.matchesName "test_*.py" (testName module) = true := by
  have hparts : Glob.parts "test_*.py" =
      "test_".toList.map .char ++ .star :: ".py".toList.map .char := by decide
  rw [Glob.matchesName, hparts, toList_testName]
  refine matchesParts_append _ (Glob.matchesParts_star.mpr ⟨_, List.suffix_append _ _, ?_⟩)
  exact (Glob.matchesParts_chars _ _).mpr rfl

lemma not_hidden_testName (module : String) : Glob.isHidden (testName module) = false := by
  rw [Glob.isHidden, ← Bool.not_eq_true, String.startsWith_string_iff, toList_testName]
  simp

namespace Disk

variable {d : Disk} {here loc : Location} {module : String} {bytes : ByteArray}

lemma names_testPath (hm : '/' ∉ module.toList) :
    namesToFollow (testPath module) = ["tests", testName module] := by
  refine namesToFollow_below writable_tests ⟨testName_ne.1, testName_ne.2.1, ?_⟩
  rw [toList_testName]
  simp [hm]

lemma testPath_relative (module : String) : (testPath module).startsWith "/" = false := by
  rw [← Bool.not_eq_true, String.startsWith_string_iff, testPath]
  simp

/-- The directory for tests is there, and in it the test file of a module. -/
structure Stored (d : Disk) (here : Location) (module : String) (loc : Location)
    (bytes : ByteArray) : Prop where
  dir : d.isDir here "tests" = true
  located : d.locate here (testPath module) = .ok loc
  file : d.get? loc = some (.file bytes)

/-- In a directory for tests that stands where it is named, the path leads to the file. -/
lemma locate_testPath (hm : '/' ∉ module.toList) (haccept : Accepted (testPath module))
    (hplain : Plain (testName module)) (hdir : d.get? (here ++ ["tests"]) = some .dir)
    (hentry : d.get? (here ++ ["tests"] ++ [testName module]) ≠ some .dir)
    (hlink : ∀ target, d.get? (here ++ ["tests"] ++ [testName module]) ≠ some (.link target)) :
    d.locate here (testPath module) = .ok (here ++ ["tests"] ++ [testName module]) := by
  refine locate_eq_ok_iff.mpr ⟨haccept, ?_⟩
  rw [testPath_relative, if_neg (by simp), names_testPath hm]
  exact .dir (writable_tests "tests" (by simp)).1 hdir (.last _ hplain hentry hlink)

/-- A file that is put where the path leads, to something or nothing, but to no directory. -/
lemma stored_set (hdir : d.isDir here "tests" = true)
    (hlocate : d.locate here (testPath module) = .ok loc) (hentry : d.get? loc ≠ some .dir)
    (hlink : ∀ target, d.get? loc ≠ some (.link target)) (bytes : ByteArray) :
    Stored (d.set loc (.file bytes)) here module loc bytes where
  dir := isDir_set hdir hentry hlink bytes
  located := locate_set hlocate hentry hlink bytes
  file := get?_set_self _ fun h => hentry (by rw [h]; rfl)

namespace Stored

variable (h : Stored d here module loc bytes)

include h

lemma set (bytes' : ByteArray) : Stored (d.set loc (.file bytes')) here module loc bytes' :=
  stored_set h.dir h.located (by simp [h.file]) (by simp [h.file]) bytes'

lemma read : d.read here (testPath module) = .ok bytes := by
  rw [Disk.read, find_eq_ok_iff.mpr ⟨h.located, h.file⟩]

lemma append (more : ByteArray) : d.append here (testPath module) more =
    .ok (d.set loc (.file (bytes ++ more))) := by
  rw [Disk.append, h.located]
  simp only [h.file]

lemma makeNamed : d.makeNamed here "tests" = (d, none) := by
  rw [makeNamed_tests, if_neg (get?_of_isDir_tests h.dir), h.dir]
  rfl

lemma readText {text : String} (hdecode : Text.decodeUtf8 bytes = .ok text) :
    d.readText here (testPath module) = .ok (Text.unified text) := by
  rw [Disk.readText, h.read]
  simp only [hdecode, Text.unified]

/-- The test file is among those that the pattern for tests stands for. -/
lemma mem_find (hm : '/' ∉ module.toList) : testPath module ∈ Glob.find d here "tests/test_*.py" := by
  obtain ⟨top, hfind⟩ := isDir_iff.mp h.dir
  -- the way to the file goes through the directory
  have hname : d.get? (top ++ [testName module]) ≠ none := by
    have hleads := (locate_eq_ok_iff.mp h.located).2
    rw [testPath_relative, if_neg (by simp), names_testPath hm] at hleads
    have hway : Leads d maxLinks here (["tests"] ++ [testName module]) loc := hleads
    obtain ⟨mid, links, hmid, hlast⟩ := hway.split (by simp)
    have htop := (locate_eq_ok_iff.mp (find_eq_ok_iff.mp hfind).1).2
    rw [if_neg (by simp), names_tests] at htop
    obtain rfl : mid = top := by
      simpa [walk_iff.mpr hmid] using walk_iff.mpr htop
    exact hlast.single testName_ne.2 (by simp [h.file])
  have hmem : testName module ∈ Glob.namesMatching d here false "tests" "test_*.py" := by
    have hdir : (if "tests".isEmpty then "." else "tests") = "tests" := by decide
    simp only [Glob.namesMatching, hdir, hfind, List.mem_filter, mem_namesIn]
    refine ⟨hname, ?_⟩
    simp [not_hidden_testName, matchesName_testName]
  have hsplit : Path.splitLast "tests/test_*.py" = ("tests", "test_*.py") := by decide
  rw [Glob.find, Glob.findFrom, hsplit, ← joinName_testName]
  simp only [show Glob.isPattern "tests/test_*.py" = true by decide,
    show Glob.isPattern "tests" = false by decide, show Glob.isPattern "test_*.py" = true by decide,
    show "tests".isEmpty = false by decide, Bool.not_true, Bool.false_eq_true, if_false, if_true,
    Bool.and_false, List.flatMap_cons, List.flatMap_nil, List.append_nil]
  exact List.mem_map_of_mem hmem

end Stored

/-- The test file of a module can be made: the directory for tests is there or can be made, and from
then on the path leads to a location with nothing in it. -/
structure Ready (d : Disk) (here : Location) (module : String) (d' : Disk) (loc : Location) :
    Prop where
  made : d.makeNamed here "tests" = (d', none)
  located : d'.locate here (testPath module) = .ok loc
  missing : d'.get? loc = none

namespace Ready

variable {d' : Disk} (h : Ready d here module d' loc)

include h

lemma pathExists : d'.pathExists here (testPath module) = false := by
  rw [Disk.pathExists, find, h.located]
  simp [bind, Except.bind, h.missing]

lemma write (bytes : ByteArray) :
    d'.write here (testPath module) bytes = .ok (d'.set loc (.file bytes)) :=
  write_eq_ok_iff.mpr ⟨loc, h.located, by simp [h.missing], rfl⟩

lemma stored (bytes : ByteArray) : Stored (d'.set loc (.file bytes)) here module loc bytes :=
  stored_set (of_makeNamed_tests h.made).1 h.located (by simp [h.missing]) (by simp [h.missing]) bytes

end Ready

/-- Where there is nothing under the name of the directory for tests, the file can be made. -/
lemma ready_of_missing (hm : '/' ∉ module.toList) (haccept : Accepted (testPath module))
    (hplain : Plain (testName module)) (hdir : d.get? (here ++ ["tests"]) = none)
    (hentry : d.get? (here ++ ["tests"] ++ [testName module]) = none) :
    Ready d here module (d.set (here ++ ["tests"]) .dir) (here ++ ["tests"] ++ [testName module]) := by
  have hnew : (d.set (here ++ ["tests"]) .dir).get? (here ++ ["tests"] ++ [testName module]) = none := by
    rw [get?_set_of_ne _ (by simp), hentry]
  exact {
    made := by rw [makeNamed_tests, if_pos hdir]
    located := locate_testPath hm haccept hplain (get?_set_self _ (by simp)) (by rw [hnew]; simp)
      (by rw [hnew]; simp)
    missing := hnew }

/-- A test file that can be read. -/
lemma stored_of_readText (hdir : d.isDir here "tests" = true) {old : String}
    (h : d.readText here (testPath module) = .ok old) : ∃ loc bytes text,
      Stored d here module loc bytes ∧ Text.decodeUtf8 bytes = .ok text ∧
        old = Text.unified text := by
  rw [Disk.readText, Disk.read] at h
  cases hfind : d.find here (testPath module) with
  | error t => simp [hfind] at h
  | ok found =>
    obtain ⟨loc, e⟩ := found
    obtain ⟨hlocate, hget⟩ := find_eq_ok_iff.mp hfind
    cases e with
    | file bytes =>
      simp only [hfind] at h
      cases hdecode : Text.decodeUtf8 bytes with
      | error f => simp [hdecode] at h
      | ok text =>
        simp only [hdecode, Except.ok.injEq] at h
        exact ⟨loc, bytes, text, ⟨hdir, hlocate, hget⟩, hdecode, h.symm⟩
    | dir => simp [hfind] at h
    | link target => simp [hfind] at h

end Disk

namespace Text

/-! ## Line ends -/

lemma unifyLineEnds_append {xs ys : List Char} (h : ys.head? ≠ some '\n') :
    unifyLineEnds (xs ++ ys) = unifyLineEnds xs ++ unifyLineEnds ys := by
  fun_induction unifyLineEnds xs with
  | case1 => rfl
  | case2 cs ih => simp [unifyLineEnds, ih]
  | case3 cs hcs ih =>
    cases cs with
    | nil =>
      cases ys with
      | nil => rfl
      | cons y ys => simp_all [unifyLineEnds]
    | cons c cs => simp_all [unifyLineEnds]
  | case4 c cs hc hc' ih => simp_all [unifyLineEnds]

/-- A word does not change when the line ends around it are made the same. -/
lemma infix_unifyLineEnds {word cs : List Char} (h : word <:+: cs) (hr : '\r' ∉ word)
    (hstart : ∃ c ∈ word.head?, c ≠ '\n') : word <:+: unifyLineEnds cs := by
  obtain ⟨xs, ys, rfl⟩ := h
  have hhead : (word ++ ys).head? ≠ some '\n' := by
    obtain ⟨c, hc, hne⟩ := hstart
    simpa [List.head?_append, Option.mem_def.mp hc] using hne
  rw [List.append_assoc, unifyLineEnds_append hhead, Source.unifyLineEnds_start (fun c hc => ne_of_mem_of_not_mem hc hr),
    ← List.append_assoc]
  exact ⟨_, _, rfl⟩

end Text

namespace Guard

variable {name module : String} {w w' : Session}

/-- What is printed when a draft was written. -/
def draftedLine (name module : String) : String :=
  s!"✅ Wygenerowano test dla {name} w {testPath module}" ++ "\n"

/-- A text mentions the test of a function. -/
def Mentions (text name : String) : Prop := ("test_" ++ name).toList <:+: text.toList

instance (text name : String) : Decidable (Mentions text name) :=
  inferInstanceAs (Decidable (_ <:+: _))

lemma holds_test {text : String} : Text.holds text s!"test_{name}" = true ↔ Mentions text name :=
  holds_iff _ _

/-- What becomes of the test file once its directory is there: it mentions the test already, or the
draft is written behind it, or there is no file and the draft is written to a new one. -/
inductive Drafted (name module : String) (w : Session) : Session → Prop
  | mentioned {old : String} : w.disk.readText w.places.here (testPath module) = .ok old →
    Mentions old name → Drafted name module w w
  | added {old : String} {d : Disk} : w.disk.readText w.places.here (testPath module) = .ok old →
    ¬ Mentions old name → Text.halfFault? ("\n\n" ++ testDraft name module) = none →
    w.disk.append w.places.here (testPath module) ("\n\n" ++ testDraft name module).toUTF8 = .ok d →
    Drafted name module w { w with disk := d, out := w.out ++ draftedLine name module }
  | created {d : Disk} : w.disk.pathExists w.places.here (testPath module) = false →
    Text.halfFault? (testDraft name module) = none →
    w.disk.write w.places.here (testPath module) (testDraft name module).toUTF8 = .ok d →
    Drafted name module w { w with disk := d, out := w.out ++ draftedLine name module }

lemma printDrafted_iff :
    Act.printLine s!"✅ Wygenerowano test dla {name} w {testPath module}" w = .ok () w' ↔
      w' = { w with out := w.out ++ draftedLine name module } := by
  rw [Act.printLine_run, EStateM.Result.ok.injEq]
  constructor
  · rintro ⟨-, rfl⟩
    rfl
  · rintro rfl
    exact ⟨rfl, rfl⟩

lemma addDraft_iff :
    addDraft name (testPath module) (testDraft name module) w = .ok () w' ↔
      Drafted name module w w' := by
  rw [addDraft, Act.bind_ok (Act.pathExists_run (testPath module) w)]
  cases hpath : w.disk.pathExists w.places.here (testPath module) with
  | false =>
    simp only [Bool.false_eq_true, if_false]
    rw [Act.bind_eq_ok_iff]
    constructor
    · rintro ⟨⟨⟩, w₁, hwrite, hprint⟩
      obtain ⟨hhalf, d, hd, rfl⟩ := Act.writeText_iff.mp hwrite
      obtain rfl := printDrafted_iff.mp hprint
      exact .created hpath hhalf hd
    · intro h
      cases h with
      | mentioned hread => simp [pathExists_of_readText hread] at hpath
      | added hread => simp [pathExists_of_readText hread] at hpath
      | created _ hhalf hd =>
        exact ⟨(), _, Act.writeText_iff.mpr ⟨hhalf, _, hd, rfl⟩, printDrafted_iff.mpr rfl⟩
  | true =>
    simp only [if_true]
    rw [Act.bind_eq_ok_iff]
    constructor
    · rintro ⟨old, w₁, hread, hok⟩
      obtain ⟨hread, rfl⟩ := Act.readText_iff.mp hread
      by_cases hold : Mentions old name
      · simp only [holds_test.mpr hold, if_true] at hok
        cases hok
        exact .mentioned hread hold
      · simp only [mt holds_test.mp hold] at hok
        obtain ⟨⟨⟩, w₂, hwrite, hprint⟩ := Act.bind_eq_ok_iff.mp hok
        obtain ⟨hhalf, d, hd, rfl⟩ := Act.appendText_iff.mp hwrite
        obtain rfl := printDrafted_iff.mp hprint
        exact .added hread hold hhalf hd
    · intro h
      cases h with
      | @mentioned old hread hold =>
        refine ⟨old, w, Act.readText_iff.mpr ⟨hread, rfl⟩, ?_⟩
        simp only [holds_test.mpr hold, if_true]
        rfl
      | @added old d hread hold hhalf hd =>
        refine ⟨old, w, Act.readText_iff.mpr ⟨hread, rfl⟩, ?_⟩
        simp only [mt holds_test.mp hold]
        exact Act.bind_eq_ok_iff.mpr ⟨(), _, Act.appendText_iff.mpr ⟨hhalf, d, hd, rfl⟩, printDrafted_iff.mpr rfl⟩
      | created hmissing => simp [hmissing] at hpath

lemma writeTest_iff : writeTest name module "tests" w = .ok () w' ↔
    ∃ d, w.disk.makeNamed w.places.here "tests" = (d, none) ∧
      Drafted name module { w with disk := d } w' := by
  have htarget : Path.joinName "tests" s!"test_{module}.py" = testPath module :=
    joinName_testName module
  have hmake := Act.makeDirsNamed_run "tests" w
  rw [writeTest, htarget]
  cases hmade : w.disk.makeNamed w.places.here "tests" with
  | mk d refused =>
    rw [hmade] at hmake
    cases refused with
    | some e =>
      rw [Act.bind_error hmake]
      simp
    | none =>
      rw [Act.bind_ok hmake]
      simp only [Prod.mk.injEq, and_true, exists_eq_left']
      exact addDraft_iff

/-- A draft can be written if the names in it can. -/
lemma halfFault?_testDraft (hname : Text.halfFault? name = none)
    (hmodule : Text.halfFault? module = none) : Text.halfFault? (testDraft name module) = none := by
  have hend : Text.halfFault? "\n" = none := by decide
  have hname' : Text.halfFault? (toString name) = none := hname
  have hmodule' : Text.halfFault? (toString module) = none := hmodule
  simp only [testDraft, testLines, Text.halfFault?_join, List.map_cons, List.map_nil,
    List.forall_mem_cons, Text.halfFault?_append, hname', hmodule', hend, and_true]
  and_intros
  all_goals decide

/-- The first draft makes the test file. -/
lemma writeTest_created {d : Disk} {loc : Location} (h : w.disk.Ready w.places.here module d loc)
    (hhalf : Text.halfFault? (testDraft name module) = none) :
    writeTest name module "tests" w = .ok () { w with
      disk := d.set loc (.file (testDraft name module).toUTF8)
      out := w.out ++ draftedLine name module } :=
  writeTest_iff.mpr ⟨d, h.made, .created h.pathExists hhalf (h.write _)⟩

section

variable {loc : Location} {bytes : ByteArray} {text : String}
  (h : w.disk.Stored w.places.here module loc bytes) (hdecode : Text.decodeUtf8 bytes = .ok text)

include h hdecode

/-- A draft of a test that is not mentioned is written behind the test file. -/
lemma writeTest_added (hnew : ¬ Mentions (Text.unified text) name)
    (hhalf : Text.halfFault? (testDraft name module) = none) :
    writeTest name module "tests" w = .ok () { w with
      disk := w.disk.set loc (.file (bytes ++ ("\n\n" ++ testDraft name module).toUTF8))
      out := w.out ++ draftedLine name module } :=
  writeTest_iff.mpr ⟨w.disk, h.makeNamed, .added (h.readText hdecode) hnew
    (Text.halfFault?_append.mpr ⟨by decide, hhalf⟩) (h.append _)⟩

/-- Nothing happens for a test that is mentioned. -/
lemma writeTest_mentioned (hold : Mentions (Text.unified text) name) :
    writeTest name module "tests" w = .ok () w :=
  writeTest_iff.mpr ⟨w.disk, h.makeNamed, .mentioned (h.readText hdecode) hold⟩

end

lemma toList_testDraft (name module : String) : (testDraft name module).toList =
    (testLines name module).flatMap fun line => line.toList ++ ['\n'] := by
  rw [testDraft, String.toList_join, List.flatMap_map]
  simp

lemma mentions_testDraft (name module : String) : Mentions (testDraft name module) name := by
  have hmem : "def test_" ++ name ++ "():" ∈ testLines name module :=
    List.mem_of_getElem? (i := 4) rfl
  have hline : ("test_" ++ name).toList <:+: ("def test_" ++ name ++ "():").toList :=
    ⟨"def ".toList, "():".toList, by simp⟩
  rw [Mentions, toList_testDraft]
  refine hline.trans ((List.prefix_append _ ['\n']).isInfix.trans ?_)
  exact List.infix_of_mem_flatten (List.mem_map_of_mem hmem)

lemma Mentions.append {text : String} (h : Mentions text name) (start : String) :
    Mentions (start ++ text) name := by
  refine List.IsInfix.trans h ?_
  rw [String.toList_append]
  exact (List.suffix_append _ _).isInfix

lemma Mentions.unified {text : String} (h : Mentions text name) (hname : '\r' ∉ name.toList) :
    Mentions (Text.unified text) name := by
  rw [Mentions, Text.unified, String.toList_ofList]
  exact Text.infix_unifyLineEnds h (by simp [hname]) ⟨'t', by simp, by decide⟩

/-- What a draft does to the test file: it is there, what it held before is still in front, and
it mentions the test. -/
structure Leaves (name module : String) (w w' : Session) (loc : Location) (bytes : ByteArray) :
    Prop where
  stored : w'.disk.Stored w.places.here module loc bytes
  start : w.disk.get? loc = none ∨
    ∃ old more, w.disk.get? loc = some (.file old) ∧ bytes = old ++ more
  others : ∀ l, l ≠ loc → w'.disk.get? l = w.disk.get? l
  mentioned : ∃ text, Text.decodeUtf8 bytes = .ok text ∧ Mentions (Text.unified text) name
  session : w' = { w with disk := w'.disk, out := w'.out }

lemma Drafted.leaves (h : Drafted name module w w') (hname : '\r' ∉ name.toList)
    (hdir : w.disk.isDir w.places.here "tests" = true) :
    ∃ loc bytes, Leaves name module w w' loc bytes := by
  cases h with
  | mentioned hread hold =>
    obtain ⟨loc, bytes, text, hstored, hdecode, rfl⟩ := Disk.stored_of_readText hdir hread
    exact ⟨loc, bytes, {
      stored := hstored
      start := .inr ⟨bytes, .empty, hstored.file, by simp⟩
      others := fun _ _ => rfl
      mentioned := ⟨text, hdecode, hold⟩
      session := rfl }⟩
  | @added _ d hread _ _ hd =>
    obtain ⟨loc, bytes, text, hstored, hdecode, rfl⟩ := Disk.stored_of_readText hdir hread
    obtain rfl : w.disk.set loc (.file (bytes ++ ("\n\n" ++ testDraft name module).toUTF8)) = d :=
      Except.ok.inj ((hstored.append _).symm.trans hd)
    refine ⟨loc, _, {
      stored := hstored.set _
      start := .inr ⟨bytes, _, hstored.file, rfl⟩
      others := fun l hl => Disk.get?_set_of_ne _ hl
      mentioned := ⟨_, Text.decodeUtf8_append hdecode _, .unified ?_ hname⟩
      session := rfl }⟩
    exact ((mentions_testDraft name module).append _).append _
  | @created d hmissing _ hd =>
    obtain ⟨loc, hlocate, hentry, rfl⟩ := Disk.write_eq_ok_iff.mp hd
    have hnone : w.disk.get? loc = none := by
      cases hget : w.disk.get? loc with
      | none => rfl
      | some e => simp [Disk.pathExists, Disk.find_eq_ok_iff.mpr ⟨hlocate, hget⟩] at hmissing
    exact ⟨loc, _, {
      stored := Disk.stored_set hdir hlocate hentry (by simp [hnone]) _
      start := .inl hnone
      others := fun l hl => Disk.get?_set_of_ne _ hl
      mentioned := ⟨_, Disk.decodeUtf8_toUTF8 _, (mentions_testDraft name module).unified hname⟩
      session := rfl }⟩

namespace Leaves

variable {loc : Location} {bytes : ByteArray} (h : Leaves name module w w' loc bytes)

include h

/-- The test is found by the pattern for tests. -/
lemma hasTest (hm : '/' ∉ module.toList) :
    Guard.hasTest w'.disk w'.places.here name "tests/test_*.py" = true := by
  obtain ⟨text, hdecode, hmention⟩ := h.mentioned
  have hhere : w'.places.here = w.places.here := by rw [h.session]
  rw [hhere, hasTest_iff]
  refine ⟨testPath module, ?_, Text.unified text, h.stored.readText hdecode, .inl hmention⟩
  rw [Matched, if_pos (by decide)]
  exact h.stored.mem_find hm

/-- Writing the draft once more changes nothing. -/
lemma writeTest : Guard.writeTest name module "tests" w' = .ok () w' := by
  obtain ⟨text, hdecode, hmention⟩ := h.mentioned
  have hhere : w'.places.here = w.places.here := by rw [h.session]
  have hstored := h.stored
  rw [← hhere] at hstored
  exact writeTest_mentioned hstored hdecode hmention

end Leaves

/-- A name with a carriage return is not recognised, and its draft is written once more. -/
lemma writeTest_again {d : Disk} {loc : Location} (h : w.disk.Ready w.places.here module d loc)
    (hname : '\r' ∈ name.toList) (hhalf : Text.halfFault? (testDraft name module) = none) :
    ∃ w₁ w₂, writeTest name module "tests" w = .ok () w₁ ∧ w₁.store = w.store ∧
      writeTest name module "tests" w₁ = .ok () w₂ ∧ w₂.out ≠ w₁.out := by
  have hnew : ¬ Mentions (Text.unified (testDraft name module)) name := by
    intro hold
    have hmem := hold.mem (show '\r' ∈ ("test_" ++ name).toList by simp [hname])
    rw [Text.unified, String.toList_ofList] at hmem
    exact Text.not_mem_unify _ hmem
  have hlonger (out : String) : out ++ draftedLine name module ≠ out := by
    intro h
    obtain ⟨cs, hcs⟩ : ∃ cs, (draftedLine name module).toList = cs ++ ['\n'] :=
      ⟨_, String.toList_append⟩
    have hchars := congrArg String.toList h
    rw [String.toList_append, List.append_right_eq_self] at hchars
    simp [hcs] at hchars
  have hsecond := writeTest_added (w := { w with
      disk := d.set loc (.file (testDraft name module).toUTF8)
      out := w.out ++ draftedLine name module })
    (h.stored _) (Disk.decodeUtf8_toUTF8 _) hnew hhalf
  exact ⟨_, _, writeTest_created h hhalf, rfl, hsecond, hlonger _⟩

end Guard

end QualityGate
