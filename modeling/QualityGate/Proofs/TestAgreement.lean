/-
# The generator and the validator

The generator looks for the test of a function by one text in one file, the validator by two texts in
all files that some patterns stand for.  `generateTest_agrees` says that the validator does not miss
a test whose draft the generator wrote, or found to be there.
-/
import Mathlib
import QualityGate.Proofs.ComplexityRule
import QualityGate.Proofs.TestFiles

namespace QualityGate

namespace Guard

/-! ## The rule on tests -/

/-- A search that is stopped by a success, or by a failure before it, does not end without one. -/
lemma anyM_ne_false {p : Value → Except Failure Bool} {v : Value} (hp : p v = .ok true) :
    ∀ {vs : List Value}, v ∈ vs → anyM p vs ≠ .ok false
  | u :: vs, hv => by
    rw [anyM]
    cases hu : p u with
    | error f => simp [bind, Except.bind]
    | ok found =>
      cases found with
      | true => simp [bind, Except.bind, pure, Except.pure]
      | false =>
        have hmem : v ∈ vs := by
          rcases List.mem_cons.mp hv with rfl | hmem
          · simp [hu] at hp
          · exact hmem
        simpa [bind, Except.bind] using anyM_ne_false hp hmem

variable {c : Settings} {patterns : List Value} {pattern : String} {d : Disk} {here : Location}
  {s : Subject}

/-- A test in the files of one of the patterns is enough for the rule on tests. -/
lemma reports_tests (hpatterns : elements ((c.get? "test_patterns").getD (.list [])) = .ok patterns)
    (hmem : .text pattern ∈ patterns) (htest : hasTest d here s.name pattern = true) :
    Reports .tests c False (applyRules d here s) := by
  have htests : Reports .tests c False (checkTests d here s) := by
    refine .setting ?_
    rw [hpatterns]
    show Reports .tests c False (do
      if ← Validation.ofExcept (anyM (hasTestValue d here s.name) patterns) then return ()
      Validation.report (untested s))
    intro k k' hk hrun
    cases hany : anyM (hasTestValue d here s.name) patterns with
    | error f =>
      rw [hany] at hrun
      cases hrun
    | ok found =>
      cases found with
      | true =>
        rw [hany] at hrun
        exact Reports.nothing k k' hk hrun
      | false => exact absurd hany (anyM_ne_false (by rw [hasTestValue, htest]) hmem)
  have hothers (rule : Rule) (h : rule ≠ .tests) :
      Reports .tests c False (rule.check d here s) := reports_check h
  exact ((Reports.ifRequired htests).seq <| (hothers .docs (by decide)).seq <|
    (hothers .length (by decide)).seq <| (hothers .complexity (by decide)).seq
      (hothers .architecture (by decide))).congr (by simp)

end Guard

namespace Program

open Guard (Rule Terms Validator elements)

variable {w w' : Session} {o : Object} {f : Function}

/-- What the rules look at in a function has the name of the function. -/
lemma of_subjectOf {file line : Value} {s : Guard.Subject} {v : Session}
    (hf : w.store.asFunction? o = some f) (hs : subjectOf o file line w = .ok s v) :
    s.name = f.name ∧ v = w := by
  rw [subjectOf_eq, Store.attr_name_of_asFunction? hf] at hs
  split at hs
  · next hname _ _ =>
    cases hs
    cases hname
    exact ⟨rfl, rfl⟩
  all_goals cases hs

/-- A function with a test in the files of one of the patterns is not reported for its tests. -/
lemma not_reported_untested {c : Settings} {patterns : List Value} {pattern : String}
    (hf : w.store.asFunction? o = some f)
    (htest : Guard.hasTest w.disk w.places.here f.name pattern = true)
    (hpatterns : elements ((c.get? "test_patterns").getD (.list [])) = .ok patterns)
    (hmem : .text pattern ∈ patterns) {k k' : Validator} (hk : k.settings = c) {file line : Value}
    {vs : List Guard.Violation} {v : Session}
    (hrun : validate o file line (k, w) = .ok vs (k', v)) :
    ¬ ∃ x ∈ vs, x.rule = .text "missing_test" := by
  cases hs : subjectOf o file line w with
  | error e w₁ =>
    rw [validate_eq, hs] at hrun
    cases hrun
  | ok s w₁ =>
    obtain ⟨hname, rfl⟩ := of_subjectOf hf hs
    rw [← hname] at htest
    exact (reported_iff hk hs (Guard.reports_tests hpatterns hmem htest) hrun).not.mpr id

/-- The draft for a function is one for its name and for the module that its file is. -/
lemma generateTest_eq (hf : w.store.asFunction? o = some f) {file : String}
    (hfile : w.store.fileOf w.places.tool o = .ok file) (dir : String) :
    Guard.generateTest o dir w = Guard.writeTest f.name (Path.ofText file).stem dir w := by
  have hname := Store.attr_name_of_asFunction? hf
  rw [Guard.generateTest, Act.bind_ok (Act.get_run w),
    Act.bind_ok (Act.ofExcept_ok hname), Act.bind_ok (Act.ofExcept_ok hfile)]
  rfl

/-- **The generator and the validator agree.**  Take a function with no carriage return in its name,
and let a draft of a test for it be written into the directory for tests.  Then its test file is
there; what the file held before stands in front of it still, and but for the directory for tests
nothing else on the disk has changed.  To write the draft once more changes nothing at all.  And
under settings that name the pattern for test files, a validator does not report a missing test of
the function, whatever it was used on before; if the settings are what they should be and the lines
of the function can be found, it does return an answer. -/
theorem generateTest_agrees (hf : w.store.asFunction? o = some f) (hname : '\r' ∉ f.name.toList)
    (hrun : Guard.generateTest o "tests" w = .ok () w') :
    ∃ file loc bytes, w.store.fileOf w.places.tool o = .ok file ∧
      w'.disk.locate w.places.here ("tests/test_" ++ (Path.ofText file).stem ++ ".py") = .ok loc ∧
      w'.disk.get? loc = some (.file bytes) ∧
      (w.disk.get? loc = none ∨
        ∃ old more, w.disk.get? loc = some (.file old) ∧ bytes = old ++ more) ∧
      (∀ l, l ≠ loc → w'.disk.get? l = w.disk.get? l ∨
        l = w.places.here ++ ["tests"] ∧ w.disk.get? l = none ∧ w'.disk.get? l = some .dir) ∧
      w' = { w with disk := w'.disk, out := w'.out } ∧
      Guard.generateTest o "tests" w' = .ok () w' ∧
      ∀ (c : Settings) (patterns : List Value),
        elements ((c.get? "test_patterns").getD (.list [])) = .ok patterns →
        .text "tests/test_*.py" ∈ patterns → ∀ (before : List Use) (file line : Value),
          let k := before.foldl Use.apply { settings := c }
          (∀ vs k' v, validate o file line (k, w') = .ok vs (k', v) →
            ¬ ∃ x ∈ vs, x.rule = .text "missing_test") ∧
          ∀ (r : Terms) lines n, r.SetBy c →
            w'.store.sourceLines w'.disk w'.places.here w'.places.tool o = .ok (lines, n) →
            ∃ vs k', validate o file line (k, w') = .ok vs (k', w') := by
  obtain ⟨file, hfile⟩ := Store.fileOf_of_asFunction? w.places.tool hf
  rw [generateTest_eq hf hfile] at hrun
  obtain ⟨d, hmade, hdrafted⟩ := Guard.writeTest_iff.mp hrun
  obtain ⟨hdir, hkept⟩ := Disk.of_makeNamed_tests hmade
  obtain ⟨loc, bytes, h⟩ := hdrafted.leaves hname hdir
  -- the location of the file is not that of the new directory
  have hsame : d.get? loc = w.disk.get? loc := by
    rcases hkept loc with hsame | ⟨-, -, hnew⟩
    · exact hsame
    · rcases h.start with hnone | ⟨old, more, hold, -⟩
      · cases hnew.symm.trans hnone
      · cases hnew.symm.trans hold
  have hsession : w' = { w with disk := w'.disk, out := w'.out } := h.session
  have hf' : w'.store.asFunction? o = some f := by rw [hsession]; exact hf
  have hfile' : w'.store.fileOf w'.places.tool o = .ok file := by rw [hsession]; exact hfile
  have hslash := Path.slash_not_mem_stem file
  refine ⟨file, loc, bytes, hfile, ?_, h.stored.file, hsame ▸ h.start, fun l hl => ?_, hsession, ?_,
    fun c patterns hpatterns hmem before file line => ⟨fun vs k' v hvalid => ?_, ?_⟩⟩
  · have hpath : "tests/test_" ++ (Path.ofText file).stem ++ ".py" = testPath (Path.ofText file).stem := by
      simp [testPath, testName, ← String.toList_inj]
    rw [hpath]
    exact h.stored.located
  · rw [h.others l hl]
    exact hkept l
  · rw [generateTest_eq hf' hfile']
    exact h.writeTest
  · exact not_reported_untested hf' (h.hasTest hslash) hpatterns hmem (settings_foldl before _) hvalid
  · intro r lines n hr hlines
    exact exists_validate hr (settings_foldl before _) hf' hlines file line

/-- A session with a function `f` in a file `m`, and with a test file of that module that holds one
line, ended by a carriage return. -/
def begunTests : Session where
  disk := ⟨[(["m"], .file "#\n".toUTF8), (["tests"], .dir),
    (["tests", "test_m.py"], .file "#\r".toUTF8)]⟩
  places := ⟨[], [], ""⟩
  store := cutFile.store

lemma stored_begunTests :
    begunTests.disk.Stored [] "m" ["tests", "test_m.py"] "#\r".toUTF8 := by
  have hget : begunTests.disk.get? ([] ++ ["tests"] ++ [testName "m"]) =
      some (.file "#\r".toUTF8) := rfl
  have hroot : Disk.Rooted begunTests.disk ([] ++ ["tests"]) :=
    .concat (.nil _) (by decide) (by decide) rfl
  exact {
    dir := Disk.isDir_iff.mpr
      ⟨_, Disk.find_of_found Disk.accepted_tests Disk.names_tests (.dir hroot) rfl⟩
    located := Disk.locate_testPath (by decide) (by decide) (by decide) rfl (by rw [hget]; simp)
      (by rw [hget]; simp)
    file := hget }

/-- The session after the draft for `f` was written. -/
def addedTests : Session := { begunTests with
  disk := begunTests.disk.set ["tests", "test_m.py"]
    (.file ("#\r".toUTF8 ++ ("\n\n" ++ Guard.testDraft "f" "m").toUTF8))
  out := Guard.draftedLine "f" "m" }

lemma generateTest_begunTests :
    Guard.generateTest (.function 0) "tests" begunTests = .ok () addedTests := by
  have hfile : begunTests.store.fileOf begunTests.places.tool (.function 0) = .ok "/m" := rfl
  have hstem : (Path.ofText "/m").stem = "m" := by decide
  rw [generateTest_eq (f := cutFile.store.functions[0]) rfl hfile, hstem]
  exact Guard.writeTest_added (w := begunTests) stored_begunTests (Disk.decodeUtf8_toUTF8 _)
    (by decide) (Guard.halfFault?_testDraft (by decide) (by decide))

/-- The lines of the function are found in the session with the draft. -/
lemma sourceLines_addedTests : addedTests.store.sourceLines addedTests.disk [] "" (.function 0) =
    .ok (["#\n"], 1) := by
  have hread : addedTests.disk.read [] "/m" = .ok "#\n".toUTF8 := by
    have hget : addedTests.disk.get? ["m"] = some (.file "#\n".toUTF8) := rfl
    have hfind : addedTests.disk.find [] "/m" = _ :=
      Disk.find_text_in_root (n := "m") (by decide) (by decide) hget
    rw [Disk.read, hfind]
  exact Store.sourceLines_of_closure rfl rfl hread (by cbv) (by decide)
    (show _ = [['#', '\n']] by cbv) (show _ = some 0 by cbv) (show _ = some [['#', '\n']] by cbv)

/-- What stood in the test file stays in front of the draft; the second draft changes nothing, and
the validator, which asks for tests, reports other things at most. -/
theorem generateTest_agrees_begunTests :
    let c : Settings := .ofFields [("require_tests", .bool true),
      ("test_patterns", .list [.text "tests/test_*.py"])]
    ∃ w', Guard.generateTest (.function 0) "tests" begunTests = .ok () w' ∧
      (∃ loc more, w'.disk.locate [] "tests/test_m.py" = .ok loc ∧
        w'.disk.get? loc = some (.file ("#\r".toUTF8 ++ more))) ∧
      Guard.generateTest (.function 0) "tests" w' = .ok () w' ∧
      ∃ vs k', validate (.function 0) .null .null ({ settings := c }, w') = .ok vs (k', w') ∧
        ¬ ∃ x ∈ vs, x.rule = .text "missing_test" := by
  intro c
  obtain ⟨-, -, -, -, -, -, -, -, -, hagain, hvalid⟩ :=
    generateTest_agrees (f := cutFile.store.functions[0]) rfl (by decide) generateTest_begunTests
  obtain ⟨hreports, hanswer⟩ := hvalid c _ rfl (List.mem_singleton_self _) [] .null .null
  obtain ⟨vs, k', hrun⟩ := hanswer (Terms.mk 50 10 ["tests/test_*.py"] []) _ _
    (by constructor <;> rfl) sourceLines_addedTests
  have hstored : addedTests.disk.Stored [] "m" ["tests", "test_m.py"] _ := stored_begunTests.set _
  exact ⟨addedTests, generateTest_begunTests, ⟨_, _, hstored.located, hstored.file⟩, hagain, vs, k',
    hrun, hreports _ _ _ hrun⟩

/-- A session with a function that was given a name with a carriage return. -/
def returnName : Session where
  disk := {}
  places := ⟨[], [], ""⟩
  store := { functions := #[
    ⟨"\r", "f", "m", .null, .closure ⟨default, [], [], [], 0, "/m", 1, none⟩, none, []⟩] }

/-- The carriage return is read as a line end, so the draft is not recognised and written once
more. -/
theorem generateTest_again_returnName : ∃ w₁ w₂,
    Guard.generateTest (.function 0) "tests" returnName = .ok () w₁ ∧
      Guard.generateTest (.function 0) "tests" w₁ = .ok () w₂ ∧ w₂.out ≠ w₁.out := by
  have hstem : (Path.ofText "/m").stem = "m" := by decide
  have hrun (w : Session) (hw : w.store = returnName.store) :
      Guard.generateTest (.function 0) "tests" w = Guard.writeTest "\r" "m" "tests" w := by
    have hf : w.store.asFunction? (.function 0) = returnName.store.functions[0]? := by rw [hw]; rfl
    rw [generateTest_eq hf (show _ = Except.ok "/m" by rw [hw]; rfl), hstem]
    rfl
  have hready : returnName.disk.Ready [] "m" _ _ :=
    Disk.ready_of_missing (by decide) (by decide) (by decide) rfl rfl
  obtain ⟨w₁, w₂, hfirst, hstore, hsecond, hout⟩ :=
    Guard.writeTest_again hready (show '\r' ∈ "\r".toList by decide)
      (Guard.halfFault?_testDraft (by decide) (by decide))
  exact ⟨w₁, w₂, (hrun returnName rfl).trans hfirst, (hrun w₁ hstore).trans hsecond, hout⟩

end Program

end QualityGate
