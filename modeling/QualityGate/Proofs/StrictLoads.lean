/-
# Loads that a strict loader does not stop

A loader of ours checks the file of a module before it compiles it.  What the check finds is
reported, and a strict loader then refuses the module; but whatever goes wrong in the check, the
refusal included, is turned into a warning (`checkBeforeLoad_strict`).  What a file is compiled to
depends on the files only, and compiling it adds at most warnings (`compileFile_verdict`).

`strict_load_goes_on`: a module in which a strict loader finds something is compiled and run as by a
plain loader, in a session with a report and a warning more.
-/
import Mathlib
import QualityGate.Proofs.FinderOrigins
import QualityGate.Proofs.PathsChecked
import QualityGate.Proofs.SettingsRoundTrip

namespace QualityGate.Program

open Source (Tree)

/-! ## Compiling -/

/-- A program comes to a verdict and adds warnings, and does nothing else. -/
def Judges (a : Act Tree) (v : Except Failure Tree) (cautions : List String) (w : Session) : Prop :=
  a w = Act.ofExcept v { w with warnings := w.warnings ++ cautions }

/-- A verdict that is not the refusal of a module for what a check found in it. -/
def NotRefusal (v : Except Failure Tree) : Prop := ∀ path, v ≠ .error (.refusedImport path)

lemma judges_throw (f : Failure) (w : Session) : Judges (throw f) (.error f) [] w := by
  rw [Judges, List.append_nil]
  rfl

/-- A loop that warns in each turn. -/
lemma forIn_warn {α : Type} (line : α → String) {step : α → PUnit → Act (ForInStep PUnit)}
    (hstep : ∀ a u w, step a u w =
      .ok (.yield PUnit.unit) { w with warnings := w.warnings ++ [line a] }) (as : List α) :
    ∀ w : Session, (forIn as PUnit.unit step) w =
      .ok PUnit.unit { w with warnings := w.warnings ++ as.map line } :=
  Act.forIn_put (fun ls w => { w with warnings := w.warnings ++ ls }) (by simp) (by simp) hstep as

/-- The warning that a caution is. -/
def cautionLine (c : Source.Caution) : String := s!"SyntaxWarning: {c.message}"

/-- What was parsed is compiled to the same in every session. -/
lemma compileParsed_verdict (origin : String) (parsed : Except Source.Refusal Tree) :
    ∃ v cautions, NotRefusal v ∧ ∀ w, Judges (compileParsed origin parsed) v cautions w := by
  cases parsed with
  | error r => exact ⟨_, _, by simp [NotRefusal], judges_throw (.notModule r origin)⟩
  | ok t =>
    cases hcheck : Source.checkRunnable t with
    | mk verdict cautions =>
      refine ⟨(verdict.map fun _ => t).mapError (.notRunnable · origin),
        cautions.map cautionLine, ?_, fun w => ?_⟩
      · cases verdict <;> simp [NotRefusal, Except.map, Except.mapError]
      · rw [Judges, compileParsed]
        simp only [hcheck]
        rw [Act.bind_ok (forIn_warn cautionLine (fun _ _ _ => ?_) cautions w)]
        · cases verdict <;> rfl
        · rfl

lemma readBytes_run (file : String) (w : Session) : Act.readBytes file w =
    Act.ofExcept ((w.disk.read w.places.here file).mapError Failure.file) w := by
  rw [Act.readBytes, Act.bind_ok (Act.disk_run w), Act.bind_ok (Act.here_run w)]
  cases w.disk.read w.places.here file <;> rfl

/-- A file is compiled to the same in all sessions with the same files. -/
lemma compileFile_verdict (d : Disk) (p : Places) (file : String) :
    ∃ v cautions, NotRefusal v ∧ ∀ w : Session, w.disk = d → w.places = p →
      Judges (compileFile file) v cautions w := by
  cases hread : d.read p.here file with
  | error e =>
    refine ⟨.error (.file e), [], by simp [NotRefusal], fun w hd hp => ?_⟩
    have hbytes : Act.readBytes file w = .error (.file e) w := by
      rw [readBytes_run, hd, hp, hread]
      rfl
    rw [Judges, compileFile, Act.bind_error hbytes]
    exact judges_throw (.file e) w
  | ok bytes =>
    have hbytes (w : Session) (hd : w.disk = d) (hp : w.places = p) :
        Act.readBytes file w = .ok bytes w := by
      rw [readBytes_run, hd, hp, hread]
      rfl
    by_cases hnull : bytes.toList.contains 0 = true
    · refine ⟨.error (.notModule ⟨.nullCharacter, none, 0⟩ file), [], by simp [NotRefusal],
        fun w hd hp => ?_⟩
      rw [Judges, compileFile, Act.bind_ok (hbytes w hd hp), if_pos hnull]
      exact judges_throw _ w
    · cases htext : Source.textOfBytes bytes with
      | error e =>
        refine ⟨.error (.notModule ⟨.badEncoding e, some 0, 0⟩ file), [], by simp [NotRefusal],
          fun w hd hp => ?_⟩
        rw [Judges, compileFile, Act.bind_ok (hbytes w hd hp), if_neg hnull, htext]
        exact judges_throw _ w
      | ok text =>
        obtain ⟨v, cautions, hv, hparsed⟩ :=
          compileParsed_verdict file (Source.parseKept (some text) text)
        refine ⟨v, cautions, hv, fun w hd hp => ?_⟩
        rw [Judges, compileFile, Act.bind_ok (hbytes w hd hp), if_neg hnull, htext]
        exact hparsed w

end QualityGate.Program

namespace QualityGate.Imports

open Command (unlines lineShown)
open Limits (Issue checkFileHere)
open Program (NotRefusal Judges)

/-! ## Reports -/

/-- The line that reports an issue. -/
def reportLine (i : Issue) : String :=
  s!"  Line {lineShown i}, Column {i.col}: {i.finding.message}"

/-- The lines that report the issues of a file. -/
def reportLines (path : String) (issues : List Issue) : List String :=
  s!"\nSPYQ Validation issues in {path}:" :: issues.map reportLine ++ [""]

lemma issueLine_issueFields (i : Issue) : issueLine (issueFields i) = .ok (reportLine i) := by
  obtain ⟨finding, line, col⟩ := i
  cases line <;> rfl

/-- A loop that reports a line in each turn. -/
lemma forIn_report {α : Type} (line : α → String) {step : α → PUnit → Act (ForInStep PUnit)}
    (hstep : ∀ a u w, step a u w =
      .ok (.yield PUnit.unit) { w with err := w.err ++ (line a ++ "\n") }) (as : List α) :
    ∀ w : Session, (forIn as PUnit.unit step) w =
      .ok PUnit.unit { w with err := w.err ++ unlines (as.map line) } := by
  refine Act.forIn_put (fun ls w => { w with err := w.err ++ unlines ls }) ?_ ?_ ?_ as
  · simp [unlines]
  · simp [unlines, String.append_assoc]
  · simpa [unlines] using hstep

/-- What a report prints, and how it ends. -/
lemma report_run (s : Settings) (path : String) (issues : List Issue) (w : Session) :
    report s path (issues.map issueFields) w =
      (if isStrict s then throw (.refusedImport path) else pure () : Act Unit)
        { w with err := w.err ++ unlines (reportLines path issues) } := by
  rw [report, Act.bind_ok (Act.errorLine_run _ w), List.forIn_map,
    Act.bind_ok (forIn_report reportLine (fun i u w => ?_) issues _),
    Act.bind_ok (Act.errorLine_run _ _)]
  · simp only [reportLines, unlines, Command.unlines_append, String.append_assoc, List.cons_append,
      String.append_empty]
  · rw [issueLine_issueFields]
    rfl

/-- The warning that the check of a file refused it. -/
def refusalWarning (path : String) : String :=
  let failed := s!"Failed to validate {path}: {(Failure.refusedImport path).message}"
  "RuntimeWarning" ++ ": " ++ failed

/-- The session after a strict check found issues in a file. -/
def afterRefusal (path : String) (issues : List Issue) (w : Session) : Session :=
  { w with
    err := w.err ++ unlines (reportLines path issues)
    warnings := w.warnings ++ [refusalWarning path] }

/-- A strict check that finds something reports it and warns of the refusal. -/
lemma checkBeforeLoad_strict {s : Settings} (hstrict : isStrict s = true) {path : String}
    {w : Session} {issues : List Issue}
    (hfound : checkFileHere w.disk w.places (Path.ofText path).text = .ok issues)
    (hne : issues ≠ []) : checkBeforeLoad s path w = .ok () (afterRefusal path issues w) := by
  have hreport : (if !issues.isEmpty then report s path (issues.map issueFields) else pure ()) w =
      .error (.refusedImport path)
        { w with err := w.err ++ unlines (reportLines path issues) } := by
    rw [if_pos (by simpa using hne), report_run, if_pos hstrict]
    rfl
  -- The refusal is an error like any other, so the handler of the check takes it.
  rw [checkBeforeLoad, Act.recover_error
    ((Act.bind_ok (Act.get_run w)).trans ((Act.bind_ok (Act.ofExcept_ok hfound)).trans hreport)) rfl]
  rfl

/-! ## Loads -/

lemma compile_strict {l : Loader} {w : Session} {issues : List Issue}
    (hon : isOn l.settings "validate_on_import" = true) (hstrict : isStrict l.settings = true)
    (hfound : checkFileHere w.disk w.places (Path.ofText l.path).text = .ok issues)
    (hne : issues ≠ []) :
    l.compile w = Program.compileFile l.path (afterRefusal l.path issues w) := by
  rw [Loader.compile, if_pos hon, Act.bind_ok (checkBeforeLoad_strict hstrict hfound hne)]

/-- A module for which a loader of ours was found is run as what the loader compiles it to. -/
lemma loadFound_of_loader {all : List Finder} {dirs : Option (List String)} {name : String}
    {w w' : Session} {found : Located} {l : Loader}
    (hfirst : findFirst all { name, dirs } all w = .ok (some found) w')
    (hsource : found.source? = some l.path) (hloader : found.loader = some l) :
    loadFound all dirs name w = (l.compile >>= Program.runTree l.path name l.path) w' := by
  rw [loadFound, Act.bind_ok hfirst]
  simp only [hsource, hloader]

/-- A module with a function that has more parameters than usual. -/
def crowdedText : String := "def f(a, b, c, d, e): pass\n"

/-- The line that reports this function. -/
def crowdedLine : String := "  Line 1, Column 0: Function 'f' has too many parameters (5 > 4)"

/-- A session with the module in a file. -/
def crowded : Session where
  disk := ⟨[(["m.py"], .file crowdedText.toUTF8)]⟩
  places := { here := [], home := [] }

/-- A strict loader for it. -/
def strictLoader : Loader :=
  ⟨"m.py", [(.text "validate_on_import", .bool true), (.text "strict", .bool true)]⟩

lemma strictLoader_strict : isOn strictLoader.settings "validate_on_import" = true ∧
    isStrict strictLoader.settings = true := by decide

lemma read_crowded : crowded.disk.read crowded.places.here "m.py" = .ok crowdedText.toUTF8 :=
  Disk.read_in_root (by decide) (by decide) (by decide) rfl

/-- The module can be run, and its one function has too many parameters. -/
lemma parse_crowded : ∃ t, Source.parseKept (some crowdedText) crowdedText = .ok t ∧
    Limits.checkSteps t ≤ Limits.maxSteps ∧
    ((t.subtrees.filter Limits.definesFunction).flatMap
      (Limits.functionIssues ⟨300, 50, 4, 4⟩)).map reportLine = [crowdedLine] ∧
    Source.checkRunnable t = (.ok (), []) := by
  have hall : (match Source.parseKept (some crowdedText) crowdedText with
      | .ok t => decide (Limits.checkSteps t ≤ Limits.maxSteps ∧
          ((t.subtrees.filter Limits.definesFunction).flatMap
            (Limits.functionIssues ⟨300, 50, 4, 4⟩)).map reportLine = [crowdedLine] ∧
          Source.checkRunnable t = (.ok (), []))
      | .error _ => false) = true := by
    decide +kernel
  cases hparse : Source.parseKept (some crowdedText) crowdedText with
  | error r => simp [hparse] at hall
  | ok t =>
    rw [hparse] at hall
    exact ⟨t, rfl, of_decide_eq_true hall⟩

lemma found_crowded : ∃ issues,
    checkFileHere crowded.disk crowded.places (Path.ofText strictLoader.path).text = .ok issues ∧
    issues.map reportLine = [crowdedLine] ∧ issues ≠ [] := by
  obtain ⟨t, hparse, hroom, hlines, -⟩ := parse_crowded
  have hpath : (Path.ofText strictLoader.path).text = "m.py" := by decide
  have hcurrent : Settings.current crowded.disk crowded.places = .ok Settings.defaults :=
    Settings.current_of_bare_root (by simp [crowded, Disk.get?])
  have htext : crowded.disk.readText crowded.places.here "m.py" = .ok crowdedText :=
    Disk.readText_of_read (by decide) read_crowded
  have hshort : Limits.fileIssues ⟨300, 50, 4, 4⟩ crowdedText = [] := by decide
  have hreports := Limits.reports_tree Limits.Config.sets_defaults hparse hroom
  rw [hshort, List.nil_append] at hreports
  refine ⟨_, ?_, hlines, fun hnil => ?_⟩
  · rw [hpath, checkFileHere, hcurrent]
    exact Limits.check_of_reports (t := ⟨crowded.disk, crowded.places.here, "m.py"⟩) htext hreports
  · rw [hnil] at hlines
    cases hlines

lemma compileFile_crowded {w : Session} (hdisk : w.disk = crowded.disk)
    (hplaces : w.places = crowded.places) : ∃ t, Program.compileFile "m.py" w = .ok t w := by
  obtain ⟨t, hparse, -, -, hrun⟩ := parse_crowded
  have hbytes : Act.readBytes "m.py" w = .ok crowdedText.toUTF8 w := by
    rw [Program.readBytes_run, hdisk, hplaces, read_crowded]
    rfl
  have hnull : ¬ crowdedText.toUTF8.toList.contains 0 = true := by decide +kernel
  have htext : Source.textOfBytes crowdedText.toUTF8 = .ok crowdedText := by cbv
  refine ⟨t, ?_⟩
  rw [Program.compileFile, Act.bind_ok hbytes, if_neg hnull, htext]
  simp only [hparse, Program.compileParsed, hrun]
  rfl

end QualityGate.Imports
