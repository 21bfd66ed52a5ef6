/-
# Scripts that do not pass

The module that stands in for Python checks a script that is there and shows one line for each
complaint (`complaints`), then says that nothing is run and leaves with the code 1 (`rejected`).
Two things come in between.  A script is taken for a part of Python, and not checked, if its path
begins with the text of Python's base, whether or not it lies below that directory.  And a script
that could not be checked is not reported: the run ends with an error of its own.

`script_rejected_iff`: of the scripts that do not pass, just those are rejected as announced that
are checked and in which something is found; what happens to the others is stated beside it.
-/
import Mathlib
import QualityGate.Proofs.PathsPassed

namespace QualityGate.Command

open Limits (checkFileHere Issue Passes)

/-! ## What is said of a script -/

/-- The line of a complaint about a script. -/
def complaintLine (line message : String) : String := s!"Line {line}: ERROR: {message}"

/-- What there is to say of a script that does not pass: what was found in it, or why it could not
be checked. -/
def complaints : Except Failure (List Issue) → List String
  | .ok issues => issues.map fun i => complaintLine (lineShown i) i.finding.message
  | .error f => [complaintLine "0" (uncheckedMessage f)]

/-- A run that does nothing but print complaints as errors, with a line before them and one behind
them, and leave with the code 1. -/
def rejected (w : Session) (lines : List String) : EStateM.Result Failure Session Unit :=
  .error (.exit (.int 1)) { w with
    err := w.err ++ unlines ("\n❌ SPYQ Validation Errors:" :: lines ++
      ["\n❌ Execution aborted due to validation errors"]) }

lemma rejectScript_run (issues : List Issue) (w : Session) :
    rejectScript issues w = rejected w (complaints (.ok issues)) := by
  let put (ls : List String) (w : Session) : Session := { w with err := w.err ++ unlines ls }
  have hnil : ∀ w, put [] w = w := by simp [put, unlines]
  have hput : ∀ ls ms w, put ms (put ls w) = put (ls ++ ms) w := by
    simp [put, unlines_append, String.append_assoc]
  have hline : ∀ l w, Act.errorLine l w = .ok () (put [l] w) := by
    simp [put, unlines, Act.errorLine_run]
  have hstep : ∀ (i : Issue) (_ : PUnit) w, (do
      Act.errorLine s!"Line {lineShown i}: ERROR: {i.finding.message}"
      return ForInStep.yield PUnit.unit : Act (ForInStep PUnit)) w =
        .ok (.yield PUnit.unit) (put [complaintLine (lineShown i) i.finding.message] w) :=
    fun i _ w => Act.bind_ok (hline _ w)
  have hloop := Act.forIn_put put hnil (fun l ls w => hput [l] ls w) hstep issues
  rw [rejectScript, Act.bind_ok (hline _ w), Act.bind_ok (hloop _), Act.bind_ok (hline _ _), hput,
    hput]
  rfl

/-! ## Scripts that are there -/

/-- The arguments name a script, and its path leads to something. -/
structure Names (w : Session) (script : String) (args : List String) (path : Path) : Prop where
  named : w.args.drop 1 = script :: args
  resolves : resolvePath w.disk w.places.here script = .ok path
  there : w.disk.pathExists w.places.here path.text = true

section

variable {w : Session} {script : String} {args : List String} {path : Path}

/-- A script that is found, at its resolved path too, is named by that path. -/
lemma names_of_find {loc : Location} {e : Entry} (hargs : w.args.drop 1 = script :: args)
    (hfind : w.disk.find w.places.here script = .ok (loc, e))
    (hpath : w.disk.find w.places.here (Location.path loc).text = .ok (loc, e)) :
    Names w script args (Location.path loc) := by
  have hscript : scriptPath w script = Location.path loc := by
    rw [scriptPath, Disk.resolve_of_find hfind]
  refine ⟨hargs, ?_, by rw [Disk.pathExists, hpath]⟩
  rw [← hscript] at hpath ⊢
  exact resolvePath_of_find hfind (by simp [hpath])

lemma Names.performScriptWith_eq (h : Names w script args path) (start : String → Act Unit) :
    performScriptWith start w = judgeAndRun start path args w :=
  (performScriptWith_named h.resolves h.named start).trans
    (Act.bind_ok (Act.isThere_of_pathExists h.there))

/-- A script in which something is found is rejected. -/
lemma judgeAndRun_of_found (h : path.text.startsWith w.interpreter.base = false)
    {issues : List Issue} (hcheck : checkFileHere w.disk w.places path.text = .ok issues)
    (hsome : issues ≠ []) (start : String → Act Unit) (args : List String) :
    judgeAndRun start path args w = rejected w (complaints (.ok issues)) := by
  rw [judgeAndRun_of_foreign h hcheck]
  cases issues with
  | nil => exact absurd rfl hsome
  | cons i is => exact rejectScript_run (i :: is) w

/-- A script that could not be checked ends the run without a word. -/
lemma judgeAndRun_of_unchecked (h : path.text.startsWith w.interpreter.base = false)
    {f : Failure} (hcheck : checkFileHere w.disk w.places path.text = .error f)
    (start : String → Act Unit) (args : List String) :
    judgeAndRun start path args w = .error (.tooFew 2 1) w :=
  judgeAndRun_of_foreign h hcheck start args

/-- A run that starts the script does not reject it, since it may end well. -/
lemma runScript_ne_rejected (path : Path) (args : List String) (w : Session) (lines : List String) :
    ¬ ∀ start, runScript start path args w = rejected w lines := by
  intro h
  cases h fun _ => pure ()

/-- A script that is there and does not pass is rejected with all there is to say of it just when
its path does not begin like Python's base and the check came to its end.  In the first of the other
cases it is run unchecked, in the second one nothing is printed and the run ends with an error of
another kind. -/
theorem script_rejected_iff (h : Names w script args path)
    (hfail : ¬ Passes w.disk w.places path.text) :
    ((∀ start, performScriptWith start w =
        rejected w (complaints (checkFileHere w.disk w.places path.text))) ↔
      path.text.startsWith w.interpreter.base = false ∧
        ∃ issues, checkFileHere w.disk w.places path.text = .ok issues) ∧
    (path.text.startsWith w.interpreter.base = true →
      ∀ start, performScriptWith start w = runScript start path args w) ∧
    (path.text.startsWith w.interpreter.base = false →
      ∀ f, checkFileHere w.disk w.places path.text = .error f →
        ∀ start, performScriptWith start w = .error (.tooFew 2 1) w) := by
  simp only [h.performScriptWith_eq]
  refine ⟨⟨fun hrej => ?_, ?_⟩, fun hown start => judgeAndRun_of_own hown start args,
    fun hforeign f hcheck start => judgeAndRun_of_unchecked hforeign hcheck start args⟩
  · cases hbase : path.text.startsWith w.interpreter.base with
    | true =>
      simp only [judgeAndRun_of_own hbase] at hrej
      exact absurd hrej (runScript_ne_rejected path args w _)
    | false =>
      refine ⟨rfl, ?_⟩
      cases hcheck : checkFileHere w.disk w.places path.text with
      | ok issues => exact ⟨issues, rfl⟩
      | error f =>
        have hrun := hrej fun _ => pure ()
        rw [judgeAndRun_of_unchecked hbase hcheck] at hrun
        cases hrun
  · rintro ⟨hforeign, issues, hcheck⟩ start
    rw [← Limits.checkFileHere_eq_nil_iff, hcheck] at hfail
    rw [hcheck]
    exact judgeAndRun_of_found hforeign hcheck (fun hnil => hfail (by rw [hnil])) start args

end

/-! ## A directory and a file that is no text -/

/-- Two files, one of them garbled, and a script that is asked for, with Python in a directory. -/
def asking (script base : String) : Session :=
  { mixed with args := ["python", script], interpreter := { base := base } }

lemma text_root : (Location.path []).text = "/" := by decide

lemma names_root : Names (asking "/" "/usr/local") "/" [] (Location.path []) := by
  refine names_of_find rfl Disk.find_root ?_
  rw [text_root]
  exact Disk.find_root

lemma find_garbled_text : mixed.disk.find mixed.places.here (Location.path ["m.py"]).text =
    .ok (["m.py"], .file ⟨#[0xff]⟩) :=
  Disk.find_text_in_root (by decide) (by decide) rfl

lemma names_garbled (base : String) :
    Names (asking "m.py" base) "m.py" [] (Location.path ["m.py"]) := by
  refine names_of_find rfl ?_ find_garbled_text
  have hn : Disk.Writable ["m.py"] := by decide
  exact Disk.find_of_found (by decide) (Disk.namesToFollow_name hn)
    (Disk.found_in_root hn rfl) rfl

lemma check_root : checkFileHere mixed.disk mixed.places (Location.path []).text =
    .ok [⟨.unreadable ⟨.isDirectory, "/"⟩, some 0, 0⟩] := by
  have hread : mixed.disk.read mixed.places.here (Location.path []).text =
      .error ⟨.isDirectory, "/"⟩ := by
    rw [Disk.read, text_root, Disk.find_root]
  rw [checkFileHere, current_mixed]
  exact check_of_unreadable hread rfl

/-- A directory is rejected with a line of its own. -/
theorem script_rejected_directory :
    Names (asking "/" "/usr/local") "/" [] (Location.path []) ∧
    ∀ start, performScriptWith start (asking "/" "/usr/local") =
      rejected (asking "/" "/usr/local")
        ["Line 0: ERROR: Could not read file: [Errno 21] Is a directory: '/'"] := by
  have hfail : ¬ Passes mixed.disk mixed.places (Location.path []).text := by
    rw [← Limits.checkFileHere_eq_nil_iff, check_root]
    simp
  have hrej := (script_rejected_iff names_root hfail).1.mpr ⟨by decide, _, check_root⟩
  have hlines : complaints (.ok [⟨.unreadable ⟨.isDirectory, "/"⟩, some 0, 0⟩]) =
      ["Line 0: ERROR: Could not read file: [Errno 21] Is a directory: '/'"] := by decide
  refine ⟨names_root, fun start => ?_⟩
  rw [hrej start]
  show rejected _ (complaints (checkFileHere mixed.disk mixed.places (Location.path []).text)) = _
  rw [check_root, hlines]

/-- A garbled script that does not lie below Python's base is not rejected: the run ends with an
error of its own, and where the path begins like the base the script is even run. -/
theorem script_garbled_not_rejected :
    ¬ Passes mixed.disk mixed.places (Location.path ["m.py"]).text ∧
    (∀ start, performScriptWith start (asking "m.py" "/usr/local") =
      .error (.tooFew 2 1) (asking "m.py" "/usr/local")) ∧
    ¬ (Path.ofText "/m").names <+: (Location.path ["m.py"]).names ∧
    ∀ start, performScriptWith start (asking "m.py" "/m") =
      runScript start (Location.path ["m.py"]) [] (asking "m.py" "/m") := by
  have hcheck := checkFileHere_of_find_garbled find_garbled_text
  have hbase : (Location.path ["m.py"]).text.startsWith "/usr/local" = false := by
    decide
  have hown : (Location.path ["m.py"]).text.startsWith "/m" = true := by decide +kernel
  refine ⟨?_, fun start => ?_, by decide, fun start => ?_⟩
  · rw [← Limits.checkFileHere_eq_nil_iff, hcheck]
    nofun
  · rw [(names_garbled _).performScriptWith_eq]
    exact judgeAndRun_of_unchecked (w := asking "m.py" "/usr/local") hbase hcheck start []
  · rw [(names_garbled _).performScriptWith_eq]
    exact judgeAndRun_of_own (w := asking "m.py" "/m") hown start []

end QualityGate.Command
