/-
# Three ways to run a script

A script can be run by the `run` command of the tool, by the module that stands in for Python, and
by the wrapper that shows what it finds.  All three check the script first, each in its own way of
reporting.  A runner is a program with a parameter, the way in which the file at a path is started,
so that "the script is run" and "no statement of it is run" can be told apart: a run that refuses
the script comes to the same whatever the parameter is.

`runner_executes_iff`: all three start a script if the check of its path finds nothing, the module
also one whose path begins like Python's base, and all three end without success otherwise.
-/
import Mathlib
import QualityGate.Command.Script
import QualityGate.Proofs.CommandLine
import QualityGate.Proofs.DiskWalk
import QualityGate.Proofs.LimitsFindings
import QualityGate.Proofs.Sessions

namespace QualityGate.Command

open Limits (checkFileHere Issue)

/-! ## Runs -/

/-- The session that a run leaves behind. -/
def after {α : Type} : EStateM.Result Failure Session α → Session
  | .ok _ w => w
  | .error _ w => w

/-- How a run ends that is no success: with the code 1, by leaving with the code 1, or with an
error that nobody catches. -/
inductive Unsuccessful : EStateM.Result Failure Session Int → Prop
  | code (w : Session) : Unsuccessful (.ok 1 w)
  | left (w : Session) : Unsuccessful (.error (.exit (.int 1)) w)
  | error {f : Failure} (w : Session) : f.isError = true → Unsuccessful (.error f w)

/-- A run executes the script at a path: it starts the script once, in a session that differs in
the arguments, the search path and the output only, and leaves what the script leaves, perhaps with
another line printed as an error. -/
def Executes (run : (String → Act Unit) → Act Int) (path : String) (w : Session) : Prop :=
  ∃ w' : Session, w' = { w with args := w'.args, searchPath := w'.searchPath, out := w'.out } ∧
    ∀ start, ∃ line, after (run start w) =
      { after (start path w') with err := (after (start path w')).err ++ line }

/-- A run refuses a script: it comes to the same however scripts are started, an end without
success, and changes only its arguments and what is printed. -/
def Refuses (run : (String → Act Unit) → Act Int) (w : Session) : Prop :=
  ∃ r, (∀ start, run start w = r) ∧ Unsuccessful r ∧
    after r = { w with args := (after r).args, out := (after r).out, err := (after r).err }

lemma after_discard (a : Act Unit) (w : Session) :
    after ((do a; return (0 : Int) : Act Int) w) = after (a w) := by
  cases h : a w with
  | ok u v => rw [Act.bind_ok h]; rfl
  | error f v => rw [Act.bind_error h]; rfl

/-- A run that refuses a script does not execute it: it would have to leave what every script
leaves. -/
lemma Refuses.not_executes {run : (String → Act Unit) → Act Int} {w : Session} (h : Refuses run w)
    (path : String) : ¬ Executes run path w := by
  rintro ⟨w', -, hrun⟩
  obtain ⟨r, hr, -⟩ := h
  obtain ⟨line, hquiet⟩ := hrun fun _ => pure ()
  obtain ⟨line', hloud⟩ := hrun fun _ => Act.print "!"
  rw [hr] at hquiet hloud
  have hout : w'.out = w'.out ++ "!" := by
    have h1 := congrArg Session.out hquiet
    have h2 := congrArg Session.out hloud
    exact h1.symm.trans h2
  have hlen := congrArg String.length hout
  simp at hlen

/-! ## Checks -/

section

variable {w : Session} {path : String}

lemma checkPath_ok {issues : List Issue} (h : checkFileHere w.disk w.places path = .ok issues) :
    checkPath path w = .ok issues w := by
  show Act.ofExcept (checkFileHere w.disk w.places path) w = _
  rw [h]
  rfl

lemma checkPath_error {f : Failure} (h : checkFileHere w.disk w.places path = .error f) :
    checkPath path w = .error f w := by
  show Act.ofExcept (checkFileHere w.disk w.places path) w = _
  rw [h]
  rfl

end

/-- What cannot be read is an issue. -/
lemma check_of_unreadable {k : Limits.Checker} {d : Disk} {here : Location} {path : String}
    {e : FileError} (h : d.read here path = .error e) (he : e.isSystem = true) :
    (k.check ⟨d, here, path⟩).1 = .ok [⟨.unreadable e, some 0, 0⟩] := by
  have hcontents : Limits.Check.contents d here path = Limits.Check.report ⟨.unreadable e, some 0, 0⟩ := by
    rw [Limits.Check.contents, Disk.readText, h]
    simp only [he, if_true]
  rw [Limits.Checker.check, Limits.Check.file, hcontents]
  rfl

/-- The check of a path and that of the resolved path find nothing in the same cases. -/
lemma check_eq_nil_iff {d : Disk} {p : Places} {s t : String} {loc : Location} {e : Entry}
    (hs : d.find p.here s = .ok (loc, e)) (ht : d.find p.here t = .ok (loc, e)) :
    checkFileHere d p s = .ok [] ↔ checkFileHere d p t = .ok [] := by
  rw [checkFileHere, checkFileHere]
  cases Settings.current d p with
  | error f => rfl
  | ok settings =>
    show (Limits.Checker.check _ ⟨d, p.here, s⟩).1 = _ ↔ (Limits.Checker.check _ ⟨d, p.here, t⟩).1 = _
    cases e with
    | file bytes =>
      have hread : d.readText p.here s = d.readText p.here t := by
        rw [Disk.readText, Disk.readText, Disk.read, Disk.read, hs, ht]
      rw [Limits.Checker.check, Limits.Checker.check, Limits.Check.file, Limits.Check.file,
        Limits.Check.contents, Limits.Check.contents, hread]
    | _ =>
      have hs' : d.read p.here s = .error ⟨.isDirectory, s⟩ := by rw [Disk.read, hs]
      have ht' : d.read p.here t = .error ⟨.isDirectory, t⟩ := by rw [Disk.read, ht]
      rw [check_of_unreadable hs' rfl, check_of_unreadable ht' rfl]
      simp

/-- A command line that can be read is read under any name of the tool. -/
lemma readRequest_ok {args : List String} {r : Request}
    (h : ∀ program, Request.read program args = .ok r) (w : Session) :
    readRequest args w = .ok r w := by
  have hname : programName w = .ok (Path.splitLast (w.args.headD "")).2 w := rfl
  rw [readRequest, Act.bind_ok hname, h]
  rfl

/-! ## Scripts by their paths -/

section

variable {w : Session} {script : String} {path : Path}
  (hpath : resolvePath w.disk w.places.here script = .ok path)

include hpath

lemma performWith_named (hswitch : script.startsWith "-" = false) (start : String → Act Unit) :
    performWith start ["run", script] w = Act.recover (do
      if ← Act.isThere path.text then checkAndRun start path []
      else
        Act.errorLine s!"❌ Error: Script not found: {path.text}"
        return 1) (fun f => do
      Act.errorLine s!"❌ An error occurred: {f.message}"
      return 1) w := by
  rw [performWith]
  refine Act.recover_congr ?_
  rw [Act.bind_ok (readRequest_ok (fun _ => read_run hswitch) w)]
  exact Act.bind_ok (Act.ofExcept_ok hpath)

lemma performScriptWith_named {args : List String} (hargs : w.args.drop 1 = script :: args)
    (start : String → Act Unit) : performScriptWith start w = (do
      if ← Act.isThere path.text then judgeAndRun start path args
      else
        Act.errorLine s!"Error: Script not found: {path.text}"
        throw (.exit (.int 1)) : Act Unit) w := by
  rw [performScriptWith, Act.bind_ok (Act.get_run w), hargs]
  exact Act.bind_ok (Act.ofExcept_ok hpath)

lemma performCheckedWith_named {args : List String} (hargs : w.args.drop 1 = script :: args)
    (start : String → Act Unit) : performCheckedWith start w = (do
      if ← Act.isThere path.text then showAndRun start path
      else
        Act.printLine s!"Error: Script not found: {path.text}"
        throw (.exit (.int 1)) : Act Unit) w := by
  rw [performCheckedWith, Act.bind_ok (Act.get_run w), hargs]
  exact Act.bind_ok (Act.ofExcept_ok hpath)

end

/-- A script is there to be run: it is no switch, and its path leads to something. -/
structure Ready (w : Session) (script : String) (path : Path) : Prop where
  noSwitch : script.startsWith "-" = false
  resolves : resolvePath w.disk w.places.here script = .ok path
  there : w.disk.pathExists w.places.here path.text = true

lemma Ready.found {w : Session} {script : String} {path : Path} (h : Ready w script path) {α : Type}
    (a b : Act α) : (do if ← Act.isThere path.text then a else b) w = a w :=
  Act.bind_ok (Act.isThere_of_pathExists h.there)

/-! ## The command of the tool -/

lemma prints_showIssues (path : Path) (issues : List Issue) : Act.Prints (showIssues path issues) :=
  (Act.Prints.printLine _).seq <| (Act.Prints.loop (fun _ => Act.Prints.printLine _) issues).seq <|
    (Act.Prints.printLine _).seq (Act.Prints.printLine _)

/-- The session in which a script that was checked is started. -/
def startedFrom (path : Path) (args : List String) (w : Session) : Session :=
  { w with
    args := path.name :: args
    out := w.out ++ (s!"\n🚀 Running {path.text}...\n" ++ "\n") }

/-- A script that was checked ends well, with an error that is reported, or by leaving; another
line is printed in the second case only. -/
lemma after_runChecked (path : Path) (args : List String) (w : Session) (start : String → Act Unit)
    (report : Failure → Act Int) :
    ∃ line, after (Act.recover (runChecked start path args) report w) =
      { after (start path.text (startedFrom path args w)) with
        err := (after (start path.text (startedFrom path args w))).err ++ line } := by
  cases hrun : start path.text (startedFrom path args w) with
  | ok u v =>
    refine ⟨"", ?_⟩
    have hinner : runChecked start path args w = .ok 0 v := Act.recover_ok (Act.bind_ok hrun)
    rw [Act.recover_ok hinner]
    simp [after]
  | error f v =>
    by_cases hf : f.isError = true
    · refine ⟨s!"\n❌ Error running script: {f.message}" ++ "\n", ?_⟩
      have hinner : runChecked start path args w = _ := Act.recover_error (Act.bind_error hrun) hf
      rw [Act.recover_ok hinner]
      rfl
    · refine ⟨"", ?_⟩
      have hfinal : f.isError = false := by simpa using hf
      have hinner : runChecked start path args w = .error f v :=
        Act.recover_final (Act.bind_error hrun) hfinal
      rw [Act.recover_final hinner hfinal]
      simp [after]

section

variable {path : Path} {w : Session}

lemma checkAndRun_of_passed (h : checkFileHere w.disk w.places path.text = .ok [])
    (start : String → Act Unit) (args : List String) :
    checkAndRun start path args w = runChecked start path args w := by
  have hchecked : (some <$> checkPath path.text) w = .ok (some []) w := by
    rw [map_eq_pure_bind, Act.bind_ok (checkPath_ok h)]
    rfl
  rw [checkAndRun, Act.bind_ok (Act.recover_ok hchecked)]

lemma checkAndRun_of_refused (h : checkFileHere w.disk w.places path.text ≠ .ok [])
    (args : List String) :
    ∃ out err, ∀ start, checkAndRun start path args w = .ok 1 { w with out := out, err := err } := by
  cases hc : checkFileHere w.disk w.places path.text with
  | error f =>
    have hchecked : (some <$> checkPath path.text) w = .error f w := by
      rw [map_eq_pure_bind, Act.bind_error (checkPath_error hc)]
    obtain ⟨out, err, hline⟩ :=
      Act.Prints.errorLine s!"❌ Error validating {path.text}: {f.message}" w
    refine ⟨out, err, fun start => ?_⟩
    have hnone : Act.recover (some <$> checkPath path.text) (fun f => do
        Act.errorLine s!"❌ Error validating {path.text}: {f.message}"
        return none) w = .ok none { w with out := out, err := err } :=
      (Act.recover_error hchecked (Limits.isError_of_checkFileHere hc)).trans (Act.bind_ok hline)
    rw [checkAndRun, Act.bind_ok hnone]
    rfl
  | ok issues =>
    have hchecked : (some <$> checkPath path.text) w = .ok (some issues) w := by
      rw [map_eq_pure_bind, Act.bind_ok (checkPath_ok hc)]
      rfl
    obtain ⟨out, err, hshow⟩ := prints_showIssues path issues w
    refine ⟨out, err, fun start => ?_⟩
    rw [checkAndRun, Act.bind_ok (Act.recover_ok hchecked)]
    cases issues with
    | nil => exact absurd hc h
    | cons i is => exact (Act.bind_ok hshow).trans rfl

end

/-! ## The module that stands in for Python -/

section

variable {w : Session} {path : Path}

/-- What begins like Python's base is run unchecked. -/
lemma judgeAndRun_of_own (h : path.text.startsWith w.interpreter.base = true)
    (start : String → Act Unit) (args : List String) :
    judgeAndRun start path args w = runScript start path args w := by
  rw [judgeAndRun, Act.bind_ok (Act.get_run w), if_pos h]

/-- What is done with a script that is no part of Python depends on the check alone. -/
lemma judgeAndRun_of_foreign (h : path.text.startsWith w.interpreter.base = false)
    {r : Except Failure (List Issue)} (hcheck : checkFileHere w.disk w.places path.text = r)
    (start : String → Act Unit) (args : List String) : judgeAndRun start path args w = (match r with
      | .ok [] => runScript start path args
      | .ok issues => rejectScript issues
      | .error _ => throw (Failure.tooFew 2 1)) w := by
  rw [judgeAndRun, Act.bind_ok (Act.get_run w), if_neg (by simp [h])]
  unfold judge
  rw [hcheck]
  cases r with
  | error f => rfl
  | ok issues => cases issues <;> rfl

lemma judgeAndRun_of_passed (hpass : checkFileHere w.disk w.places path.text = .ok [])
    (start : String → Act Unit) (args : List String) :
    judgeAndRun start path args w = runScript start path args w := by
  cases h : path.text.startsWith w.interpreter.base with
  | true => exact judgeAndRun_of_own h start args
  | false => exact judgeAndRun_of_foreign h hpass start args

end

lemma givesUp_rejectScript (issues : List Issue) :
    Act.GivesUp (.exit (.int 1)) (rejectScript issues) :=
  (Act.Prints.errorLine _).givesUp <|
    (Act.Prints.loop (fun _ => Act.Prints.errorLine _) issues).givesUp <|
      (Act.Prints.errorLine _).givesUp (Act.GivesUp.throw _)

/-! ## The wrapper -/

lemma givesUp_rejectChecked (issues : List Issue) :
    Act.GivesUp (.exit (.int 1)) (rejectChecked issues) :=
  (Act.Prints.printLine _).givesUp <|
    (Act.Prints.loop (fun _ => Act.Prints.printLine _) issues).givesUp <|
      (Act.Prints.printLine _).givesUp <| (Act.Prints.printLine _).givesUp (Act.GivesUp.throw _)

/-! ## All three -/

/-- The ways to run a script: by the command of the tool, by the module that stands in for Python,
and by the wrapper that shows what it finds. -/
inductive Runner
  | command
  | module
  | wrapper

/-- The arguments that a runner is started with. -/
def Runner.args (program script : String) : Runner → List String
  | .command => [program, "run", script]
  | .module => [program, script]
  | .wrapper => [program, script]

/-- What a runner does once its arguments are there. -/
def Runner.body : Runner → String → (String → Act Unit) → Act Int
  | .command, script, start => performWith start ["run", script]
  | .module, _, start => do
    performScriptWith start
    return 0
  | .wrapper, _, start => do
    performCheckedWith start
    return 0

/-- Run a script by one of the runners. -/
def Runner.run (r : Runner) (program script : String) (start : String → Act Unit) : Act Int := do
  modify fun w => { w with args := r.args program script }
  r.body script start

section

variable {w : Session} {script program : String} {path : Path}

lemma executes_command (h : Ready w script path)
    (hpass : checkFileHere w.disk w.places path.text = .ok []) :
    Executes (Runner.command.body script) path.text w := by
  refine ⟨startedFrom path [] w, rfl, fun start => ?_⟩
  rw [Runner.body, performWith_named h.resolves h.noSwitch,
    Act.recover_congr ((h.found _ _).trans (checkAndRun_of_passed hpass start []))]
  exact after_runChecked path [] w start _

lemma executes_module (h : Ready w script path) (hargs : w.args = [program, script])
    (hstarts : checkFileHere w.disk w.places path.text = .ok [] ∨
      path.text.startsWith w.interpreter.base = true) :
    Executes (Runner.module.body script) path.text w := by
  let w' : Session := { w with
    searchPath := path.parent.text :: w.searchPath, args := [path.text] }
  refine ⟨w', rfl, fun start => ⟨"", ?_⟩⟩
  have hrun : judgeAndRun start path [] w = start path.text w' := by
    rcases hstarts with hpass | hbase
    · exact judgeAndRun_of_passed hpass start []
    · exact judgeAndRun_of_own hbase start []
  rw [Runner.body, after_discard, performScriptWith_named h.resolves (by rw [hargs]; rfl), h.found,
    hrun]
  simp

lemma executes_wrapper (h : Ready w script path) (hargs : w.args = [program, script])
    (hpass : checkFileHere w.disk w.places path.text = .ok []) :
    Executes (Runner.wrapper.body script) path.text w := by
  let w' : Session := { w with
    args := [script], out := w.out ++ (s!"🔍 Validating {path.text} with SPYQ..." ++ "\n") }
  refine ⟨w', rfl, fun start => ⟨"", ?_⟩⟩
  have hrun : performCheckedWith start w = start path.text w' := by
    have hprint : Act.printLine s!"🔍 Validating {path.text} with SPYQ..." w =
      .ok () { w with out := w'.out } := rfl
    have hcheck : checkPath path.text { w with out := w'.out } = .ok [] { w with out := w'.out } :=
      checkPath_ok hpass
    rw [performCheckedWith_named h.resolves (by rw [hargs]; rfl), h.found, showAndRun,
      Act.bind_ok hprint, Act.bind_ok hcheck]
    show start path.text { w with out := w'.out, args := w.args.drop 1 } = _
    rw [hargs]
    rfl
  rw [Runner.body, after_discard, hrun]
  simp

lemma refuses_command (h : Ready w script path)
    (hfail : checkFileHere w.disk w.places path.text ≠ .ok []) :
    Refuses (Runner.command.body script) w := by
  obtain ⟨out, err, hrun⟩ := checkAndRun_of_refused hfail []
  refine ⟨.ok 1 { w with out := out, err := err }, fun start => ?_, .code _, rfl⟩
  rw [Runner.body, performWith_named h.resolves h.noSwitch,
    Act.recover_ok ((h.found _ _).trans (hrun start))]

lemma refuses_module (h : Ready w script path) (hargs : w.args = [program, script])
    (hforeign : path.text.startsWith w.interpreter.base = false)
    (hfail : checkFileHere w.disk w.places path.text ≠ .ok []) :
    Refuses (Runner.module.body script) w := by
  have hrun : ∀ start, performScriptWith start w = judgeAndRun start path [] w := fun start =>
    (performScriptWith_named h.resolves (by rw [hargs]; rfl) start).trans (h.found _ _)
  cases hc : checkFileHere w.disk w.places path.text with
  | error f =>
    refine ⟨.error (.tooFew 2 1) w, fun start => Act.bind_error ?_, .error _ rfl, rfl⟩
    exact (hrun start).trans (judgeAndRun_of_foreign hforeign hc start [])
  | ok issues =>
    obtain ⟨out, err, hrej⟩ := givesUp_rejectScript issues w
    refine ⟨.error (.exit (.int 1)) { w with out := out, err := err },
      fun start => Act.bind_error ?_, .left _, rfl⟩
    rw [hrun, judgeAndRun_of_foreign hforeign hc]
    cases issues with
    | nil => exact absurd hc hfail
    | cons i is => exact hrej

lemma refuses_wrapper (h : Ready w script path) (hargs : w.args = [program, script])
    (hfail : checkFileHere w.disk w.places path.text ≠ .ok []) :
    Refuses (Runner.wrapper.body script) w := by
  obtain ⟨out, err, hprint⟩ :=
    Act.Prints.printLine s!"🔍 Validating {path.text} with SPYQ..." w
  have hstart : ∀ start, performCheckedWith start w = _ := fun start =>
    (performCheckedWith_named h.resolves (by rw [hargs]; rfl) start).trans
      ((h.found _ _).trans (Act.bind_ok hprint))
  cases hc : checkFileHere w.disk w.places path.text with
  | error f =>
    have hcheck : checkPath path.text { w with out := out, err := err } =
        .error f { w with out := out, err := err } := checkPath_error hc
    refine ⟨.error f { w with out := out, err := err }, fun start => ?_,
      .error _ (Limits.isError_of_checkFileHere hc), rfl⟩
    exact Act.bind_error ((hstart start).trans (Act.bind_error hcheck))
  | ok issues =>
    have hcheck : checkPath path.text { w with out := out, err := err } =
        .ok issues { w with out := out, err := err } := checkPath_ok hc
    have hsome : issues.isEmpty = false := by
      cases issues with
      | nil => exact absurd hc hfail
      | cons i is => rfl
    obtain ⟨out', err', hrej⟩ := givesUp_rejectChecked issues { w with out := out, err := err }
    refine ⟨.error (.exit (.int 1)) { w with out := out', err := err' }, fun start => ?_, .left _, rfl⟩
    have hrun := (hstart start).trans (Act.bind_ok hcheck)
    rw [hsome] at hrun
    exact Act.bind_error (hrun.trans hrej)

end

/-! ## Paths that are refused -/

section

variable {w : Session} {script program : String} {path : Path} {r : Runner}

/-- A look at a path finds nothing: there is nothing, or the system does not take it for a path. -/
def Lost (w : Session) (path : String) : Prop :=
  Act.isThere path w = .ok false w ∨ ∃ e, Act.isThere path w = .error (.file e) w

lemma find_of_not_accepted (d : Disk) (here : Location) {s : String} (h : ¬ Disk.Accepted s) :
    ∃ t, t ≠ .tooManyLinks ∧ d.find here s = .error t := by
  suffices hlocate : ∃ t, t ≠ .tooManyLinks ∧ d.locate here s = .error t by
    obtain ⟨t, ht, hlocate⟩ := hlocate
    exact ⟨t, ht, by rw [Disk.find, hlocate]; rfl⟩
  rw [Disk.locate]
  split
  · exact ⟨.unwritable, by decide, rfl⟩
  split
  · exact ⟨.nullInPath, by decide, rfl⟩
  split
  · exact ⟨.missing, by decide, rfl⟩
  split
  · exact ⟨.nameTooLong, by decide, rfl⟩
  · exact absurd ⟨by simp_all, by simp_all, by simp_all, by omega⟩ h

lemma lost_of_find_error {s : String} {t : Trouble} (h : w.disk.find w.places.here s = .error t) :
    Lost w s := by
  have hthere : Act.isThere s w = (Act.lookAt s >>= fun e => pure e.isSome) w := rfl
  rw [Lost, hthere]
  cases hlook : w.disk.lookAt w.places.here s with
  | error e =>
    refine .inr ⟨e, Act.bind_error ?_⟩
    rw [Act.lookAt_eq, hlook]
    rfl
  | ok found =>
    have hnone : found = none := by
      rw [Disk.lookAt, h] at hlook
      cases t <;> cases hlook <;> rfl
    have hrun : Act.lookAt s w = .ok none w := by
      rw [Act.lookAt_eq, hlook, hnone]
      rfl
    exact .inl (Act.bind_ok hrun)

/-- Whatever a runner is, it refuses a script that is not found. -/
lemma refuses_lost (hswitch : script.startsWith "-" = false)
    (hpath : resolvePath w.disk w.places.here script = .ok path)
    (hargs : w.args = r.args program script) (hlost : Lost w path.text) :
    Refuses (r.body script) w := by
  cases r with
  | command =>
    have hrun := performWith_named hpath hswitch
    rcases hlost with hnone | ⟨e, he⟩
    · exact ⟨_, fun start => (hrun start).trans (Act.recover_ok (Act.bind_ok hnone)), .code _, rfl⟩
    · exact ⟨_, fun start => (hrun start).trans (Act.recover_error (Act.bind_error he) rfl),
        .code _, rfl⟩
  | module =>
    have hrun := performScriptWith_named hpath (by rw [hargs]; rfl)
    rcases hlost with hnone | ⟨e, he⟩
    · exact ⟨_, fun start => Act.bind_error ((hrun start).trans (Act.bind_ok hnone)), .left _, rfl⟩
    · exact ⟨_, fun start => Act.bind_error ((hrun start).trans (Act.bind_error he)), .error _ rfl, rfl⟩
  | wrapper =>
    have hrun := performCheckedWith_named hpath (by rw [hargs]; rfl)
    rcases hlost with hnone | ⟨e, he⟩
    · exact ⟨_, fun start => Act.bind_error ((hrun start).trans (Act.bind_ok hnone)), .left _, rfl⟩
    · exact ⟨_, fun start => Act.bind_error ((hrun start).trans (Act.bind_error he)), .error _ rfl, rfl⟩

end

/-! ## From bodies to runs -/

section

variable {w : Session} {program script : String} {r : Runner}

lemma Executes.run {path : String}
    (h : Executes (r.body script) path { w with args := r.args program script }) :
    Executes (r.run program script) path w := by
  obtain ⟨w', hw', hrun⟩ := h
  exact ⟨w', hw', hrun⟩

lemma Refuses.run (h : Refuses (r.body script) { w with args := r.args program script }) :
    Refuses (r.run program script) w := by
  obtain ⟨x, hx, hend, hafter⟩ := h
  exact ⟨x, hx, hend, hafter⟩

end

/-- The path that a script is run by. -/
def scriptPath (w : Session) (script : String) : Path :=
  Location.path (w.disk.resolve w.places.here script)

section

variable {w : Session} {program script : String} {loc : Location} {e : Entry}

/-- A script that is found has its path. -/
lemma resolvePath_of_find (hfind : w.disk.find w.places.here script = .ok (loc, e))
    (hpath : w.disk.find w.places.here (scriptPath w script).text ≠ .error .tooManyLinks) :
    resolvePath w.disk w.places.here script = .ok (scriptPath w script) := by
  obtain ⟨hs, -⟩ := Disk.locate_eq_ok_iff.mp (Disk.find_eq_ok_iff.mp hfind).1
  rw [resolvePath, if_neg (by simp [hs.noFault]), if_neg (by rw [hs.noNull]; simp)]
  rw [scriptPath] at hpath ⊢
  dsimp only
  split
  · next h => exact absurd h hpath
  · rfl

lemma ready_of_find (hswitch : script.startsWith "-" = false)
    (hfind : w.disk.find w.places.here script = .ok (loc, e))
    (hpath : w.disk.find w.places.here (scriptPath w script).text = .ok (loc, e)) :
    Ready w script (scriptPath w script) :=
  ⟨hswitch, resolvePath_of_find hfind (by simp [hpath]), by rw [Disk.pathExists, hpath]⟩

/-- A script that is there is started by a runner if nothing is found in it, and refused
otherwise; but the module starts it unchecked if its path begins like Python's base. -/
lemma executes_or_refuses (r : Runner) (program : String) (hswitch : script.startsWith "-" = false)
    (hfind : w.disk.find w.places.here script = .ok (loc, e))
    (hpath : w.disk.find w.places.here (scriptPath w script).text = .ok (loc, e)) :
    let starts := checkFileHere w.disk w.places script = .ok [] ∨
      r = .module ∧ (scriptPath w script).text.startsWith w.interpreter.base = true
    (starts → Executes (r.run program script) (scriptPath w script).text w) ∧
      (¬ starts → Refuses (r.run program script) w) := by
  intro starts
  have hready : Ready { w with args := r.args program script } script (scriptPath w script) :=
    ready_of_find hswitch hfind hpath
  have hstarts : starts ↔ checkFileHere w.disk w.places (scriptPath w script).text = .ok [] ∨ _ :=
    or_congr_left (check_eq_nil_iff hfind hpath)
  rw [hstarts]
  constructor
  · intro h
    refine Executes.run ?_
    cases r with
    | command => exact executes_command hready (by simpa using h)
    | wrapper => exact executes_wrapper hready rfl (by simpa using h)
    | module => exact executes_module hready rfl (by simpa using h)
  · intro h
    obtain ⟨hfail, hforeign⟩ := not_or.mp h
    refine Refuses.run ?_
    cases r with
    | command => exact refuses_command hready hfail
    | wrapper => exact refuses_wrapper hready rfl hfail
    | module => exact refuses_module hready rfl (by simpa using hforeign) hfail

end

/-- **Which scripts are run.**  In any session whose current directory is a directory, take a script
that is there and that is not written like a switch.  Each of the three runners executes it if and
only if the system takes its resolved path for a path and the check of the script finds nothing; but
the module that stands in for Python also executes, unchecked, what has a path that begins with the
text of Python's base.  In every other case the runner ends without success, and no part of the
script is run. -/
theorem runner_executes_iff (r : Runner) (program : String) {w : Session} {script : String}
    (hhere : w.disk.Rooted w.places.here) (hswitch : script.startsWith "-" = false)
    (hthere : w.disk.pathExists w.places.here script = true) :
    let path := (scriptPath w script).text
    let starts := Disk.Accepted path ∧ (checkFileHere w.disk w.places script = .ok [] ∨
      r = .module ∧ path.startsWith w.interpreter.base = true)
    (Executes (r.run program script) path w ↔ starts) ∧
      (¬ starts → Refuses (r.run program script) w) := by
  intro path starts
  obtain ⟨loc, e, hfind⟩ : ∃ loc e, w.disk.find w.places.here script = .ok (loc, e) := by
    rw [Disk.pathExists] at hthere
    cases hf : w.disk.find w.places.here script with
    | error t => simp [hf] at hthere
    | ok p => exact ⟨p.1, p.2, rfl⟩
  have hruns : (starts → Executes (r.run program script) path w) ∧
      (¬ starts → Refuses (r.run program script) w) := by
    by_cases haccept : Disk.Accepted path
    · have hpath := Disk.find_resolve hhere hfind haccept
      simpa only [starts, haccept, true_and] using executes_or_refuses r program hswitch hfind hpath
    · obtain ⟨t, ht, hpath⟩ := find_of_not_accepted w.disk w.places.here haccept
      have hresolves := resolvePath_of_find hfind (by simpa [path, hpath] using ht)
      exact ⟨fun h => absurd h.1 haccept, fun _ =>
        Refuses.run (refuses_lost hswitch hresolves rfl (lost_of_find_error hpath))⟩
  refine ⟨⟨fun hexec => ?_, hruns.1⟩, hruns.2⟩
  by_contra h
  exact (hruns.2 h).not_executes _ hexec

/-! ## One script -/

/-- A script in the root directory, with Python in a directory. -/
def oneScript (text base : String) : Session where
  disk := ⟨[(["mn"], .file text.toUTF8)]⟩
  places := { here := [], home := [] }
  interpreter := { base := base }

section

variable (text base : String)

lemma text_oneScript : (scriptPath (oneScript text base) "mn").text = "/mn" := by cbv

lemma accepted_oneScript : Disk.Accepted (scriptPath (oneScript text base) "mn").text := by
  rw [text_oneScript]
  decide

lemma find_oneScript :
    (oneScript text base).disk.find [] "mn" = .ok (["mn"], .file text.toUTF8) :=
  Disk.find_of_found (by decide) (by decide) (Disk.found_in_root (by decide) rfl) rfl

lemma current_oneScript : Settings.current (oneScript text base).disk (oneScript text base).places =
    .ok Settings.defaults :=
  Settings.current_of_bare_root (by simp [oneScript, Disk.get?])

end

/-- An empty script passes its check. -/
lemma check_empty_oneScript (base : String) :
    checkFileHere (oneScript "" base).disk (oneScript "" base).places "mn" = .ok [] := by
  have hread : (oneScript "" base).disk.readText [] "mn" = .ok "" := by
    rw [Disk.readText, Disk.read, find_oneScript]
    rfl
  rw [checkFileHere, current_oneScript]
  exact Limits.check_empty hread

/-- A bracket that closes nothing is found. -/
lemma check_bracket_oneScript (base : String) :
    checkFileHere (oneScript ")" base).disk (oneScript ")" base).places "mn" ≠ .ok [] := by
  have hread : (oneScript ")" base).disk.readText [] "mn" = .ok ")" := by cbv
  have hissues : (Limits.Checker.check ⟨.settings Settings.defaults, []⟩
      ⟨(oneScript ")" base).disk, [], "mn"⟩).1 = .ok (_ ++ [_]) :=
    Limits.check_of_reports hread
      (Limits.reports_refusal Limits.Config.sets_defaults Limits.parseKept_bracket (by decide))
  rw [checkFileHere, current_oneScript]
  intro h
  simpa using hissues.symm.trans h

/-- An empty script is executed by all runners; one that is no module is refused by all of them if
it lies elsewhere than Python. -/
theorem runner_executes_iff_oneScript :
    (∀ r : Runner, Executes (r.run "spyq" "mn") "/mn" (oneScript "" "/usr/local")) ∧
      ∀ r : Runner, Refuses (r.run "spyq" "mn") (oneScript ")" "/usr/local") := by
  have hthere : ∀ text, (oneScript text "/usr/local").disk.pathExists
      (oneScript text "/usr/local").places.here "mn" = true := by
    intro text
    rw [Disk.pathExists]
    exact find_oneScript text _ ▸ rfl
  have hiff : ∀ (r : Runner) (text : String), _ := fun r text =>
    runner_executes_iff r "spyq" (Disk.Rooted.nil _) (by simp) (hthere text)
  simp only [text_oneScript] at hiff
  have hbase : "/mn".startsWith "/usr/local" = false := by decide
  refine ⟨fun r => (hiff r "").1.mpr ?_, fun r => (hiff r ")").2 fun h => ?_⟩
  · exact ⟨by decide, .inl (check_empty_oneScript _)⟩
  · rcases h.2 with hpass | ⟨-, hown⟩
    · exact check_bracket_oneScript _ hpass
    · cases hbase.symm.trans hown

/-- A script that does not lie below Python's base, and in which something is found, is executed by
the module, because its path begins with the text of the base, while the others refuse it. -/
theorem runners_disagree :
    let w := oneScript ")" "/m"
    ¬ (Path.ofText w.interpreter.base).names <+: (scriptPath w "mn").names ∧
      checkFileHere w.disk w.places "mn" ≠ .ok [] ∧
      Executes (Runner.module.run "spyq" "mn") "/mn" w ∧
      Refuses (Runner.command.run "spyq" "mn") w ∧ Refuses (Runner.wrapper.run "spyq" "mn") w := by
  have hbase : "/mn".startsWith "/m" = true := by decide +kernel
  have hnames : (scriptPath (oneScript ")" "/m") "mn").names = ["mn"] := by cbv
  have hcheck := check_bracket_oneScript "/m"
  have hruns := fun r => executes_or_refuses r "spyq" (by simp) (find_oneScript ")" "/m")
    (Disk.find_resolve (Disk.Rooted.nil _) (find_oneScript ")" "/m") (accepted_oneScript ")" "/m"))
  simp only [text_oneScript] at hruns
  exact ⟨by rw [hnames]; decide, hcheck, (hruns .module).1 (.inr ⟨rfl, hbase⟩),
    (hruns .command).2 (by simp [hcheck]), (hruns .wrapper).2 (by simp [hcheck])⟩

end QualityGate.Command
