/-
Running a script in place of Python: it is checked first, and does not run if anything is found.
-/
import QualityGate.Command.Perform

namespace QualityGate.Command

open Limits (Issue)

inductive Verdict where
  | passed
  | failed (issues : List Issue)
  | unchecked (f : Failure)

def judge (d : Disk) (p : Places) (path : String) : Verdict :=
  match Limits.checkFileHere d p path with
  | .ok [] => .passed
  | .ok issues => .failed issues
  | .error f => .unchecked f

def uncheckedMessage (f : Failure) : String := s!"Validation error: {f.message}"

def rejectScript (issues : List Issue) : Act Unit := do
  Act.errorLine "\n❌ SPYQ Validation Errors:"
  for i in issues do
    Act.errorLine s!"Line {lineShown i}: ERROR: {i.finding.message}"
  Act.errorLine "\n❌ Execution aborted due to validation errors"
  throw (.exit (.int 1))

/-- Show what was found in a script that was about to run, and leave. -/
def rejectChecked (issues : List Issue) : Act Unit := do
  Act.printLine "\n⚠️  SPYQ Validation Issues:"
  for i in issues do
    Act.printLine s!"  Line {lineShown i}: ERROR: {i.finding.message}"
  Act.printLine s!"\nFound {issues.length} errors and 0 warnings"
  Act.printLine "\n❌ Execution aborted due to validation errors"
  throw (.exit (.int 1))

section

-- how the file at a path is run
variable (start : String → Act Unit)

def runScript (path : Path) (args : List String) : Act Unit := do
  modify fun w => { w with
    searchPath := path.parent.text :: w.searchPath, args := path.text :: args }
  start path.text

/-- Judge a script that is there and run it if it passes.  What belongs to Python itself is not
checked. -/
def judgeAndRun (path : Path) (args : List String) : Act Unit := do
  let w ← get
  if path.text.startsWith w.interpreter.base then runScript start path args
  else
    match judge w.disk w.places path.text with
    | .passed => runScript start path args
    | .unchecked _ => throw (.tooFew 2 1)
    | .failed issues => rejectScript issues

def performScriptWith : Act Unit := do
  let w ← get
  match w.args.drop 1 with
  | [] =>
    Act.printLine s!"Python {w.interpreter.version}"
    Act.printLine "Usage: python -m spyq <script.py> [args...]"
  | script :: args =>
    let path ← resolved script
    if ← Act.isThere path.text then judgeAndRun start path args
    else
      Act.errorLine s!"Error: Script not found: {path.text}"
      throw (.exit (.int 1))

def showAndRun (path : Path) : Act Unit := do
  Act.printLine s!"🔍 Validating {path.text} with SPYQ..."
  let issues ← checkPath path.text
  if issues.isEmpty then
    modify fun w => { w with args := w.args.drop 1 }
    start path.text
  else rejectChecked issues

/-- Check the script that the arguments name, and run it if nothing is found. -/
def performCheckedWith : Act Unit := do
  match (← get).args.drop 1 with
  | [] =>
    Act.printLine "Usage: python_with_spyq.py <script.py> [args...]"
    throw (.exit (.int 1))
  | script :: _ =>
    let path ← resolved script
    if ← Act.isThere path.text then showAndRun start path
    else
      Act.printLine s!"Error: Script not found: {path.text}"
      throw (.exit (.int 1))

end

def performScript : Act Unit := performScriptWith Program.runMain

/-- Run the script that the arguments name, once what is found in it was shown. -/
def performChecked : Act Unit := performCheckedWith Program.runMain

end QualityGate.Command
