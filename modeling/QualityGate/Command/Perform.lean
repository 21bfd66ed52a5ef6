/-
Doing what the command line asks for.

Every command ends with a code, 0 if all went well.  Errors that a command does not report itself
are reported at the end.
-/
import QualityGate.Command.Request
import QualityGate.Files.Glob
import QualityGate.Files.Resolve
import QualityGate.Limits.Check
import QualityGate.Program.Load

namespace QualityGate.Command

open Limits (Issue)

def toolVersion : String := "0.2.0"

/-- The absolute path that a text leads to, links followed. -/
def resolvePath (d : Disk) (here : Location) (s : String) : Except Failure Path :=
  if (Text.nameFault? s).isSome then .error (.file ⟨.unwritable, s⟩)
  else if s.toList.contains '\x00' then .error (.file ⟨.nullInPath, s⟩)
  else
    let path := Location.path (d.resolve here s)
    match d.find here path.text with
    | .error .tooManyLinks =>
      .error (.raised "RuntimeError" s!"Symlink loop from {Text.quote path.text}")
    | _ => .ok path

def resolved (s : String) : Act Path := do
  Act.ofExcept (resolvePath (← Act.disk) (← Act.here) s)

def leaveAt {α : Type} : Stop → Act α
  | .help text => do
    Act.print text
    throw (.exit (.int 0))
  | .refused usage program message => do
    modify fun w => { w with err := w.err ++ usage ++ s!"{program}: error: {message}\n" }
    throw (.exit (.int 2))

/-- The name that the tool goes by: the last name of the path that it was started with. -/
def programName : Act String := do return (Path.splitLast ((← get).args.headD "")).2

def readRequest (args : List String) : Act Request := do
  match Request.read (← programName) args with
  | .ok r => return r
  | .error stop => leaveAt stop

/-! ## Writing settings -/

def saveDefaults (path : Path) : Act Path := do
  let w ← get
  let (d, r) := Settings.save w.disk w.places Settings.defaults.toValue (some path)
  modify fun w => { w with disk := d }
  Act.ofExcept r

def writeDefaults (path : Path) : Act Int :=
  Act.recover
    (do
      let path ← saveDefaults path
      Act.printLine s!"✅ Created SPYQ configuration at: {path.text}"
      Act.printLine "\nDefault configuration:"
      Act.printLine (Json.render Settings.fileStyle Settings.defaults.toValue)
      return 0)
    fun f => do
      Act.errorLine s!"❌ Error creating configuration: {f.message}"
      return 1

/-- The file that settings are written to: the one named, or that of the project or the user. -/
def settingsPath (path : Option String) (project user : Bool) : Act Path := do
  let w ← get
  match path with
  | some p =>
    if !p.isEmpty then return ← resolved p
  | none => pure ()
  if project then return Settings.projectFile w.places
  if user then return Settings.userFile w.places
  return Settings.saveFile w.disk w.places

/-! ## Checking -/

def checkPath (path : String) : Act (List Issue) := do
  let w ← get
  Act.ofExcept (Limits.checkFileHere w.disk w.places path)

/-- The files that are checked for a path: those below a directory, or the path itself. -/
def filesToCheck (p : Path) : Act (List Path) := do
  let w ← get
  match ← Act.lookAt p.text with
  | some .dir =>
    Act.ofExcept ((Glob.below w.disk w.places.here p "*.py").mapError Failure.file)
  | some (.file _) => return if p.ending = ".py" then [p] else []
  | _ => return []

/-- Check files; one that cannot be checked is reported and left out. -/
def checkAll : List Path → Act (List (Path × Issue))
  | [] => return []
  | p :: ps => do
    let issues ← Act.recover (checkPath p.text) fun f => do
      Act.errorLine s!"❌ Error validating {p.text}: {f.message}"
      return []
    return issues.map (fun i => (p, i)) ++ (← checkAll ps)

def lineShown (i : Issue) : String :=
  match i.line with
  | some n => toString n
  | none => "None"

def checkPaths : List String → Act (List (Path × Issue))
  | [] => return []
  | s :: ss => do
    let found ← checkAll (← filesToCheck (Path.ofText s))
    return found ++ (← checkPaths ss)

/-- Check files and directories and show what is found. -/
def validate (paths : List String) (strict : Bool) : Act Int := do
  let found ← checkPaths paths
  for (p, i) in found do
    let severity := i.severity.counted strict
    Act.printLine s!"{p.text}:{lineShown i}:{i.col}: {severity.title}: {i.finding.message}"
  let errors := found.countP fun x => x.2.severity.counted strict = .error
  let warnings := found.countP fun x => x.2.severity.counted strict = .warning
  Act.printLine s!"\nFound {errors} errors and {warnings} warnings"
  return if 0 < errors then 1 else 0

/-! ## Running -/

def showIssues (path : Path) (issues : List Issue) : Act Unit := do
  Act.printLine s!"\n🔍 Validation issues in {path.text}:"
  for i in issues do
    Act.printLine s!"  Line {lineShown i}, Column {i.col}: ERROR: {i.finding.message}"
  Act.printLine s!"\nFound {issues.length} errors and 0 warnings"
  Act.printLine "\n❌ Aborting execution due to validation errors."

section

-- how the file at a path is run
variable (start : String → Act Unit)

def runChecked (path : Path) (args : List String) : Act Int := do
  modify fun w => { w with args := path.name :: args }
  Act.printLine s!"\n🚀 Running {path.text}...\n"
  Act.recover
    (do
      start path.text
      return 0)
    fun f => do
      Act.errorLine s!"\n❌ Error running script: {f.message}"
      return 1

def checkAndRun (path : Path) (args : List String) : Act Int := do
  let checked : Option (List Issue) ← Act.recover (some <$> checkPath path.text) fun f => do
    Act.errorLine s!"❌ Error validating {path.text}: {f.message}"
    return none
  match checked with
  | none => return 1
  | some [] => runChecked start path args
  | some issues =>
    showIssues path issues
    return 1

def run (script : String) (args : List String) : Act Int := do
  let path ← resolved script
  if ← Act.isThere path.text then checkAndRun start path args
  else
    Act.errorLine s!"❌ Error: Script not found: {path.text}"
    return 1

/-! ## All commands -/

def Job.perform : Job → Act Int
  | .init path project user => do writeDefaults (← settingsPath path project user)
  | .validate paths strict => Command.validate paths strict
  | .run script args => Command.run start script args
  | .setup path => do
    Act.errorLine "⚠️  The 'setup' command is deprecated. Using 'init' instead."
    -- without a path the other options of `init` count, and this command has none
    if path.isEmpty then throw (.noAttribute "Namespace" "project")
    writeDefaults (← resolved path)

/-- Run the tool with a command line.  Errors are reported. -/
def performWith (args : List String) : Act Int :=
  Act.recover
    (do
      match ← readRequest args with
      | .line false (some job) => job.perform start
      | .line false none =>
        let first := args.headD ""
        Act.printLine s!"Unknown command: {first}. Use 'spyq --help' for usage information."
        return 1
      | _ =>
        Act.printLine s!"SPYQ version {toolVersion}"
        return 0)
    fun f => do
      Act.errorLine s!"❌ An error occurred: {f.message}"
      return 1

end

def perform : List String → Act Int := performWith Program.runMain

end QualityGate.Command
