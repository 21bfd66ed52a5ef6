/-
A gate in front of the execution of modules.

The gate looks at the source of a module before it is run.  If the source is not a module or has
too many lines, what is wrong is printed and the program is left.
-/
import QualityGate.Limits.Check
import QualityGate.Program.Library
import QualityGate.Session
import QualityGate.Text.Search

namespace QualityGate.Imports

open Limits (Issue)

/-- What is known of a module before it is loaded: where it comes from, and whether the gate loads
it. -/
structure Spec where
  origin : Option String
  gated : Bool := false
  deriving DecidableEq, Repr

inductive Importer where
  /-- As the language does: a module comes out, not what is known of it. -/
  | system
  | fixed (spec : Option Spec)

structure Gate where
  config : Value
  importer : Option Importer := none

def defaultConfig : Value := .object [
  ("max_file_lines", .int 300),
  ("max_function_lines", .int 50),
  ("max_function_params", .int 4),
  ("max_nesting_depth", .int 4),
  ("require_docstrings", .bool true),
  ("require_type_hints", .bool true),
  ("forbid_global_vars", .bool true),
  ("forbid_bare_except", .bool true),
  ("forbid_print_statements", .bool true)]

/-- The configuration: what the file of the user holds, if it can be read. -/
def loadConfig (d : Disk) (p : Places) : Value :=
  let path := (Settings.userFile p).text
  if !d.pathExists p.here path then defaultConfig
  else match d.readText p.here path with
    | .error _ => defaultConfig
    | .ok text => ((Json.parse text).toOption).getD defaultConfig

def linesKey : String := "max_file_lines"

def lineLimit : Value → Except Failure (Option Value)
  | .object fs => .ok (fs.lookup linesKey)
  | .list vs =>
    if vs.any fun | .text s => s = linesKey | _ => false then
      .error (.misuse (.listIndex "str"))
    else .ok none
  | .text s =>
    if Text.holds s linesKey then .error (.misuse (.textIndex "str")) else .ok none
  | v => .error (.misuse (.notContainer v.kindName))

/-- Check a source text; `onDisk` is the text of the file that it is said to come from. -/
def checkSource (config : Value) (onDisk : Option String) (text : String) :
    Except Failure (List Issue) := do
  match Source.parseWith onDisk text with
  | .error r =>
    if r.cause.blamesText then return [⟨.notModule r.cause, some (r.line.getD 1), r.column⟩]
    throw (.notModule r "")
  | .ok _ =>
    match ← lineLimit config with
    | none => return []
    | some limit =>
      let n := Limits.lineCount text
      if ← Limits.exceeds n limit then return [⟨.fileTooLong n limit, some 1, 0⟩]
      else return []

def textOnDisk (d : Disk) (here : Location) (path : String) : Option String :=
  (d.readText here path).toOption

def Gate.check (g : Gate) (d : Disk) (here : Location) (file text : String) :
    Except Failure (List Issue) :=
  checkSource g.config (textOnDisk d here file) text

def nullInName : Failure := .raised "ValueError" "embedded null character"

/-- Check a source text under the name of a file, which cannot be just any text. -/
def Gate.verdict (g : Gate) (d : Disk) (here : Location) (file text : String) :
    Except Failure (List Issue) :=
  if file.toList.contains '\x00' then .error nullInName else g.check d here file text

def gateLine (file : String) (i : Issue) : String :=
  s!"{file}:{i.line.getD 1}:{i.col}: {i.severity.title}: {i.finding.message}"

def abortLine : String := "Validation failed - aborting execution"

/-- Let a module through the gate.  Where there is no source there is nothing to check.  All issues
are shown, but only errors are a reason to leave the program. -/
def Gate.pass (g : Gate) (file : String) (source : Option String) : Act Unit := do
  match source with
  | none => return ()
  | some text =>
    let issues ← Act.ofExcept (g.verdict (← Act.disk) (← Act.here) file text)
    for i in issues do Act.printLine (gateLine file i)
    if issues.any (·.severity = .error) then
      Act.printLine abortLine
      throw (.exit (.int 1))

/-- A module that is to be run: its name and the file that it comes from.  The gate is put only in
front of modules that come from a file. -/
structure Candidate where
  name : String
  file : String

/-- A loader that a gate can be put in front of: what it knows as the source of a module, if there
is one, and how it runs a module. -/
structure Inner where
  source : String → Act (Option String)
  execute : Candidate → Act Unit

/-- Run a module by a loader behind the gate. -/
def Gate.execute (g : Gate) (inner : Inner) (m : Candidate) : Act Unit := do
  g.pass m.file (← inner.source m.name)
  inner.execute m

def Spec.throughGate (s : Spec) : Spec :=
  if (s.origin.map (·.endsWith ".py")).getD false then { s with gated := true } else s

def Gate.find (g : Gate) (name : String) : Except Failure (Option Spec) :=
  match g.importer with
  | none => .ok none
  | some (.fixed spec) => .ok (spec.map Spec.throughGate)
  | some .system =>
    let top := (name.splitOn ".").headD ""
    if Program.isLibraryModule top then .error (.noModuleAttribute top "origin")
    else .error (.noModule name)

/-- Whether a gate has replaced the importer of the language. -/
structure Installation where
  /-- Has one been installed since the program started? -/
  done : Bool := false

/-- Install a gate.  Only the first one replaces the importer. -/
def installGate (i : Installation) (d : Disk) (p : Places) : Gate × Installation :=
  let g : Gate := ⟨loadConfig d p, none⟩
  if i.done then (g, i) else ({ g with importer := some .system }, { i with done := true })

end QualityGate.Imports
