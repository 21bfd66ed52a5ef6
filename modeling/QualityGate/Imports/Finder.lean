/-
A finder of modules that has their files checked when they are imported.

Finders are asked one after the other.  One of ours passes the question on to all others; what
they find as a source file it has loaded by a loader that checks the file first.
-/
import QualityGate.Limits.Check
import QualityGate.Program.Load

namespace QualityGate.Imports

open Limits (Issue)

structure Loader where
  path : String
  settings : Settings

def currentSettings : Act Settings := do
  let w ← get
  Act.ofExcept (Settings.current w.disk w.places)

def isOn (s : Settings) (key : String) : Bool := ((s.get? key).map Value.truthy).getD true

/-! ## Checking while loading -/

def isStrict (s : Settings) : Bool := ((s.get? "strict").map Value.truthy).getD false

def issueLine (fields : Value) : Except Failure String :=
  let field (key : String) : Value := (fields.get? key).getD (.int 0)
  match fields.get? "message" with
  | none => .error (.missingKey (.text "message"))
  | some m =>
    let line := field "line"
    let col := field "col"
    .ok s!"  Line {line.shown}, Column {col.shown}: {m.shown}"

/-- Report issues on a file.  A strict loader then refuses it. -/
def report (s : Settings) (path : String) (issues : List Value) : Act Unit := do
  Act.errorLine s!"\nSPYQ Validation issues in {path}:"
  for i in issues do Act.errorLine (← Act.ofExcept (issueLine i))
  Act.errorLine ""
  if isStrict s then throw (.refusedImport path)

def issueFields (i : Issue) : Value :=
  .object [
    ("message", .text i.finding.message),
    ("line", (i.line.map fun n => Value.int n).getD .null),
    ("col", .int i.col)]

/-- Check a file.  Whatever goes wrong is only a warning. -/
def checkBeforeLoad (s : Settings) (path : String) : Act Unit :=
  Act.recover (do
    let w ← get
    let issues ← Act.ofExcept (Limits.checkFileHere w.disk w.places (Path.ofText path).text)
    if !issues.isEmpty then report s path (issues.map issueFields))
    fun f => Act.warn "RuntimeWarning" s!"Failed to validate {path}: {f.message}"

/-- The module in a file, which is checked first if that is asked for. -/
def Loader.compile (l : Loader) : Act Source.Tree := do
  if isOn l.settings "validate_on_import" then checkBeforeLoad l.settings l.path
  Program.compileFile l.path

/-! ## Finding -/

/-- What a finder found: the place of a module, if it has one, and the loader if it is one of
ours. -/
structure Located where
  origin : Option String
  loader : Option Loader := none

def Located.source? (l : Located) : Option String := l.origin.filter (·.endsWith ".py")

/-- What is asked: the name of a module, and the directories to look in if it is in a package. -/
structure Question where
  name : String
  dirs : Option (List String) := none

/-- A finder on the list of those that are asked: one of ours with its settings and a number, by
which it is told from the others of ours, or another one, which answers by what it sees or fails. -/
inductive Finder where
  | ours (id : Nat) (settings : Settings)
  | other (find : Question → Session → Except Failure (Option Located))

def Finder.isOurs : Finder → Bool
  | ours .. => true
  | other _ => false

/-- Ask a finder; one of ours is asked by `ask`. -/
def Finder.answer (ask : Nat → Settings → Act (Option Located)) (q : Question) :
    Finder → Act (Option Located)
  | ours id settings => ask id settings
  | other find => do Act.ofExcept (find q (← get))

/-- Ask the finders in a list.  The first source file that is found gets a loader of ours. -/
def askOthers (ask : Nat → Settings → Act (Option Located)) (q : Question) :
    List Finder → Act (Option Located)
  | [] => return none
  | f :: fs => do
    match (← f.answer ask q).bind Located.source? with
    | some path => return some ⟨some path, some ⟨path, ← currentSettings⟩⟩
    | none => askOthers ask q fs

/-- Ask one of our finders, which does not ask itself; `all` are all finders.  The first argument
bounds how often finders may ask each other. -/
def askOurs : Nat → List Finder → Option Nat → Settings → Question → Act (Option Located)
  | 0, _, _, _, _ => throw .endless
  | fuel + 1, all, self, settings, q =>
    if !isOn settings "enable_import_hook" then return none
    else
      let ask id settings :=
        if some id = self then return none else askOurs fuel all (some id) settings q
      askOthers ask q all

/-- How often finders may ask each other. -/
def maxAsks : Nat := 1000

def findFresh (all : List Finder) (name : String) : Act (Option Located) := do
  askOurs maxAsks all none (← currentSettings) { name }

def findFirst (all : List Finder) (q : Question) : List Finder → Act (Option Located)
  | [] => return none
  | f :: fs => do
    match ← f.answer (fun id settings => askOurs maxAsks all (some id) settings q) q with
    | some l => return some l
    | none => findFirst all q fs

/-- Load a module: find it, check it if a loader of ours was found, and run it. -/
def loadFound (all : List Finder) (dirs : Option (List String)) (name : String) : Act Unit := do
  match ← findFirst all { name, dirs } all with
  | none => throw (.noModule name)
  | some l =>
    match l.source?, l.loader with
    | none, _ => throw (.noModule name)
    | some path, some loader => Program.runTree path name path (← loader.compile)
    | some path, none => Program.runFile name path

def importModule (all : List Finder) (name : String) : Act Unit := do
  Program.forget name
  Program.importBy (loadFound all) [] (name.splitOn ".")

/-! ## The list of finders -/

/-- Modules that are known by their names alone, all at one place. -/
def findNamed (names : List String) (origin : String) : Finder :=
  .other fun q _ => .ok (if names.contains q.name then some { origin } else none)

/-- The answer of a finder that looks for files: the file that it found, else the one that comes with
the language.  A directory that only holds other modules has no file. -/
def fileAnswer (found : Option Program.Found) (library : Option String) : Option Located :=
  match found, library with
  | some (.file path _), _ => some { origin := path }
  | _, some path => some { origin := path }
  | found, none => found.map fun _ => { origin := none }

/-- A finder that looks for files: in the directories that are asked for, or on the search path and
then among the modules that come with the language. -/
def findFile : Finder :=
  .other fun q w => .ok (fileAnswer
    (Program.findAmong w.disk w.places.here (q.dirs.getD w.searchPath) (Program.lastName q.name))
    (if q.dirs.isNone then Program.libraryFile? q.name else none))

/-- The finders at the start: one that only answers for tools that build packages, and those of the
language. -/
def initialFinders : List Finder := [
  findNamed [] "",
  findNamed Program.libraryBuiltIn "built-in",
  findNamed Program.libraryFrozen "frozen",
  findFile]

/-- A number that none of ours has: one more than the largest. -/
def freshId : List Finder → Nat
  | [] => 0
  | .ours id _ :: fs => max (id + 1) (freshId fs)
  | .other _ :: fs => freshId fs

/-- Put one of ours in front, unless there is one or that is not wanted. -/
def install (all : List Finder) : Act (List Finder) := do
  let settings ← currentSettings
  if !isOn settings "enable_import_hook" || all.any Finder.isOurs then return all
  return .ours (freshId all) settings :: all

/-- Take the first one of ours away. -/
def uninstall : List Finder → List Finder
  | [] => []
  | f :: fs => if f.isOurs then fs else f :: uninstall fs

def addLast (all : List Finder) : Act (List Finder) := do
  return all ++ [.ours (freshId all) (← currentSettings)]

def ourPlaces (all : List Finder) : List Nat :=
  (all.zipIdx.filter fun (f, _) => f.isOurs).map (·.2)

end QualityGate.Imports
