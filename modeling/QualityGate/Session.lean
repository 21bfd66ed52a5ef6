/-
A session: what a program can see and change while it runs.

A program reads and writes files, prints, logs, warns, asks the user and starts other programs.
`Act` is the type of such programs; they may end in a failure, and what they did before it stays
done.
-/
import QualityGate.Files.Text
import QualityGate.Program.Object

namespace QualityGate

inductive Outcome where
  | finished (code : Int) (out err : String)
  | missing
  deriving Inhabited

structure Interpreter where
  executable : String := ""
  version : String := ""
  base : String := "/usr/local"
  site : Location := []
  userSite : Location := []
  deriving Inhabited

/-- What a program can see and change. -/
structure Session where
  disk : Disk
  places : Places
  interpreter : Interpreter := {}
  out : String := ""
  err : String := ""
  log : List String := []
  warnings : List String := []
  /-- What the user still has to say. -/
  input : List Char := []
  /-- Does the user interrupt the program when there is nothing more to say? -/
  interrupts : Bool := false
  /-- The arguments that the program was started with, its own name first. -/
  args : List String := []
  searchPath : List String := []
  environment : List (String × String) := []
  /-- The directory for files that are needed only for a while. -/
  temp : Location := []
  /-- What the names of such files end with. -/
  tempEnding : String := ""
  store : Program.Store := {}
  /-- How the programs that are started next will end. -/
  outcomes : List Outcome := []
  started : List (List String) := []
  deriving Inhabited

abbrev Act := EStateM Failure Session

namespace Act

def refuse {α : Type} (f : Failure) : Act α := throw f

/-- A result that is already known to be there or not. -/
def ofExcept {α : Type} : Except Failure α → Act α
  | .ok a => pure a
  | .error f => throw f

def recover {α : Type} (a : Act α) (onError : Failure → Act α) : Act α :=
  tryCatch a fun f => if f.isError then onError f else throw f

def print (s : String) : Act Unit := modify fun w => { w with out := w.out ++ s }

def printLine (s : String) : Act Unit := print (s ++ "\n")

def printError (s : String) : Act Unit := modify fun w => { w with err := w.err ++ s }

def errorLine (s : String) : Act Unit := printError (s ++ "\n")

def logLine (level message : String) : Act Unit :=
  modify fun w => { w with log := w.log ++ [s!"{level}: {message}"] }

def warn (category message : String) : Act Unit :=
  modify fun w => { w with warnings := w.warnings ++ [s!"{category}: {message}"] }

def here : Act Location := return (← get).places.here

def disk : Act Disk := return (← get).disk

def store : Act Program.Store := return (← get).store

def setStore (s : Program.Store) : Act Unit := modify fun w => { w with store := s }

def pathExists (s : String) : Act Bool := return (← disk).pathExists (← here) s

/-- What stands at a path, if anything.  A name that is too long is refused. -/
def lookAt (s : String) : Act (Option Entry) := do
  match (← disk).lookAt (← here) s with
  | .ok e => return e
  | .error e => throw (.file e)

/-- Is there anything at a path?  A name that is too long is refused. -/
def isThere (s : String) : Act Bool := return (← lookAt s).isSome

def isFile (s : String) : Act Bool := return (← disk).isFile (← here) s

def isDir (s : String) : Act Bool := return (← disk).isDir (← here) s

def changeDisk (r : Except FileError Disk) : Act Unit :=
  match r with
  | .ok d => modify fun w => { w with disk := d }
  | .error e => throw (.file e)

def readBytes (s : String) : Act ByteArray := do
  match (← disk).read (← here) s with
  | .ok bytes => return bytes
  | .error e => throw (.file e)

def readText (s : String) : Act String := do ofExcept ((← disk).readText (← here) s)

/-- Write a text to a file.  Of a text that cannot be written nothing is, but the file is there. -/
def writeText (s text : String) : Act Unit := do
  match Text.halfFault? text with
  | none => changeDisk ((← disk).writeText (← here) s text)
  | some f =>
    changeDisk ((← disk).writeText (← here) s "")
    throw (.unwritable f)

/-- Write a text behind the end of a file.  Of a text that cannot be written nothing is, but the file
is there. -/
def appendText (s text : String) : Act Unit := do
  match Text.halfFault? text with
  | none => changeDisk ((← disk).append (← here) s text.toUTF8)
  | some f =>
    changeDisk ((← disk).append (← here) s "".toUTF8)
    throw (.unwritable f)

/-- Keep the files as they are after some changes, and give up if one was refused. -/
def keepChanges (r : Disk × Option FileError) : Act Unit := do
  modify fun w => { w with disk := r.1 }
  match r.2 with
  | some e => throw (.file e)
  | none => return ()

/-- Make a directory that may be there already, and those above it, the path taken as written. -/
def makeDirsNamed (s : String) : Act Unit := do keepChanges ((← disk).makeNamed (← here) s)

def makeDirs (p : Path) : Act Unit := do keepChanges ((← disk).makeDirs (← here) p)

def makeDir (s : String) : Act Unit := do
  match (← disk).makeDir (← here) s with
  | .ok d => modify fun w => { w with disk := d }
  | .error e => if e.trouble = .missing || !(← isDir s) then throw (.file e)

def enter (s : String) : Act Unit := do
  match (← disk).find (← here) s with
  | .ok (loc, .dir) => modify fun w => { w with places.here := loc }
  | .ok _ => throw (.file ⟨.notDirectory, s⟩)
  | .error t => throw (.file ⟨t, s⟩)

def sameFile (s t : String) : Act Bool := do
  match (← disk).find (← here) s, (← disk).find (← here) t with
  | .ok (a, _), .ok (b, _) => return a = b
  | _, _ => return false

def copyFile (source target : Path) : Act Unit := do
  let shown (p : Path) : String := s!"PosixPath({Text.quote p.text})"
  let inside ← isDir target.text
  let path := if inside then Path.joinName target.text source.name else target.text
  if ← sameFile source.text path then
    throw (.sameFile (shown source) (if inside then Text.quote path else shown target))
  match (← disk).read (← here) source.text with
  | .error e => throw (.file e)
  | .ok bytes => changeDisk ((← disk).write (← here) path bytes)

/-- Make a link to a path, which need not be there. -/
def makeLink (source target : String) : Act Unit := do
  match (← disk).locate (← here) target false with
  | .error t => throw (.link ⟨t, source⟩ target)
  | .ok loc =>
    if ((← disk).get? loc).isSome then throw (.link ⟨.alreadyThere, source⟩ target)
    modify fun w => { w with disk := w.disk.set loc (.link source) }

def removeFile (s : String) : Act Unit := do
  match (← disk).locate (← here) s false with
  | .error t => throw (.file ⟨t, s⟩)
  | .ok loc =>
    match (← disk).get? loc with
    | none => throw (.file ⟨.missing, s⟩)
    | some .dir => throw (.file ⟨.isDirectory, s⟩)
    | some _ => modify fun w => { w with disk := w.disk.erase loc }

def makeRunnable (s : String) : Act Unit := do
  match (← disk).find (← here) s with
  | .ok _ => return ()
  | .error t => throw (.file ⟨t, s⟩)

/-- Give a new directory to a program, and remove it when the program has ended. -/
def withTempDir {α : Type} (start : String) (a : Path → Act α) : Act α := do
  let w ← get
  let loc := w.temp ++ [start ++ w.tempEnding]
  set { w with disk := w.disk.addDirs loc }
  let remove : Act Unit := modify fun w => { w with disk := w.disk.erase loc }
  let x ← tryCatch (a (Location.path loc)) fun f => do remove; throw f
  remove
  return x

/-- A variable of the environment, if it is there and not empty. -/
def fromEnvironment? (name : String) : Act (Option String) :=
  return ((← get).environment.lookup name).filter (!·.isEmpty)

def setVariable (name value : String) : Act Unit :=
  modify fun w => { w with
    environment := (w.environment.filter fun (n, _) => n ≠ name) ++ [(name, value)] }

def ask (prompt : String) : Act String := do
  print prompt
  let w ← get
  if w.input.isEmpty then throw (if w.interrupts then .interrupted else .endOfInput)
  let line := w.input.takeWhile (· ≠ '\n')
  set { w with input := w.input.drop (line.length + 1) }
  return String.ofList line

def start (command : List String) : Act (Int × String × String) := do
  let w ← get
  set { w with started := w.started ++ [command], outcomes := w.outcomes.drop 1 }
  match w.outcomes.headD (.finished 0 "" "") with
  | .finished code out err => return (code, out, err)
  | .missing => throw (.file ⟨.missing, command.headD ""⟩)

end Act

/-- A program with a state of its own beside the session.  Both outlive a failure. -/
abbrev ActWith (σ : Type) := EStateM Failure (σ × Session)

namespace ActWith

variable {σ : Type}

/-- Run a program that leaves the state alone. -/
def lift {α : Type} (a : Act α) : ActWith σ α := fun (s, w) =>
  match a w with
  | .ok x w => .ok x (s, w)
  | .error f w => .error f (s, w)

instance : MonadLift Act (ActWith σ) := ⟨lift⟩

def state : ActWith σ σ := return (← get).1

def setState (s : σ) : ActWith σ Unit := modify fun (_, w) => (s, w)

/-- Run a program from a state that nobody needs afterwards. -/
def runFrom {α : Type} (s : σ) (a : ActWith σ α) : Act α := fun w =>
  match a (s, w) with
  | .ok x (_, w) => .ok x w
  | .error f (_, w) => .error f w

end ActWith

end QualityGate
