/-
Finding and loading modules.

The file of a module is looked for in the directories of the search path: a directory with an
`__init__.py` is a package, a file with the ending `.py` is a plain module.
-/
import QualityGate.Program.Run
import QualityGate.Source.Encoded
import QualityGate.Source.Runnable

namespace QualityGate.Program

open Source (Tree)

def maxSteps : Nat := 20000

inductive Found where
  /-- A file; the flag tells that it is a package. -/
  | file (path : String) (isPackage : Bool)
  | dirOnly (path : String)
  | library
  deriving DecidableEq, Repr

/-- Look for a module in one directory, among the entries of that directory only. -/
def findIn (d : Disk) (here : Location) (dir name : String) : Option Found :=
  let base := Path.joinName dir name
  let init := base ++ "/__init__.py"
  if name.toList.contains '/' then none
  else if !name.isEmpty && d.isFile here init then some (.file init true)
  else if d.isFile here (base ++ ".py") then some (.file (base ++ ".py") false)
  else if !name.isEmpty && d.isDir here base then some (.dirOnly base)
  else none

/-- Look for a module in several directories.  A directory that only holds other modules counts
only if nothing else is found. -/
def findAmong (d : Disk) (here : Location) (dirs : List String) (name : String) : Option Found :=
  let found := dirs.filterMap fun dir => findIn d here dir name
  match found.find? fun
    | .dirOnly _ => false
    | _ => true with
  | some f => some f
  | none => found.head?

def lastName (name : String) : String := (name.splitOn ".").getLastD ""

/-- Look for a module in directories, or on the search path if none are given.  Only the last part
of its name counts.  What the interpreter has in itself comes first, the other modules that come
with the language last. -/
def findModule (dirs : Option (List String)) (name : String) : Act (Option Found) := do
  let w ← get
  let inside := libraryBuiltIn.contains name || libraryFrozen.contains name
  if dirs.isNone && inside then return some .library
  match findAmong w.disk w.places.here (dirs.getD w.searchPath) (lastName name) with
  | some (.file path isPackage) => return some (.file path isPackage)
  | found => return if dirs.isNone && libraryModules.contains name then some .library else found

/-- The directories that the modules of a package are looked for in: that of its file. -/
def packageDirs (m : Module) : Option (List String) :=
  if m.file.endsWith "/__init__.py" then some [(Path.splitLast m.file).1] else none

/-- The tree that was parsed, if it can be run as a module.  In complaints the text has the name
`origin`.  Cautions are warnings. -/
def compileParsed (origin : String) (parsed : Except Source.Refusal Tree) : Act Tree := do
  match parsed with
  | .error r => throw (.notModule r origin)
  | .ok t =>
    let (verdict, cautions) := Source.checkRunnable t
    for c in cautions do Act.warn "SyntaxWarning" c.message
    match verdict with
    | .error o => throw (.notRunnable o origin)
    | .ok () => return t

/-- The tree of a text that can be run as a module.  In complaints the text has the name
`origin`. -/
def compileText (origin text : String) : Act Tree :=
  compileParsed origin (Source.parseWith (some text) text)

def compileFile (file : String) : Act Tree := do
  let bytes ← Act.readBytes file
  if bytes.toList.contains 0 then throw (.notModule ⟨.nullCharacter, none, 0⟩ file)
  match Source.textOfBytes bytes with
  | .error p => throw (.notModule ⟨.badEncoding p, some 0, 0⟩ file)
  | .ok text => compileParsed file (Source.parseKept (some text) text)

/-- Run a tree as a module with a name and a file.  Its functions are said to be in `origin`. -/
def runTree (origin name file : String) (t : Tree) : Act Unit := do
  let (i, s) := (← Act.store).newFrame
    [("__name__", .text name), ("__doc__", optionText (docOf t.children)),
      ("__file__", .text file)]
  let modules := s.modules.filter fun (n, _) => n ≠ name
  Act.setStore { s with modules := modules ++ [(name, ⟨file, i⟩)] }
  let sc : Scope := {
    frame := i, locals := none, enclosing := [], globals := i, module := name, file := origin }
  let _ ← tryCatch (execute maxSteps sc t.children) fun f => do
    let s ← Act.store
    Act.setStore { s with modules := s.modules.filter fun (n, _) => n ≠ name }
    throw f

/-- Run a text as a module with a name and a file.  In complaints, and as the place of its
functions, the text has a name of its own. -/
def runTextFrom (origin name file text : String) : Act Unit := do
  runTree origin name file (← compileText origin text)

def runFile (name file : String) : Act Unit := do runTree file name file (← compileFile file)

def forget (name : String) : Act Unit := do
  let s ← Act.store
  Act.setStore { s with modules := s.modules.filter fun (n, _) => n ≠ name }

/-- Start a program with arguments, the first of which is replaced for as long as it runs. -/
def withFirstArg {α : Type} (arg : String) (a : Act α) : Act α := do
  let old := (← get).args
  modify fun w => { w with args := arg :: old.drop 1 }
  let restore : Act Unit := modify fun w => { w with args := old.take 1 ++ w.args.drop 1 }
  let x ← tryCatch a fun f => do restore; throw f
  restore
  return x

def mainName : String := "__main__"

/-- Run a file, or the main module of a directory, as the program itself. -/
def runMain (path : String) : Act Unit := withFirstArg path do
  if ← Act.isDir path then
    let file := Path.joinName path (mainName ++ ".py")
    if ← Act.isFile file then
      modify fun w => { w with searchPath := path :: w.searchPath }
      runFile mainName file
    else throw (.noMain path)
  else runFile mainName path
  forget mainName

/-- Import a module after the packages that it is in, each by `load`, which gets the directories
to look in.  What has been loaded is not loaded again. -/
def importBy (load : Option (List String) → String → Act Unit) :
    List String → List String → Act Unit
  | _, [] => return ()
  | done, part :: rest => do
    let package := ".".intercalate done
    let name := ".".intercalate (done ++ [part])
    let s ← Act.store
    if (s.module? name).isNone then
      if done.isEmpty then load none name
      else
        match (s.module? package).bind packageDirs with
        | some dirs => load (some dirs) name
        | none => throw (.noPackage name package)
    importBy load (done ++ [part]) rest

def callObject (f : Object) (args : List Object) : Act Object := call maxSteps f args []

/-- Call what an attribute of an object is.  A property is computed first. -/
def callAttribute (o : Object) (name : String) (args : List Object) : Act Object := do
  match ← attributeOf o name with
  | .property getter => callObject (← callObject getter [o]) args
  | f => callObject f args

def objectAt (module path : String) : Act Object := do
  match path.splitOn "." with
  | [] => throw (.noModuleAttribute module path)
  | first :: rest =>
    let mut o ← Act.ofExcept ((← Act.store).attr (.module module) first)
    for name in rest do
      o ← attributeOf o name
    return o

def publicVariables (module : String) : Act Bindings := do
  return ((← Act.store).varsOf module).filter fun (n, _) => !n.startsWith "_"

/-- The names of a module that can be called and are not private, with the number of guards
around each. -/
def publicLayers (module : String) : Act (List (String × Nat)) := do
  let s ← Act.store
  return ((← publicVariables module).filter fun (_, o) => s.isCallable o).map fun (n, o) =>
    (n, s.layers maxDepth o)

def setInModule (module name : String) (o : Object) : Act Unit := do
  let s ← Act.store
  match s.module? module with
  | some m => Act.setStore (s.setVar m.frame name o)
  | none => throw (.noModule module)

end QualityGate.Program
