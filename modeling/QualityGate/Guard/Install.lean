/-
Putting guards around the functions of whole modules.
-/
import QualityGate.Program.Load

namespace QualityGate.Guard

open Program

def guardVersion : String := "1.0.0"

/-- The name of the function that imports modules once the guard is installed. -/
def importerName : String := "quality_import"

def isFrom (s : Store) (module : String) (o : Object) : Bool :=
  match s.attr? o "__module__" with
  | some (.text m) => m = module
  | _ => false

/-- Put a guard around everything in a module that can be called, has no private name and was
defined there. -/
def guardModule (module : String) : Act Unit := do
  for (name, o) in ← publicVariables module do
    let s ← Act.store
    if s.isCallable o && isFrom s module o then
      setInModule module name (← guardObject .quality o)

def guardMark : String := "_quality_guard_wrapped"

/-- Put a guard around a function, unless it is marked as guarded. -/
def guardOnce (o : Object) : Act Object := do
  if ((← Act.store).attr? o guardMark).isSome then return o
  let f ← guardObject .quality o
  let s ← Act.store
  match f with
  | .function id =>
    Act.setStore { s with functions := s.functions.modify id fun g =>
      { g with attributes := g.attributes.set guardMark (.bool true) } }
  | _ => pure ()
  return f

def isFunction : Object → Bool
  | .function _ => true
  | _ => false

/-- Put a guard around the functions of a module, each only once.  What goes wrong is printed. -/
def guardFunctionsOf (module : String) : Act Unit :=
  Act.recover (do
    if ((← Act.store).module? module).isNone then throw (.missingKey (.text module))
    for (name, o) in ← publicVariables module do
      let s ← Act.store
      if isFunction o && isFrom s module o then
        setInModule module name (← guardOnce o))
    fun f => Act.printLine s!"⚠️ Błąd podczas opakowywania modułu {module}: {f.message}"

def loadModule (dirs : Option (List String)) (name : String) : Act Unit := do
  match ← findModule dirs name with
  | some (.file path _) => runFile name path
  | some _ => return ()
  | none => throw (.noModule name)

def importModule (name : String) : Act Unit := do
  if !isLibraryModule name then importBy loadModule [] (name.splitOn ".")

/-- Is a file one of the user, that is, neither of the system nor of an installed package? -/
def isUserFile (path : String) : Bool :=
  !path.startsWith "/usr/" && !Text.holds path "site-packages"

def importGuarded (name : String) : Act Unit := do
  importModule name
  let top := (name.splitOn ".").headD ""
  match (← Act.store).module? top with
  | some m => if !m.file.isEmpty && isUserFile m.file then guardModule top
  | none => return ()

end QualityGate.Guard
