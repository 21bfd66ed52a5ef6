/-
Activating the guard in a project, and running programs under it.

A program asks for the module of the guard by its name.  What it gets is the guard itself, nothing,
or another module in its place.  Only such another module can analyze files.
-/
import QualityGate.Files.Resolve
import QualityGate.Guard.Install

namespace QualityGate.Guard

open Program

def moduleName : String := "quality_guard_exceptions"

/-- What is found under the name of the guard's module. -/
inductive Supply where
  | guard
  | missing
  /-- Another module: whether it can be installed, and what it finds in every file. -/
  | other (installs : Bool) (messages : List String)
  deriving DecidableEq, Repr

def Supply.isGuard : Supply → Bool
  | .guard => true
  | _ => false

def Supply.install : Supply → Act Unit
  | .guard => return ()
  | .missing => throw (.noModule moduleName)
  | .other true _ => return ()
  | .other false _ => throw (.raised "RuntimeError" "broken")

/-- What is found in a file.  The guard itself knows no files; once it is installed for all modules
it is put around itself, and then does not end. -/
def Supply.analyze (g : Supply) (installed : Bool) : Act (List String) := do
  match g with
  | .missing => throw (.noModule moduleName)
  | .other _ messages => return messages
  | .guard =>
    if installed then throw .endless
    let w ← get
    let _ ← Act.ofExcept (loadSettings w.disk w.places.here)
    throw (.noAttribute "QualityGuardValidator" "analyze_file")

def maxShown : Nat := 5

/-- Check a file and tell whether it may be run. -/
def activate (g : Supply) (installed : Bool) (path : String) : Act Bool := do
  if !(← Act.pathExists path) then
    Act.printLine s!"❌ Plik {path} nie istnieje"
    return false
  Act.printLine s!"🔍 Sprawdzanie jakości: {path}"
  Act.recover (do
    let messages ← g.analyze installed
    if messages.isEmpty then
      Act.printLine "✅ Kod spełnia standardy jakości!"
      return true
    Act.printLine s!"❌ Znaleziono {messages.length} naruszeń:"
    for m in messages.take maxShown do
      Act.printLine s!"  • {m}"
    if maxShown < messages.length then
      Act.printLine s!"  ... i {messages.length - maxShown} więcej"
    return false)
    fun f => do
      Act.printLine s!"❌ Błąd walidacji: {f.message}"
      return false

/-- Install the guard for a project, and say so. -/
def startProject (g : Supply) : Act Unit := do
  Act.printLine "🛡️ Quality Guard Activator"
  Act.recover (do
    g.install
    Act.printLine "✅ Quality Guard aktywny dla tego projektu")
    fun f => do
      match f with
      | .noModule _ =>
        Act.printLine s!"⚠️ Nie można załadować Quality Guard: {f.message}"
        Act.printLine "💡 Sprawdź czy quality_guard_exceptions.py istnieje"
      | _ => Act.printLine s!"⚠️ Błąd aktywacji Quality Guard: {f.message}"

/-- Install the guard for a project, then check the file that is given as an argument. -/
def startAndCheck (g : Supply) : Act Unit := do
  startProject g
  match (← get).args.drop 1 with
  | [] => return ()
  | path :: _ =>
    let _ ← activate g true path

def giveUp {α : Type} : Act α := throw (.exit (.int 1))

/-- Run a file as the program itself, as a text that has no file of its own. -/
def runPlain (path : String) : Act Unit := do
  let file := (Location.path (Path.resolve (← Act.here) path)).text
  runTextFrom "<string>" mainName file (← Act.readText path)
  forget mainName

/-- Run the program that is given as an argument if the guard lets it pass.  If the guard has not
been installed for the project yet, that is done first. -/
def runUnder (g : Supply) (started : Bool) : Act Unit := do
  Act.printLine "🛡️ Quality Guard Runner"
  match (← get).args.drop 1 with
  | [] =>
    Act.printLine "❌ Użycie: python run_with_quality.py <your_script.py> [args...]"
    Act.printLine "   Przykład: python run_with_quality.py main.py"
    giveUp
  | path :: _ =>
    if !(← Act.pathExists path) then
      Act.printLine s!"❌ Plik {path} nie istnieje"
      giveUp
    Act.recover (do
      if !started then startProject g
      if ← activate g (!started) path then
        Act.printLine "🚀 Uruchamianie kodu..."
        runPlain path
      else
        Act.printLine "🚫 Kod nie spełnia standardów jakości - wykonanie przerwane"
        giveUp)
      fun f => do
        Act.printLine s!"❌ Błąd: {f.message}"
        giveUp

/-- Install the guard for all modules of a project, and say so. -/
def startModules (g : Supply) : Act Unit := do
  match g with
  | .guard => Act.printLine "🛡️ Quality Guard aktywny dla tego projektu"
  | g =>
    let f : Failure := match g with
      | .other .. => .noImport "enforce_quality" moduleName "unknown location"
      | _ => .noModule moduleName
    Act.printLine s!"⚠️ Nie można załadować Quality Guard: {f.message}"
    Act.printLine "💡 Upewnij się, że wszystkie zależności są zainstalowane"

/-! ## The package of the guard -/

def packageNames : List String := [
  "QualityGuardException", "MissingTestException", "MissingDocumentationException",
  "ComplexityException", "FunctionTooLongException", "require_tests", "require_docs",
  "enforce_quality", "QualityGuardValidator", "QualityConfig", "AutoGenerator"]

def packageAuthor : String := "Quality Guard Team"

/-- Import the package of the guard, and tell whether that installed the guard for all modules,
which happens once.  The state tells whether the guard is active. -/
def importPackage (complete : Bool) : ActWith Bool Bool := do
  if !complete then throw (.noModule s!"core.{moduleName}")
  if ← ActWith.state then return false
  ActWith.setState true
  Act.printLine "🛡️ Quality Guard activated automatically"
  return true

end QualityGate.Guard
