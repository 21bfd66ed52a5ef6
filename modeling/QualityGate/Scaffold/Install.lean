/-
Installing the guard: as a package, at the start of Python, or in one project.

An installer knows the directory of the project and whether that holds the files of the guard
itself.  A local installation among those files goes to a subdirectory instead and stays there.
-/
import QualityGate.Scaffold.Activation
import QualityGate.Scaffold.Package
import QualityGate.Scaffold.Samples
import QualityGate.Session
import QualityGate.Text.Blank

namespace QualityGate.Scaffold

structure Installer where
  root : Path
  configFile : Path
  isSource : Bool
  deriving Inhabited

/-- The names of which one in a directory tells that it holds the files of the guard. -/
def sourceMarks : List String := [
  "quality_guard_exceptions.py", "setup_quality_guard.py", "core/", "wrappers/", "config/"]

def isSourceDir (d : Disk) (here : Location) (root : Path) : Bool :=
  sourceMarks.any fun mark => d.pathExists here (root.child mark).text

def Installer.new : Act Installer := do
  let w ← get
  let root := Location.path w.places.here
  return ⟨root, root.child "quality-guard.json", isSourceDir w.disk w.places.here root⟩

abbrev Installing := ActWith Installer

namespace Installer

open ActWith (state setState)

def line (length : Nat) : String := String.ofList (List.replicate length '=')

def say : List String → Act Unit
  | [] => return ()
  | s :: rest => do
    Act.printLine s
    say rest

/-! ## Files -/

def makePackageScript : Act Unit := Act.writeText "setup.py" packageScript

def makePackageProject : Act Unit := Act.writeText "pyproject.toml" packageProject

def makeActivator : Act Unit := Act.writeText "quality_guard_activator.py" activator

def makeRunner : Act Unit := Act.writeText "run_with_quality.py" runner

def makeSamples : Act Unit := do
  Act.printLine "🎨 Tworzenie plików demonstracyjnych..."
  Act.makeDirsNamed "src"
  Act.makeDirsNamed "tests"
  Act.writeText "main.py" badSample
  Act.writeText "src/good_example.py" goodSample
  Act.writeText "tests/test_good_example.py" sampleTests
  say [
    "  ✅ main.py (z problemami jakości)",
    "  ✅ src/good_example.py (dobry przykład)",
    "  ✅ tests/test_good_example.py (testy)"]

/-! ## As a package -/

def installHere : Act Bool := do
  let command := (← get).interpreter.executable :: ["-m", "pip", "install", "-e", "."]
  let (code, out, err) ← Act.start command
  if code = 0 then
    say [
      "✅ Instalacja zakończona!",
      "\n📋 Użycie:",
      "import quality_guard  # Automatycznie aktywuje Quality Guard",
      "# lub",
      "from quality_guard import require_tests, require_docs",
      "",
      "@require_tests",
      "@require_docs",
      "def my_function():",
      "    pass"]
    return true
  let reason := (Failure.programFailed command code).message
  say [s!"❌ Błąd instalacji: {reason}", s!"Output: {out}", s!"Error: {err}"]
  return false

/-- Install the guard as a package; this needs the files of the guard. -/
def asPackage : Installing Bool := do
  let i ← state
  say ["📦 OPCJA 1: Instalacja jako pakiet pip", line 50]
  if !i.isSource then
    say [
      "❌ Błąd: Nie znaleziono plików źródłowych Quality Guard",
      "💡 Uruchom ten skrypt w katalogu z plikami Quality Guard"]
    return false
  if !(← Act.pathExists (i.root.child "setup.py").text) then
    Act.printLine "📝 Tworzenie setup.py..."
    makePackageScript
  if !(← Act.pathExists (i.root.child "pyproject.toml").text) then
    Act.printLine "📝 Tworzenie pyproject.toml..."
    makePackageProject
  Act.printLine "🚀 Instalacja pakietu..."
  installHere

/-! ## At the start of Python -/

/-- Let Python switch the guard on at its start. -/
def atStart : Act Bool := do
  say ["🌍 OPCJA 2: Instalacja przez sitecustomize.py", line 50]
  let path := ((Location.path (← get).interpreter.site).child "sitecustomize.py").text
  Act.printLine s!"📝 Tworzenie {path}..."
  if ← Act.pathExists path then
    Act.printLine "⚠️  sitecustomize.py już istnieje, dodaję do istniejącego pliku"
    Act.appendText path ("\n\n# Quality Guard Auto-Install\n" ++ siteStartup)
  else Act.writeText path siteStartup
  say [
    "✅ Instalacja zakończona!",
    "\n📋 Efekt:",
    "• Quality Guard będzie automatycznie aktywny przy każdym uruchomieniu Pythona",
    "• Działa dla wszystkich projektów w tym środowisku",
    "• Nie wymaga zmian w kodzie projektów"]
  return true

/-! ## In one project -/

/-- The files of the guard that a project gets, each with its name there. -/
def localFiles : List (String × String) := [
  ("quality_guard_exceptions.py", "core/quality_guard_exceptions.py"),
  ("quality-config.json", "config/quality-config.json"),
  ("python-quality-wrapper.py", "wrappers/python-quality-wrapper.py"),
  ("nodejs-quality-wrapper.js", "wrappers/nodejs-quality-wrapper.js")]

/-- Go to the subdirectory for samples; the directory before is the answer. -/
def enterSamples : Installing Path := do
  let i ← state
  say [
    "ℹ️  Jesteś już w katalogu źródłowym Quality Guard",
    "🔄 Tworzenie kopii dla demonstracji..."]
  let dir := i.root.child "demo_project"
  Act.makeDir dir.text
  let old ← Act.here
  Act.enter dir.text
  setState { i with root := dir }
  Act.printLine s!"📁 Praca w katalogu demo: {dir.text}"
  return Location.path old

/-- Copy files of the guard into a project; one that cannot be copied is reported. -/
def copyLocal (source root : Path) : List (String × String) → Act Unit
  | [] => return ()
  | (name, path) :: rest => do
    let source' := source.child path
    let target := root.child name
    if ← Act.pathExists source'.text then
      Act.recover
        (do
          Act.copyFile source' target
          Act.printLine s!"  ✅ {name}")
        fun f => Act.printLine s!"  ⚠️ Nie można skopiować {name}: {f.message}"
    else Act.printLine s!"  ❌ Brak pliku źródłowego: {path}"
    copyLocal source root rest

def inProject : Installing Bool := do
  let i ← state
  say ["📁 OPCJA 3: Instalacja lokalna w projekcie", line 50]
  let source ← if i.isSource then enterSamples else pure i.root
  Act.printLine "📂 Kopiowanie plików Quality Guard..."
  copyLocal source (← state).root localFiles
  makeActivator
  makeRunner
  say [
    "✅ Instalacja zakończona!",
    "\n📋 Użycie:",
    "python run_with_quality.py main.py",
    "# lub po ustawieniu aliasu:",
    "python main.py  # automatycznie z Quality Guard"]
  return true

/-! ## Instructions -/

def sampleInstructions : List String := [
  "\n🎮 INSTRUKCJE DEMO:",
  line 30,
  "1. Przetestuj zły kod:",
  "   python run_with_quality.py main.py",
  "   (powinien pokazać naruszenia jakości)",
  "",
  "2. Przetestuj dobry kod:",
  "   python run_with_quality.py src/good_example.py",
  "   (powinien przejść pomyślnie)",
  "",
  "3. Uruchom testy:",
  "   python -m pytest tests/ -v",
  "",
  "4. Sprawdź konkretny plik:",
  "   python quality_guard_activator.py main.py"]

def finalInstructions : List String := [
  "\n🎉 INSTALACJA ZAKOŃCZONA!",
  line 60,
  "📋 Następne kroki:",
  "1. Restart terminala (jeśli użyto opcji 2)",
  "2. Przetestuj instalację:",
  "   python -c \"print('🛡️ Quality Guard test')\"",
  "3. Uruchom swój kod - Quality Guard będzie aktywny!"]

def troubleInstructions : List String := [
  "\n🔧 ROZWIĄZYWANIE PROBLEMÓW:",
  line 40,
  "Jeśli instalacja nie powiodła się:",
  "1. Sprawdź uprawnienia do zapisu",
  "2. Uruchom z sudo (dla opcji sitecustomize)",
  "3. Sprawdź czy Python >= 3.7",
  "4. Sprawdź czy pip jest zainstalowany"]

/-! ## Asking the user -/

inductive Choice where
  | package
  | start
  | project
  | samples
  | all
  deriving DecidableEq, Repr

def Choice.ofAnswer? (answer : String) : Option Choice :=
  match Text.trim answer with
  | "1" => some .package
  | "2" => some .start
  | "3" => some .project
  | "4" => some .samples
  | "5" => some .all
  | _ => none

def install : Choice → Installing Bool
  | .package => asPackage
  | .start => atStart
  | .project => inProject
  | .samples => do
    say ["🎨 DEMO + INSTALACJA LOKALNA", line 40]
    makeSamples
    let done ← inProject
    if done then say sampleInstructions
    return done
  | .all => do
    Act.printLine "🚀 MEGA INSTALACJA - wszystkie opcje!"
    let a ← asPackage
    let b ← atStart
    let c ← inProject
    makeSamples
    Act.printLine "🎉 Wszystkie opcje zainstalowane!"
    return a || b || c

def question : String := "Wybierz opcję (1-5): "

def complaint : String := "❌ Nieprawidłowy wybór, spróbuj ponownie"

/-- Ask the user until there is a choice.  The first argument bounds the number of answers. -/
def askChoice : Nat → Act Choice
  | 0 => throw .endOfInput
  | n + 1 => do
    match Choice.ofAnswer? (← Act.ask question) with
    | some c => return c
    | none =>
      Act.printLine complaint
      askChoice n

def farewell : String := "\n\n👋 Instalacja przerwana"

/-- Ask the user for a choice; an interruption ends the program. -/
def choose : Act Choice := do
  tryCatch (askChoice ((← get).input.length + 1)) fun
    | .interrupted => do
      Act.printLine farewell
      throw (.exit (.int 1))
    | f => throw f

/-- What is shown before the first question. -/
def greeting (isSource : Bool) : List String :=
  ["🛡️ QUALITY GUARD - INTERAKTYWNA INSTALACJA", line 60, ""] ++
  (if isSource then ["ℹ️  Wykryto katalog źródłowy Quality Guard", ""] else []) ++ [
    "Wybierz opcję instalacji:",
    "",
    "1. 📦 Pakiet pip (zalecane) - zainstaluj jako pakiet Python",
    "2. 🌍 sitecustomize.py - automatyczne dla środowiska",
    "3. 📁 Lokalna w projekcie - tylko dla tego projektu",
    "4. 🎨 Demo + lokalna instalacja - pokaż przykłady",
    "5. 🚀 Wszystkie opcje (mega instalacja)",
    ""]

def installChosen (c : Choice) : Installing Unit := do
  let done ← install c
  say (if done then finalInstructions else troubleInstructions)

def interactive : Installing Unit := do
  say (greeting (← state).isSource)
  installChosen (← choose)

/-! ## From outside -/

def run {α : Type} (a : Installing α) : Act α := do ActWith.runFrom (← new) a

def byOption : String → Installing Unit
  | "--pip" => do let _ ← asPackage
  | "--site" => do let _ ← atStart
  | "--local" => do let _ ← inProject
  | "--demo" => do
    makeSamples
    let _ ← inProject
  | "--all" => do
    let _ ← asPackage
    let _ ← atStart
    let _ ← inProject
    makeSamples
  | _ => Act.printLine "Options: --pip, --site, --local, --demo, --all"

/-- Install as the arguments say; without an option the user is asked. -/
def byArguments : Act Unit := do
  let args := (← get).args.drop 1
  let first := args.headD ""
  if first = "--help" || first = "-h" then
    say [
      "Usage: spyq setup [path] [--force]",
      "\nOptions:",
      "  path     Path to the project directory (default: current directory)",
      "  --force  Overwrite existing files"]
  else if args.any (·.startsWith "--") then run (byOption first)
  else run interactive

/-- Install the guard in the project at a path, with an installer for the current directory. -/
def setUp (path : String) : Act Bool :=
  Act.recover
    (do
      let i ← new
      let old := Location.path (← Act.here)
      Act.enter path
      let done ← ActWith.runFrom i inProject
      Act.enter old.text
      return done)
    fun f => do
      Act.errorLine s!"Error setting up Quality Guard: {f.message}"
      return false

end Installer

end QualityGate.Scaffold
