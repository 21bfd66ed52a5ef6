/-
Bringing the guard into a project that is there already.

Files of the guard are copied, a module that switches it on is made, the main file of the project
imports that module, and some common files are made if they are missing.
-/
import QualityGate.Session
import QualityGate.Text.Search

namespace QualityGate.Scaffold

def importActivator : String := Text.ofLines [
  "# quality_guard_activator.py",
  "# Automatycznie aktywuje Quality Guard w projekcie",
  "",
  "import sys",
  "import os",
  "from pathlib import Path",
  "",
  "# Załaduj Quality Guard",
  "try:",
  "    from quality_guard_exceptions import QualityGuardInstaller",
  "    QualityGuardInstaller.install_globally()",
  "    print(\"🛡️ Quality Guard aktywny dla tego projektu\")",
  "except ImportError as e:",
  "    print(f\"⚠️ Nie można załadować Quality Guard: \x7be\x7d\")",
  "    print(\"💡 Uruchom: python setup_quality_guard.py --local\")",
  "",
  "# Auto-import - wszystkie kolejne importy będą sprawdzane"]

def ignoredFiles : String := Text.ofLines [
  "# Python",
  "__pycache__/",
  "*.py[cod]",
  "*$py.class",
  "*.so",
  ".Python",
  "build/",
  "develop-eggs/",
  "dist/",
  "downloads/",
  "eggs/",
  ".eggs/",
  "lib/",
  "lib64/",
  "parts/",
  "sdist/",
  "var/",
  "wheels/",
  "*.egg-info/",
  ".installed.cfg",
  "*.egg",
  "",
  "# Quality Guard",
  "quality-violations.log",
  "quality-report-*.html",
  ".quality_guard/",
  "",
  "# IDE",
  ".vscode/",
  ".idea/",
  "*.swp",
  "*.swo",
  "",
  "# OS",
  ".DS_Store",
  "Thumbs.db"]

def makeRules : String := Text.ofLines [
  "# Makefile dla projektu z Quality Guard",
  "",
  ".PHONY: setup dev test quality clean",
  "",
  "setup:",
  "\tpip install -r requirements.txt",
  "\tpython setup_quality_guard.py --local",
  "",
  "dev:",
  "\tpython main.py",
  "",
  "test:",
  "\tpython -m pytest tests/ -v",
  "",
  "quality:",
  "\tpython setup_quality_guard.py --check-project",
  "",
  "clean:",
  "\tfind . -type f -name \"*.pyc\" -delete",
  "\tfind . -type d -name \"__pycache__\" -delete",
  "\trm -f quality-violations.log",
  "\trm -f quality-report-*.html",
  "",
  "help:",
  "\t@echo \"Dostępne komendy:\"",
  "\t@echo \"  setup   - Instalacja zależności i Quality Guard\"",
  "\t@echo \"  dev     - Uruchomienie w trybie deweloperskim\"",
  "\t@echo \"  test    - Uruchomienie testów\"",
  "\t@echo \"  quality - Sprawdzenie jakości kodu\"",
  "\t@echo \"  clean   - Czyszczenie plików tymczasowych\""]

def emptyRequirements : String := Text.ofLines [
  "# Quality Guard requirements",
  "# (Quality Guard nie wymaga dodatkowych pakietów)"]

def copiedFiles : List String := [
  "core/quality_guard_exceptions.py", "core/setup_quality_guard.py", "config/quality-config.json"]

/-- The files of which the first that is there is the main file of a project. -/
def mainFiles : List String := ["main.py", "app.py", "__main__.py", "run.py"]

def activatorName : String := "quality_guard_activator"

def importLine : String := "import quality_guard_activator  # Aktywuje Quality Guard"

/-- The absolute path of a text; nothing is taken out of it. -/
def absolute (s : String) : Act Path := return (Location.path (← Act.here)).join (Path.ofText s)

def copyGuard (project guard : Path) : List String → Act Unit
  | [] => return ()
  | file :: rest => do
    let source := guard.child file
    let name := (Path.ofText file).name
    if ← Act.isThere source.text then
      Act.copyFile source (project.child name)
      Act.printLine s!"  ✅ Skopiowano: {name}"
    else Act.printLine s!"  ❌ Brak pliku: {file}"
    copyGuard project guard rest

/-- Write a text to the file that it was read from.  What was read can be written. -/
def writeBack (path text : String) : Act Unit := do
  Act.changeDisk ((← Act.disk).writeText (← Act.here) path text)

/-- Let the first of some files that is there import the module that switches the guard on. -/
def activateMain (project : Path) : List String → Act Unit
  | [] => return ()
  | name :: rest => do
    let path := (project.child name).text
    if ← Act.isThere path then
      let text ← Act.readText path
      if !Text.holds text activatorName then
        writeBack path (importLine ++ "\n" ++ text)
        Act.printLine s!"  ✅ Zaktualizowano: {name}"
    else activateMain project rest

def makeIfMissing (project : Path) (name text : String) : Act Unit := do
  let path := (project.child name).text
  if !(← Act.isThere path) then
    Act.writeText path text
    Act.printLine s!"  ✅ Utworzono: {name}"

def integrate (project : String := ".") (guard : String := "../quality-guard") : Act Unit := do
  let project ← absolute project
  let guard ← absolute guard
  Act.printLine s!"🔧 Integracja Quality Guard z projektem: {project.text}"
  copyGuard project guard copiedFiles
  Act.writeText (project.child "quality_guard_activator.py").text importActivator
  Act.printLine "  ✅ Utworzono: quality_guard_activator.py"
  activateMain project mainFiles
  makeIfMissing project "requirements.txt" emptyRequirements
  makeIfMissing project ".gitignore" ignoredFiles
  makeIfMissing project "Makefile" makeRules
  Act.printLine "\n🎉 Integracja zakończona!"
  Act.printLine "\n📋 Następne kroki:"
  Act.printLine "1. python setup_quality_guard.py --local"
  Act.printLine "2. python main.py  # (Quality Guard będzie aktywny)"
  Act.printLine "3. make quality    # (sprawdź jakość kodu)"

end QualityGate.Scaffold
