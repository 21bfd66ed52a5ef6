/-
What is set up for a user: a file that Python reads at its start, and settings.

The file is opened before its text is filled in, and the template has a field that nothing fills,
so the file is left empty and the installation fails.
-/
import QualityGate.Session
import QualityGate.Text.Template

namespace QualityGate.Scaffold

/-- What Python does at its start, with a field for its version. -/
def startupTemplate : String := Text.ofLines [
  "import sys",
  "import os",
  "import site",
  "",
  "# Dodaj katalog site-packages do ścieżki",
  "site.addsitedir(os.path.expanduser(\"~/.local/lib/python\x7bsys_version\x7d/site-packages\"))",
  "",
  "# Sprawdź, czy nie jest to środowisko wirtualne",
  "if not hasattr(sys, 'real_prefix') and 'VIRTUAL_ENV' not in os.environ:",
  "    try:",
  "        import spyq",
  "        # Sprawdź, czy plik nie jest wykonywany przez samego SPYQ",
  "        if not any('spyq' in str(p).lower() for p in sys.argv):",
  "            spyq.install_import_hook()",
  "    except ImportError as e:",
  "        sys.stderr.write(f\"SPYQ import error: \x7be\x7d\\n\")"]

def userRules : String := "\n".intercalate [
  "\x7b",
  "    \"max_file_lines\": 300,",
  "    \"max_function_lines\": 50,",
  "    \"max_function_params\": 4,",
  "    \"max_nesting_depth\": 4,",
  "    \"require_docstrings\": true,",
  "    \"require_type_hints\": true,",
  "    \"forbid_global_vars\": true,",
  "    \"forbid_bare_except\": true,",
  "    \"forbid_print_statements\": true",
  "\x7d"]

def languageVersion : String := "3.11"

def makeStartup : Act String := do
  let dir := (Location.path (← get).interpreter.userSite).text
  let path := Path.joinName dir "sitecustomize.py"
  Act.makeDirsNamed dir
  Act.writeText path ""
  match Text.fill [("sys_version", languageVersion)] startupTemplate with
  | .ok text => Act.writeText path text
  | .error name => throw (.missingKey (.text name))
  return path

def makeUserSettings : Act String := do
  let dir := ((Location.path (← get).places.home).child ".config/spyq").text
  Act.makeDirsNamed dir
  let path := Path.joinName dir "config.json"
  if !(← Act.pathExists path) then Act.writeText path userRules
  return path

def setUpUser : Act Int :=
  Act.recover
    (do
      let startup ← makeStartup
      let settings ← makeUserSettings
      Act.printLine s!"SPYQ hook zainstalowany: {startup}"
      Act.printLine s!"Domyślna konfiguracja: {settings}"
      return 0)
    fun f => do
      Act.errorLine s!"Błąd podczas instalacji SPYQ: {f.message}"
      return 1

end QualityGate.Scaffold
