/-
The files that switch the guard on in a project or for all of Python.
-/
import QualityGate.Text.Lines

namespace QualityGate.Scaffold

/-- The module that switches the guard on for a project and checks single files. -/
def activator : String := Text.ofLines [
  "# quality_guard_activator.py",
  "# Aktywuj Quality Guard lokalnie w projekcie",
  "",
  "import sys",
  "import os",
  "from pathlib import Path",
  "",
  "# Dodaj ścieżkę projektu",
  "project_root = Path(__file__).parent",
  "sys.path.insert(0, str(project_root))",
  "",
  "print(\"🛡️ Quality Guard Activator\")",
  "",
  "try:",
  "    import quality_guard_exceptions",
  "    quality_guard_exceptions.QualityGuardInstaller.install_globally()",
  "    print(\"✅ Quality Guard aktywny dla tego projektu\")",
  "except ImportError as e:",
  "    print(f\"⚠️ Nie można załadować Quality Guard: \x7be\x7d\")",
  "    print(\"💡 Sprawdź czy quality_guard_exceptions.py istnieje\")",
  "except Exception as e:",
  "    print(f\"⚠️ Błąd aktywacji Quality Guard: \x7be\x7d\")",
  "",
  "def activate_for_file(file_path):",
  "    \"\"\"Aktywuje Quality Guard dla konkretnego pliku\"\"\"",
  "    if not os.path.exists(file_path):",
  "        print(f\"❌ Plik \x7bfile_path\x7d nie istnieje\")",
  "        return False",
  "",
  "    print(f\"🔍 Sprawdzanie jakości: \x7bfile_path\x7d\")",
  "",
  "    try:",
  "        import quality_guard_exceptions",
  "        validator = quality_guard_exceptions.QualityGuardValidator()",
  "        violations = validator.analyze_file(file_path)",
  "",
  "        if violations:",
  "            print(f\"❌ Znaleziono \x7blen(violations)\x7d naruszeń:\")",
  "            for violation in violations[:5]:  # Pokaż pierwsze 5",
  "                print(f\"  • \x7bviolation.message\x7d\")",
  "            if len(violations) > 5:",
  "                print(f\"  ... i \x7blen(violations) - 5\x7d więcej\")",
  "            return False",
  "        else:",
  "            print(\"✅ Kod spełnia standardy jakości!\")",
  "            return True",
  "",
  "    except Exception as e:",
  "        print(f\"❌ Błąd walidacji: \x7be\x7d\")",
  "        return False",
  "",
  "if __name__ == \"__main__\":",
  "    if len(sys.argv) > 1:",
  "        file_to_check = sys.argv[1]",
  "        activate_for_file(file_to_check)"]

def runner : String := Text.ofLines [
  "#!/usr/bin/env python3",
  "# run_with_quality.py",
  "# Uruchom swój kod z Quality Guard",
  "",
  "import sys",
  "import os",
  "from pathlib import Path",
  "",
  "def main():",
  "    print(\"🛡️ Quality Guard Runner\")",
  "",
  "    if len(sys.argv) < 2:",
  "        print(\"❌ Użycie: python run_with_quality.py <your_script.py> [args...]\")",
  "        print(\"   Przykład: python run_with_quality.py main.py\")",
  "        sys.exit(1)",
  "",
  "    script_to_run = sys.argv[1]",
  "    script_args = sys.argv[2:]",
  "",
  "    if not os.path.exists(script_to_run):",
  "        print(f\"❌ Plik \x7bscript_to_run\x7d nie istnieje\")",
  "        sys.exit(1)",
  "",
  "    # Aktywuj Quality Guard",
  "    try:",
  "        import quality_guard_activator",
  "        if quality_guard_activator.activate_for_file(script_to_run):",
  "            print(\"🚀 Uruchamianie kodu...\")",
  "",
  "            # Uruchom skrypt",
  "            script_globals = \x7b",
  "                '__name__': '__main__',",
  "                '__file__': os.path.abspath(script_to_run)",
  "            \x7d",
  "",
  "            with open(script_to_run) as f:",
  "                code = f.read()",
  "                exec(code, script_globals)",
  "        else:",
  "            print(\"🚫 Kod nie spełnia standardów jakości - wykonanie przerwane\")",
  "            sys.exit(1)",
  "",
  "    except Exception as e:",
  "        print(f\"❌ Błąd: \x7be\x7d\")",
  "        sys.exit(1)",
  "",
  "if __name__ == \"__main__\":",
  "    main()"]

/-- What Python does at its start so that the guard is always on. -/
def siteStartup : String := Text.ofLines [
  "",
  "# sitecustomize.py - Automatyczna instalacja Quality Guard",
  "import sys",
  "import os",
  "",
  "def install_quality_guard():",
  "    \"\"\"Instaluje Quality Guard automatycznie przy starcie Pythona\"\"\"",
  "    try:",
  "        # Sprawdź czy Quality Guard jest zainstalowany jako pakiet",
  "        import quality_guard_exceptions",
  "        quality_guard_exceptions.QualityGuardInstaller.install_globally()",
  "        print(\"🛡️ Quality Guard aktywny (pakiet)\")",
  "    except ImportError:",
  "        # Sprawdź czy Quality Guard jest w lokalnym projekcie",
  "        if os.path.exists(\"quality_guard_exceptions.py\"):",
  "            sys.path.insert(0, os.getcwd())",
  "            try:",
  "                import quality_guard_exceptions",
  "                quality_guard_exceptions.QualityGuardInstaller.install_globally()",
  "                print(\"🛡️ Quality Guard aktywny (lokalny)\")",
  "            except Exception:",
  "                pass  # Ciche niepowodzenie",
  "",
  "# Automatyczna instalacja",
  "if not hasattr(sys, '_quality_guard_active'):",
  "    install_quality_guard()",
  "    sys._quality_guard_active = True"]

end QualityGate.Scaffold
