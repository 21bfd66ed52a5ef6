/-
The settings of the guard.
-/
import QualityGate.Settings.Store

namespace QualityGate.Guard

def defaults : Settings := Settings.ofFields [
  ("require_tests", .bool true),
  ("require_docstrings", .bool true),
  ("require_architecture_docs", .bool false),
  ("max_function_lines", .int 50),
  ("max_complexity", .int 10),
  ("test_patterns", .list [.text "tests/test_*.py", .text "test_*.py", .text "*_test.py"]),
  ("doc_files", .list [.text "README.md", .text "docs/API.md", .text "docs/architecture.md",
    .text "ARCHITECTURE.md"]),
  ("enforcement_level", .text "error"),
  ("auto_generate", .object [("tests", .bool true), ("docs", .bool true)])]

def settingsFile : String := "quality-guard.json"

/-- The settings with what a file holds laid over the defaults.  A file that is not there or is
not JSON is passed over. -/
def loadSettings (d : Disk) (here : Location) (path : String := settingsFile) :
    Except Failure Settings :=
  if !d.pathExists here path then .ok defaults
  else
    match d.readText here path with
    | .error e => .error e
    | .ok text =>
      match Json.parse text with
      | .error f => if f.fault.blamesText then .ok defaults else .error (.notReadable f.fault)
      | .ok v =>
        match defaults.update v with
        | (s, none) => .ok s
        | (_, some e) => .error e

end QualityGate.Guard
