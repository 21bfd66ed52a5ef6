/-
Drafts of tests and of documentation for a function.
-/
import QualityGate.Program.Load

namespace QualityGate.Guard

open Program

def testLines (name module : String) : List String :=
  [s!"# Auto-generated test for {name}", "import pytest", s!"from {module} import {name}", "",
    s!"def test_{name}():", s!"    \"\"\"Test for {name} function\"\"\"",
    "    # TODO: Implement proper test", "    # Arrange", "    # Act",
    s!"    result = {name}()  # Adjust parameters as needed", "    # Assert",
    "    assert result is not None", "", s!"def test_{name}_edge_cases():",
    s!"    \"\"\"Test edge cases for {name}\"\"\"", "    # TODO: Add edge case tests", "    pass"]

def testDraft (name module : String) : String :=
  String.join ((testLines name module).map (· ++ "\n"))

/-- Write the draft of a test for a function behind a file, or to a new one, unless the file mentions
the test already. -/
def addDraft (name target draft : String) : Act Unit := do
  if ← Act.pathExists target then
    let old ← Act.readText target
    if Text.holds old s!"test_{name}" then return ()
    Act.appendText target ("\n\n" ++ draft)
  else Act.writeText target draft
  Act.printLine s!"✅ Wygenerowano test dla {name} w {target}"

/-- Write the draft of a test for a function of a module into a directory, unless there is one
already. -/
def writeTest (name module dir : String) : Act Unit := do
  Act.makeDirsNamed dir
  addDraft name (Path.joinName dir s!"test_{module}.py") (testDraft name module)

/-- Write the draft of a test for an object into a directory, unless there is one already. -/
def generateTest (o : Object) (dir : String) : Act Unit := do
  let w ← get
  let name := w.store.shown (← Act.ofExcept (w.store.attr o "__name__"))
  let file ← Act.ofExcept (w.store.fileOf w.places.tool o)
  writeTest name (Path.ofText file).stem dir

def docDraft (name : String) (params : List String) : String :=
  let args := "\n".intercalate (params.map fun p => s!"            {p}: Description of {p}")
  s!"\"\"\"\n        Brief description of {name}.\n\n        Args:\n{args}\n\n" ++
  "        Returns:\n            Description of return value\n\n        Raises:\n" ++
  "            Exception: Description of when exception is raised\n        \"\"\""

def generateDoc (o : Object) : Act Unit := do
  let s ← Act.store
  if (s.docOf? o).isSome then return ()
  let params ← Act.ofExcept (s.paramNames maxDepth o)
  let name := s.shown (← Act.ofExcept (s.attr o "__name__"))
  Act.printLine s!"💡 Sugerowana dokumentacja dla {name}:"
  Act.printLine (docDraft name params)

end QualityGate.Guard
