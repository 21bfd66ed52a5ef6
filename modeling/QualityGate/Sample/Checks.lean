/-
Sample scripts that are checked by other programs, and how the results are shown.
-/
import QualityGate.Sample.Records
import QualityGate.Session

namespace QualityGate.Sample

def checkedScripts : List (String × String) := [
  ("valid_script.py", "\n" ++ Text.ofLines [
    "# This is a valid Python script",
    "def hello():",
    "    print(\"Hello, World!\")",
    "",
    "",
    "if __name__ == \"__main__\":",
    "    hello()"]),
  ("invalid_indentation.py", "\n" ++ Text.ofLines [
    "# This script has indentation issues",
    "def hello():",
    "  print(\"Hello, World!\")  # Inconsistent indentation",
    "",
    "",
    "if __name__ == \"__main__\":",
    "    hello()"]),
  ("missing_whitespace.py", "\n" ++ Text.ofLines [
    "# This script has whitespace issues",
    "def hello():",
    "    result=1+2  # Missing spaces around operators",
    "    print(f\"1+2=\x7bresult\x7d\")",
    "",
    "",
    "if __name__==\"__main__\":  # Missing spaces around ==",
    "    hello()"])]

/-- Write a script into a directory, without blanks around it and with one line end behind it, and
give its path.  A failure is reported and passed on. -/
def writeScript (name content : String) (dir : Path) : Act String :=
  Act.recover (do
    Act.makeDirs dir
    let path := (dir.child name).text
    Act.writeText path (Text.trim content ++ "\n")
    return path)
    fun f => do
      Act.errorLine s!"Error creating test script {name}: {f.message}"
      throw f

/-- Check the style of a script by another program: whether it passes, and what is said. -/
def checkStyle (path : String) : Act (Bool × String) :=
  Act.recover (do
    let (code, out, err) ← Act.start ["python", "-m", "flake8", path]
    return (code = 0, out ++ err))
    fun f => return (false, f.message)

def ruleOf (c : Char) (n : Nat) : String := String.ofList (List.replicate n c)

def showResult (name passed output : Value) : Act Unit := do
  let bar := ruleOf '=' 80
  Act.printLine s!"\n{bar}"
  Act.printLine s!"Validating: {name.shown}"
  Act.printLine bar
  if passed.truthy then Act.printLine "✅ Validation passed!"
  else
    Act.printLine "❌ Validation failed with the following issues:"
    Act.printLine (ruleOf '-' 40)
    Act.printLine (← Act.ofExcept (tidy output)).shown
  Act.printLine s!"\n{bar}\n"

def checkScripts : Act Unit :=
  Act.withTempDir "spyq_test_" fun dir => do
    for (name, content) in checkedScripts do
      let path ← writeScript name content dir
      let (passed, output) ← checkStyle path
      showResult (.text path) (.bool passed) (.text output)
    Act.printLine "\n🎉 All validation examples completed!"

/-- Check a script by the tool itself, started as another program. -/
def checkByTool (path : String) : Act Bool := do
  let ended ← tryCatch (some <$> Act.start ["spyq", "validate", path]) fun f =>
    match f with
    | .file ⟨.missing, _⟩ => return none
    | f => throw f
  match ended with
  | none =>
    Act.printLine "Error: 'spyq' command not found. Make sure SPYQ is installed."
    return false
  | some (code, out, err) =>
    if code = 0 then
      Act.printLine s!"✅ Validation passed for {path}"
      Act.printLine out
      return true
    Act.printLine s!"❌ Validation failed for {path}"
    Act.printLine s!"Error: {err}"
    return false

def refuseWith (line : String) : Act Unit := do
  Act.printLine line
  throw (.exit (.int 1))

/-- Check the script that is given as an argument by the tool, and leave with the result. -/
def checkGiven : Act Unit := do
  let args := (← get).args
  match args.drop 1 with
  | [arg] =>
    let path := Path.ofText arg
    if !(← Act.isThere path.text) then refuseWith s!"Error: File '{path.text}' not found"
    if path.ending ≠ ".py" then refuseWith "Error: Only Python (.py) files can be validated"
    throw (.exit (.int (if ← checkByTool path.text then 0 else 1)))
  | _ =>
    let program := args.headD ""
    refuseWith s!"Usage: {program} <script_to_validate.py>"

end QualityGate.Sample
