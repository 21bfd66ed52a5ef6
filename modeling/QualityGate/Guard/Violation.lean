/-
Violations of the rules that functions are held to, and how they are reported.

The texts of the reports are Polish.  A field of a violation can be any value, since violations
can be made by hand.
-/
import QualityGate.Value.Shown
import QualityGate.Text.Case
import QualityGate.Files.Path

namespace QualityGate.Guard

inductive Level where
  | info
  | warning
  | error
  | critical
  deriving DecidableEq, Repr

def Level.name : Level → String
  | info => "info"
  | warning => "warning"
  | error => "error"
  | critical => "critical"

def Level.ofName? (s : String) : Option Level :=
  [info, warning, error, critical].find? (·.name = s)

def Level.icon : Level → String
  | critical => "🔥"
  | error => "❌"
  | warning => "⚠️"
  | info => "ℹ️"

structure Violation where
  rule : Value
  message : Value
  suggestion : Value
  level : Level
  file : Value := .text ""
  line : Value := .int 0
  function : Value := .text ""
  context : Value := .null

/-- The lines that report a violation; the name of its rule is given in capitals. -/
def Violation.report (v : Violation) (rule : String) : List String :=
  [s!"{v.level.icon} {Text.upper rule}", s!"   📍 {v.file.shown}:{v.line.shown}"] ++
    (if v.function.truthy then [s!"   🔧 Funkcja: {v.function.shown}"] else []) ++
    [s!"   📝 {v.message.shown}", s!"   💡 {v.suggestion.shown}", ""]

/-- The report on several violations.  A rule that is no text has no name: the value comes out. -/
def report (vs : List Violation) : Except Value String := do
  if vs.isEmpty then return "Quality Guard: Unknown violation"
  let parts ← vs.mapM fun v =>
    match v.rule with
    | .text rule => .ok (v.report rule)
    | other => .error other
  return "\n".intercalate <|
    ["🚨 QUALITY GUARD: Kod nie może być uruchomiony", "".pushn '=' 60] ++ parts.flatten ++
      ["🔧 Napraw powyższe problemy i uruchom ponownie"]

inductive Kind where
  | quality
  | missingTest
  | missingDocumentation
  | complexity
  | functionTooLong
  | unauthorizedFunction
  deriving DecidableEq, Repr

def Kind.name : Kind → String
  | quality => "QualityGuardException"
  | missingTest => "MissingTestException"
  | missingDocumentation => "MissingDocumentationException"
  | complexity => "ComplexityException"
  | functionTooLong => "FunctionTooLongException"
  | unauthorizedFunction => "UnauthorizedFunctionException"

def testFileFor (file : String) : String := s!"tests/test_{(Path.ofText file).stem}.py"

def missingTest (name : Value) (file : String) (line : Value) : Violation where
  rule := .text "missing_unit_test"
  message := .text s!"Funkcja '{name.shown}' nie ma testów jednostkowych"
  suggestion := .text s!"Stwórz test w {testFileFor file}"
  level := .error
  file := .text file
  line := line
  function := name

/-- A function has no documentation of some kind. -/
def missingDocumentation (name file line doc : Value) : Violation where
  rule := .text "missing_documentation"
  message := .text s!"Funkcja '{name.shown}' nie ma wymaganej dokumentacji ({doc.shown})"
  suggestion := .text "Dodaj dokumentację opisującą cel, parametry i wartość zwracaną"
  level := .error
  file := file
  line := line
  function := name

def tooComplex (name actual limit file line : Value) : Violation where
  rule := .text "high_complexity"
  message := .text <|
    s!"Funkcja '{name.shown}' ma kompleksność {actual.shown} (maksimum: {limit.shown})"
  suggestion := .text "Podziel funkcję na mniejsze części lub uprość logikę"
  level := .error
  file := file
  line := line
  function := name
  context := .object [("actual_complexity", actual), ("max_complexity", limit)]

def tooLong (name actual limit file line : Value) : Violation where
  rule := .text "function_too_long"
  message := .text s!"Funkcja '{name.shown}' ma {actual.shown} linii (maksimum: {limit.shown})"
  suggestion := .text "Podziel funkcję na mniejsze, bardziej specjalizowane funkcje"
  level := .error
  file := file
  line := line
  function := name
  context := .object [("actual_lines", actual), ("max_lines", limit)]

def unauthorized (name file line : Value) : Violation where
  rule := .text "unauthorized_function"
  message := .text
    s!"Funkcja '{name.shown}' nie jest udokumentowana w architekturze projektu"
  suggestion := .text "Dodaj funkcję do architecture.md lub API.md"
  level := .warning
  file := file
  line := line
  function := name

end QualityGate.Guard
