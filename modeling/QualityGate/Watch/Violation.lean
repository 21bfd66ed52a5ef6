/-
What the watcher finds wrong with a file.
-/
import QualityGate.Severity
import QualityGate.Value

namespace QualityGate.Watch

/-- What is wrong.  Limits are given as they are shown. -/
inductive Finding where
  | fileTooLarge (lines : Nat) (limit : String)
  | functionTooLong (name : String) (lines : Nat) (limit : String)
  | scriptFunctionTooLong (lines : Nat) (limit : String)
  | undocumented (name : String)
  | tooComplex (name : String) (complexity : Nat) (limit : String)
  | untested (name file : String)
  deriving DecidableEq, Repr

namespace Finding

def code : Finding → String
  | fileTooLarge .. => "FILE_TOO_LARGE"
  | functionTooLong .. => "FUNCTION_TOO_LONG"
  | scriptFunctionTooLong .. => "FUNCTION_TOO_LONG"
  | undocumented _ => "MISSING_DOCUMENTATION"
  | tooComplex .. => "HIGH_COMPLEXITY"
  | untested .. => "MISSING_TEST"

def severity : Finding → Severity
  | undocumented _ => .warning
  | untested .. => .warning
  | _ => .error

def function? : Finding → Option String
  | functionTooLong name _ _ => some name
  | undocumented name => some name
  | tooComplex name _ _ => some name
  | untested name _ => some name
  | _ => none

def message : Finding → String
  | fileTooLarge lines limit => s!"File has {lines} lines (max: {limit})"
  | functionTooLong name lines limit => s!"Function '{name}' has {lines} lines (max: {limit})"
  | scriptFunctionTooLong lines limit => s!"Function has {lines} lines (max: {limit})"
  | undocumented name => s!"Function '{name}' lacks documentation"
  | tooComplex name n limit => s!"Function '{name}' has complexity {n} (max: {limit})"
  | untested name _ => s!"Function '{name}' has no unit test"

def suggestion : Finding → String
  | fileTooLarge .. => "Split file into smaller modules"
  | functionTooLong .. => "Break function into smaller functions"
  | scriptFunctionTooLong .. => "Break function into smaller functions"
  | undocumented _ => "Add docstring with description, parameters, and return value"
  | tooComplex .. => "Simplify function logic or break into smaller functions"
  | untested name file => s!"Create test_{name}() in tests/test_{file}.py"

end Finding

/-- A finding and its line; line zero is the file as a whole. -/
structure Violation where
  line : Nat
  finding : Finding
  deriving DecidableEq, Repr

def Violation.summary (v : Violation) : Value := .object [
  ("type", .text v.finding.code), ("line", .int v.line),
  ("severity", .text v.finding.severity.name), ("message", .text v.finding.message)]

def Violation.toValue (v : Violation) : Value := .object <|
  [("type", .text v.finding.code), ("line", .int v.line), ("message", .text v.finding.message),
    ("suggestion", .text v.finding.suggestion), ("severity", .text v.finding.severity.name)] ++
    ((v.finding.function?.map fun n => [("functionName", Value.text n)]).getD [])

end QualityGate.Watch
