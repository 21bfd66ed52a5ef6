/-
What a check of a file finds.
-/
import QualityGate.Failure
import QualityGate.Severity

namespace QualityGate.Limits

/-- One finding.  A limit is kept as it was configured. -/
inductive Finding where
  | fileTooLong (lines : Nat) (limit : Value)
  | functionTooLong (name : String) (lines : Int) (limit : Value)
  | tooManyParams (name : String) (count : Nat) (limit : Value)
  | tooDeep (depth : Nat) (limit : Value)
  | notModule (complaint : Source.Complaint)
  | unreadable (e : FileError)

def Finding.message : Finding → String
  | fileTooLong lines limit => s!"File too long ({lines} > {limit.shown} lines)"
  | functionTooLong name lines limit =>
    s!"Function '{name}' is too long ({lines} > {limit.shown} lines)"
  | tooManyParams name count limit =>
    s!"Function '{name}' has too many parameters ({count} > {limit.shown})"
  | tooDeep depth limit =>
    s!"Code nesting too deep (max {limit.shown} levels, found {depth})"
  | notModule c => s!"Syntax error: {c.message}"
  | unreadable e => s!"Could not read file: {e.message}"

/-- A finding and where it is.  A text with a null character is refused without a line. -/
structure Issue where
  finding : Finding
  line : Option Nat := some 0
  col : Int := 0

/-- How much an issue weighs.  Whatever a check finds is an error. -/
def Issue.severity (_ : Issue) : Severity := .error

end QualityGate.Limits
