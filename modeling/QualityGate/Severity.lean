/-
How much something that was found weighs.
-/
namespace QualityGate

inductive Severity where
  | error
  | warning
  deriving DecidableEq, Repr

namespace Severity

def name : Severity → String
  | error => "error"
  | warning => "warning"

def title : Severity → String
  | error => "ERROR"
  | warning => "WARNING"

/-- The severity that counts: to a strict reader a warning is an error. -/
def counted (strict : Bool) (s : Severity) : Severity := if strict then error else s

end Severity

end QualityGate
