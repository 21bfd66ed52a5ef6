/-
A scope in which the rules hold, and a demonstration of the guard.
-/
import QualityGate.Guard.Generate

namespace QualityGate.Guard

/-- A scope with its rules.  Nothing is checked by entering or leaving it. -/
structure Scope where
  settings : Settings
  checked : Settings
  found : List Violation := []

def openScope (d : Disk) (here : Location) (path : String := settingsFile) :
    Except Failure Scope := do
  let s ← loadSettings d here path
  return { settings := s, checked := s }

/-- Show what the guard can do: open a scope, then draft a test for a documented function. -/
def demonstrate : Act Unit := do
  let w ← get
  let _ ← Act.ofExcept (openScope w.disk w.places.here)
  let _ ← Act.ofExcept (loadSettings w.disk w.places.here)
  writeTest "my_function" "quality_guard_exceptions" "tests"

end QualityGate.Guard
