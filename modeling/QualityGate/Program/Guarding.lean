/-
Guards around functions.

A guarded function is checked each time before it is called.  Guarding keeps the name, the module
and the documentation of what it is put around.
-/
import QualityGate.Conventions
import QualityGate.Guard.Rules
import QualityGate.Program.Parameters
import QualityGate.Session

namespace QualityGate.Program

/-- The documentation of an object, if it is a text that is not empty. -/
def Store.docOf? (s : Store) (o : Object) : Option String :=
  match s.attr? o "__doc__" with
  | some (.text t) => if t.isEmpty then none else some t
  | _ => none

/-- A text of a definition that was asked for, if it is not empty. -/
def given? (v : Value) : Option Value := if v.truthy then some v else none

/-- What the rules look at in an object.  A file and a line that are given count instead of those
of the definition. -/
def subjectOf (o : Object) (file line : Value) : Act Guard.Subject := do
  let w ← get
  let s := w.store
  let source := s.sourceLines w.disk w.places.here w.places.tool o
  let name ← Act.ofExcept (s.attr o "__name__")
  let file ← match given? file with
    | some v => pure v.shown
    | none => Act.ofExcept (s.fileOf w.places.tool o)
  let line ← match given? line with
    | some v => pure v
    | none => Act.ofExcept (source.map fun (_, n) => Value.int n)
  return ⟨s.shown name, s.docOf? o, file, line, source.toOption.map (·.1)⟩

def followRules (s : Guard.Subject) : ActWith Guard.Validator Unit := fun (k, w) =>
  match Guard.applyRules w.disk w.places.here s k with
  | .ok _ k => .ok () (k, w)
  | .error f k => .error f (k, w)

/-- What a validator finds in an object.  What it found in an earlier one is forgotten first. -/
def validate (o : Object) (file line : Value) :
    ActWith Guard.Validator (List Guard.Violation) := do
  ActWith.setState { ← ActWith.state with found := [] }
  let subject ← subjectOf o file line
  followRules subject
  return (← ActWith.state).found

def violationsOf (c : Settings) (o : Object) (file line : Value) : Act (List Guard.Violation) :=
  (validate o file line).runFrom ⟨c, []⟩

def currentViolations (o : Object) : Act (List Guard.Violation) := do
  let w ← get
  let c ← Act.ofExcept (Guard.loadSettings w.disk w.places.here)
  violationsOf c o .null .null

def identify (o : Object) : Act (String × String × Nat) := do
  let w ← get
  let s := w.store
  let name ← Act.ofExcept (s.attr o "__name__")
  let file ← Act.ofExcept (s.fileOf w.places.tool o)
  let (_, line) ← Act.ofExcept (s.sourceLines w.disk w.places.here w.places.tool o)
  return (s.shown name, file, line)

/-- Is it a violation that keeps a function from being called? -/
def isSevere (v : Guard.Violation) : Bool := v.level = .error || v.level = .critical

def isUntested (v : Guard.Violation) : Bool :=
  match v.rule with
  | .text "missing_test" => true
  | _ => false

def conventionSubject (o : Object) : Act Conventions.Subject := do
  let w ← get
  let s := w.store
  let (lines, line) ← Act.ofExcept (s.sourceLines w.disk w.places.here w.places.tool o)
  let documented := ((s.attr? o "__doc__").getD .null).truthy
  let name ←
    if documented && lines.length ≤ Conventions.maxLines then
      pure ((s.attr? o "__name__").getD .null)
    else Act.ofExcept (s.attr o "__name__")
  let params ← Act.ofExcept (s.paramNames maxDepth o)
  return ⟨s.shown name, documented, params, lines, line⟩

def checkFence (kind : Fence) (o : Object) : Act Unit := do
  match kind with
  | .quality =>
    let vs := (← currentViolations o).filter isSevere
    if !vs.isEmpty then throw (.ofViolations .quality vs)
  | .tests =>
    if (← currentViolations o).any isUntested then
      let (name, file, line) ← identify o
      throw (.ofViolations .missingTest [Guard.missingTest (.text name) file (.int line)])
  | .docs =>
    if !Guard.isDocumented ((← Act.store).docOf? o) then
      let (name, file, line) ← identify o
      throw (.ofViolations .missingDocumentation
        [Guard.missingDocumentation (.text name) (.text file) (.int line) (.text "docstring")])
  | .logging =>
    let subject ← conventionSubject o
    for r in Conventions.checks subject do
      if !r.passed then
        Act.logLine "WARNING" s!"Quality issue in {subject.name}: {r.message}"

def fenceModule : Fence → String
  | .logging => "spyq.quality"
  | _ => "quality_guard_exceptions"

/-- The full name of a guard before it takes over that of what it is put around. -/
def fenceName : Fence → String
  | .tests => "require_tests.<locals>.wrapper"
  | .docs => "require_docs.<locals>.wrapper"
  | _ => "enforce_quality.<locals>.wrapper"

def Store.ownAttributes (s : Store) : Object → Bindings
  | .function id => ((s.function? id).map (·.attributes)).getD []
  | .method _ (.function id) => ((s.function? id).map (·.attributes)).getD []
  | .cls id => ((s.class? id).map (·.attributes)).getD []
  | .inst id => ((s.instances[id]?).map (·.2)).getD []
  | _ => []

def Store.guard (s : Store) (kind : Fence) (o : Object) : Object × Store :=
  let textAttr (name default : String) : String :=
    match s.attr? o name with
    | some (.text t) => t
    | _ => default
  s.newFunction {
    name := textAttr "__name__" "wrapper"
    fullName := textAttr "__qualname__" (fenceName kind)
    module := textAttr "__module__" (fenceModule kind)
    doc := (s.attr? o "__doc__").getD .null
    code := .fence kind o
    wrapped := some o
    attributes := s.ownAttributes o }

def guardObject (kind : Fence) (o : Object) : Act Object := do
  let (f, s) := (← Act.store).guard kind o
  Act.setStore s
  return f

end QualityGate.Program
