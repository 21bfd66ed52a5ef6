/-
Refusals and violations that are made by hand, from the values of their fields.
-/
import QualityGate.Failure

namespace QualityGate

/-- The value of each parameter in a call that makes a new object.  The object itself is the first
parameter; `optional` holds the parameters that need not be given. -/
def fieldValues (kind : String) (required : List String) (optional : List (String × Value))
    (args : List Value) (named : List (String × Value)) :
    Except Failure (List (String × Value)) :=
  let params : List Program.Parameter :=
    ("self" :: required).map (fun n => { name := n }) ++
      optional.map fun (n, _) => { name := n, hasDefault := true }
  match Program.bind params (.null :: args) named with
  | .error m => .error (.misuse (.misfit s!"{kind}.__init__" m))
  | .ok bound => .ok <| (bound.drop 1).map fun (n, b) =>
    match b with
    | .given v => (n, v)
    | _ => (n, (optional.lookup n).getD .null)

def fieldValue (fields : List (String × Value)) (name : String) : Value :=
  (fields.lookup name).getD .null

namespace Guard

def Kind.ofName? (s : String) : Option Kind :=
  [quality, missingTest, missingDocumentation, complexity, functionTooLong,
    unauthorizedFunction].find? (·.name = s)

def Kind.required : Kind → List String
  | quality => ["violations"]
  | complexity => ["function_name", "complexity", "max_complexity", "file_path", "line_number"]
  | functionTooLong => ["function_name", "lines", "max_lines", "file_path", "line_number"]
  | _ => ["function_name", "file_path", "line_number"]

def Kind.optional : Kind → List (String × Value)
  | missingDocumentation => [("doc_type", .text "docstring")]
  | _ => []

def Kind.violations (k : Kind) (fields : List (String × Value)) :
    Except Failure (List Violation) :=
  let get := fieldValue fields
  let name := get "function_name"
  let file := get "file_path"
  let line := get "line_number"
  match k with
  | quality =>
    match get "violations" with
    | .list (v :: _) => .error (.noAttribute v.kindName "level")
    | _ => .ok []
  | missingTest =>
    match file with
    | .text path => .ok [Guard.missingTest name path line]
    | other => .error (.misuse (.notPath other.kindName))
  | missingDocumentation => .ok [Guard.missingDocumentation name file line (get "doc_type")]
  | complexity => .ok [tooComplex name (get "complexity") (get "max_complexity") file line]
  | functionTooLong => .ok [tooLong name (get "lines") (get "max_lines") file line]
  | unauthorizedFunction => .ok [unauthorized name file line]

def Kind.make (k : Kind) (args : List Value) : Except Failure (String × List Violation) := do
  let fields ← fieldValues k.name k.required k.optional args []
  let vs ← k.violations fields
  return ((Failure.ofViolations k vs).message, vs)

def levelOf (v : Value) : Except Failure Level :=
  match v with
  | .text s => ((Level.ofName? s).map Except.ok).getD (.error (.noLevel v))
  | _ => .error (.noLevel v)

def Violation.ofFields (named : List (String × Value)) : Except Failure Violation := do
  let level ←
    match named.lookup "level" with
    | some v => levelOf v
    | none => pure .error
  let fields ← fieldValues "QualityViolation" ["rule_name", "message", "suggestion", "level"]
    [("file_path", .text ""), ("line_number", .int 0), ("function_name", .text ""),
      ("context", .null)] [] named
  let get := fieldValue fields
  return {
    rule := get "rule_name", message := get "message", suggestion := get "suggestion"
    level := level, file := get "file_path", line := get "line_number"
    function := get "function_name", context := get "context" }

def reportOn (violations : List (List (String × Value))) : Except Failure String := do
  let vs ← violations.mapM Violation.ofFields
  match Failure.ofViolations .quality vs with
  | .violated _ _ => return (Failure.ofViolations .quality vs).message
  | f => throw f

end Guard

def Conventions.resultFields (named : List (String × Value)) :
    Except Failure (List (String × Value)) :=
  fieldValues "QualityCheckResult" ["passed", "message"]
    [("severity", .text "error"), ("line", .null), ("col", .null)] [] named

/-- The fields of an error about a source that is made by hand, the last of which is how it is
shown. -/
def Limits.errorFields (args : List Value) : Except Failure (List (String × Value)) := do
  let fields ← fieldValues "ValidationError" ["message"] [("line", .int 0), ("col", .int 0)] args []
  return fields ++ [("str", .text (fieldValue fields "message").shown)]

end QualityGate
