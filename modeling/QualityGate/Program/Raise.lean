/-
Making and raising exceptions.
-/
import QualityGate.Program.Show

namespace QualityGate.Program

def typeError {α : Type} (message : String) : Except Failure α :=
  .error (.raised "TypeError" message)

/-- The exception that decides which arguments by name one takes, and these arguments. -/
def namedArguments? (kind : String) : Option (String × List String) :=
  if inFamily "ImportError" kind then some ("ImportError", ["name", "path"])
  else if inFamily "NameError" kind then some ("NameError", ["name"])
  else if kind = "AttributeError" then some (kind, ["name", "obj"])
  else none

def checkNamed (kind : String) (named : List (String × Object)) : Except Failure Unit :=
  match namedArguments? kind with
  | none => if named.isEmpty then .ok () else typeError s!"{kind}() takes no keyword arguments"
  | some (owner, known) =>
    match named.find? fun (k, _) => !known.contains k with
    | some (k, _) => typeError s!"'{k}' is an invalid keyword argument for {owner}()"
    | none => .ok ()

def isException : Object → Bool
  | .exception _ _ => true
  | _ => false

def makeException (kind : String) (args : List Object) (named : List (String × Object)) :
    Except Failure Object := do
  checkNamed kind named
  if inFamily "BaseExceptionGroup" kind then throw (.unsupported "exception group")
  match kind, args with
  | "OSError", .int n :: _ :: more =>
    let found := if more.length ≤ 3 then systemException? n else none
    return .exception (found.getD kind) args
  | _, _ => return .exception kind args

def raising (s : Store) : Object → Failure
  | .exception "SystemExit" [] => .exit .null
  | .exception "SystemExit" [x] => .exit (x.toValueWith fun o => .text (s.shown o))
  | .exception "SystemExit" xs =>
    .exit (.list (Object.toValuesWith (fun o => .text (s.shown o)) xs))
  | .exception "KeyboardInterrupt" [] => .interrupted
  | .exception kind xs => .raised kind (s.exceptionText kind xs)
  | _ => .raised "TypeError" "exceptions must derive from BaseException"

end QualityGate.Program
