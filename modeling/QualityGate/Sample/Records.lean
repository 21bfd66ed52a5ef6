/-
Sample functions on records of users and on numbers.

A record is an object with a few fields.  It is tidied up: names are trimmed and written with
capital letters, addresses are written in small letters.  `call` calls a sample function by its
name, and complains about arguments that do not fit.
-/
import QualityGate.Number.Plain
import QualityGate.Session
import QualityGate.Text.Blank
import QualityGate.Text.Case

namespace QualityGate.Sample

/-! ## Fields -/

def field (v : Value) (key : String) : Except Failure Value :=
  match v with
  | .object fs =>
    match fs.lookup key with
    | some x => .ok x
    | none => .error (.missingKey (.text key))
  | .list _ => .error (.misuse (.listIndex "str"))
  | .text _ => .error (.misuse (.textIndex "str"))
  | v => .error (.misuse (.notSubscriptable v.kindName))

def onText (operation : String) (f : String → String) : Value → Except Failure Value
  | .text s => .ok (.text (f s))
  | v => .error (.noAttribute v.kindName operation)

/-- A name without the blanks around it, each word with a capital letter. -/
def tidyName : Value → Except Failure Value := onText "strip" fun s => Text.title (Text.trim s)

/-- An address in small letters, without the blanks around it. -/
def tidyAddress : Value → Except Failure Value := onText "lower" fun s => Text.trim (Text.lower s)

def tidy : Value → Except Failure Value := onText "strip" Text.trim

/-! ## Records -/

def requiredFields : List String := ["user_id", "name", "email"]

def buildRecord (user : Value) : Except Failure Value := do
  let id ← field user "user_id"
  let name ← tidyName (← field user "name")
  let email ← tidyAddress (← field user "email")
  return .object [("user_id", id), ("name", name), ("email", email),
    ("status", .text "active"), ("created_at", .text "now")]

def isComplete : Value → Bool
  | .object fs => requiredFields.all fun k => (fs.lookup k).isSome
  | _ => false

/-- The tidy record of a user, or nothing if a required field is lacking. -/
def processRecord (user : Value) : Except Failure Value :=
  if isComplete user then buildRecord user else .ok .null

def contactParams : List String := [
  "user_id", "first_name", "last_name", "email_address", "phone_number", "street_address",
  "city_name", "postal_code", "country_code", "date_of_birth", "preferences", "settings",
  "metadata"]

def requiredContacts : Nat := 8

/-- The fields of the long form that are made from one argument each, in order. -/
def contactFields : List (String × (Value → Except Failure Value)) := [
  ("id", .ok), ("first", tidyName), ("last", tidyName), ("email", tidyAddress), ("phone", tidy),
  ("address", tidy), ("city", tidy), ("postal", tidy), ("country", .ok), ("birth", .ok),
  ("prefs", .ok), ("settings", .ok), ("meta", .ok)]

/-- The long form of a record, or nothing if a required argument is empty. -/
def processContact (args : List Value) : Except Failure Value := do
  if !(args.take requiredContacts).all (·.truthy) then return .null
  let fields ← (contactFields.zip args).mapM fun ((key, make), v) => return (key, ← make v)
  return .object (fields ++
    [("status", .text "active"), ("created", .text "now"), ("updated", .text "now")])

/-! ## Numbers -/

/-- A number as a floating point number; a whole number may be too large for it. -/
def toFloat (n : Int) : Except Failure Float :=
  let x := Number.floatOfInt n
  if x.isFinite then .ok x
  else .error (.raised "OverflowError" "int too large to convert to float")

def whole? : Value → Option Int
  | .int n => some n
  | .bool b => some (if b then 1 else 0)
  | _ => none

def add (a b : Value) : Except Failure Value :=
  match a, whole? a, b, whole? b with
  | _, some m, _, some n => .ok (.int (m + n))
  | .float x, _, .float y, _ => .ok (.float (x + y))
  | .float x, _, _, some n => do return .float (x + (← toFloat n))
  | _, some m, .float y, _ => do return .float ((← toFloat m) + y)
  | _, _, _, _ => .error (.misuse (.badOperands "+" a.kindName b.kindName))

def elements : Value → Except Failure (List Value)
  | .list vs => .ok vs
  | .text s => .ok (s.toList.map fun c => .text (String.singleton c))
  | .object fs => .ok (fs.map fun (k, _) => .text k)
  | v => .error (.misuse (.notIterable v.kindName))

/-- The sum of the elements of a collection, from left to right. -/
def sum (numbers : Value) : Except Failure Value := do
  (← elements numbers).foldlM add (.int 0)

def sampleContact : List Value := [
  .text "123", .text "John", .text "Doe", .text "john@example.com", .text "+1234567890",
  .text "123 Main St", .text "Anytown", .text "12345", .text "US", .text "1990-01-01",
  .object [("theme", .text "dark")], .object [("notifications", .bool true)],
  .object [("source", .text "web")]]

def sampleSum : Except Failure Value := sum (.list ((List.range 5).map fun (i : Nat) => .int (i + 1)))

def showSamples : Act Unit := do
  let contact ← Act.ofExcept (processContact sampleContact)
  Act.printLine s!"Result: {contact.shown}"
  let total ← Act.ofExcept sampleSum
  Act.printLine s!"Sum: {total.shown}"

/-! ## Calls by name -/

structure Function where
  name : String
  params : List String := []
  run : List Value → Except Failure Value

def unary (f : Value → Except Failure Value) (args : List Value) : Except Failure Value :=
  f (args.headD .null)

def nullary (v : Except Failure Value) (_ : List Value) : Except Failure Value := v

def functions : List Function := [
  ⟨"process_user_data", ["user_data"], unary processRecord⟩,
  ⟨"_build_user_record", ["user_data"], unary buildRecord⟩,
  ⟨"calculate_sum", ["numbers"], unary sum⟩,
  ⟨"process_user_data_with_many_parameters_and_complex_logic", contactParams, processContact⟩,
  ⟨"another_function_without_documentation", [], nullary sampleSum⟩,
  ⟨"another_function", [], nullary (add (.int 10) (.int 20))⟩,
  ⟨"helper1", [], nullary (.ok .null)⟩, ⟨"helper2", [], nullary (.ok .null)⟩,
  ⟨"helper3", [], nullary (.ok .null)⟩, ⟨"helper4", [], nullary (.ok .null)⟩,
  ⟨"helper5", [], nullary (.ok .null)⟩]

def Function.call (f : Function) (args : List Value) : Except Failure Value :=
  match Program.bind (f.params.map fun n => { name := n }) args [] with
  | .ok _ => f.run args
  | .error m => .error (.misuse (.misfit f.name m))

def className : String := "ExampleClass"

/-- The methods of the sample class; none of them has a value. -/
def methods : List String :=
  "__init__" :: (List.range 10).map fun (i : Nat) => s!"method{i + 1}"

def callMethod (name : String) : Except Failure Value :=
  if methods.contains name then .ok .null
  else if name = "value" then .error (.misuse (.notCallable "int"))
  else .error (.noAttribute className name)

def useObject (names : List String) : Except Failure Value := do
  return .list (.int 0 :: (← names.mapM callMethod))

def call (name : String) (args : List Value) : Except Failure Value :=
  match functions.find? (·.name = name) with
  | some f => f.call args
  | none => .error (.noName name)

end QualityGate.Sample
