/-
Dynamic values: what configuration files hold and what commands answer.

Objects keep the order in which their keys came first.
-/
import QualityGate.Number.Shortest

namespace QualityGate

/-- A value of a configuration file or of an answer. -/
inductive Value where
  | null
  | bool (b : Bool)
  | int (n : Int)
  | float (x : Float)
  | text (s : String)
  | list (vs : List Value)
  | object (fields : List (String × Value))
  deriving Inhabited

namespace Value

/-- The fields of an object, in order; none for any other value. -/
def fields : Value → List (String × Value)
  | object fs => fs
  | _ => []

def setField (key : String) (v : Value) : List (String × Value) → List (String × Value)
  | [] => [(key, v)]
  | (k, w) :: rest => if k = key then (k, v) :: rest else (k, w) :: setField key v rest

def update (base changes : List (String × Value)) : List (String × Value) :=
  changes.foldl (fun fs (k, v) => setField k v fs) base

def get? (v : Value) (key : String) : Option Value := v.fields.lookup key

/-- Does a value count as true in a condition? -/
def truthy : Value → Bool
  | null => false
  | bool b => b
  | int n => n ≠ 0
  | float x => x != 0.0
  | text s => !s.isEmpty
  | list vs => !vs.isEmpty
  | object fs => !fs.isEmpty

def kindName : Value → String
  | null => "NoneType"
  | bool _ => "bool"
  | int _ => "int"
  | float _ => "float"
  | text _ => "str"
  | list _ => "list"
  | object _ => "dict"

end Value

end QualityGate
