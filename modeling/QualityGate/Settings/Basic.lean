/-
Settings: what a configuration holds.

Settings are pairs of a key and a value in the order in which the keys came first.  A key read
from a file is nearly always a text; since fields may also be given as a list of pairs, it can be
any value that is not a collection.
-/
import QualityGate.Failure

namespace QualityGate

inductive Key where
  | text (s : String)
  | null
  | bool (b : Bool)
  | int (n : Int)
  | float (x : Float)
  deriving Inhabited

namespace Key

def toValue : Key → Value
  | text s => .text s
  | null => .null
  | bool b => .bool b
  | int n => .int n
  | float x => .float x

def ofValue? : Value → Option Key
  | .null => some null
  | .bool b => some (bool b)
  | .int n => some (int n)
  | .float x => some (float x)
  | .text s => some (text s)
  | .list _ => none
  | .object _ => none

def truthNumber (b : Bool) : Int := if b then 1 else 0

def same : Key → Key → Bool
  | text s, text t => s == t
  | null, null => true
  | bool a, bool b => a == b
  | int m, int n => m == n
  | float x, float y => x == y
  | bool a, int n => truthNumber a == n
  | int m, bool b => m == truthNumber b
  | bool a, float y => Float.ofInt (truthNumber a) == y
  | float x, bool b => x == Float.ofInt (truthNumber b)
  | int m, float y => Float.ofInt m == y
  | float x, int n => x == Float.ofInt n
  | _, _ => false

def fileName : Key → String
  | text s => s
  | null => "null"
  | bool true => "true"
  | bool false => "false"
  | int n => toString n
  | float x => Number.floatText x

end Key

abbrev Settings := List (Key × Value)

namespace Settings

def ofFields (fs : List (String × Value)) : Settings := fs.map fun (k, v) => (.text k, v)

def find? (key : Key) : Settings → Option Value
  | [] => none
  | (k, v) :: rest => if k.same key then some v else find? key rest

def get? (s : Settings) (name : String) : Option Value := find? (.text name) s

def set (key : Key) (v : Value) : Settings → Settings
  | [] => [(key, v)]
  | (k, w) :: rest => if k.same key then (k, v) :: rest else (k, w) :: set key v rest

def setFields (s : Settings) (fs : List (String × Value)) : Settings :=
  fs.foldl (fun s (k, v) => set (.text k) v s) s

def pairElements : Value → Option (List Value)
  | .list vs => some vs
  | .text s => some (s.toList.map fun c => .text (String.singleton c))
  | .object fs => some (fs.map fun (k, _) => .text k)
  | _ => none

/-- Take over fields given as a list of pairs, from the `index`-th on.  What was taken over before
a failure stays. -/
def takePairs (s : Settings) (index : Nat) : List Value → Settings × Option Failure
  | [] => (s, none)
  | v :: vs =>
    match pairElements v with
    | none => (s, some (.misuse (.notSequence index)))
    | some [k, w] =>
      match Key.ofValue? k with
      | some key => takePairs (set key w s) (index + 1) vs
      | none => (s, some (.misuse (.unhashable k.kindName)))
    | some ws => (s, some (.notPair index ws.length))

/-- Take over the fields of a value: those of an object, or the pairs of a list. -/
def update (s : Settings) : Value → Settings × Option Failure
  | .object fs => (s.setFields fs, none)
  | .list vs => takePairs s 0 vs
  | .text t => takePairs s 0 (t.toList.map fun c => .text (String.singleton c))
  | v => (s, some (.misuse (.notIterable v.kindName)))

def toValue (s : Settings) : Value := .object (s.map fun (k, v) => (k.fileName, v))

end Settings

/-- What a check is configured with: settings, or a value that was given in their place. -/
inductive Config where
  | settings (s : Settings)
  | other (v : Value)
  deriving Inhabited

namespace Config

def ofValue : Value → Config
  | .object fs => .settings (Settings.ofFields fs)
  | v => .other v

/-- The value of a key; a default if it is not set.  Only settings can be asked. -/
def get (c : Config) (name : String) (default : Value) : Except Failure Value :=
  match c with
  | .settings s => .ok ((s.get? name).getD default)
  | .other v => .error (.noAttribute v.kindName "get")

end Config

end QualityGate
