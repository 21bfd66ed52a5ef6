/-
Operators and comparisons.

Whole numbers are exact.  A whole number that meets another kind of number becomes one of that kind,
but comparisons round neither.
-/
import QualityGate.Number.Bits
import QualityGate.Program.Elements
import QualityGate.Text.Search

namespace QualityGate.Program

open Source (BinaryOp CompareOp)

def opSign : BinaryOp → String
  | .add => "+" | .sub => "-" | .mul => "*" | .matMul => "@" | .div => "/" | .mod => "%"
  | .pow => "** or pow()" | .shiftLeft => "<<" | .shiftRight => ">>" | .bitOr => "|"
  | .bitXor => "^" | .bitAnd => "&" | .floorDiv => "//"

def updateSign : BinaryOp → String
  | .pow => "**="
  | op => opSign op ++ "="

/-! ## Numbers -/

def byZero {α : Type} (what : String) : Except Failure α :=
  .error (.raised "ZeroDivisionError" what)

def tooLarge {α : Type} (what : String) : Except Failure α := .error (.raised "OverflowError" what)

def floatPower (x y : Float) : Except Failure Object :=
  let isFinite (x : Float) : Bool := !x.isNaN && !x.isInf
  let z := Float.pow x y
  if x == 0.0 && y < 0.0 then byZero "0.0 cannot be raised to a negative power"
  else if isFinite x && isFinite y && x < 0.0 && y != y.floor then .error (.unsupported "complex power")
  else if z.isInf && isFinite x && isFinite y then tooLarge "(34, 'Numerical result out of range')"
  else .ok (.float z)

def wholeToFloat (n : Int) : Except Failure Float :=
  let x := Number.floatOfInt n
  if x.isInf then tooLarge "int too large to convert to float" else .ok x

def shiftCount (n : Int) : Except Failure Nat :=
  if n < 0 then .error (.raised "ValueError" "negative shift count") else .ok n.toNat

/-- An operator on whole numbers; nothing if there is none. -/
def intOp (op : BinaryOp) (a b : Int) : Option (Except Failure Object) :=
  match op with
  | .add => some (.ok (.int (a + b)))
  | .sub => some (.ok (.int (a - b)))
  | .mul => some (.ok (.int (a * b)))
  | .div => some <|
    if b = 0 then byZero "division by zero"
    else
      let x := Number.quotient a b
      if x.isInf then tooLarge "integer division result too large for a float" else .ok (.float x)
  | .floorDiv => some <|
    if b = 0 then byZero "integer division or modulo by zero" else .ok (.int (Int.fdiv a b))
  | .mod => some <|
    if b = 0 then byZero "integer modulo by zero" else .ok (.int (Int.fmod a b))
  | .pow => some <|
    if 0 ≤ b then .ok (.int (Int.pow a b.toNat))
    else do floatPower (← wholeToFloat a) (← wholeToFloat b)
  | .shiftLeft => some ((shiftCount b).map fun n => .int (Number.shiftLeft a n))
  | .shiftRight => some ((shiftCount b).map fun n => .int (Number.shiftRight a n))
  | .bitAnd => some (.ok (.int (Number.andBits a b)))
  | .bitOr => some (.ok (.int (Number.orBits a b)))
  | .bitXor => some (.ok (.int (Number.xorBits a b)))
  | .matMul => none

/-- An operator on numbers that are not whole; nothing if there is none. -/
def floatOp (op : BinaryOp) (x y : Float) : Option (Except Failure Object) :=
  match op with
  | .add => some (.ok (.float (x + y)))
  | .sub => some (.ok (.float (x - y)))
  | .mul => some (.ok (.float (x * y)))
  | .div => some (if y == 0.0 then byZero "float division by zero" else .ok (.float (x / y)))
  | .floorDiv => some <|
    if y == 0.0 then byZero "float floor division by zero"
    else .ok (.float (Number.floorDivide x y).1)
  | .mod => some <|
    if y == 0.0 then byZero "float modulo" else .ok (.float (Number.floorDivide x y).2)
  | .pow => some (floatPower x y)
  | _ => none

def complexOp (op : BinaryOp) (x y : Number.Complex) : Option (Except Failure Object) :=
  match op with
  | .add => some (.ok (.complex (x.add y)))
  | .sub => some (.ok (.complex (x.sub y)))
  | .mul => some (.ok (.complex (x.mul y)))
  | .div => some <|
    match x.div? y with
    | some z => .ok (.complex z)
    | none => byZero "complex division by zero"
  | .pow => some (.error (.unsupported "complex power"))
  | _ => none

def truthOp : BinaryOp → Object → Object → Option Object
  | .bitAnd, .bool a, .bool b => some (.bool (a && b))
  | .bitOr, .bool a, .bool b => some (.bool (a || b))
  | .bitXor, .bool a, .bool b => some (.bool (a != b))
  | _, _, _ => none

/-- Is an object a number that is whole and too large for one that is not? -/
def isOutOfRange (o : Object) : Bool :=
  match o with
  | .int n => (Number.floatOfInt n).isInf
  | _ => false

/-- An operator on two numbers; nothing if there is none, or if one of them is no number. -/
def numberOp (op : BinaryOp) (a b : Object) : Option (Except Failure Object) :=
  match truthOp op a b, a.toInt?, b.toInt? with
  | some o, _, _ => some (.ok o)
  | none, some m, some n => intOp op m n
  | none, _, _ => do
    let z ← a.toComplex?
    let w ← b.toComplex?
    let r ← match a.toFloat?, b.toFloat? with
      | some x, some y => floatOp op x y
      | _, _ => complexOp op z w
    return if isOutOfRange a || isOutOfRange b then tooLarge "int too large to convert to float"
      else r

/-! ## Collections -/

def concatOp (s : Store) (a b : Object) : Option (Except Failure Object) :=
  let kind := s.kindName b
  let only (what : String) : Except Failure Object :=
    typeError ("can only concatenate " ++ what ++ " (not \"" ++ kind ++ "\") to " ++ what)
  match a, b with
  | .text x, .text y => some (.ok (.text (x ++ y)))
  | .list x, .list y => some (.ok (.list (x ++ y)))
  | .tuple x, .tuple y => some (.ok (.tuple (x ++ y)))
  | .bytes x, .bytes y => some (.ok (.bytes (x ++ y)))
  | .text _, _ => some (only "str")
  | .list _, _ => some (only "list")
  | .tuple _, _ => some (only "tuple")
  | .bytes _, _ => some (typeError s!"can't concat {kind} to bytes")
  | _, _ => none

def repeated? (n : Nat) : Object → Option Object
  | .text x => some (.text (String.join (List.replicate n x)))
  | .list x => some (.list (List.replicate n x).flatten)
  | .tuple x => some (.tuple (List.replicate n x).flatten)
  | .bytes x => some (.bytes (List.replicate n x).flatten)
  | _ => none

/-- A collection as often as a number says, on whichever side that stands. -/
def repeatOp (s : Store) (a b : Object) : Option (Except Failure Object) :=
  let times (o count : Object) : Option (Except Failure Object) :=
    (repeated? ((count.toInt?.getD 0).toNat) o).map fun r =>
      if count.toInt?.isSome then .ok r
      else typeError s!"can't multiply sequence by non-int of type '{s.kindName count}'"
  (times a b).or (times b a)

def setOp (op : BinaryOp) (a b : Object) : Option Object :=
  let outside (ys xs : List Object) : List Object := xs.filter fun x => !ys.any (·.equal x)
  let inside (ys xs : List Object) : List Object := xs.filter fun x => ys.any (·.equal x)
  let ordered (xs : List Object) : Option Object := some (.set (setOrder false xs))
  match op, a, b with
  | .bitOr, .dict fs, .dict gs => some (.dict (gs.foldl (fun fs (k, v) => setEntry k v fs) fs))
  | .sub, .set xs, .set ys => ordered (outside ys xs)
  | .bitAnd, .set xs, .set ys => ordered (inside ys xs)
  | .bitOr, .set xs, .set ys => ordered (xs ++ outside xs ys)
  | .bitXor, .set xs, .set ys => ordered (outside ys xs ++ outside xs ys)
  | _, _, _ => none

def collectionOp (s : Store) (op : BinaryOp) (a b : Object) : Option (Except Failure Object) :=
  match op, a with
  | .add, _ => concatOp s a b
  | .mul, _ => repeatOp s a b
  | .mod, .text _ | .mod, .bytes _ => some (.error (.unsupported "format"))
  | _, _ => (setOp op a b).map .ok

def applyOp (s : Store) (sign : String) (op : BinaryOp) (a b : Object) : Except Failure Object :=
  ((numberOp op a b).or (collectionOp s op a b)).getD
    (.error (.misuse (.badOperands sign (s.kindName a) (s.kindName b))))

def binaryOp (s : Store) (op : BinaryOp) (a b : Object) : Except Failure Object :=
  applyOp s (opSign op) op a b

/-- The new value of a variable that is changed by an operator. -/
def updateOp (s : Store) (op : BinaryOp) (a b : Object) : Except Failure Object :=
  match op, a with
  | .add, .list xs => (elementsOf s b).map fun ys => .list (xs ++ ys)
  | _, _ => applyOp s (updateSign op) op a b

def sumOf (s : Store) (xs : List Object) : Except Failure Object :=
  xs.foldlM (binaryOp s .add) (.int 0)

/-! ## Comparisons -/

def orderSign : CompareOp → String
  | .lt => "<"
  | .le => "<="
  | .gt => ">"
  | _ => ">="

/-- Does a comparison by size hold for two objects with this order, if they have one? -/
def orderHolds : CompareOp → Option Ordering → Bool
  | .lt, r => r = some .lt
  | .le, r => r = some .lt || r = some .eq
  | .gt, r => r = some .gt
  | _, r => r = some .gt || r = some .eq

def floatOrder (x y : Float) : Option Ordering :=
  if x < y then some .lt else if x == y then some .eq else if y < x then some .gt else none

/-- The order of two objects that have one by themselves, apart from collections: `none` if there
is no such order, `some none` if they are not comparable. -/
def plainOrder (a b : Object) : Option (Option Ordering) :=
  match a, b with
  | .text x, .text y => some (some (compare x y))
  | .bytes x, .bytes y => some (some (if x < y then .lt else if x == y then .eq else .gt))
  | _, _ =>
    match a.toInt?, b.toInt?, a, b with
    | some m, some n, _, _ => some (some (compare m n))
    | some m, none, _, .float y => some (Number.compareWhole m y)
    | none, some n, .float x, _ => some ((Number.compareWhole n x).map Ordering.swap)
    | _, _, .float x, .float y => some (floatOrder x y)
    | _, _, _, _ => none

/-- A comparison of sets by size: is one within the other? -/
def setOrderHolds (op : CompareOp) (xs ys : List Object) : Bool :=
  let within (xs ys : List Object) : Bool := xs.all fun x => ys.any (·.equal x)
  match op with
  | .lt => within xs ys && xs.length < ys.length
  | .le => within xs ys
  | .gt => within ys xs && ys.length < xs.length
  | _ => within ys xs

mutual

def Object.ordered (s : Store) (op : CompareOp) : Object → Object → Except Failure Bool
  | .list xs, .list ys => Object.orderedAll s op xs ys
  | .tuple xs, .tuple ys => Object.orderedAll s op xs ys
  | .set xs, .set ys => .ok (setOrderHolds op xs ys)
  | a, b =>
    match plainOrder a b with
    | some r => .ok (orderHolds op r)
    | none => typeError
      s!"'{orderSign op}' not supported between instances of '{s.kindName a}' and '{s.kindName b}'"

/-- Does a comparison by size hold for two lists?  The first elements that differ decide, or else
the lengths. -/
def Object.orderedAll (s : Store) (op : CompareOp) :
    List Object → List Object → Except Failure Bool
  | [], [] => .ok (orderHolds op (some .eq))
  | [], _ => .ok (orderHolds op (some .lt))
  | _, [] => .ok (orderHolds op (some .gt))
  | x :: xs, y :: ys => if x.equal y then Object.orderedAll s op xs ys else Object.ordered s op x y

end

/-- Are two objects one and the same?  Collections that can be changed never are. -/
def Object.identical : Object → Object → Bool
  | .list _, _ | .set _, _ | .dict _, _ => false
  | .bool a, .bool b => a == b
  | .int a, .int b => a == b
  | .float a, .float b => a == b
  | .complex a, .complex b => a.same b
  | a, b => a.toComplex?.isNone && b.toComplex?.isNone && a.equal b

def memberOf (s : Store) (a b : Object) : Except Failure Bool :=
  match b with
  | .text t =>
    match a with
    | .text x => .ok (Text.holds t x)
    | _ => typeError s!"'in <string>' requires string as left operand, not {s.kindName a}"
  | .bytes bs =>
    match a, a.toInt? with
    | .bytes x, _ => .ok ((List.range (bs.length + 1)).any fun i => x.isPrefixOf (bs.drop i))
    | _, some n =>
      if 0 ≤ n && n < 256 then .ok (bs.any (·.toNat == n.toNat))
      else .error (.raised "ValueError" "byte must be in range(0, 256)")
    | _, none => typeError s!"a bytes-like object is required, not '{s.kindName a}'"
  | .dict fs => (hashable s a).map fun a => fs.any fun (k, _) => k.equal a
  | .set xs =>
    match a with
    | .set _ => .ok false
    | _ => (hashable s a).map fun a => xs.any (·.equal a)
  | .list xs => .ok (xs.any (·.equal a))
  | .tuple xs => .ok (xs.any (·.equal a))
  | _ => .error (.misuse (.notContainer (s.kindName b)))

def compareOp (s : Store) (op : CompareOp) (a b : Object) : Except Failure Bool :=
  match op with
  | .eq => .ok (a.equal b)
  | .ne => .ok !(a.equal b)
  | .is => .ok (a.identical b)
  | .isNot => .ok !(a.identical b)
  | .lt | .le | .gt | .ge => a.ordered s op b
  | .member => memberOf s a b
  | .notMember => (memberOf s a b).map not

end QualityGate.Program
