/-
The elements of collections: all of them, one at a place, or those at several places.
-/
import QualityGate.Program.Raise
import QualityGate.Program.SetOrder

namespace QualityGate.Program

variable {α : Type}

/-! ## All elements -/

def charactersOf (t : String) : List Object := t.toList.map fun c => .text (String.singleton c)

def elements? : Object → Option (List Object)
  | .tuple xs => some xs
  | .list xs => some xs
  | .set xs => some xs
  | .dict fs => some (fs.map (·.1))
  | .text t => some (charactersOf t)
  | .bytes bs => some (bs.map fun b => .int b.toNat)
  | _ => none

def elementsOf (s : Store) (o : Object) : Except Failure (List Object) :=
  match elements? o with
  | some xs => .ok xs
  | none => .error (.misuse (.notIterable (s.kindName o)))

def lengthOf (s : Store) (o : Object) : Except Failure Object :=
  match elements? o with
  | some xs => .ok (.int xs.length)
  | none => .error (.misuse (.noLength (s.kindName o)))

/-! ## Keys -/

mutual

/-- The kind of a part of an object because of which the object cannot be in a set. -/
def Store.unhashable? (s : Store) : Object → Option String
  | .tuple xs => s.unhashableIn? xs
  | o =>
    match o with
    | .list _ | .set _ | .dict _ => some (s.kindName o)
    | _ => none

/-- The first such kind in several objects. -/
def Store.unhashableIn? (s : Store) : List Object → Option String
  | [] => none
  | x :: xs => (s.unhashable? x).or (s.unhashableIn? xs)

end

def hashable (s : Store) (o : Object) : Except Failure Object :=
  match s.unhashable? o with
  | some kind => .error (.misuse (.unhashable kind))
  | none => .ok o

/-- Set the value of a key.  A key that is equal to an earlier one only changes its value. -/
def setEntry (k v : Object) : List (Object × Object) → List (Object × Object)
  | [] => [(k, v)]
  | (k', v') :: fs => if k'.equal k then (k', v) :: fs else (k', v') :: setEntry k v fs

/-- Objects without those that are equal to an earlier one. -/
def distinct : List Object → List Object → List Object
  | done, [] => done.reverse
  | done, x :: xs => distinct (if done.any (·.equal x) then done else x :: done) xs

/-! ## One element -/

/-- The first number that is too large to count places with. -/
def placeLimit : Int := Int.pow 2 63

/-- The element at a place; places below zero count from the end.  `what` names the collection. -/
def elementAt (what : String) (xs : List α) (n : Int) : Except Failure α :=
  if n < -placeLimit || placeLimit ≤ n then
    .error (.raised "IndexError" "cannot fit 'int' into an index-sized integer")
  else
    let i := if n < 0 then n + xs.length else n
    match if i < 0 then none else xs[i.toNat]? with
    | some x => .ok x
    | none => .error (.raised "IndexError" (what ++ "index out of range"))

def subscriptOf (s : Store) (o index : Object) : Except Failure Object :=
  let kind := s.kindName index
  let wrongPlace (what : String) : Except Failure Object :=
    typeError s!"{what} indices must be integers or slices, not {kind}"
  match o, index.toInt? with
  | .list xs, some n => elementAt "list " xs n
  | .tuple xs, some n => elementAt "tuple " xs n
  | .text t, some n => elementAt "string " (charactersOf t) n
  | .bytes bs, some n => (elementAt "" bs n).map fun b => .int b.toNat
  | .list _, none => wrongPlace "list"
  | .tuple _, none => wrongPlace "tuple"
  | .text _, none => .error (.misuse (.textIndex kind))
  | .bytes _, none => wrongPlace "byte"
  | .dict fs, _ => do
    let key ← hashable s index
    match fs.find? fun (k, _) => k.equal key with
    | some (_, v) => return v
    | none => throw (.raised "KeyError" (s.literal key))
  | o, _ => .error (.misuse (.notSubscriptable (s.kindName o)))

/-! ## Elements at several places -/

/-- The first and the last place, and the distance from one to the next. -/
structure Stride where
  lower : Option Int
  upper : Option Int
  step : Int

def Stride.places (r : Stride) (length : Nat) : List Nat :=
  let n : Int := length
  let isBack : Bool := r.step < 0
  let first : Int := if isBack then -1 else 0
  let last : Int := if isBack then n - 1 else n
  let clamp (i : Int) : Int :=
    let i := if i < 0 then i + n else i
    if i < 0 then first else if n ≤ i then last else i
  let start := (r.lower.map clamp).getD (if isBack then last else first)
  let stop := (r.upper.map clamp).getD (if isBack then first else last)
  let gap := if isBack then start - stop else stop - start
  let count := if gap ≤ 0 then 0 else ((gap - 1) / r.step.natAbs + 1).toNat
  (List.range count).map fun (k : Nat) => (start + k * r.step).toNat

def Stride.pick (r : Stride) (xs : List α) : List α :=
  let xs := xs.toArray
  (r.places xs.size).filterMap fun i => xs[i]?

def boundOf : Object → Except Failure (Option Int)
  | .null => .ok none
  | o =>
    match o.toInt? with
    | some n => .ok (some n)
    | none => typeError "slice indices must be integers or None or have an __index__ method"

def strideOf (lower upper step : Object) : Except Failure Stride := do
  let step := (← boundOf step).getD 1
  if step = 0 then throw (.raised "ValueError" "slice step cannot be zero")
  return ⟨← boundOf lower, ← boundOf upper, step⟩

def partOf (s : Store) (o lower upper step : Object) : Except Failure Object :=
  let r := strideOf lower upper step
  match o with
  | .list xs => r.map fun r => .list (r.pick xs)
  | .tuple xs => r.map fun r => .tuple (r.pick xs)
  | .text t => r.map fun r => .text (String.ofList (r.pick t.toList))
  | .bytes bs => r.map fun r => .bytes (r.pick bs)
  | .dict _ => .error (.misuse (.unhashable "slice"))
  | o => .error (.misuse (.notSubscriptable (s.kindName o)))

end QualityGate.Program
