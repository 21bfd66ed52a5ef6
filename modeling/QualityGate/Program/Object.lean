/-
Objects of running modules.

Functions, classes, instances and modules have an identity: they are numbers or names that refer
to a `Store`.  All other objects are values.
-/
import QualityGate.Number.Complex
import QualityGate.Source.Tree
import QualityGate.Value

namespace QualityGate.Program

open Source (Tree)

inductive Object where
  | null
  | bool (b : Bool)
  | int (n : Int)
  | float (x : Float)
  | complex (z : Number.Complex)
  | text (s : String)
  | bytes (bs : List UInt8)
  | ellipsis
  | tuple (xs : List Object)
  | list (xs : List Object)
  | set (xs : List Object)
  | dict (fields : List (Object × Object))
  | function (id : Nat)
  | cls (id : Nat)
  | inst (id : Nat)
  | method (self function : Object)
  /-- A function or class of the language, by its module and its name. -/
  | builtin (module name : String)
  | module (name : String)
  | curried (function : Object) (args : List Object)
  | staticMethod (function : Object)
  | classMethod (function : Object)
  | property (getter : Object)
  | exception (kind : String) (args : List Object)
  | other (kind : String)

instance : Inhabited Object := ⟨.null⟩

/-- Variables with their values, in the order in which they were set first. -/
abbrev Bindings := List (String × Object)

namespace Bindings

def set (name : String) (x : Object) : Bindings → Bindings
  | [] => [(name, x)]
  | (n, y) :: rest => if n = name then (n, x) :: rest else (n, y) :: set name x rest

def erase (bs : Bindings) (name : String) : Bindings := bs.filter fun (n, _) => n ≠ name

end Bindings

/-- The kinds of guard that can be put around a function. -/
inductive Fence where
  | tests
  | docs
  /-- Calls need a function without violations. -/
  | quality
  | logging
  deriving DecidableEq, Repr

/-- A definition together with what it refers to. -/
structure Closure where
  params : Tree
  body : List Tree
  defaults : Bindings
  /-- The frames of the functions around the definition, innermost first. -/
  scopes : List Nat
  globals : Nat
  file : String
  line : Nat
  /-- Does a call only make a coroutine or a generator? -/
  deferred : Option String := none

inductive Code where
  | closure (c : Closure)
  /-- Check a function, then call it. -/
  | fence (kind : Fence) (inner : Object)

structure Function where
  name : String
  fullName : String
  module : String
  doc : Object
  code : Code
  wrapped : Option Object := none
  attributes : Bindings := []

structure Class where
  name : String
  fullName : String
  module : String
  bases : List Object
  attributes : Bindings
  guarded : Bool := false

structure Module where
  file : String
  frame : Nat

structure Store where
  frames : Array Bindings := #[]
  functions : Array Function := #[]
  classes : Array Class := #[]
  instances : Array (Nat × Bindings) := #[]
  modules : List (String × Module) := []
  raised : Option Object := none
  deriving Inhabited

namespace Store

def newFrame (s : Store) (b : Bindings) : Nat × Store :=
  (s.frames.size, { s with frames := s.frames.push b })

def frame (s : Store) (i : Nat) : Bindings := s.frames.getD i []

def setVar (s : Store) (i : Nat) (name : String) (x : Object) : Store :=
  { s with frames := s.frames.modify i (Bindings.set name x) }

def newFunction (s : Store) (f : Function) : Object × Store :=
  (.function s.functions.size, { s with functions := s.functions.push f })

def newClass (s : Store) (c : Class) : Object × Store :=
  (.cls s.classes.size, { s with classes := s.classes.push c })

def newInstance (s : Store) (c : Nat) : Object × Store :=
  (.inst s.instances.size, { s with instances := s.instances.push (c, []) })

def module? (s : Store) (name : String) : Option Module := s.modules.lookup name

def varsOf (s : Store) (name : String) : Bindings :=
  ((s.module? name).map fun m => s.frame m.frame).getD []

end Store

namespace Object

def ofValue : Value → Object
  | .null => null
  | .bool b => bool b
  | .int n => int n
  | .float x => float x
  | .text s => text s
  | .list vs => list (ofValues vs)
  | .object fs => dict (ofFields fs)
where
  ofValues : List Value → List Object
    | [] => []
    | v :: vs => ofValue v :: ofValues vs
  ofFields : List (String × Value) → List (Object × Object)
    | [] => []
    | (k, v) :: fs => (text k, ofValue v) :: ofFields fs

end Object

end QualityGate.Program
