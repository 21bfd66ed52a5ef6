/-
Constructs that can be run, but hardly mean what was meant.

A literal that is compared by identity, called or indexed is mostly a slip of the pen: a comma is
missing, or another operator was meant.  A `Caution` is one such slip.  A negated comparison counts
as the one that is turned around.
-/
import QualityGate.Source.Tree

namespace QualityGate.Source

/-! ## Kinds -/

inductive Kind where
  | none | bool | int | float | complex | text | bytes | ellipsis | tuple | list | dict | set
  | generator | function
  deriving DecidableEq, Repr

def Kind.name : Kind → String
  | none => "NoneType"
  | bool => "bool"
  | int => "int"
  | float => "float"
  | complex => "complex"
  | text => "str"
  | bytes => "bytes"
  | ellipsis => "ellipsis"
  | tuple => "tuple"
  | list => "list"
  | dict => "dict"
  | set => "set"
  | generator => "generator"
  | function => "function"

def Literal.kind : Literal → Kind
  | none => .none
  | bool _ => .bool
  | ellipsis => .ellipsis
  | int _ => .int
  | decimal .. => .float
  | imaginary .. => .complex
  | text _ => .text
  | bytes _ => .bytes

def Kind.isSequence : Kind → Bool
  | text | bytes | tuple => true
  | _ => false

def literalKind? : Tree → Option Kind
  | .node (.literal v) _ _ | .node (.unary .minus) _ [.node (.literal v) _ _] => some v.kind
  | _ => none

def seenKind? (t : Tree) : Option Kind :=
  (literalKind? t).or <|
    match t.label with
    | .tuple => some .tuple
    | .list | .listComp => some .list
    | .dict | .dictComp => some .dict
    | .set | .setComp => some .set
    | .generator => some .generator
    | .lambda => some .function
    | .joined | .formatted _ => some .text
    | _ => none

/-! ## Cautions -/

inductive Caution where
  | literalIdentity (negated : Bool)
  | calledLiteral (k : Kind)
  | indexedLiteral (k : Kind)
  | badIndex (k index : Kind)
  /-- A test holds in any case. -/
  | alwaysTrue
  deriving DecidableEq, Repr

def Caution.message : Caution → String
  | literalIdentity false => "\"is\" with a literal. Did you mean \"==\"?"
  | literalIdentity true => "\"is not\" with a literal. Did you mean \"!=\"?"
  | calledLiteral k => s!"'{k.name}' object is not callable; perhaps you missed a comma?"
  | indexedLiteral k => s!"'{k.name}' object is not subscriptable; perhaps you missed a comma?"
  | badIndex k index =>
    s!"{k.name} indices must be integers or slices, not {index.name}; perhaps you missed a comma?"
  | alwaysTrue => "assertion is always true, perhaps remove parentheses?"

/-- Is it a literal whose identity means nothing? -/
def isPlainLiteral (t : Tree) : Bool :=
  match literalKind? t with
  | none | some .none | some .bool | some .ellipsis => false
  | some _ => true

/-- The caution for comparisons of a first operand with others. -/
def identityCaution? : Tree → List CompareOp → List Tree → Option Caution
  | a, op :: ops, b :: bs =>
    if (op = .is || op = .isNot) && (isPlainLiteral a || isPlainLiteral b) then
      some (.literalIdentity (op = .isNot))
    else identityCaution? b ops bs
  | _, _, _ => none

def callCaution? (function : Tree) : Option Caution :=
  match seenKind? function with
  | none | some .function => none
  | some k => some (.calledLiteral k)

def indexCautions (value index : Tree) : List Caution :=
  match seenKind? value, seenKind? index with
  | none, _ => []
  | some k, i =>
    if k.isSequence || k = .list then
      match i with
      | none | some .int | some .bool => []
      | some i => [.badIndex k i]
    else if k = .dict then []
    else [.indexedLiteral k]

def assertCaution? (test : Tree) : Option Caution :=
  if test.label = .tuple && !test.children.isEmpty then some .alwaysTrue else none

def oppositeOp? : CompareOp → Option CompareOp
  | .is => some .isNot
  | .isNot => some .is
  | .member => some .notMember
  | .notMember => some .member
  | _ => none

/-- An expression with a negation of a single comparison turned into the opposite comparison. -/
def withoutNegation : Tree → Tree
  | .node (.unary .not) s [t] =>
    let inner := withoutNegation t
    match inner with
    | .node (.compare [op]) _ ts =>
      match oppositeOp? op with
      | some op' => .node (.compare [op']) s ts
      | none => .node (.unary .not) s [inner]
    | inner => .node (.unary .not) s [inner]
  | t => t

end QualityGate.Source
