/-
Syntax trees of modules.

A tree is a labelled node with a span of the text and a list of subtrees.  The label says which
construct the node is and holds what is not itself a tree: names, operators, literal values.
A part that consists of several trees (the body of a loop, the arguments of a call) is a node
labelled `group`, and an optional part that is missing is a node labelled `absent`, so a construct
always has the same number of subtrees; the comment at a label lists them.
-/
namespace QualityGate.Source

/-- A stretch of the text: lines count from one, columns count bytes from zero. -/
structure Span where
  line : Nat
  col : Nat
  endLine : Nat
  endCol : Nat
  deriving DecidableEq, Repr, Inhabited

/-- The value of a literal.  A number that is not an integer keeps its digits and its exponent. -/
inductive Literal where
  | none
  | bool (b : Bool)
  | ellipsis
  | int (n : Nat)
  | decimal (digits : Nat) (exponent : Int)
  | imaginary (digits : Nat) (exponent : Int)
  | text (s : String)
  | bytes (bs : List UInt8)
  deriving DecidableEq, Repr

inductive BinaryOp where
  | add | sub | mul | matMul | div | mod | pow | shiftLeft | shiftRight | bitOr | bitXor | bitAnd
  | floorDiv
  deriving DecidableEq, Repr

inductive UnaryOp where
  | invert | not | plus | minus
  deriving DecidableEq, Repr

inductive CompareOp where
  | eq | ne | lt | le | gt | ge | is | isNot | member | notMember
  deriving DecidableEq, Repr

inductive BoolOp where
  | and | or
  deriving DecidableEq, Repr

inductive ParamKind where
  | positionalOnly
  | ordinary
  | variadic
  | keywordOnly
  | keywords
  deriving DecidableEq, Repr

inductive Label where
  -- structure
  | module                                        -- the statements
  | group                                         -- any number of trees
  | absent                                        -- nothing
  -- statements
  | functionDef (name : String) (isAsync : Bool)  -- params, body, decorators, result
  | classDef (name : String)                      -- bases, keywords, body, decorators
  | ret                                           -- value
  | delete                                        -- the targets
  | assign                                        -- targets, value
  | augAssign (op : BinaryOp)                     -- target, value
  | annAssign                                     -- target, type, value
  | forLoop (isAsync : Bool)                      -- target, iterable, body, else
  | whileLoop                                     -- test, body, else
  | ifStmt                                        -- test, body, else
  | withStmt (isAsync : Bool)                     -- items, body
  | matchStmt                                     -- subject, cases
  | raise                                         -- exception, cause
  | tryStmt (grouped : Bool)                      -- body, handlers, else, finally
  | assert                                        -- test, message
  | importNames (names : List (String × Option String))
  | importFrom (name : Option String) (names : List (String × Option String)) (level : Nat)
  | global (names : List String)
  | nonlocal (names : List String)
  | exprStmt                                      -- value
  | pass
  | break
  | continue
  -- expressions
  | boolOp (op : BoolOp)                          -- the operands
  | walrus                                        -- target, value
  | binary (op : BinaryOp)                        -- left, right
  | unary (op : UnaryOp)                          -- operand
  | lambda                                        -- params, body
  | conditional                                   -- test, then, else
  | dict                                          -- key, value, key, value, …
  | set                                           -- the elements
  | listComp                                      -- element, clauses
  | setComp                                       -- element, clauses
  | dictComp                                      -- key, value, clauses
  | generator                                     -- element, clauses
  | await                                         -- value
  | yield                                         -- value
  | yieldFrom                                     -- value
  | compare (ops : List CompareOp)                -- the operands
  | call                                          -- function, arguments, keywords
  | formatted (conversion : Option Char)          -- value, format
  | joined                                        -- the parts
  | literal (value : Literal)
  | attribute (name : String)                     -- value
  | subscript                                     -- value, index
  | starred                                       -- value
  | name (id : String)
  | list                                          -- the elements
  | tuple                                         -- the elements
  | slice                                         -- lower, upper, step
  -- parts
  | params                                        -- the parameters
  | param (kind : ParamKind) (name : String)      -- type, default
  | keyword (name : Option String)                -- value
  | clause (isAsync : Bool)                       -- target, iterable, conditions
  | handler (name : Option String)                -- type, body
  | withItem                                      -- value, target
  | matchCase                                     -- pattern, guard, body
  -- patterns
  | patValue                                      -- value
  | patSingleton (value : Literal)
  | patSequence                                   -- the elements
  | patMapping (rest : Option String)             -- key, pattern, key, pattern, …
  | patClass (keywords : List String)             -- class, positional, by keyword
  | patStar (name : Option String)
  | patAs (name : Option String)                  -- pattern
  | patOr                                         -- the alternatives
  deriving DecidableEq, Repr

inductive Tree where
  | node (label : Label) (span : Span) (children : List Tree)


instance : Inhabited Tree := ⟨.node .absent default []⟩

namespace Tree

def label : Tree → Label
  | node l _ _ => l

def span : Tree → Span
  | node _ s _ => s

def children : Tree → List Tree
  | node _ _ ts => ts

/-- The `i`-th subtree; an absent one if there are fewer. -/
def child (t : Tree) (i : Nat) : Tree :=
  t.children.getD i (node .absent default [])

def missing : Tree := node .absent default []

def many (ts : List Tree) : Tree := node .group default ts

def isPresent (t : Tree) : Bool := t.label ≠ .absent

def toOption (t : Tree) : Option Tree := if t.isPresent then some t else none

mutual

/-- The number of constructs inside each other.  A part that consists of several trees is no
construct of its own. -/
def height : Tree → Nat
  | node l _ ts =>
    match l with
    | .absent => 0
    | .group => heightIn ts
    | _ => heightIn ts + 1

def heightIn : List Tree → Nat
  | [] => 0
  | t :: ts => max (height t) (heightIn ts)

end

mutual

def size : Tree → Nat
  | node _ _ ts => sizeIn ts + 1

def sizeIn : List Tree → Nat
  | [] => 0
  | t :: ts => size t + sizeIn ts

end

/-- How an expression is named in a complaint about its use as a target. -/
def describe (t : Tree) : String :=
  match t.label with
  | .attribute _ => "attribute"
  | .subscript => "subscript"
  | .starred => "starred"
  | .name _ => "name"
  | .list => "list"
  | .tuple => "tuple"
  | .lambda => "lambda"
  | .call => "function call"
  | .boolOp _ | .binary _ | .unary _ => "expression"
  | .generator => "generator expression"
  | .yield | .yieldFrom => "yield expression"
  | .await => "await expression"
  | .listComp => "list comprehension"
  | .setComp => "set comprehension"
  | .dictComp => "dict comprehension"
  | .dict => "dict literal"
  | .set => "set display"
  | .joined | .formatted _ => "f-string expression"
  | .literal .none => "None"
  | .literal (.bool true) => "True"
  | .literal (.bool false) => "False"
  | .literal .ellipsis => "ellipsis"
  | .literal _ => "literal"
  | .compare _ => "comparison"
  | .conditional => "conditional expression"
  | .walrus => "named expression"
  | _ => "expression"

end Tree

end QualityGate.Source
