/-
Looking at objects: their kind, their attributes, and the text that they were defined by.
-/
import QualityGate.Files.Text
import QualityGate.Program.Exception
import QualityGate.Program.Object
import QualityGate.Source.Block
import QualityGate.Source.Encoded
import QualityGate.Source.Parse

namespace QualityGate.Program

open Source (Tree Label)

/-! ## Kinds -/

def classNames : List String :=
  ["int", "str", "float", "bool", "list", "dict", "tuple", "set", "frozenset", "bytes", "object",
    "type", "staticmethod", "classmethod", "property", "range", "enumerate", "zip", "map",
    "filter", "reversed", "super", "complex", "bytearray", "slice", "memoryview"]

def functionNames : List String :=
  ["len", "print", "abs", "min", "max", "sum", "sorted", "any", "all", "isinstance", "issubclass",
    "callable", "getattr", "setattr", "hasattr", "repr", "id", "hash", "iter", "next", "open",
    "input", "ord", "chr", "round", "pow", "divmod", "vars", "dir", "eval", "exec", "compile",
    "globals", "locals", "format", "bin", "hex", "oct", "ascii", "delattr", "breakpoint", "exit",
    "quit", "aiter", "anext", "help", "copyright", "credits", "license", "__import__",
    "__build_class__"]

def isBuiltinClass (module name : String) : Bool :=
  (module = "builtins" && (classNames.contains name || exceptionNames.contains name)) ||
    (module = "functools" && name = "partial") || name = "QualityGuardMeta"

def Store.class? (s : Store) (id : Nat) : Option Class := s.classes[id]?

def Store.function? (s : Store) (id : Nat) : Option Function := s.functions[id]?

def Store.code? (s : Store) (id : Nat) : Option Code := (s.function? id).map Function.code

def Store.instanceClass (s : Store) (id : Nat) : Option Class :=
  (s.instances[id]?).bind fun (c, _) => s.class? c

def Store.kindName (s : Store) : Object → String
  | .null => "NoneType"
  | .bool _ => "bool"
  | .int _ => "int"
  | .float _ => "float"
  | .complex _ => "complex"
  | .text _ => "str"
  | .bytes _ => "bytes"
  | .ellipsis => "ellipsis"
  | .tuple _ => "tuple"
  | .list _ => "list"
  | .set _ => "set"
  | .dict _ => "dict"
  | .function _ => "function"
  | .cls id => if ((s.class? id).map (·.guarded)).getD false then "QualityGuardMeta" else "type"
  | .inst id => ((s.instanceClass id).map (·.name)).getD "object"
  | .method _ _ => "method"
  | .builtin m n => if isBuiltinClass m n then "type" else "builtin_function_or_method"
  | .module _ => "module"
  | .curried _ _ => "partial"
  | .staticMethod _ => "staticmethod"
  | .classMethod _ => "classmethod"
  | .property _ => "property"
  | .exception kind _ => kind
  | .other kind => kind

def Store.kindForAttribute (s : Store) : Object → String
  | .curried _ _ => "functools.partial"
  | o => s.kindName o

/-! ## Attributes -/

/-- An attribute of a class or of one of its bases.  The first argument bounds the depth. -/
def Store.classAttr? (s : Store) : Nat → Nat → String → Option Object
  | 0, _, _ => none
  | fuel + 1, id, name =>
    match s.class? id with
    | none => none
    | some c =>
      match c.attributes.lookup name with
      | some o => some o
      | none => c.bases.findSome? fun
        | .cls b => s.classAttr? fuel b name
        | _ => none

def maxDepth : Nat := 1000

def builtinDoc : String := "A thing of the language."

def optionText : Option String → Object
  | some s => .text s
  | none => .null

def Function.attr? (f : Function) (name : String) : Option Object :=
  match name with
  | "__name__" => some (.text f.name)
  | "__qualname__" => some (.text f.fullName)
  | "__module__" => some (.text f.module)
  | "__doc__" => some f.doc
  | "__wrapped__" => f.wrapped
  | _ => f.attributes.lookup name

/-- What an attribute of a class is when it is taken from an object. -/
def bindTo (self : Object) (owner : Object) : Object → Object
  | .function id => .method self (.function id)
  | .staticMethod f => f
  | .classMethod f => .method owner f
  | o => o

/-- An attribute of an object.  A property comes out as such. -/
def Store.attr? (s : Store) (o : Object) (name : String) : Option Object :=
  match o with
  | .function id => (s.function? id).bind fun f => f.attr? name
  | .cls id =>
    (s.class? id).bind fun c =>
      match name with
      | "__name__" => some (.text c.name)
      | "__qualname__" => some (.text c.fullName)
      | "__module__" => some (.text c.module)
      | "__doc__" => some ((c.attributes.lookup "__doc__").getD .null)
      | _ =>
        (s.classAttr? maxDepth id name).map fun
          | .staticMethod f => f
          | .classMethod f => .method o f
          | a => a
  | .inst id =>
    (s.instances[id]?).bind fun (c, attributes) =>
      match attributes.lookup name with
      | some a => some a
      | none =>
        match name with
        | "__class__" => some (.cls c)
        | "__module__" => (s.class? c).map fun k => .text k.module
        | "__doc__" => some ((s.classAttr? maxDepth c "__doc__").getD .null)
        | _ => (s.classAttr? maxDepth c name).map (bindTo o (.cls c))
  | .method self (.function id) =>
    match name with
    | "__self__" => some self
    | "__func__" => some (.function id)
    | _ => (s.function? id).bind fun f => f.attr? name
  | .builtin m n =>
    match name with
    | "__name__" => some (.text n)
    | "__qualname__" => some (.text n)
    | "__module__" => some (.text m)
    | "__doc__" => some (.text builtinDoc)
    | _ => none
  | .curried f args =>
    match name with
    | "func" => some f
    | "args" => some (.tuple args)
    | "__module__" => some (.text "functools")
    | "__doc__" => some (.text builtinDoc)
    | _ => none
  | .staticMethod (.function id) =>
    match name with
    | "__func__" => some (.function id)
    | "__wrapped__" => some (.function id)
    | "__name__" | "__qualname__" | "__module__" | "__doc__" =>
      (s.function? id).bind fun f => f.attr? name
    | _ => none
  | .module m =>
    match s.module? m with
    | some _ => (s.varsOf m).lookup name
    | none => some (.builtin m name)
  | .exception _ args => if name = "args" then some (.tuple args) else none
  | _ => if name = "__doc__" then some .null else none

def Store.attr (s : Store) (o : Object) (name : String) : Except Failure Object :=
  match s.attr? o name with
  | some a => .ok a
  | none =>
    match o with
    | .module m => .error (.noModuleAttribute m name)
    | .cls id =>
      let owner := ((s.class? id).map (·.name)).getD ""
      .error (.raised "AttributeError" s!"type object '{owner}' has no attribute '{name}'")
    | _ => .error (.noAttribute (s.kindForAttribute o) name)

def Store.isCallable (s : Store) : Object → Bool
  | .function _ => true
  | .cls _ => true
  | .inst id =>
    ((s.instances[id]?).bind fun (c, _) => s.classAttr? maxDepth c "__call__").isSome
  | .method _ _ => true
  | .builtin _ _ => true
  | .curried _ _ => true
  | .staticMethod _ => true
  | _ => false

/-- How many functions are around an object.  The first argument bounds their number. -/
def Store.layers (s : Store) : Nat → Object → Nat
  | 0, _ => 0
  | fuel + 1, o =>
    match s.attr? o "__wrapped__" with
    | some inner => 1 + s.layers fuel inner
    | none => 0

/-- The object inside all functions around it. -/
def Store.innermost (s : Store) : Nat → Object → Object
  | 0, o => o
  | fuel + 1, o =>
    match s.attr? o "__wrapped__" with
    | some inner => s.innermost fuel inner
    | none => o

/-! ## Parameters -/

def parameterOf (t : Tree) : Option Parameter :=
  match t.label with
  | .param kind name =>
    let taking : Taking := match kind with
      | .positionalOnly => .positionOnly
      | .ordinary => .either
      | .variadic => .rest
      | .keywordOnly => .nameOnly
      | .keywords => .names
    some ⟨name, taking, (t.child 1).isPresent⟩
  | _ => none

def parametersOf (params : Tree) : List Parameter := params.children.filterMap parameterOf

/-! ## Source texts -/

/-- The file of the guard that a function is put in. -/
def fenceFile (tool : String) : Fence → String
  | .logging => tool ++ "/spyq/src/spyq/quality.py"
  | _ => tool ++ "/quality_guard_exceptions.py"

def Store.fileOf (s : Store) (tool : String) : Object → Except Failure String
  | .function id =>
    match s.code? id with
    | some (.closure c) => .ok c.file
    | some (.fence kind _) => .ok (fenceFile tool kind)
    | none => .error (.noSource "source code not available")
  | .method _ f => s.fileOf tool f
  | .cls id =>
    match (s.class? id).bind fun c => s.module? c.module with
    | some m => .ok m.file
    | none => .error (.noSource "source code not available")
  | .module m =>
    match s.module? m with
    | some m => .ok m.file
    | none => .error (.raised "TypeError" s!"<module '{m}' (built-in)> is a built-in module")
  | .builtin m n =>
    if isBuiltinClass m n then .error (.misuse (.builtinClass s!"<class '{n}'>"))
    else .error (.misuse (.notInspectable "builtin_function_or_method"))
  | o => .error (.misuse (.notInspectable (s.kindName o)))

/-- A line with its end, which the last line of a file may lack. -/
def withEnd (line : List Char) : List Char :=
  if line.getLast? = some '\n' then line else line ++ ['\n']

def fileLines (d : Disk) (here : Location) (file : String) : Except Failure (List (List Char)) :=
  let text :=
    match d.read here file with
    | .error _ => ""
    | .ok bytes => (Source.shownOfBytes bytes).toOption.getD ""
  if text.isEmpty then .error (.noSource "could not get source code")
  else .ok ((Source.linesWithEnds text.toList).map withEnd)

mutual

/-- The line, from one, of the class with a full name; `around` is the name of what is around. -/
def classLine (name around : String) : Tree → Option Nat
  | .node (.classDef n) span ts =>
    let full := around ++ n
    if full = name then
      some (((ts.getD 3 default).children.head?.map (·.span.line)).getD span.line)
    else classLineIn name (full ++ ".") ts
  | .node (.functionDef n _) _ ts => classLineIn name (around ++ n ++ ".<locals>.") ts
  | .node _ _ ts => classLineIn name around ts

def classLineIn (name around : String) : List Tree → Option Nat
  | [] => none
  | t :: ts =>
    match classLine name around t with
    | some n => some n
    | none => classLineIn name around ts

end

/-- The lines from the head of an object's definition on, and the number of the first. -/
def Store.textFrom (s : Store) (d : Disk) (here : Location) (tool : String) (o : Object) :
    Except Failure (List (List Char) × Nat) := do
  let file ← s.fileOf tool o
  let lines ← fileLines d here file
  let code : Object := match o with
    | .method _ f => f
    | o => o
  match code with
  | .cls id =>
    let name := ((s.class? id).map (·.fullName)).getD ""
    match Source.parse (String.ofList lines.flatten) with
    | .error r => throw (.notModule r "<unknown>")
    | .ok t =>
      match classLine name "" t with
      | some n => return (lines.drop (n - 1), n)
      | none => throw (.noSource "could not find class definition")
  | .function id =>
    match s.code? id with
    | some (.closure c) =>
      match Source.Block.headLine lines.toArray (c.line - 1) with
      | some n => return (lines.drop n, n + 1)
      | none => throw (.noSource "lineno is out of bounds")
    | _ => throw (.noSource "could not find code object")
  | .module _ => return (lines, 0)
  | _ => throw (.noSource "could not find code object")

def Store.sourceLines (s : Store) (d : Disk) (here : Location) (tool : String) (o : Object) :
    Except Failure (List String × Nat) := do
  let o := s.innermost maxDepth o
  let (lines, n) ← s.textFrom d here tool o
  match o with
  | .module _ => return (lines.map String.ofList, n)
  | _ =>
    match Source.Block.lines lines with
    | some block => return (block.map String.ofList, n)
    | none => throw (.sourceCutOff "EOF in multi-line statement" (lines.length + 1))

end QualityGate.Program
