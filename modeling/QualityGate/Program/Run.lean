/-
Running modules.

This covers what the modules that are imported, guarded and started here do: definitions, simple
assignments and expressions, branches and loops, printing, raising, leaving, and calls.  Every
function of the evaluator takes as first argument the number of steps that may still be nested.
-/
import QualityGate.Program.Guarding
import QualityGate.Program.Library
import QualityGate.Program.Names
import QualityGate.Program.Operators

namespace QualityGate.Program

open Source (Tree Label BinaryOp UnaryOp CompareOp)

/-! ## Names -/

structure Scope where
  frame : Nat
  /-- The local names of a function; nothing for the body of a module or class. -/
  locals : Option (List String)
  /-- The frames of the functions around, innermost first. -/
  enclosing : List Nat
  globals : Nat
  globalNames : List String := []
  module : String
  file : String
  /-- What stands before the name in a full name. -/
  around : String := ""
  handled : Option Failure := none

inductive Flow where
  | next
  | leave (o : Object)
  | stopLoop
  | nextTurn

def builtin? (name : String) : Option Object :=
  let name := (exceptionAlias? name).getD name
  if classNames.contains name || functionNames.contains name || exceptionNames.contains name then
    some (.builtin "builtins" name)
  else if name = "NotImplemented" then some (.other "NotImplementedType")
  else if name = "Ellipsis" then some .ellipsis
  else if name = "__debug__" then some (.bool true)
  else if name = "QualityGuardMeta" then some (.builtin "quality_guard_exceptions" name)
  else none

def Scope.lookup (sc : Scope) (name : String) : Act Object := do
  let s ← Act.store
  let isLocal := (sc.locals.map (·.contains name)).getD false && !sc.globalNames.contains name
  if isLocal then
    match (s.frame sc.frame).lookup name with
    | some o => return o
    | none => throw (.noLocal name)
  let own := if sc.locals.isNone then (s.frame sc.frame).lookup name else none
  let outer := sc.enclosing.findSome? fun f => (s.frame f).lookup name
  match own.or (outer.or ((s.frame sc.globals).lookup name)) with
  | some o => return o
  | none =>
    match builtin? name with
    | some o => return o
    | none => throw (.noName name)

def Scope.assign (sc : Scope) (name : String) (o : Object) : Act Unit := do
  let frame := if sc.globalNames.contains name then sc.globals else sc.frame
  Act.setStore ((← Act.store).setVar frame name o)

def Scope.forget (sc : Scope) (name : String) : Act Unit := do
  let frame := if sc.globalNames.contains name then sc.globals else sc.frame
  let s ← Act.store
  Act.setStore { s with frames := s.frames.modify frame (·.erase name) }

/-! ## Exceptions -/

/-- The name of the exception of the language that a class is derived from. -/
def Store.exceptionBase? (s : Store) : Nat → Nat → Option String
  | 0, _ => none
  | fuel + 1, id =>
    (s.class? id).bind fun c => c.bases.findSome? fun
      | .cls b => s.exceptionBase? fuel b
      | .builtin _ n => if exceptionNames.contains n then some n else none
      | _ => none

def Store.isExceptionClass (s : Store) : Object → Bool
  | .cls id => (s.exceptionBase? maxDepth id).isSome
  | .builtin _ n => exceptionNames.contains n
  | _ => false

/-- Can a handler be for an object: a class of exceptions, or several? -/
def Store.canHandle (s : Store) : Object → Bool
  | .tuple xs => xs.all s.isExceptionClass
  | o => s.isExceptionClass o

def Store.isOfClass (s : Store) (f : Failure) : Object → Bool
  | .builtin _ "Exception" => f.isError
  | .builtin _ "BaseException" => true
  | .builtin _ n => inFamily n f.className
  | .cls id => (s.class? id).any fun c => c.name = f.className
  | _ => false

def Store.handles (s : Store) (f : Failure) : Object → Bool
  | .tuple xs => xs.any (s.isOfClass f)
  | o => s.isOfClass f o

/-- The exception that a failure is: the one that was raised last, if that made it. -/
def Store.caught (s : Store) (f : Failure) : Object :=
  let plain := .exception f.className (if f.message = "" then [] else [.text f.message])
  match s.raised with
  | none => plain
  | some o =>
    let g := raising s o
    if g.className = f.className && g.message = f.message then o else plain

def raiseObject (o : Object) : Act Flow := do
  let s ← Act.store
  Act.setStore { s with raised := some o }
  throw (raising s o)

/-! ## Calls -/

/-- Where a starred expression stands. -/
inductive Spread where
  | plain
  /-- In a list, in a tuple, or among other arguments. -/
  | display
  | call (callee : String)

/-- The wording for a starred object of a kind that has no elements. -/
def Spread.complaint (kind : String) : Spread → String
  | plain => s!"'{kind}' object is not iterable"
  | display => s!"Value after * must be an iterable, not {kind}"
  | call callee => s!"{callee} argument after * must be an iterable, not {kind}"

def Store.calleeText (s : Store) : Object → String
  | .builtin "builtins" n => n ++ "()"
  | .builtin m n => s!"{m}.{n}()"
  | .function id =>
    match s.function? id with
    | some f => s!"{f.module}.{f.fullName}()"
    | none => ""
  | .cls id =>
    match s.class? id with
    | some c => s!"{c.module}.{c.fullName}()"
    | none => ""
  | o => s.shown o

def namedOf (s : Store) (callee : String) : Object → Except Failure (List (String × Object))
  | .dict fs => fs.mapM fun
    | (.text n, v) => .ok (n, v)
    | _ => typeError "keywords must be strings"
  | o => typeError s!"{callee} argument after ** must be a mapping, not {s.kindName o}"

/-! ## Sets -/

mutual

/-- Is the value of an expression known before the program runs? -/
def isConstant : Tree → Bool
  | .node l _ ts =>
    match l with
    | .literal _ => true
    | .unary _ => isConstantAll ts
    | .binary _ => isConstantAll ts
    | .tuple => isConstantAll ts
    | .name id => id = "__debug__"
    | _ => false

def isConstantAll : List Tree → Bool
  | [] => true
  | t :: ts => isConstant t && isConstantAll ts

end

/-- A set of objects, which is written out in full if it has no other than known elements. -/
def makeSet (ts : List Tree) (xs : List Object) : Object :=
  .set (setOrder (3 ≤ ts.length && isConstantAll ts) (distinct [] xs))

/-! ## Things of the language -/

mutual

/-- Does an object hold a number that has too many digits to be shown? -/
def Object.holdsHuge : Object → Bool
  | .int n => Nat.pow 10 Source.maxIntegerDigits ≤ n.natAbs
  | .tuple xs => Object.holdsHugeIn xs
  | .list xs => Object.holdsHugeIn xs
  | .set xs => Object.holdsHugeIn xs
  | .dict fs => Object.holdsHugePair fs
  | _ => false

def Object.holdsHugeIn : List Object → Bool
  | [] => false
  | x :: xs => Object.holdsHuge x || Object.holdsHugeIn xs

def Object.holdsHugePair : List (Object × Object) → Bool
  | [] => false
  | (k, v) :: fs => Object.holdsHuge k || Object.holdsHuge v || Object.holdsHugePair fs

end

/-- The text that stands between or behind what is printed. -/
def printOption (s : Store) (named : List (String × Object)) (key default : String) :
    Except Failure String :=
  match named.lookup key with
  | some (.text t) => .ok t
  | some .null | none => .ok default
  | some o => typeError s!"{key} must be None or a string, not {s.kindName o}"

def printObjects (args : List Object) (named : List (String × Object)) : Act Object := do
  let s ← Act.store
  let known := ["sep", "end", "file", "flush"]
  if let some (key, _) := named.find? fun (k, _) => !known.contains k then
    throw (.raised "TypeError" s!"'{key}' is an invalid keyword argument for print()")
  let sep ← Act.ofExcept (printOption s named "sep" " ")
  let ending ← Act.ofExcept (printOption s named "end" "\n")
  if args.any Object.holdsHuge then
    throw (.raised "ValueError" (s!"Exceeds the limit ({Source.maxIntegerDigits} digits) for " ++
      "integer string conversion; use sys.set_int_max_str_digits() to increase the limit"))
  let text := sep.intercalate (args.map s.shown) ++ ending
  match named.lookup "file" with
  | some (.builtin "sys" "stderr") => Act.printError text
  | _ => Act.print text
  return .null

def leaveWith (args : List Object) : Act Object := do
  throw (raising (← Act.store) (.exception "SystemExit" args))

/-- Leave the program by a call that takes one code. -/
def leaveBy (isPlain : Bool) (args : List Object) (named : List (String × Object)) : Act Object :=
  if isPlain then
    if !named.isEmpty then throw (.raised "TypeError" "sys.exit() takes no keyword arguments")
    else if 1 < args.length then
      throw (.raised "TypeError" s!"exit expected at most 1 argument, got {args.length}")
    else leaveWith args
  else
    match args, named with
    | [], [("code", x)] => leaveWith [x]
    | _, (key, _) :: _ =>
      throw (.raised "TypeError" <| if key = "code" then
          "Quitter.__call__() got multiple values for argument 'code'"
        else s!"Quitter.__call__() got an unexpected keyword argument '{key}'")
    | _, [] =>
      if 1 < args.length then
        throw (.raised "TypeError"
          s!"Quitter.__call__() takes from 1 to 2 positional arguments but {args.length + 1} were given")
      else leaveWith args

def callBuiltin (module name : String) (args : List Object) (named : List (String × Object)) :
    Act Object := do
  let s ← Act.store
  match module, name, args with
  | "builtins", "len", [x] => Act.ofExcept (lengthOf s x)
  | "builtins", "len", _ =>
    throw (.raised "TypeError" s!"len() takes exactly one argument ({args.length} given)")
  | "builtins", "print", _ => printObjects args named
  | "builtins", "str", [] => return .text ""
  | "builtins", "str", [x] => return .text (s.shown x)
  | "builtins", "repr", [x] => return .text (s.literal x)
  | "builtins", "bool", [x] => return .bool x.truthy
  | "builtins", "int", [] => return .int 0
  | "builtins", "int", [.text t] =>
    match (Text.trim t).toInt? with
    | some n => return .int n
    | none =>
      throw (.raised "ValueError" s!"invalid literal for int() with base 10: {Text.quote t}")
  | "builtins", "int", [x] =>
    match x.toInt? with
    | some n => return .int n
    | none => throw (.unsupported "int")
  | "builtins", "list", [x] => return .list (← Act.ofExcept (elementsOf s x))
  | "builtins", "tuple", [x] => return .tuple (← Act.ofExcept (elementsOf s x))
  | "builtins", "list", [] => return .list []
  | "builtins", "tuple", [] => return .tuple []
  | "builtins", "dict", [] => return .dict (named.map fun (k, v) => (.text k, v))
  | "builtins", "set", [] => return .set []
  | "builtins", "object", [] => return .other "object"
  | "builtins", "range", [.int n] =>
    return .list ((List.range n.toNat).map fun (i : Nat) => .int i)
  | "builtins", "sum", [x] => Act.ofExcept (do sumOf s (← elementsOf s x))
  | "builtins", "callable", [x] => return .bool (s.isCallable x)
  | "builtins", "staticmethod", [f] => return .staticMethod f
  | "builtins", "classmethod", [f] => return .classMethod f
  | "builtins", "property", [f] => return .property f
  | "builtins", "exit", _ => leaveBy false args named
  | "builtins", "quit", _ => leaveBy false args named
  | "sys", "exit", _ => leaveBy true args named
  | "spyq.quality", "enforce_quality", [f] => guardObject .logging f
  | "functools", "partial", f :: rest => return .curried f rest
  | _, _, _ =>
    if exceptionNames.contains name then Act.ofExcept (makeException name args named)
    else throw (.unsupported s!"{module}.{name}")

/-! ## The evaluator -/

/-- The value of an attribute, apart from those that have to be computed. -/
def attributeOf (o : Object) (name : String) : Act Object := do
  match o, name with
  | .module "sys", "argv" => return .list ((← get).args.map .text)
  | _, _ => Act.ofExcept ((← Act.store).attr o name)

def importedModule (name : String) : Act Object := do
  let s ← Act.store
  if (s.module? name).isSome || isLibraryModule name || name = fenceModule .logging then
    return .module name
  else
    let top := (name.splitOn ".").headD ""
    throw (.noModule (if (s.module? top).isSome then name else top))

/-- What setting an attribute changes in a function.  Its names have to be texts. -/
def setAttribute (name : String) (o : Object) : Option (Function → Function) :=
  match name, o with
  | "__doc__", _ => some fun f => { f with doc := o }
  | "__name__", .text t => some fun f => { f with name := t }
  | "__qualname__", .text t => some fun f => { f with fullName := t }
  | "__name__", _ | "__qualname__", _ => none
  | "__module__", .text t => some fun f => { f with module := t }
  | "__wrapped__", _ => some fun f => { f with wrapped := some o }
  | _, _ => some fun f => { f with attributes := f.attributes.set name o }

/-- Put a guard around every function of a class that has no private name. -/
def guardAll : Bindings → Act Bindings
  | [] => return []
  | (n, o) :: bs => do
    let o' ←
      if (← Act.store).isCallable o && !n.startsWith "_" then guardObject .quality o else pure o
    return (n, o') :: (← guardAll bs)

mutual

def evaluate : Nat → Scope → Tree → Act Object
  | 0, _, _ => throw .endless
  | fuel + 1, sc, .node l span ts => do
    let part (i : Nat) : Tree := ts.getD i default
    match l with
    | .literal v => return literalObject v
    | .name id => sc.lookup id
    | .tuple => return .tuple (← evaluateArgs fuel sc .display ts)
    | .list => return .list (← evaluateArgs fuel sc .display ts)
    | .set =>
      let xs ← evaluateArgs fuel sc .plain ts
      return makeSet ts (← Act.ofExcept (xs.mapM (hashable (← Act.store))))
    | .dict => evaluateDict fuel sc ts []
    | .boolOp op => evaluateChain fuel sc (op = .and) ts
    | .unary .not => return .bool !(← evaluate fuel sc (part 0)).truthy
    | .unary op =>
      let o ← evaluate fuel sc (part 0)
      match op, o.toInt?, o with
      | .minus, some n, _ => return .int (-n)
      | .plus, some n, _ => return .int n
      | .invert, some n, _ => return .int (-n - 1)
      | .minus, none, .float x => return .float (-x)
      | .plus, none, .float x => return .float x
      | .minus, none, .complex z => return .complex z.neg
      | .plus, none, .complex z => return .complex z
      | _, _, _ =>
        let sign := match op with
          | .minus => "-"
          | .plus => "+"
          | _ => "~"
        throw (.raised "TypeError" s!"bad operand type for unary {sign}: '{(← Act.store).kindName o}'")
    | .binary op =>
      let a ← evaluate fuel sc (part 0)
      let b ← evaluate fuel sc (part 1)
      Act.ofExcept (binaryOp (← Act.store) op a b)
    | .compare ops =>
      match ts with
      | [] => return .null
      | t :: rest => evaluateCompare fuel sc (← evaluate fuel sc t) ops rest
    | .conditional =>
      if (← evaluate fuel sc (part 0)).truthy then evaluate fuel sc (part 1)
      else evaluate fuel sc (part 2)
    | .walrus =>
      let o ← evaluate fuel sc (part 1)
      assignTo fuel sc (part 0) o
      return o
    | .lambda =>
      define fuel sc "<lambda>" (part 0) [.node .ret span [part 1]] none span.line none
    | .attribute name =>
      let o ← evaluate fuel sc (part 0)
      match ← attributeOf o name with
      | .property getter =>
        match o with
        | .inst _ => call fuel getter [o] []
        | _ => return .property getter
      | a => return a
    | .subscript =>
      let o ← evaluate fuel sc (part 0)
      match part 1 with
      | .node .slice _ bounds =>
        let bound (i : Nat) : Act Object := do
          match (bounds.getD i default).toOption with
          | none => return .null
          | some t => evaluate fuel sc t
        let lower ← bound 0
        let upper ← bound 1
        let step ← bound 2
        Act.ofExcept (partOf (← Act.store) o lower upper step)
      | t => Act.ofExcept (subscriptOf (← Act.store) o (← evaluate fuel sc t))
    | .call =>
      let f ← evaluate fuel sc (part 0)
      let callee := (← Act.store).calleeText f
      let given := (part 1).children
      let args ← evaluateArgs fuel sc (if given.length = 1 then .call callee else .display) given
      let named ← evaluateNamed fuel sc callee (part 2).children
      call fuel f args named
    | .joined => return .text (String.join (← evaluateJoined fuel sc ts))
    | .formatted conversion =>
      let o ← evaluate fuel sc (part 0)
      let s ← Act.store
      let o := match conversion with
        | some 'r' => .text (s.literal o)
        | some 'a' => .text (Text.escapeBeyond (s.literal o))
        | some _ => .text (s.shown o)
        | none => o
      match (part 1).toOption with
      | none => return .text (s.shown o)
      | some t =>
        let format ← evaluate fuel sc t
        if (s.shown format).isEmpty then return .text (s.shown o)
        else throw (.unsupported "format")
    | .starred => evaluate fuel sc (part 0)
    | .generator => return .other "generator"
    | _ => throw (.unsupported "expression")

def evaluateAll : Nat → Scope → List Tree → Act (List Object)
  | 0, _, _ => throw .endless
  | _, _, [] => return []
  | fuel + 1, sc, t :: ts => do
    if t.isPresent then
      let o ← evaluate fuel sc t
      return o :: (← evaluateAll fuel sc ts)
    else evaluateAll fuel sc ts

/-- A dictionary from keys and values in turn; a value without a key stands for its entries. -/
def evaluateDict : Nat → Scope → List Tree → List (Object × Object) → Act Object
  | 0, _, _, _ => throw .endless
  | fuel + 1, sc, k :: v :: rest, fs => do
    if k.isPresent then
      let key ← Act.ofExcept (hashable (← Act.store) (← evaluate fuel sc k))
      evaluateDict fuel sc rest (setEntry key (← evaluate fuel sc v) fs)
    else
      match ← evaluate fuel sc v with
      | .dict more =>
        evaluateDict fuel sc rest (more.foldl (fun fs (k, v) => setEntry k v fs) fs)
      | o => throw (.raised "TypeError" s!"'{(← Act.store).kindName o}' object is not a mapping")
  | _, _, _, fs => return .dict fs

/-- The elements of a collection, or the arguments of a call; a starred one stands for its
elements. -/
def evaluateArgs : Nat → Scope → Spread → List Tree → Act (List Object)
  | 0, _, _, _ => throw .endless
  | _, _, _, [] => return []
  | fuel + 1, sc, place, t :: ts => do
    match t with
    | .node .starred _ [u] =>
      let o ← evaluate fuel sc u
      match elements? o with
      | some xs => return xs ++ (← evaluateArgs fuel sc place ts)
      | none => throw (.raised "TypeError" (place.complaint ((← Act.store).kindName o)))
    | t =>
      let o ← evaluate fuel sc t
      return o :: (← evaluateArgs fuel sc place ts)

def evaluateNamed : Nat → Scope → String → List Tree → Act (List (String × Object))
  | 0, _, _, _ => throw .endless
  | _, _, _, [] => return []
  | fuel + 1, sc, callee, t :: ts => do
    let o ← evaluate fuel sc (t.child 0)
    match t.label with
    | .keyword (some name) => return (name, o) :: (← evaluateNamed fuel sc callee ts)
    | _ =>
      let more ← Act.ofExcept (namedOf (← Act.store) callee o)
      return more ++ (← evaluateNamed fuel sc callee ts)

def evaluateJoined : Nat → Scope → List Tree → Act (List String)
  | 0, _, _ => throw .endless
  | _, _, [] => return []
  | fuel + 1, sc, t :: ts => do
    let o ← evaluate fuel sc t
    return (← Act.store).shown o :: (← evaluateJoined fuel sc ts)

/-- The value of operands joined by `and` or `or`. -/
def evaluateChain : Nat → Scope → Bool → List Tree → Act Object
  | 0, _, _, _ => throw .endless
  | _, _, _, [] => return .null
  | fuel + 1, sc, isAnd, t :: ts => do
    let o ← evaluate fuel sc t
    if ts.isEmpty || o.truthy ≠ isAnd then return o else evaluateChain fuel sc isAnd ts

def evaluateCompare : Nat → Scope → Object → List CompareOp → List Tree → Act Object
  | 0, _, _, _, _ => throw .endless
  | fuel + 1, sc, a, op :: ops, t :: ts => do
    let b ← evaluate fuel sc t
    let r ← Act.ofExcept (compareOp (← Act.store) op a b)
    if r && !ts.isEmpty then evaluateCompare fuel sc b ops ts else return .bool r
  | _, _, _, _, _ => return .bool true

def assignTo : Nat → Scope → Tree → Object → Act Unit
  | 0, _, _, _ => throw .endless
  | fuel + 1, sc, .node l _ ts, o => do
    match l with
    | .name id => sc.assign id o
    | .tuple | .list =>
      let xs ← Act.ofExcept (elementsOf (← Act.store) o)
      if xs.length ≠ ts.length then
        let what := if xs.length < ts.length
          then s!"not enough values to unpack (expected {ts.length}, got {xs.length})"
          else s!"too many values to unpack (expected {ts.length})"
        throw (.raised "ValueError" what)
      assignAll fuel sc ts xs
    | .attribute name =>
      let target ← evaluate fuel sc (ts.getD 0 default)
      let s ← Act.store
      match target with
      | .inst id =>
        Act.setStore { s with instances := s.instances.modify id fun (c, b) => (c, b.set name o) }
      | .cls id =>
        Act.setStore { s with
          classes := s.classes.modify id fun c => { c with attributes := c.attributes.set name o } }
      | .function id =>
        match setAttribute name o with
        | some change => Act.setStore { s with functions := s.functions.modify id change }
        | none => throw (.raised "TypeError" s!"{name} must be set to a string object")
      | _ => throw (.noAttribute (s.kindName target) name)
    | _ => throw (.unsupported "target")

def assignAll : Nat → Scope → List Tree → List Object → Act Unit
  | 0, _, _, _ => throw .endless
  | fuel + 1, sc, t :: ts, o :: os => do
    assignTo fuel sc t o
    assignAll fuel sc ts os
  | _, _, _, _ => return ()

def define : Nat → Scope → String → Tree → List Tree → Option String → Nat → Option String →
    Act Object
  | 0, _, _, _, _, _, _, _ => throw .endless
  | fuel + 1, sc, name, params, body, doc, line, deferred => do
    let withDefault := params.children.filter fun p => (p.child 1).isPresent
    let values ← evaluateAll fuel sc (withDefault.map (·.child 1))
    let names := withDefault.filterMap fun p => (parameterOf p).map (·.name)
    let s ← Act.store
    let scopes := if sc.locals.isSome then sc.frame :: sc.enclosing else sc.enclosing
    let (f, s) := s.newFunction {
      name, fullName := sc.around ++ name, module := sc.module, doc := optionText doc
      code := .closure {
        params, body, defaults := names.zip values, scopes, globals := sc.globals
        file := sc.file, line, deferred } }
    Act.setStore s
    return f

def call : Nat → Object → List Object → List (String × Object) → Act Object
  | 0, _, _, _ => throw .endless
  | fuel + 1, f, args, named => do
    let s ← Act.store
    match f with
    | .function id =>
      match s.function? id with
      | none => return .null
      | some fn =>
        match fn.code with
        | .fence kind inner =>
          checkFence kind inner
          call fuel inner args named
        | .closure c =>
          let ps := parametersOf c.params
          match bind ps args named with
          | .error m => throw (.misuse (.misfit fn.fullName m))
          | .ok bindings =>
            let frame : Bindings := bindings.map fun (n, b) =>
              match b with
              | .given o => (n, o)
              | .default => (n, (c.defaults.lookup n).getD .null)
              | .rest os => (n, .tuple os)
              | .names fs => (n, .dict (fs.map fun (k, v) => (.text k, v)))
            let (i, s) := s.newFrame frame
            Act.setStore s
            match c.deferred with
            | some kind => return .other kind
            | none =>
              let sc : Scope := {
                frame := i, locals := some (localNames (ps.map (·.name)) c.body)
                enclosing := c.scopes, globals := c.globals
                globalNames := outerNamesIn c.body, module := fn.module, file := c.file
                around := fn.fullName ++ ".<locals>." }
              match ← execute fuel sc c.body with
              | .leave o => return o
              | _ => return .null
    | .cls id =>
      match s.exceptionBase? maxDepth id with
      | some _ => return .exception (((s.class? id).map (·.name)).getD "") args
      | none =>
        let (o, s') := s.newInstance id
        Act.setStore s'
        match s.classAttr? maxDepth id "__init__" with
        | some init =>
          let _ ← call fuel init (o :: args) named
          return o
        | none =>
          if args.isEmpty && named.isEmpty then return o
          else
            let name := ((s.class? id).map (·.name)).getD ""
            throw (.raised "TypeError" s!"{name}() takes no arguments")
    | .method self g => call fuel g (self :: args) named
    | .inst id =>
      match (s.instances[id]?).bind fun (c, _) => s.classAttr? maxDepth c "__call__" with
      | some g => call fuel g (f :: args) named
      | none => throw (.misuse (.notCallable (s.kindName f)))
    | .curried g first => call fuel g (first ++ args) named
    | .staticMethod g => call fuel g args named
    | .builtin m n => callBuiltin m n args named
    | o => throw (.misuse (.notCallable (s.kindName o)))

/-- Apply decorators, the last one first. -/
def decorate : Nat → Scope → List Tree → Object → Act Object
  | 0, _, _, _ => throw .endless
  | _, _, [], o => return o
  | fuel + 1, sc, t :: ts, o => do
    let d ← evaluate fuel sc t
    let inner ← decorate fuel sc ts o
    call fuel d [inner] []

def executeOne : Nat → Scope → Tree → Act Flow
  | 0, _, _ => throw .endless
  | fuel + 1, sc, .node l span ts => do
    let part (i : Nat) : Tree := ts.getD i default
    match l with
    | .exprStmt =>
      let _ ← evaluate fuel sc (part 0)
      return .next
    | .pass => return .next
    | .break => return .stopLoop
    | .continue => return .nextTurn
    | .global _ | .nonlocal _ => return .next
    | .assign =>
      let o ← evaluate fuel sc (part 1)
      for t in (part 0).children do assignTo fuel sc t o
      return .next
    | .annAssign =>
      match (part 2).toOption with
      | some t => assignTo fuel sc (part 0) (← evaluate fuel sc t)
      | none => pure ()
      return .next
    | .augAssign op =>
      let a ← evaluate fuel sc (part 0)
      let b ← evaluate fuel sc (part 1)
      assignTo fuel sc (part 0) (← Act.ofExcept (updateOp (← Act.store) op a b))
      return .next
    | .ret =>
      match (part 0).toOption with
      | some t => return .leave (← evaluate fuel sc t)
      | none => return .leave .null
    | .ifStmt =>
      if (← evaluate fuel sc (part 0)).truthy then execute fuel sc (part 1).children
      else execute fuel sc (part 2).children
    | .whileLoop => executeWhile fuel sc (part 0) (part 1).children (part 2).children
    | .forLoop _ =>
      let xs ← Act.ofExcept (elementsOf (← Act.store) (← evaluate fuel sc (part 1)))
      executeFor fuel sc (part 0) xs (part 2).children (part 3).children
    | .functionDef name isAsync =>
      let body := (part 1).children
      let decorators := (part 2).children
      let line := (decorators.head?.map (·.span.line)).getD span.line
      let deferred :=
        if isAsync then some (if yieldsIn body then "async_generator" else "coroutine")
        else if yieldsIn body then some "generator" else none
      let f ← define fuel sc name (part 0) body (docOf body) line deferred
      sc.assign name (← decorate fuel sc decorators f)
      return .next
    | .classDef name =>
      let bases ← evaluateArgs fuel sc .display (part 0).children
      let named ← evaluateNamed fuel sc name (part 1).children
      let body := (part 2).children
      let fullName := sc.around ++ name
      let (i, s) := (← Act.store).newFrame
        [("__module__", .text sc.module), ("__qualname__", .text fullName)]
      Act.setStore s
      let inner : Scope := { sc with
        frame := i, locals := none, around := fullName ++ "."
        enclosing := if sc.locals.isSome then sc.frame :: sc.enclosing else sc.enclosing }
      let _ ← execute fuel inner body
      let s ← Act.store
      let attributes := (s.frame i).set "__doc__" (optionText (docOf body))
      let guarded := (named.lookup "metaclass").isSome || bases.any fun
        | .cls b => ((s.class? b).map (·.guarded)).getD false
        | _ => false
      let attributes ← if guarded then guardAll attributes else pure attributes
      let (c, s) := (← Act.store).newClass
        { name, fullName, module := sc.module, bases, attributes, guarded }
      Act.setStore s
      sc.assign name (← decorate fuel sc (part 3).children c)
      return .next
    | .importNames names =>
      for (name, alias_) in names do
        let _ ← importedModule name
        match alias_ with
        | some a => sc.assign a (.module name)
        | none => sc.assign (importedName (name, none)) (.module ((name.splitOn ".").headD ""))
      return .next
    | .importFrom name names level =>
      if 0 < level && sc.module = "__main__" then
        throw (.raised "ImportError" "attempted relative import with no known parent package")
      let name := name.getD ""
      let m ← importedModule name
      for (n, alias_) in names do
        sc.assign (alias_.getD n) (← Act.ofExcept ((← Act.store).attr m n))
      return .next
    | .raise =>
      match (part 0).toOption with
      | none => throw (sc.handled.getD (.raised "RuntimeError" "No active exception to reraise"))
      | some t =>
        let o ← evaluate fuel sc t
        let cause ← match (part 1).toOption with
          | some u => evaluate fuel sc u
          | none => pure .null
        let made (o : Object) : Act Object := do
          if (← Act.store).isExceptionClass o then call fuel o [] [] else pure o
        let o ← made o
        if !isException o then throw (raising (← Act.store) o)
        match cause with
        | .null => raiseObject o
        | c =>
          if isException (← made c) then raiseObject o
          else throw (.raised "TypeError" "exception causes must derive from BaseException")
    | .assert =>
      if (← evaluate fuel sc (part 0)).truthy then return .next
      else
        match (part 1).toOption with
        | some t => raiseObject (.exception "AssertionError" [← evaluate fuel sc t])
        | none => raiseObject (.exception "AssertionError" [])
    | .delete =>
      for t in ts do
        for n in targetNames t do
          let _ ← sc.lookup n
          sc.forget n
      return .next
    | .tryStmt _ =>
      executeTry fuel sc (part 0).children (part 1).children (part 2).children (part 3).children
    | _ => throw (.unsupported "statement")

def execute : Nat → Scope → List Tree → Act Flow
  | 0, _, _ => throw .endless
  | _, _, [] => return .next
  | fuel + 1, sc, t :: ts => do
    match ← executeOne fuel sc t with
    | .next => execute fuel sc ts
    | flow => return flow

def executeWhile : Nat → Scope → Tree → List Tree → List Tree → Act Flow
  | 0, _, _, _, _ => throw .endless
  | fuel + 1, sc, test, body, orElse => do
    if (← evaluate fuel sc test).truthy then
      match ← execute fuel sc body with
      | .leave o => return .leave o
      | .stopLoop => return .next
      | _ => executeWhile fuel sc test body orElse
    else execute fuel sc orElse

def executeFor : Nat → Scope → Tree → List Object → List Tree → List Tree → Act Flow
  | 0, _, _, _, _, _ => throw .endless
  | fuel + 1, sc, _, [], _, orElse => execute fuel sc orElse
  | fuel + 1, sc, target, x :: xs, body, orElse => do
    assignTo fuel sc target x
    match ← execute fuel sc body with
    | .leave o => return .leave o
    | .stopLoop => return .next
    | _ => executeFor fuel sc target xs body orElse

/-- Run statements and the handler for their failure. -/
def executeTry : Nat → Scope → List Tree → List Tree → List Tree → List Tree → Act Flow
  | 0, _, _, _, _, _ => throw .endless
  | fuel + 1, sc, body, handlers, orElse, finally_ => do
    let attempt : Act Flow := do
      let (flow, handled) ← tryCatch
        (do return (← execute fuel sc body, false))
        (fun f => do return (← handleWith fuel sc handlers f, true))
      match flow with
      | .next => if handled then return flow else execute fuel sc orElse
      | flow => return flow
    let flow ← tryCatch attempt fun f => do
      match ← execute fuel sc finally_ with
      | .next => throw f
      | flow => return flow
    match ← execute fuel sc finally_ with
    | .next => return flow
    | flow => return flow

def handleWith : Nat → Scope → List Tree → Failure → Act Flow
  | 0, _, _, f => throw f
  | _, _, [], f => throw f
  | fuel + 1, sc, h :: hs, f => do
    let takes ← match (h.child 0).toOption with
      | none => pure true
      | some t =>
        let o ← evaluate fuel sc t
        let s ← Act.store
        if !s.canHandle o then
          throw (.raised "TypeError"
            "catching classes that do not inherit from BaseException is not allowed")
        pure (s.handles f o)
    if takes then
      let body := (h.child 1).children
      let inner := { sc with handled := some f }
      match h.label with
      | .handler (some name) =>
        sc.assign name ((← Act.store).caught f)
        let flow ← tryCatch (execute fuel inner body) fun g => do
          sc.forget name
          throw g
        sc.forget name
        return flow
      | _ => execute fuel inner body
    else handleWith fuel sc hs f

end

end QualityGate.Program
