/-
The blocks of a module and the names in them.

A module, a class, a function and a comprehension are blocks.  A first pass over the tree notes in
each block how its names are used, in the order in which they come; a second one follows the
blocks from the outside in and sees whether every name that is declared to belong to a block
around is bound there.  Both passes stop at the first name that is used in a way that does not fit.
-/
import QualityGate.Source.Objection

namespace QualityGate.Source.Scope

/-! ## Blocks -/

inductive BlockKind where
  | module
  | cls
  | function
  | comprehension (what : String)
  | keptNote
  deriving DecidableEq, Repr

inductive Use where
  | read
  | assigned
  | imported
  | parameter
  | annotated
  | declared (d : Declaration)
  deriving DecidableEq, Repr

structure Uses where
  isRead : Bool := false
  isAssigned : Bool := false
  isImported : Bool := false
  isParameter : Bool := false
  isAnnotated : Bool := false
  isGlobal : Bool := false
  isNonlocal : Bool := false
  isLoopName : Bool := false
  deriving DecidableEq, Repr

def Uses.isBound (u : Uses) : Bool := u.isAssigned || u.isImported || u.isParameter

def Uses.add (u : Uses) : Use → Uses
  | .read => { u with isRead := true }
  | .assigned => { u with isAssigned := true }
  | .imported => { u with isImported := true }
  | .parameter => { u with isParameter := true }
  | .annotated => { u with isAnnotated := true, isAssigned := true }
  | .declared .global => { u with isGlobal := true }
  | .declared .nonlocal => { u with isNonlocal := true }

/-- A block: its names, the lines of its declarations, and the blocks in it. -/
structure Block where
  kind : BlockKind
  names : List (String × Uses) := []
  declarations : List (String × Nat) := []
  inner : List Nat := []
  inLoopTarget : Bool := false
  /-- How many iterables of comprehensions are being read. -/
  iterables : Nat := 0

def Block.isComprehension (b : Block) : Bool :=
  match b.kind with
  | .comprehension _ => true
  | _ => false

def Block.uses (b : Block) (name : String) : Uses := (b.names.lookup name).getD {}

def setUses (name : String) (u : Uses) : List (String × Uses) → List (String × Uses)
  | [] => [(name, u)]
  | (n, v) :: rest => if n = name then (n, u) :: rest else (n, v) :: setUses name u rest

/-- All blocks, those that are open, innermost first, and the class whose private names are
seen. -/
structure Blocks where
  all : Array Block := #[]
  stack : List Nat := []
  owner : Option String := none

/-- A pass over a tree that notes the uses of names. -/
abbrev Survey := StateT Blocks (Except Objected)

def object {α : Type} (cause : Objection) (line : Nat) : Survey α := throw ⟨cause, line⟩

def current : Survey Nat := return (← get).stack.headD 0

def blockAt (i : Nat) : Survey Block := return (← get).all.getD i ⟨.module, [], [], [], false, 0⟩

def currentBlock : Survey Block := do blockAt (← current)

def change (i : Nat) (f : Block → Block) : Survey Unit :=
  modify fun s => { s with all := s.all.modify i f }

def within (kind : BlockKind) (inside : Survey Unit) : Survey Unit := do
  let s ← get
  let id := s.all.size
  let around := s.stack.head?
  let iterables := (around.map fun i => ((s.all[i]?).map (·.iterables)).getD 0).getD 0
  set { s with all := s.all.push { kind, iterables }, stack := id :: s.stack }
  if kind ≠ .keptNote then
    if let some i := around then change i fun b => { b with inner := b.inner ++ [id] }
  inside
  modify fun s => { s with stack := s.stack.drop 1 }

/-- Read something that belongs to a class with a name. -/
def ownedBy (name : String) (inside : Survey Unit) : Survey Unit := do
  let old := (← get).owner
  modify fun s => { s with owner := some name }
  inside
  modify fun s => { s with owner := old }

/-! ## Names -/

/-- A name as it is known in a class: one that starts with two underscores and does not end with
two is put behind the name of the class. -/
def privateName (owner : Option String) (name : String) : String :=
  match owner with
  | none => name
  | some c =>
    let bare := c.toList.dropWhile (· = '_')
    if !name.startsWith "__" || name.endsWith "__" || name.contains '.' || bare.isEmpty then name
    else "_" ++ String.ofList bare ++ name

def known (name : String) : Survey String := return privateName (← get).owner name

def noteIn (block : Nat) (use : Use) (name : String) (line : Nat) : Survey Unit := do
  let key ← known name
  let b ← blockAt block
  let old := b.uses key
  if use = .parameter && old.isParameter then object (.repeatedParameter name) line
  let new := old.add use
  if b.inLoopTarget && (new.isGlobal || new.isNonlocal) then object (.loopRebinds name) line
  let new := { new with isLoopName := new.isLoopName || b.inLoopTarget }
  change block fun b => { b with names := setUses key new b.names }
  if use = .declared .global then
    change 0 fun b => { b with names := setUses key ((b.uses key).add use) b.names }

def note (use : Use) (name : String) (line : Nat) : Survey Unit := do
  noteIn (← current) use name line

def noteDeclaration (name : String) (line : Nat) : Survey Unit := do
  let key ← known name
  change (← current) fun b => { b with declarations := b.declarations ++ [(key, line)] }

def declare (d : Declaration) (line : Nat) (names : List String) : Survey Unit := do
  for name in names do
    let u := (← currentBlock).uses (← known name)
    if u.isParameter then object (.parameterDeclared name d) line
    if u.isRead then object (.usedBefore name d) line
    if u.isAnnotated then object (.annotatedDeclared name d) line
    if u.isAssigned then object (.assignedBefore name d) line
    note (.declared d) name line
    noteDeclaration name line

/-- Bind the target of an assignment inside a comprehension in the nearest block around that is
none. -/
def bindOutside (name : String) (line : Nat) : List Nat → Survey Unit
  | [] => return ()
  | i :: rest => do
    let b ← blockAt i
    match b.kind with
    | .comprehension _ =>
      if (b.uses name).isLoopName then object (.walrusRebinds name) line
      bindOutside name line rest
    | .function =>
      let d := if (b.uses name).isGlobal then Declaration.global else .nonlocal
      note (.declared d) name line
      noteDeclaration name line
      noteIn i .assigned name line
    | .module =>
      note (.declared .global) name line
      noteDeclaration name line
      noteIn i (.declared .global) name line
    | .cls => object .walrusInClass line
    | .keptNote => bindOutside name line rest

def outsideNotes (what : String) (line : Nat) : Survey Unit := do
  if (← currentBlock).kind = .keptNote then object (.annotationHolds what) line

/-- Something that hands out a value must not be in a comprehension. -/
def notInComprehension (line : Nat) : Survey Unit := do
  if let .comprehension what := (← currentBlock).kind then object (.yieldInside what) line

/-! ## Trees -/

/-- The name that an import binds; nothing if it binds all. -/
def boundName? : String × Option String → Option String
  | (_, some alias_) => some alias_
  | (name, none) => if name = "*" then none else some ((name.splitOn ".").headD "")

def paramsOf (params : Tree) (kind : ParamKind) : List Tree :=
  params.children.filter fun p =>
    match p.label with
    | .param k _ => k = kind
    | _ => false

def boundParams (params : Tree) : List Tree :=
  paramsOf params .positionalOnly ++ paramsOf params .ordinary ++ paramsOf params .keywordOnly ++
    paramsOf params .variadic ++ paramsOf params .keywords

def annotatedParams (params : Tree) : List Tree :=
  paramsOf params .positionalOnly ++ paramsOf params .ordinary ++ paramsOf params .variadic ++
    paramsOf params .keywords ++ paramsOf params .keywordOnly

/-- Does the target of an annotation stand on its own at the start of the statement? -/
def isSimple (span : Span) (target : Tree) : Bool :=
  target.span.line = span.line && target.span.col = span.col

def comprehensionName : Label → String
  | .listComp => "list comprehension"
  | .setComp => "set comprehension"
  | .dictComp => "dict comprehension"
  | _ => "generator expression"

/-- The parts of trees that stand in turn: those at even and those at odd places. -/
def alternate : List Tree → List Tree × List Tree
  | k :: v :: rest =>
    let (ks, vs) := alternate rest
    (k :: ks, v :: vs)
  | rest => (rest, [])

def bindParams (params : Tree) : Survey Unit :=
  (boundParams params).forM fun p =>
    match p.label with
    | .param _ name => note .parameter name p.span.line
    | _ => return ()

variable (keepsAnnotations : Bool)

mutual

/-- Note the uses of names in a tree.  The first argument bounds the depth of the tree. -/
def survey : Nat → Tree → Survey Unit
  | 0, _ => return ()
  | fuel + 1, .node l span ts => do
    let part (i : Nat) : Tree := ts.getD i default
    let all (trees : List Tree) : Survey Unit := trees.forM (survey fuel)
    match l with
    | .absent => return ()
    | .functionDef name _ =>
      note .assigned name span.line
      all ((part 0).children.map (·.child 1))
      surveyAnnotations fuel ((annotatedParams (part 0)).map (·.child 0))
      if (part 3).isPresent then surveyAnnotations fuel [part 3]
      survey fuel (part 2)
      within .function do
        bindParams (part 0)
        survey fuel (part 1)
    | .lambda =>
      all ((part 0).children.map (·.child 1))
      within .function do
        bindParams (part 0)
        survey fuel (part 1)
    | .classDef name =>
      note .assigned name span.line
      all [part 0, part 1, part 3]
      within .cls (ownedBy name (survey fuel (part 2)))
    | .delete => ts.forM (surveyTarget fuel)
    | .assign =>
      surveyTarget fuel (part 0)
      survey fuel (part 1)
    | .augAssign _ =>
      surveyTarget fuel (part 0)
      survey fuel (part 1)
    | .annAssign =>
      match (part 0).label with
      | .name id =>
        let simple := isSimple span (part 0)
        let u := (← currentBlock).uses (← known id)
        if simple && (← current) ≠ 0 && (u.isGlobal || u.isNonlocal) then
          object (.annotatedDeclared id (if u.isGlobal then .global else .nonlocal)) span.line
        if simple then note .annotated id (part 0).span.line
        else if (part 2).isPresent then note .assigned id (part 0).span.line
      | _ => survey fuel (part 0)
      surveyAnnotations fuel [part 1]
      survey fuel (part 2)
    | .forLoop _ =>
      surveyTarget fuel (part 0)
      all [part 1, part 2, part 3]
    | .withItem =>
      survey fuel (part 0)
      surveyTarget fuel (part 1)
    | .tryStmt _ => all [part 0, part 2, part 1, part 3]
    | .handler name =>
      survey fuel (part 0)
      if let some n := name then note .assigned n span.line
      survey fuel (part 1)
    | .importNames names =>
      for n in names do
        if let some b := boundName? n then note .imported b span.line
    | .importFrom _ names _ =>
      for n in names do
        match boundName? (n.1, n.2) with
        | some b => note .imported b span.line
        | none => if (← currentBlock).kind ≠ .module then object .starImport span.endLine
    | .global names => declare .global span.line names
    | .nonlocal names => declare .nonlocal span.line names
    | .walrus =>
      outsideNotes "named expression" span.line
      let b ← currentBlock
      if 0 < b.iterables then object .walrusInIterable span.line
      if b.isComprehension then
        if let .name id := (part 0).label then
          bindOutside id (part 0).span.line (← get).stack
      survey fuel (part 1)
      surveyTarget fuel (part 0)
    | .dict =>
      let (keys, values) := alternate ts
      all keys
      all values
    | .listComp | .setComp | .generator =>
      surveyComprehension fuel l (part 1).children [part 0]
    | .dictComp => surveyComprehension fuel l (part 2).children [part 1, part 0]
    | .yield | .yieldFrom =>
      outsideNotes "yield expression" span.line
      all ts
      notInComprehension span.line
    | .await =>
      outsideNotes "await expression" span.line
      all ts
    | .name id =>
      if id ≠ "__debug__" then note .read id span.line
      if id = "super" then
        match (← currentBlock).kind with
        | .function | .comprehension _ => note .read "__class__" span.line
        | _ => return ()
    | .patStar name => if let some n := name then note .assigned n span.line
    | .patAs name =>
      all ts
      if let some n := name then note .assigned n span.line
    | .patMapping rest =>
      let (keys, patterns) := alternate ts
      all keys
      all patterns
      if let some n := rest then note .assigned n span.line
    | _ => all ts

/-- Note the uses of names in the target of an assignment. -/
def surveyTarget : Nat → Tree → Survey Unit
  | 0, _ => return ()
  | fuel + 1, .node l span ts =>
    match l with
    | .name id => note .assigned id span.line
    | .group | .tuple | .list | .starred => ts.forM (surveyTarget fuel)
    | _ => ts.forM (survey fuel)

/-- Note the uses of names in annotations that belong together. -/
def surveyAnnotations : Nat → List Tree → Survey Unit
  | 0, _ => return ()
  | fuel + 1, ts =>
    let inside : Survey Unit := ts.forM (survey fuel)
    if keepsAnnotations then within .keptNote inside else inside

/-- Note the uses of names in the clauses and the elements of a comprehension.  The first iterable
belongs to the block around. -/
def surveyComprehension : Nat → Label → List Tree → List Tree → Survey Unit
  | 0, _, _, _ => return ()
  | fuel + 1, l, clauses, elements => do
    let iterable (t : Tree) : Survey Unit := do
      change (← current) fun b => { b with iterables := b.iterables + 1 }
      survey fuel (t.child 1)
      change (← current) fun b => { b with iterables := b.iterables - 1 }
    let target (t : Tree) : Survey Unit := do
      change (← current) fun b => { b with inLoopTarget := true }
      surveyTarget fuel (t.child 0)
      change (← current) fun b => { b with inLoopTarget := false }
    match clauses with
    | [] => return ()
    | first :: rest =>
      iterable first
      within (.comprehension (comprehensionName l)) do
        note .parameter ".0" 0
        target first
        survey fuel (first.child 2)
        rest.forM fun c => do
          target c
          iterable c
          survey fuel (c.child 2)
        elements.forM (survey fuel)

end

/-! ## Bindings -/

def declaredOn (b : Block) (name : String) : Nat := (b.declarations.lookup name).getD 0

/-- Check the names of a block; `bound` are the names that are bound around it, unless it is the
module, and `locals` those that have been found to be bound in it.  Both are given back. -/
def checkNames (b : Block) : Option (List String) → List String → List (String × Uses) →
    Except Objected (Option (List String) × List String)
  | bound, locals, [] => .ok (bound, locals)
  | bound, locals, (n, u) :: rest =>
    if u.isGlobal then
      if u.isNonlocal then .error ⟨.declaredTwice n, declaredOn b n⟩
      else checkNames b (bound.map (·.filter (· ≠ n))) locals rest
    else if u.isNonlocal then
      match bound with
      | none => .error ⟨.nonlocalAtTop, declaredOn b n⟩
      | some names =>
        if names.contains n then checkNames b bound locals rest
        else .error ⟨.noBinding n, declaredOn b n⟩
    else checkNames b bound (if u.isBound then n :: locals else locals) rest

def boundInside (b : Block) (before after : Option (List String)) (locals : List String) :
    List String :=
  match b.kind with
  | .cls => "__class__" :: before.getD []
  | .module => after.getD []
  | _ => locals ++ after.getD []

/-- Check a block and the blocks in it.  The first argument bounds their depth. -/
def checkBlock (blocks : Array Block) : Nat → Nat → Option (List String) → Except Objected Unit
  | 0, _, _ => .ok ()
  | fuel + 1, i, bound =>
    match blocks[i]? with
    | none => .ok ()
    | some b => do
      let (after, locals) ← checkNames b bound [] b.names
      let inside := boundInside b bound after locals
      b.inner.forM fun j => checkBlock blocks fuel j (some inside)

def check (keepsAnnotations : Bool) (t : Tree) : Except Objected Unit := do
  let (_, s) ← (within .module (survey keepsAnnotations (4 * t.height + 8) t)).run {}
  checkBlock s.all (s.all.size + 1) 0 none

end QualityGate.Source.Scope
