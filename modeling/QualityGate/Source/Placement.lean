/-
Where statements and expressions may stand.

The tree is followed in the order in which a program for it is made: the value of an assignment
before its targets, the body of a class before its bases, the element of a comprehension before its
first iterable.  The first construct that stands where it has no meaning, and the first name,
argument or pattern that must not be there, is objected to.

The line of an objection is that of the innermost statement or expression that has been entered.
Leaving a `with` block or a block with a `finally` part loses the line, which then is -1.

On the way cautions are noted, as often as a construct comes up: the test of a `while` loop comes up
before and behind its body, and a `finally` part wherever its block is left.
-/
import QualityGate.Source.Caution
import QualityGate.Source.Scope

namespace QualityGate.Source.Placement

open Scope (paramsOf alternate isSimple)

/-! ## Surroundings -/

inductive UnitKind where
  | module
  | cls
  | function
  | asyncFunction
  | lambda
  | comprehension
  deriving DecidableEq, Repr

/-- Does a kind of code have local names, as a function does? -/
def UnitKind.isFunction : UnitKind → Bool
  | module => false
  | cls => false
  | _ => true

/-- A block that has to be left when the code in it is left. -/
inductive Frame where
  | loop
  | tryBody
  | tryFinally (last : List Tree)
  | finallyPart
  | withBlock
  | handler
  | handlers
  | groupHandlers
  | value
  | asyncClause

structure Place where
  unit : UnitKind := .module
  /-- Is the code suspended while it waits? -/
  isCoroutine : Bool := false
  isGenerator : Bool := false
  /-- The blocks in the same code, innermost first. -/
  frames : List Frame := []
  features : Features := {}

structure Progress where
  line : Int := 0
  cautions : List Caution := []

/-- A pass that keeps the current line and the cautions. -/
abbrev Pass := ExceptT Objected (StateM Progress)

def object {α : Type} (cause : Objection) : Pass α := do throw ⟨cause, (← get).line⟩

def note (cs : List Caution) : Pass Unit :=
  modify fun s => { s with cautions := s.cautions ++ cs }

def setLine (line : Int) : Pass Unit := modify fun s => { s with line }

def goTo (t : Tree) : Pass Unit := setLine t.span.line

/-- Do something, and come back to the line. -/
def andBack (p : Pass Unit) : Pass Unit := do
  let line := (← get).line
  p
  setLine line

def maxFrames : Nat := 20

def Place.enter (p : Place) (f : Frame) : Pass Place := do
  if maxFrames ≤ p.frames.length then object .tooManyBlocks
  return { p with frames := f :: p.frames }

def reserved : String := "__debug__"

def settable (name : String) : Pass Unit := do
  if name = reserved then object (.reservedName false)

/-! ## What functions do -/

mutual

def waits : Tree → Bool
  | .node l _ ts =>
    match l, ts with
    | .await, _ => true
    | .functionDef _ _, [params, _, decorators, result] =>
      waits params || waits decorators || waits result
    | .classDef _, [bases, keywords, _, decorators] =>
      waits bases || waits keywords || waits decorators
    | .lambda, [params, _] => waits params
    | .generator, [_, .node _ _ clauses] => waitsInFirst clauses
    | .listComp, [element, .node _ _ clauses] | .setComp, [element, .node _ _ clauses] =>
      waits element || waitsInClauses clauses
    | .dictComp, [key, value, .node _ _ clauses] =>
      waits key || waits value || waitsInClauses clauses
    | _, ts => waitsIn ts

def waitsIn : List Tree → Bool
  | [] => false
  | t :: ts => waits t || waitsIn ts

def waitsInClauses : List Tree → Bool
  | [] => false
  | .node l _ ts :: rest => (l = .clause true) || waitsIn ts || waitsInClauses rest

def waitsInFirst : List Tree → Bool
  | .node _ _ [_, iterable, _] :: _ => waits iterable
  | _ => false

end

/-- Does the inside of a comprehension wait?  The first iterable is not inside. -/
def comprehensionWaits (elements clauses : List Tree) : Bool :=
  let inner := match clauses with
    | [] => false
    | c :: cs => (c.label = .clause true) || waits (c.child 0) || waits (c.child 2) ||
      waitsInClauses cs
  waitsIn elements || inner

mutual

def handsOut : Tree → Bool
  | .node l _ ts =>
    match l, ts with
    | .yield, _ => true
    | .yieldFrom, _ => true
    | .functionDef _ _, [params, _, decorators, result] =>
      handsOut params || handsOut decorators || handsOut result
    | .classDef _, [bases, keywords, _, decorators] =>
      handsOut bases || handsOut keywords || handsOut decorators
    | .lambda, [params, _] => handsOut params
    | .generator, [_, .node _ _ clauses] | .listComp, [_, .node _ _ clauses]
    | .setComp, [_, .node _ _ clauses] | .dictComp, [_, _, .node _ _ clauses] =>
      handsOutInFirst clauses
    | _, ts => handsOutIn ts

def handsOutIn : List Tree → Bool
  | [] => false
  | t :: ts => handsOut t || handsOutIn ts

def handsOutInFirst : List Tree → Bool
  | .node _ _ [_, iterable, _] :: _ => handsOut iterable
  | _ => false

end

/-! ## Arguments -/

/-- The keywords of a call: none of them is reserved, and none comes twice. -/
def checkKeywords : List Tree → Pass Unit
  | [] => return ()
  | k :: ks => do
    if let .keyword (some name) := k.label then
      settable name
      if let some again := ks.find? fun o => o.label = .keyword (some name) then
        goTo again
        object (.repeatedKeyword name)
    checkKeywords ks

def checkParams (params : Tree) : Pass Unit :=
  (paramsOf params .positionalOnly ++ paramsOf params .ordinary ++ paramsOf params .variadic ++
    paramsOf params .keywordOnly ++ paramsOf params .keywords).forM fun p =>
      match p.label with
      | .param _ name => settable name
      | _ => return ()

/-- The annotations of parameters in the order in which they are evaluated.  A starred one stands
for what it is put in front of. -/
def annotations (params : Tree) : List Tree :=
  (paramsOf params .ordinary ++ paramsOf params .positionalOnly ++ paramsOf params .variadic ++
    paramsOf params .keywordOnly ++ paramsOf params .keywords).map fun p =>
      match p.child 0 with
      | .node .starred _ [t] => t
      | t => t

/-- The targets that the elements of a sequence are taken apart into: at most one of them is
starred. -/
def checkStars (one many : Objection) : Nat → Bool → List Bool → Pass Unit
  | _, _, [] => return ()
  | i, seen, isStarred :: rest =>
    if isStarred then
      if seen then object many
      else if 256 ≤ i then object one
      else checkStars one many (i + 1) true rest
    else checkStars one many (i + 1) seen rest

def isStarred (t : Tree) : Bool := t.label = .starred

/-- What a starred expression is put in front of, or the expression itself. -/
def unstarred (t : Tree) : Tree := if isStarred t then t.child 0 else t

/-! ## Patterns -/

/-- Is it the pattern that takes everything and binds nothing? -/
def isWildcard (t : Tree) : Bool := t.label = .patAs none

def isStarWildcard (t : Tree) : Bool := t.label = .patStar none

def isPatternStar (t : Tree) : Bool :=
  match t.label with
  | .patStar _ => true
  | _ => false

def bindName (names : List String) : Option String → Pass (List String)
  | none => return names
  | some n => do
    settable n
    if names.contains n then object (.repeatedPatternName n)
    return names ++ [n]

def bindAll (names : List String) : List String → Pass (List String)
  | [] => return names
  | n :: ns => do
    if names.contains n then object (.repeatedPatternName n)
    bindAll (names ++ [n]) ns

/-! ## Trees -/

mutual

/-- Check an expression.  The first argument bounds the depth. -/
def expression : Nat → Place → Tree → Pass Unit
  | 0, _, _ => return ()
  | fuel + 1, p, t => do
    let .node l span ts := withoutNegation t
    if l = .absent then return ()
    let part (i : Nat) : Tree := ts.getD i default
    let each (trees : List Tree) : Pass Unit := trees.forM (expression fuel p)
    let elements (trees : List Tree) : Pass Unit := each (trees.map unstarred)
    andBack do
      setLine span.line
      match l with
      | .yield =>
        if !p.unit.isFunction then object (.outsideFunction "yield")
        each ts
      | .yieldFrom =>
        if !p.unit.isFunction then object (.outsideFunction "yield")
        if p.unit = .asyncFunction then object .yieldFromInAsync
        each ts
      | .await =>
        if !p.unit.isFunction then object (.outsideFunction "await")
        if p.unit ≠ .asyncFunction && p.unit ≠ .comprehension then object (.outsideAsync "await")
        each ts
      | .starred => object .misplacedStar
      | .list | .tuple | .set => elements ts
      | .walrus =>
        expression fuel p (part 1)
        target fuel p (part 0)
      | .lambda =>
        checkParams (part 0)
        each ((part 0).children.map (·.child 1))
        let inner : Place := {
          unit := .lambda, isCoroutine := waits (part 1), isGenerator := handsOut (part 1)
          features := p.features }
        expression fuel inner (part 1)
      | .call =>
        checkKeywords (part 2).children
        note (callCaution? (part 0)).toList
        expression fuel p (part 0)
        elements (part 1).children
        each ((part 2).children.map (·.child 0))
      | .listComp | .setComp | .generator =>
        comprehension fuel p l (part 1).children [part 0]
      | .dictComp => comprehension fuel p l (part 2).children [part 0, part 1]
      | .compare ops =>
        note (identityCaution? (part 0) ops (ts.drop 1)).toList
        each ts
      | .subscript =>
        note (indexCautions (part 0) (part 1))
        each ts
      | .group => each ts
      | _ => each ts

def comprehension : Nat → Place → Label → List Tree → List Tree → Pass Unit
  | 0, _, _, _, _ => return ()
  | fuel + 1, p, l, clauses, elements => do
    let isWaiting := comprehensionWaits elements clauses
    if isWaiting && l ≠ .generator && p.unit ≠ .asyncFunction && p.unit ≠ .comprehension then
      object .asyncComprehension
    let inner : Place := {
      unit := .comprehension, isCoroutine := isWaiting, isGenerator := l = .generator
      features := p.features }
    clause fuel inner true clauses elements
    if let first :: _ := clauses then expression fuel p (first.child 1)

/-- Check the clauses of a comprehension inside each other, and its elements inside the last. -/
def clause : Nat → Place → Bool → List Tree → List Tree → Pass Unit
  | 0, _, _, _, _ => return ()
  | fuel + 1, p, _, [], elements => elements.forM (expression fuel p)
  | fuel + 1, p, isFirst, c :: cs, elements => do
    if !isFirst then expression fuel p (c.child 1)
    let inner ← if c.label = .clause true then p.enter .asyncClause else pure p
    target fuel inner (c.child 0)
    (c.child 2).children.forM (expression fuel inner)
    clause fuel inner false cs elements

def target : Nat → Place → Tree → Pass Unit
  | 0, _, _ => return ()
  | fuel + 1, p, t => do
    let .node l span ts := t
    if l = .absent then return ()
    andBack do
      setLine span.line
      match l with
      | .name id => settable id
      | .attribute name =>
        ts.forM (expression fuel p)
        setLine span.endLine
        settable name
      | .tuple | .list =>
        checkStars .tooManyBeforeStar .repeatedStar 0 false (ts.map isStarred)
        ts.forM fun u => target fuel p (unstarred u)
      | .starred => object .bareStarTarget
      | _ => ts.forM (expression fuel p)

def deletion : Nat → Place → Tree → Pass Unit
  | 0, _, _ => return ()
  | fuel + 1, p, t => do
    let .node l span ts := t
    andBack do
      setLine span.line
      match l with
      | .name id => if id = reserved then object (.reservedName true)
      | .tuple | .list => ts.forM (deletion fuel p)
      | _ => ts.forM (expression fuel p)

/-- Leave blocks from the inside out, up to a loop if `toLoop` says so; whether one was found.  The
last part of a block is run when the block is left. -/
def leave : Nat → Place → Bool → Bool → List Frame → Pass Bool
  | 0, _, _, _, _ => return false
  | _, _, _, _, [] => return false
  | fuel + 1, p, toLoop, keepsValue, f :: fs =>
    match f with
    | .groupHandlers => object .leavesGroupHandler
    | .loop => if toLoop then return true else leave fuel p toLoop keepsValue fs
    | .tryFinally last => do
      let outside : Place := { p with frames := fs }
      let inner ← if keepsValue then outside.enter .value else pure outside
      last.forM (statement fuel inner)
      setLine (-1)
      leave fuel p toLoop keepsValue fs
    | .withBlock => do
      setLine (-1)
      leave fuel p toLoop keepsValue fs
    | _ => leave fuel p toLoop keepsValue fs

/-- Check a pattern; `names` are those bound before it, and those bound behind it are given back.
`last` tells whether it may take everything. -/
def pattern : Nat → Place → Bool → List String → Tree → Pass (List String)
  | 0, _, _, names, _ => return names
  | fuel + 1, p, last, names, t => do
    let .node l _ ts := t
    let part (i : Nat) : Tree := ts.getD i default
    goTo t
    match l with
    | .patValue =>
      expression fuel p (part 0)
      return names
    | .patSequence =>
      if 1 < ts.countP isPatternStar then object .repeatedPatternStar
      if ts.all fun u => isWildcard u || isStarWildcard u then return names
      let subs := if ts.any isStarWildcard then
          ts.filter fun u => !isStarWildcard u && !isWildcard u
        else ts
      if !ts.any isStarWildcard then
        checkStars .tooManyBeforePatternStar .repeatedPatternStar 0 false (ts.map isPatternStar)
      subs.foldlM (fun names u => pattern fuel p true names u) names
    | .patStar name => bindName names name
    | .patMapping rest =>
      let (keys, patterns) := alternate ts
      keys.forM (expression fuel p)
      let names ← patterns.foldlM (fun names u => pattern fuel p true names u) names
      bindName names rest
    | .patClass keywords =>
      keywords.forM settable
      expression fuel p (part 0)
      let subs := ((part 1).children ++ (part 2).children).filter (!isWildcard ·)
      subs.foldlM (fun names u => pattern fuel p true names u) names
    | .patAs name =>
      match (part 0).toOption with
      | none =>
        if !last then
          match name with
          | some n => object (.unreachableAfterName n)
          | none => object .unreachableAfterWildcard
        bindName names name
      | some u => bindName (← pattern fuel p last names u) name
    | .patOr => alternatives fuel p last none names ts
    | _ => return names

/-- Check alternatives, which all bind the same names; `first` are those of the first one. -/
def alternatives : Nat → Place → Bool → Option (List String) → List String → List Tree →
    Pass (List String)
  | 0, _, _, _, names, _ => return names
  | _, _, _, first, names, [] => bindAll names (first.getD [])
  | fuel + 1, p, last, first, names, t :: ts => do
    goTo t
    let bound ← pattern fuel p (last && ts.isEmpty) [] t
    match first with
    | none => alternatives fuel p last (some bound) names ts
    | some control =>
      if bound.length ≠ control.length || !control.all bound.contains then object .differentNames
      alternatives fuel p last first names ts

/-- Check the cases of a `match` statement; `alone` tells that there is only one. -/
def cases : Nat → Place → Bool → List Tree → Pass Unit
  | 0, _, _, _ => return ()
  | _, _, _, [] => return ()
  | fuel + 1, p, alone, c :: cs => do
    let guard := c.child 1
    goTo (c.child 0)
    if !(isWildcard (c.child 0) && cs.isEmpty && !alone) then
      let names ← pattern fuel p (guard.isPresent || cs.isEmpty) [] (c.child 0)
      names.forM settable
    expression fuel p guard
    (c.child 2).children.forM (statement fuel p)
    cases fuel p alone cs

def handlers : Nat → Place → List Tree → Pass Unit
  | 0, _, _ => return ()
  | _, _, [] => return ()
  | fuel + 1, p, h :: hs => do
    goTo h
    if !(h.child 0).isPresent && !hs.isEmpty then object .defaultNotLast
    expression fuel p (h.child 0)
    if let .handler (some name) := h.label then settable name
    let inner ← p.enter .handler
    (h.child 1).children.forM (statement fuel inner)
    handlers fuel p hs

/-- Check the body of a `with` statement inside its items. -/
def withItems : Nat → Place → List Tree → List Tree → Pass Unit
  | 0, _, _, _ => return ()
  | fuel + 1, p, [], body => body.forM (statement fuel p)
  | fuel + 1, p, i :: is, body => do
    expression fuel p (i.child 0)
    let inner ← p.enter .withBlock
    target fuel inner (i.child 1)
    withItems fuel inner is body

/-- Check a `try` statement without its last part. -/
def attempt : Nat → Place → Bool → Tree → Pass Unit
  | 0, _, _, _ => return ()
  | fuel + 1, p, grouped, t => do
    let inner ← p.enter .tryBody
    (t.child 0).children.forM (statement fuel inner)
    if !grouped then (t.child 2).children.forM (statement fuel p)
    let around ← p.enter (if grouped then .groupHandlers else .handlers)
    handlers fuel around (t.child 1).children
    if grouped then (t.child 2).children.forM (statement fuel p)

def statement : Nat → Place → Tree → Pass Unit
  | 0, _, _ => return ()
  | fuel + 1, p, t => do
    let .node l span ts := t
    let part (i : Nat) : Tree := ts.getD i default
    let each (trees : List Tree) : Pass Unit := trees.forM (expression fuel p)
    let block (p : Place) (u : Tree) : Pass Unit := u.children.forM (statement fuel p)
    goTo t
    match l with
    | .functionDef name isAsync =>
      checkParams (part 0)
      each (part 2).children
      each ((part 0).children.map (·.child 1))
      if !p.features.keepsAnnotations then
        each (annotations (part 0))
        each [part 3]
      let body := (part 1).children
      let inner : Place := {
        unit := if isAsync then .asyncFunction else .function
        isCoroutine := isAsync || waitsIn body, isGenerator := handsOutIn body
        features := p.features }
      andBack (body.forM (statement fuel inner))
      settable name
    | .classDef name =>
      each (part 3).children
      andBack (block { unit := .cls, features := p.features } (part 2))
      checkKeywords (part 1).children
      each ((part 0).children.map unstarred)
      each ((part 1).children.map (·.child 0))
      settable name
    | .ret =>
      if !p.unit.isFunction then object (.outsideFunction "return")
      if (part 0).isPresent && p.isCoroutine && p.isGenerator then object .valueInAsyncGenerator
      each ts
      let keepsValue := match (part 0).label with
        | .absent => false
        | .literal _ => false
        | _ => true
      let _ ← leave fuel p false keepsValue p.frames
    | .delete => ts.forM (deletion fuel p)
    | .assign =>
      expression fuel p (part 1)
      (part 0).children.forM (target fuel p)
    | .augAssign _ =>
      let goal := part 0
      match goal.label with
      | .name id =>
        expression fuel p (part 1)
        goTo goal
        settable id
      | _ =>
        each (goal.children ++ [part 1])
    | .annAssign =>
      if (part 2).isPresent then
        expression fuel p (part 2)
        target fuel p (part 0)
      let evaluates := !p.features.keepsAnnotations && !p.unit.isFunction
      match (part 0).label with
      | .name id =>
        settable id
        if isSimple span (part 0) && evaluates then expression fuel p (part 1)
      | .attribute name =>
        settable name
        if !(part 2).isPresent then each (part 0).children
      | _ => if !(part 2).isPresent then each (part 0).children
      if !isSimple span (part 0) && evaluates then expression fuel p (part 1)
    | .forLoop isAsync =>
      if isAsync && p.unit ≠ .asyncFunction then object (.outsideAsync "async for")
      let inner ← p.enter .loop
      expression fuel inner (part 1)
      target fuel inner (part 0)
      block inner (part 2)
      block p (part 3)
    | .whileLoop =>
      let inner ← p.enter .loop
      expression fuel inner (part 0)
      block inner (part 1)
      expression fuel inner (part 0)
      block p (part 2)
    | .ifStmt =>
      expression fuel p (part 0)
      block p (part 1)
      block p (part 2)
    | .withStmt isAsync =>
      if isAsync && p.unit ≠ .asyncFunction then object (.outsideAsync "async with")
      withItems fuel p (part 0).children (part 1).children
    | .matchStmt =>
      expression fuel p (part 0)
      cases fuel p ((part 1).children.length = 1) (part 1).children
    | .tryStmt grouped =>
      let last := (part 3).children
      if last.isEmpty then attempt fuel p grouped t
      else
        let inner ← p.enter (.tryFinally last)
        if (part 1).children.isEmpty then block inner (part 0) else attempt fuel inner grouped t
        block p (part 3)
        let final ← p.enter .finallyPart
        block final (part 3)
    | .assert =>
      note (assertCaution? (part 0)).toList
      each ts
    | .break =>
      if !(← leave fuel p true false p.frames) then object .breakOutsideLoop
    | .continue =>
      if !(← leave fuel p true false p.frames) then object .continueOutsideLoop
    | .importNames names =>
      names.forM fun n => ((Scope.boundName? n).map settable).getD (pure ())
    | .importFrom name names _ =>
      if name = some featureModule && p.features.lastLine < span.line then object .lateFeature
      names.forM fun n => ((Scope.boundName? n).map settable).getD (pure ())
    | .global _ | .nonlocal _ | .pass => return ()
    | _ => each ts

end

def check (features : Features) (t : Tree) : Except Objected Unit × List Caution :=
  let (r, s) := (t.children.forM (statement (4 * t.size + 64) { features })).run.run {}
  (r, s.cautions)

end QualityGate.Source.Placement
