/-
Limits on the size of files and functions.

A file may have so many lines; a function so many lines, so many parameters and so many blocks
inside each other.  The functions of a module are checked from the outside in, in the order of
the text.
-/
import QualityGate.Limits.Issue
import QualityGate.Settings.Store
import QualityGate.Source.Parse

namespace QualityGate.Limits

open Source (Tree Label ParamKind)

/-! ## Measures -/

def lineCount (text : String) : Nat := (Text.splitLines text).length

def isFunction : Label → Bool
  | .functionDef _ false => true
  | _ => false

def functionName (t : Tree) : String :=
  match t.label with
  | .functionDef name _ => name
  | _ => ""

def functionLines (t : Tree) : Int := t.span.endLine - t.span.line + 1

/-- Does a parameter count?  Positional-only ones and those that collect the rest do not. -/
def countsAsParam (t : Tree) : Bool :=
  match t.label with
  | .param .ordinary _ => true
  | .param .keywordOnly _ => true
  | _ => false

def paramCount (t : Tree) : Nat := (t.child 0).children.countP countsAsParam

def opensLevel : Label → Bool
  | .ifStmt => true
  | .forLoop false => true
  | .whileLoop => true
  | .tryStmt false => true
  | _ => false

/-- The counters of a visit: how many levels are open, and how many were at most. -/
structure Levels where
  current : Nat := 0
  deepest : Nat := 0

namespace Levels

def enter (k : Levels) : Levels := ⟨k.current + 1, max k.deepest (k.current + 1)⟩

def leave (k : Levels) : Levels := { k with current := k.current - 1 }

mutual

def visit : Tree → Levels → Levels
  | .node l _ ts, k => if opensLevel l then (visitAll ts k.enter).leave else visitAll ts k

def visitAll : List Tree → Levels → Levels
  | [], k => k
  | t :: ts, k => visitAll ts (visit t k)

end

end Levels

def depth (t : Tree) : Nat := (Levels.visit t {}).deepest

/-! ## Limits -/

/-- Is a count above a limit?  Only numbers are limits. -/
def exceeds (count : Int) : Value → Except Failure Bool
  | .int n => .ok (n < count)
  | .bool b => .ok (Key.truthNumber b < count)
  | .float x => .ok (x < Float.ofInt count)
  | v => .error (.misuse (.notComparable v.kindName))

/-! ## Room for a visit -/

/-- The steps at the end of a visit to a construct: one to find its parts, and two more if one of
them is an operator or says what an expression is used for. -/
def lastSteps : Label → Nat
  | .name _ | .attribute _ | .subscript | .starred | .list | .tuple => 3
  | .binary _ | .unary _ | .boolOp _ | .compare _ | .augAssign _ => 3
  | _ => 1

mutual

/-- How many steps the visit to a tree is deep.  A construct takes two steps, and three if it is
one of those that are looked for. -/
def visitSteps (sought : Label → Bool) : Tree → Nat
  | .node l _ ts =>
    match l with
    | .absent => 0
    | .group => visitStepsIn sought ts
    | _ => (if sought l then 3 else 2) + max (lastSteps l) (visitStepsIn sought ts)

def visitStepsIn (sought : Label → Bool) : List Tree → Nat
  | [] => 0
  | t :: ts => max (visitSteps sought t) (visitStepsIn sought ts)

end

mutual

/-- How many steps the check of all functions in a tree is deep.  Each function is visited once
more for its levels. -/
def checkSteps : Tree → Nat
  | .node l s ts =>
    match l with
    | .absent => 0
    | .group => checkStepsIn ts
    | _ =>
      let inside := max (lastSteps l) (checkStepsIn ts)
      if isFunction l then 3 + max (visitSteps opensLevel (.node l s ts)) inside else 2 + inside

def checkStepsIn : List Tree → Nat
  | [] => 0
  | t :: ts => max (checkSteps t) (checkStepsIn ts)

end

def maxSteps : Nat := 990

/-! ## Checkers -/

/-- A checker: what it is configured with, and what it has found in the file at hand. -/
structure Checker where
  config : Config
  issues : List Issue := []

/-- A part of a check.  What was found before a failure stays with the checker. -/
abbrev Check := EStateM Failure Checker

namespace Check

def ofExcept {α : Type} : Except Failure α → Check α
  | .ok a => pure a
  | .error f => throw f

def report (i : Issue) : Check Unit := modify fun k => { k with issues := k.issues ++ [i] }

/-- Report a count that is above the configured limit. -/
def count (name : String) (default : Nat) (n : Int) (issue : Value → Issue) : Check Unit := do
  let limit ← ofExcept ((← get).config.get name (.int default))
  if ← ofExcept (exceeds n limit) then report (issue limit)

def length (text : String) : Check Unit :=
  let n := lineCount text
  count "max_file_lines" 300 n fun limit => ⟨.fileTooLong n limit, some n, 0⟩

def function (t : Tree) : Check Unit := do
  let name := functionName t
  let line := some t.span.line
  count "max_function_lines" 50 (functionLines t) fun limit =>
    ⟨.functionTooLong name (functionLines t) limit, line, 0⟩
  count "max_function_params" 4 (paramCount t) fun limit =>
    ⟨.tooManyParams name (paramCount t) limit, line, 0⟩
  count "max_nesting_depth" 4 (depth t) fun limit => ⟨.tooDeep (depth t) limit, line, 0⟩

mutual

/-- Check the functions in a tree, outer ones first. -/
def visit : Tree → Check Unit
  | .node l s ts => do
    if isFunction l then function (.node l s ts)
    visitAll ts

def visitAll : List Tree → Check Unit
  | [] => return ()
  | t :: ts => do
    visit t
    visitAll ts

end

def refused (r : Source.Refusal) : Issue := ⟨.notModule r.cause, r.line, r.column⟩

def text (s : String) : Check Unit := do
  length s
  match Source.parseKept (some s) s with
  | .error r => if r.cause.blamesText then report (refused r) else throw (.notModule r "")
  | .ok t =>
    if maxSteps < checkSteps t then throw .endless
    visit t

/-- Check the text in a file, or report that it cannot be read. -/
def contents (d : Disk) (here : Location) (path : String) : Check Unit :=
  match d.readText here path with
  | .error (.file e) =>
    if e.isSystem then report ⟨.unreadable e, some 0, 0⟩ else throw (.file e)
  | .error e => throw e
  | .ok s => text s

/-- Check a file.  What was found in an earlier one is forgotten first. -/
def file (d : Disk) (here : Location) (path : String) : Check (List Issue) := do
  modify fun k => { k with issues := [] }
  contents d here path
  return (← get).issues

end Check

def Checker.run {α : Type} (k : Checker) (a : Check α) : Except Failure α × Checker :=
  match a k with
  | .ok x k => (.ok x, k)
  | .error f k => (.error f, k)

/-- A file to check: a path, and the disk and the directory that it is followed on. -/
structure Target where
  disk : Disk
  here : Location
  path : String

def Checker.check (k : Checker) (t : Target) : Except Failure (List Issue) × Checker :=
  k.run (Check.file t.disk t.here t.path)

/-- What a checker says about files, one after the other. -/
def Checker.checkEach (k : Checker) : List Target → List (Except Failure (List Issue))
  | [] => []
  | t :: ts => (k.check t).1 :: (k.check t).2.checkEach ts

def checkFileHere (d : Disk) (p : Places) (path : String) : Except Failure (List Issue) := do
  (Checker.mk (.settings (← Settings.current d p)) []).check ⟨d, p.here, path⟩ |>.1

/-- Check a text against the settings in force, as if it stood in a file.  It has to be one that
can be written to a file. -/
def checkSource (d : Disk) (p : Places) (text : String) : Except Failure (List Issue) := do
  let k : Checker := ⟨.settings (← Settings.current d p), []⟩
  if let some f := Text.halfFault? text then throw (.unwritable f)
  (k.run do
    Check.text (String.ofList (Text.unifyLineEnds text.toList))
    return (← get).issues).1

/-- The configuration that is used where one is given: the settings in force if it is empty. -/
def configFor (d : Disk) (p : Places) (v : Value) : Except Failure Config :=
  if v.truthy then .ok (.ofValue v) else (Settings.current d p).map .settings

end QualityGate.Limits
