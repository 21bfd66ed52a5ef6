/-
The rules that a function is held to.

A function has to have a test and a documentation; its text may have so many lines and so many
branches; and it has to be mentioned in the documents on the architecture.  The settings say which
of these are asked for, and how much is allowed.
-/
import QualityGate.Files.Glob
import QualityGate.Guard.Settings
import QualityGate.Limits.Check
import QualityGate.Source.Walk
import QualityGate.Text.Blank
import QualityGate.Text.Search

namespace QualityGate.Guard

open Source (Tree)

structure Subject where
  name : String
  doc : Option String
  file : String
  line : Value
  text : Option (List String)

/-! ## Validators -/

/-- A validator: the settings that it goes by, and what it has found in the function at hand. -/
structure Validator where
  settings : Settings
  found : List Violation := []

/-- A part of a validation.  What was found before a failure stays with the validator. -/
abbrev Validation := EStateM Failure Validator

namespace Validation

def ofExcept {α : Type} : Except Failure α → Validation α
  | .ok a => pure a
  | .error f => throw f

def report (v : Violation) : Validation Unit := modify fun k => { k with found := k.found ++ [v] }

def setting (name : String) (default : Value) : Validation Value :=
  return ((← get).settings.get? name).getD default

end Validation

/-! ## Tests -/

def mentionsTest (name text : String) : Bool :=
  Text.holds text s!"test_{name}" || Text.holds text s!"test{Text.title name}"

/-- Is there a file at a path, with a text that has a property?  What cannot be read has none. -/
def fileSatisfies (d : Disk) (here : Location) (p : String → Bool) (path : String) : Bool :=
  d.pathExists here path &&
    match d.readText here path with
    | .ok text => p text
    | .error _ => false

def testFiles (d : Disk) (here : Location) (pattern : String) : List String :=
  if pattern.toList.contains '*' then Glob.find d here pattern
  else if d.pathExists here pattern then [pattern] else []

def hasTest (d : Disk) (here : Location) (name pattern : String) : Bool :=
  (testFiles d here pattern).any (fileSatisfies d here (mentionsTest name))

def elements : Value → Except Failure (List Value)
  | .list vs => .ok vs
  | .text s => .ok (s.toList.map fun c => .text (String.singleton c))
  | .object fs => .ok (fs.map fun (k, _) => .text k)
  | v => .error (.misuse (.notIterable v.kindName))

/-- Is there a test of a function in the files of a pattern that may be any value?  A list or an
object is a pattern of no files unless it holds a star. -/
def hasTestValue (d : Disk) (here : Location) (name : String) : Value → Except Failure Bool
  | .text pattern => .ok (hasTest d here name pattern)
  | .list vs =>
    if vs.any fun | .text "*" => true | _ => false then .error (.misuse (.notPath "list"))
    else .error (.misuse (.notStatPath "list"))
  | .object fs =>
    if fs.any fun (k, _) => k = "*" then .error (.misuse (.notPath "dict"))
    else .error (.misuse (.notStatPath "dict"))
  | v => .error (.misuse (.notContainer v.kindName))

/-- Does a test satisfy one of the values?  The first that does ends the search. -/
def anyM (p : Value → Except Failure Bool) : List Value → Except Failure Bool
  | [] => .ok false
  | v :: vs => do if ← p v then return true else anyM p vs

def untested (s : Subject) : Violation where
  rule := .text "missing_test"
  message := .text s!"Funkcja '{s.name}' nie ma testów jednostkowych"
  suggestion := .text <|
    s!"Stwórz test w {testFileFor s.file}:\n\ndef test_{s.name}():\n    # Arrange\n" ++
    s!"    # Act\n    result = {s.name}()\n    # Assert\n    assert result is not None"
  level := .error
  file := .text s.file
  line := s.line
  function := .text s.name

def checkTests (d : Disk) (here : Location) (s : Subject) : Validation Unit := do
  let patterns ← Validation.ofExcept (elements (← Validation.setting "test_patterns" (.list [])))
  if ← Validation.ofExcept (anyM (hasTestValue d here s.name) patterns) then return ()
  Validation.report (untested s)

/-! ## Documentation -/

/-- The least number of characters of a documentation, blanks around it apart. -/
def minDocLength : Nat := 10

def isDocumented : Option String → Bool
  | none => false
  | some doc => minDocLength ≤ (Text.trim doc).length

def undocumented (s : Subject) : Violation where
  rule := .text "missing_docstring"
  message := .text s!"Funkcja '{s.name}' nie ma odpowiedniej dokumentacji"
  suggestion := .text <|
    s!"Dodaj docstring:\n\ndef {s.name}(...):\n    \"\"\"\n    Krótki opis funkcji.\n\n" ++
    "    Args:\n        param1: Opis parametru\n\n    Returns:\n" ++
    "        Opis zwracanej wartości\n    \"\"\"\n    # kod funkcji"
  level := .error
  file := .text s.file
  line := s.line
  function := .text s.name

def checkDoc (s : Subject) : Validation Unit := do
  if isDocumented s.doc then return ()
  Validation.report (undocumented s)

/-! ## Length -/

/-- Is it a line of code, that is, neither empty nor a comment? -/
def isCodeLine (line : String) : Bool :=
  match (Text.trim line).toList with
  | [] => false
  | c :: _ => c ≠ '#'

def codeLines (lines : List String) : Nat := lines.countP isCodeLine

def overlong (s : Subject) (n : Nat) (limit : Value) : Violation where
  rule := .text "function_too_long"
  message := .text s!"Funkcja '{s.name}' ma {n} linii kodu (maksimum: {limit.shown})"
  suggestion := .text "Podziel funkcję na mniejsze funkcje pomocnicze"
  level := .error
  file := .text s.file
  line := s.line
  function := .text s.name
  context := .object [("actual_lines", .int n), ("max_lines", limit)]

/-- The rule on the number of lines.  A limit that is no number, or a text that cannot be found,
violates nothing. -/
def checkLength (s : Subject) : Validation Unit := do
  match s.text with
  | none => return ()
  | some lines =>
    let limit ← Validation.setting "max_function_lines" (.int 50)
    match Limits.exceeds (codeLines lines) limit with
    | .ok true => Validation.report (overlong s (codeLines lines) limit)
    | _ => return ()

/-! ## Complexity -/

/-- What a construct adds to the number of branches. -/
def branches (t : Tree) : Int :=
  match t.label with
  | .ifStmt => 1
  | .whileLoop => 1
  | .forLoop _ => 1
  | .handler _ => 1
  | .boolOp _ => t.children.length - 1
  | _ => 0

/-- The complexity of a module: one more than the number of branches on a walk through it. -/
def complexity (t : Tree) : Int := t.walk.foldl (fun n u => n + branches u) 1

def overcomplex (s : Subject) (n : Int) (limit : Value) : Violation where
  rule := .text "high_complexity"
  message := .text s!"Funkcja '{s.name}' ma kompleksność {n} (maksimum: {limit.shown})"
  suggestion := .text "Uprość logikę lub podziel na mniejsze funkcje"
  level := .error
  file := .text s.file
  line := s.line
  function := .text s.name
  context := .object [("actual_complexity", .int n), ("max_complexity", limit)]

/-- The rule on the complexity.  A text that is not a module of its own, such as that of a method,
violates nothing. -/
def checkComplexity (s : Subject) : Validation Unit := do
  match s.text with
  | none => return ()
  | some lines =>
    match Source.parse (String.join lines) with
    | .error _ => return ()
    | .ok t =>
      let limit ← Validation.setting "max_complexity" (.int 10)
      match Limits.exceeds (complexity t) limit with
      | .ok true => Validation.report (overcomplex s (complexity t) limit)
      | _ => return ()

/-! ## Architecture -/

def isMentioned (d : Disk) (here : Location) (name : String) : Value → Except Failure Bool
  | .text path =>
    .ok (fileSatisfies d here (fun t => Text.holds t name) path)
  | .int _ => .ok false
  | .bool _ => .ok false
  | v => .error (.misuse (.notStatPath v.kindName))

def unmentioned (s : Subject) : Violation where
  rule := .text "unauthorized_function"
  message := .text s!"Funkcja '{s.name}' nie jest udokumentowana w architekturze projektu"
  suggestion := .text "Dodaj opis funkcji do README.md lub docs/API.md"
  level := .warning
  file := .text s.file
  line := s.line
  function := .text s.name

def checkArchitecture (d : Disk) (here : Location) (s : Subject) : Validation Unit := do
  let files ← Validation.ofExcept (elements (← Validation.setting "doc_files" (.list [])))
  if ← Validation.ofExcept (anyM (isMentioned d here s.name) files) then return ()
  Validation.report (unmentioned s)

/-! ## All rules -/

def isRequired (c : Settings) (key : String) : Bool := ((c.get? key).map Value.truthy).getD false

def Validation.ifRequired (key : String) (a : Validation Unit) : Validation Unit := do
  if isRequired (← get).settings key then a

def applyRules (d : Disk) (here : Location) (s : Subject) : Validation Unit := do
  Validation.ifRequired "require_tests" (checkTests d here s)
  Validation.ifRequired "require_docstrings" (checkDoc s)
  checkLength s
  checkComplexity s
  Validation.ifRequired "require_architecture_docs" (checkArchitecture d here s)

end QualityGate.Guard
