/-
Conventions for functions: their length, their documentation, and the spelling of names.

A name is in snake case if it starts with a small letter and goes on with small letters, digits
and low lines.
-/
import QualityGate.Text.Blank
import QualityGate.Text.Lines
import QualityGate.Value

namespace QualityGate.Conventions

structure Result where
  passed : Bool
  message : String
  severity : String := "error"
  line : Option Nat := none
  deriving DecidableEq, Repr

structure Subject where
  name : String
  documented : Bool
  params : List String
  lines : List String
  line : Nat

/-- Is it a small letter, a digit or a low line? -/
def isNameChar (c : Char) : Bool := ('a' ≤ c && c ≤ 'z') || ('0' ≤ c && c ≤ '9') || c = '_'

def isSnakeCase (s : String) : Bool :=
  match s.toList with
  | [] => false
  | c :: cs => 'a' ≤ c && c ≤ 'z' && cs.all isNameChar

def maxLines : Nat := 50

def checkLength (s : Subject) : Result :=
  if maxLines < s.lines.length then
    ⟨false, s!"Function '{s.name}' is too long ({s.lines.length} > {maxLines} lines)", "warning",
      some s.line⟩
  else ⟨true, "Function length OK", "error", none⟩

def checkDoc (s : Subject) : Result :=
  if s.documented then ⟨true, "Docstring present", "error", none⟩
  else ⟨false, s!"Function '{s.name}' is missing a docstring", "warning", some s.line⟩

def checkParams (s : Subject) : Result :=
  match s.params.find? fun n => !isSnakeCase n with
  | some n => ⟨false, s!"Argument '{n}' should be in snake_case", "error", some s.line⟩
  | none => ⟨true, "Argument naming OK", "error", none⟩

/-- The name that a line sets, as far as the text shows: what stands before the first equals
sign, unless the line starts a definition. -/
def assignedName (line : List Char) : Option String :=
  if line.contains '=' && !"def".toList.isPrefixOf (Text.trimLeft line) then
    some (String.ofList (Text.trimRight (Text.trimLeft (line.takeWhile (· ≠ '=')))))
  else none

/-- Check the names that the lines of a text set, from the `n`-th line on. -/
def checkNamesFrom (n : Nat) : List (List Char) → Result
  | [] => ⟨true, "Variable naming OK", "error", none⟩
  | line :: lines =>
    match assignedName line with
    | some name =>
      if !name.isEmpty && !isSnakeCase name then
        ⟨false, s!"Variable '{name}' should be in snake_case", "error", some n⟩
      else checkNamesFrom (n + 1) lines
    | none => checkNamesFrom (n + 1) lines

def checkNames (text : String) : Result := checkNamesFrom 1 (Text.splitAtNewlines text.toList)

def checks (s : Subject) : List Result :=
  [checkLength s, checkDoc s, checkParams s, checkNames (String.join s.lines)]

end QualityGate.Conventions
