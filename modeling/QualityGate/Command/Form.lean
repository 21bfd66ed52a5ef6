/-
Command lines: the switches and slots that a program understands, and how its usage is shown.

A switch is an argument that starts with a hyphen.  A slot takes arguments by position; the last
kind of slot takes the name of a command and everything behind it.
-/
import QualityGate.Text.Quoted
import QualityGate.Value

namespace QualityGate.Command

inductive Effect where
  | help
  | flag
  | value
  deriving DecidableEq, Repr

/-- A switch: its names, the key of what it sets, and what it does. -/
structure Switch where
  names : List String
  key : String
  effect : Effect
  deriving DecidableEq, Repr

def Switch.takesValue (s : Switch) : Bool := s.effect = .value

/-- How many arguments a slot takes. -/
inductive Arity where
  | one
  | optional
  | many
  /-- Everything that is left, switches too. -/
  | rest
  | command (names : List String)
  deriving DecidableEq, Repr

/-- A slot: the key of what it sets, how much it takes, and what it is if it takes nothing. -/
structure Slot where
  key : String
  arity : Arity
  default : Value := .null

def Slot.required (s : Slot) : Bool := s.arity = .one || s.arity = .rest

/-- What a program, or one of its commands, understands. -/
structure Form where
  program : String
  switches : List Switch
  slots : List Slot
  about : String

def helpSwitch : Switch := ⟨["-h", "--help"], "help", .help⟩

/-! ## Usage -/

def Switch.usage (s : Switch) : String :=
  let name := s.names.headD ""
  if s.takesValue then s!"[{name} {s.key.toUpper}]" else s!"[{name}]"

def Slot.usage (s : Slot) : List String :=
  match s.arity with
  | .one => [s.key]
  | .optional => [s!"[{s.key}]"]
  | .many => [s!"[{s.key} ...]"]
  | .rest => ["..."]
  | .command names => ["\x7b" ++ ",".intercalate names ++ "\x7d", "..."]

def usageWidth : Nat := 78

def usageWord : String := "usage: "

/-- Put parts into lines behind an indentation.  `line` holds the parts of the current line, last
first, and `length` is how far it goes. -/
def fillLines (indent : String) (line : List String) (length : Nat) : List String → List String
  | [] => if line.isEmpty then [] else [indent ++ " ".intercalate line.reverse]
  | part :: parts =>
    if usageWidth < length + 1 + part.length && !line.isEmpty then
      (indent ++ " ".intercalate line.reverse) ::
        fillLines indent [part] (indent.length + part.length) parts
    else fillLines indent (part :: line) (length + part.length + 1) parts

def indentedLines (indent : String) (parts : List String) : List String :=
  fillLines indent [] (indent.length - 1) parts

def wrapUsage (program : String) (switches slots : List String) : List String :=
  let lead := usageWord.length + program.length
  if 4 * lead ≤ 3 * usageWidth then
    let indent := String.ofList (List.replicate (lead + 1) ' ')
    let first (parts : List String) : List String :=
      match fillLines indent [] (usageWord.length - 1) (program :: parts) with
      | l :: ls => String.ofList (l.toList.drop indent.length) :: ls
      | [] => []
    if !switches.isEmpty then first switches ++ indentedLines indent slots
    else if !slots.isEmpty then first slots
    else [program]
  else
    let indent := String.ofList (List.replicate usageWord.length ' ')
    let together := indentedLines indent (switches ++ slots)
    program :: if 1 < together.length then
        indentedLines indent switches ++ indentedLines indent slots
      else together

def Form.usage (f : Form) : String :=
  let switches := f.switches.map Switch.usage
  let slots := f.slots.flatMap Slot.usage
  let text := " ".intercalate (f.program :: switches ++ slots)
  let text :=
    if usageWidth < usageWord.length + text.length then
      "\n".intercalate (wrapUsage f.program switches slots)
    else text
  usageWord ++ text ++ "\n"

def Form.help (f : Form) : String := f.usage ++ "\n" ++ f.about

end QualityGate.Command
