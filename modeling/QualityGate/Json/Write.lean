/-
Writing JSON text.
-/
import QualityGate.Text.Surrogate
import QualityGate.Value

namespace QualityGate.Json

structure Style where
  /-- Blanks per level; nothing for a text on one line. -/
  indent : Option Nat := none
  ascii : Bool := true

def unitEscape (n : Nat) : List Char :=
  let ds := Nat.toDigits 16 n
  '\\' :: 'u' :: (List.replicate (4 - ds.length) '0' ++ ds)

def escapeChar (ascii : Bool) (c : Char) : List Char :=
  match c with
  | '"' => ['\\', '"']
  | '\\' => ['\\', '\\']
  | '\n' => ['\\', 'n']
  | '\r' => ['\\', 'r']
  | '\t' => ['\\', 't']
  | '\x0c' => ['\\', 'f']
  | '\x08' => ['\\', 'b']
  | c =>
    if c.toNat < 32 then unitEscape c.toNat
    else if let some n := Text.half? c then unitEscape n
    else if ascii && 126 < c.toNat then
      if c.toNat < 0x10000 then unitEscape c.toNat
      else
        unitEscape (Text.firstUnit c) ++ unitEscape (Text.secondUnit c)
    else [c]

def quoted (style : Style) (s : String) : String :=
  String.ofList ('"' :: s.toList.flatMap (escapeChar style.ascii) ++ ['"'])

def floatText (x : Float) : String :=
  if x.isNaN then "NaN"
  else if x.isInf then (if x < 0.0 then "-Infinity" else "Infinity")
  else Number.floatText x

/-- The line break in front of a part at a level, if the text has several lines. -/
def lineBreak (style : Style) (level : Nat) : String :=
  match style.indent with
  | none => ""
  | some n => String.ofList ('\n' :: List.replicate (n * level) ' ')

/-- What stands between two parts. -/
def separator (style : Style) (level : Nat) : String :=
  match style.indent with
  | none => ", "
  | some _ => "," ++ lineBreak style level

mutual

def renderAt (style : Style) (level : Nat) : Value → String
  | .null => "null"
  | .bool true => "true"
  | .bool false => "false"
  | .int n => toString n
  | .float x => floatText x
  | .text s => quoted style s
  | .list [] => "[]"
  | .list (v :: vs) =>
    "[" ++ lineBreak style (level + 1) ++ renderAt style (level + 1) v ++
      renderElements style (level + 1) vs ++ lineBreak style level ++ "]"
  | .object [] => "\x7b\x7d"
  | .object ((k, v) :: fs) =>
    "\x7b" ++ lineBreak style (level + 1) ++ quoted style k ++ ": " ++
      renderAt style (level + 1) v ++ renderMembers style (level + 1) fs ++
      lineBreak style level ++ "\x7d"

def renderElements (style : Style) (level : Nat) : List Value → String
  | [] => ""
  | v :: vs => separator style level ++ renderAt style level v ++ renderElements style level vs

def renderMembers (style : Style) (level : Nat) : List (String × Value) → String
  | [] => ""
  | (k, v) :: fs =>
    separator style level ++ quoted style k ++ ": " ++ renderAt style level v ++
      renderMembers style level fs

end

def render (style : Style) (v : Value) : String := renderAt style 0 v

end QualityGate.Json
