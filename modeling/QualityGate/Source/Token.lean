/-
Tokens and where the reader stands.

A token knows its own stretch of the text and, besides, how far the text had been read when it was
complete: complaints about tokens that have no text of their own (an indent, the end of the file)
are placed by that.
-/
import QualityGate.Source.Complaint

namespace QualityGate.Source

inductive TokenKind where
  | name
  | keyword
  | number
  | string
  | op
  | newline
  | indent
  | dedent
  | endOfFile
  deriving DecidableEq, Repr, Inhabited

/-- A position in the text together with what is still to be read. -/
structure Cursor where
  rest : List Char
  read : Nat := 0
  /-- The number of the current line; zero before the first one has been entered. -/
  line : Nat := 0
  /-- The bytes of the current line that have been read. -/
  col : Nat := 0
  chars : Nat := 0
  /-- Has the current line been read to its end? -/
  ended : Bool := true
  /-- The first of the lines that are kept because a token or a continued line runs over them. -/
  keptFrom : Nat := 1
  keptBytes : Nat := 0
  deriving Repr

namespace Cursor

/-- Enter the next line if the current one has been read to its end.  Inside a token the earlier
lines are kept. -/
def enterLine (inToken : Bool) (c : Cursor) : Cursor :=
  if c.ended && !c.rest.isEmpty then
    { c with
      line := c.line + 1, col := 0, chars := 0, ended := false
      keptFrom := if inToken then c.keptFrom else c.line + 1
      keptBytes := if inToken then c.keptBytes + c.col else 0 }
  else c

def peek? (c : Cursor) : Option Char := c.rest.head?

/-- Step over the next character of the current line. -/
def advance (c : Cursor) : Cursor :=
  match c.rest with
  | [] => c
  | x :: xs =>
    { c with
      rest := xs, read := c.read + 1, col := c.col + x.utf8Size, chars := c.chars + 1
      ended := x = '\n' }

/-- Step over `n` characters of the current line. -/
def advanceBy : Nat → Cursor → Cursor
  | 0, c => c
  | n + 1, c => advanceBy n c.advance

def skipWhile (p : Char → Bool) (c : Cursor) : Cursor :=
  c.advanceBy (c.rest.takeWhile p).length

end Cursor

structure Token where
  kind : TokenKind
  text : String
  line : Nat
  /-- The byte column of its first character, for a token that has text. -/
  col : Option Nat
  endLine : Nat
  endCol : Nat
  depth : Nat
  /-- The bytes of the last line that had been read when it was complete. -/
  reachedCol : Nat
  /-- The last line that had been entered when it was complete. -/
  reachedLine : Nat
  keptFrom : Nat
  deriving Repr, Inhabited

/-- A column of a complaint: final, or in bytes of the line it is reported at.  A final column is
below one if it is counted from a place further right. -/
inductive Column where
  | final (n : Int)
  | bytes (n : Nat)
  deriving DecidableEq, Repr

/-- A complaint with its place, before byte columns are turned into character columns. -/
structure Fault where
  cause : Complaint
  line : Nat
  column : Column
  /-- The last line that had been entered when the fault was found. -/
  reachedLine : Nat
  keptFrom : Nat
  deriving DecidableEq, Repr

/-- The fault as it is reported of a text that is wrong before. -/
def Fault.behind (f : Fault) : Fault :=
  match f.cause with
  | .undecodable bytes => { f with cause := .undecodableBehind bytes }
  | _ => f

structure Bracket where
  opening : Char
  line : Nat
  col : Nat
  deriving DecidableEq, Repr

def Bracket.fault (b : Bracket) (c : Cursor) : Fault :=
  ⟨.neverClosed b.opening, b.line, .bytes (b.col + 1), c.line, c.keptFrom⟩

structure Halt where
  fault : Fault
  /-- A fault of a character or a literal, as opposed to one of layout or of a missing end. -/
  lexical : Bool
  unclosed : Option Bracket
  cursor : Cursor

/-- The tokens of a text up to the first fault, or up to the end of the file. -/
structure TokenStream where
  tokens : Array Token
  halt : Option Halt

end QualityGate.Source
