/-
The lines of a definition.

Where the text of a function or class ends is decided by looking at pieces of the text only: from
the line of its head on, the block goes to the last line before something stands at the level of
the head again.  Comments inside the block count if they are indented like its body.  The text of
a lambda goes to the end of its logical line.
-/
import QualityGate.Text.Blank

namespace QualityGate.Source.Block

/-- A piece of a line, as far as the end of a block depends on it. -/
inductive Piece where
  | item (text : String)
  | lineEnd
  | blankEnd
  | comment
  | indent
  | dedent
  deriving DecidableEq, Repr

/-- A piece, its line and its column; of an indentation, the column behind it. -/
structure Placed where
  piece : Piece
  row : Nat
  col : Nat
  deriving Repr

/-! ## Pieces of lines -/

/-- A string that goes on in the next line. -/
structure OpenString where
  quote : Char
  triple : Bool
  deriving DecidableEq, Repr

structure Carry where
  brackets : Int := 0
  /-- Does the statement go on behind a backslash? -/
  continued : Bool := false
  string : Option OpenString := none
  /-- The columns of the open indentations, innermost first, without the outermost. -/
  indents : List Nat := []
  deriving Repr

inductive StringEnd where
  /-- It ends here; the rest of the line and the number of characters read. -/
  | closed (rest : List Char) (read : Nat)
  | escaped
  /-- The line ends without an end of the string. -/
  | unclosed
  deriving Repr

def stringEnd (s : OpenString) : List Char → Nat → StringEnd
  | [], _ => .unclosed
  | '\\' :: '\n' :: _, _ => .escaped
  | '\\' :: _ :: cs, n => stringEnd s cs (n + 2)
  | c :: cs, n =>
    if c = s.quote then
      if s.triple then
        if cs.take 2 = [c, c] then .closed (cs.drop 2) (n + 3) else stringEnd s cs (n + 1)
      else .closed cs (n + 1)
    else if c = '\n' && !s.triple then .unclosed
    else stringEnd s cs (n + 1)

/-- May these letters stand before a string? -/
def isStringMark (cs : List Char) : Bool :=
  ["", "b", "r", "u", "f", "br", "rb", "fr", "rf"].contains
    (String.ofList (cs.map Char.toLower))

/-- The string that starts here, with the number of characters up to its text. -/
def opening? (word : List Char) (cs : List Char) : Option (OpenString × Nat) :=
  if !isStringMark word then none
  else match cs with
    | q :: rest =>
      if q = '"' || q = '\'' then
        if rest.take 2 = [q, q] then some (⟨q, true⟩, word.length + 3)
        else some (⟨q, false⟩, word.length + 1)
      else none
    | [] => none

def bracketChange (c : Char) : Int :=
  if c = '(' || c = '[' || c = '\x7b' then 1
  else if c = ')' || c = ']' || c = '\x7d' then -1
  else 0

/-- Read the pieces of a line from a column on.  The first argument bounds their number. -/
def pieces (row : Nat) : Nat → Carry → List Char → Nat → List Placed × Carry
  | 0, k, _, _ => ([], k)
  | fuel + 1, k, cs, col =>
    let emit (p : Piece) (k : Carry) (rest : List Char) (n : Nat) : List Placed × Carry :=
      let (ps, k) := pieces row fuel k rest (col + n)
      (⟨p, row, col⟩ :: ps, k)
    match cs with
    | [] => ([], k)
    | ' ' :: rest => pieces row fuel k rest (col + 1)
    | '\t' :: rest => pieces row fuel k rest (col + 1)
    | '\x0c' :: rest => pieces row fuel k rest (col + 1)
    | '\\' :: '\n' :: _ => ([], { k with continued := true })
    | '\n' :: _ =>
      ([⟨if 0 < k.brackets then .blankEnd else .lineEnd, row, col⟩], k)
    | '#' :: _ =>
      let n := (cs.takeWhile (· ≠ '\n')).length
      emit .comment k (cs.drop n) n
    | c :: rest =>
      let word := cs.takeWhile Text.isWordChar
      let after := cs.drop word.length
      match opening? word after with
      | some (s, n) =>
        match stringEnd s (cs.drop n) n with
        | .closed rest m => emit (.item "string") k rest m
        | .escaped => ([], { k with string := some s })
        | .unclosed =>
          if s.triple then ([], { k with string := some s })
          else if word.isEmpty then emit (.item (String.singleton c)) k rest 1
          else emit (.item (String.ofList word)) k after word.length
      | none =>
        if !word.isEmpty then emit (.item (String.ofList word)) k after word.length
        else if c = '@' && rest.head? = some '=' then emit (.item "@=") k (rest.drop 1) 2
        else
          emit (.item (String.singleton c)) { k with brackets := k.brackets + bracketChange c }
            rest 1

/-- The width of the blanks at the start of a line and their number. -/
def indentation : List Char → Nat → Nat → Nat × Nat
  | ' ' :: cs, width, n => indentation cs (width + 1) (n + 1)
  | '\t' :: cs, width, n => indentation cs ((width / 8 + 1) * 8) (n + 1)
  | '\x0c' :: cs, _, n => indentation cs 0 (n + 1)
  | _, width, n => (width, n)

/-- Close the indentations that are deeper than a width.  Nothing comes out if the width is none
of the open ones. -/
def closeIndents (width : Nat) : List Nat → Option (Nat × List Nat)
  | [] => some (0, [])
  | i :: is =>
    if width < i then
      if width = is.headD 0 || width < is.headD 0 then
        (closeIndents width is).map fun (n, rest) => (n + 1, rest)
      else none
    else some (0, i :: is)

/-- The pieces of a line.  Nothing comes out if its indentation fits nowhere. -/
def linePieces (row : Nat) (k : Carry) (line : List Char) : Option (List Placed × Carry) :=
  let fuel := line.length + 1
  match k.string with
  | some s =>
    match stringEnd s line 0 with
    | .closed rest n =>
      let (ps, k) := pieces row fuel { k with string := none } rest n
      some (⟨.item "string", row, 0⟩ :: ps, k)
    | .escaped => some ([], k)
    | .unclosed =>
      if s.triple then some ([], k)
      else some ([⟨.item "string", row, 0⟩], { k with string := none })
  | none =>
    if k.brackets ≠ 0 || k.continued then
      some (pieces row fuel { k with continued := false } line 0)
    else
      let (width, n) := indentation line 0 0
      let rest := line.drop n
      match rest with
      | [] => some ([], k)
      | '#' :: _ =>
        let m := (rest.takeWhile (· ≠ '\n')).length
        some ([⟨.comment, row, n⟩, ⟨.blankEnd, row, n + m⟩], k)
      | '\n' :: _ => some ([⟨.blankEnd, row, n⟩], k)
      | _ =>
        if k.indents.headD 0 < width then
          let (ps, k) := pieces row fuel { k with indents := width :: k.indents } rest n
          some (⟨.indent, row, n⟩ :: ps, k)
        else
          match closeIndents width k.indents with
          | none => none
          | some (m, indents) =>
            let (ps, k) := pieces row fuel { k with indents } rest n
            some (List.replicate m ⟨.dedent, row, n⟩ ++ ps, k)

/-! ## The end of a block -/

/-- What is known of a block while its pieces are read. -/
structure Finder where
  depth : Int := 0
  isLambda : Bool := false
  started : Bool := false
  /-- Is the rest of the logical line passed over? -/
  passing : Bool := false
  inDecorator : Bool := false
  last : Nat := 1
  bodyCol : Option Nat := none
  deriving Repr

/-- Take a piece into account; the flag tells that the block has ended. -/
def Finder.take (f : Finder) (p : Placed) : Finder × Bool :=
  if !f.started && !f.inDecorator then
    match p.piece with
    | .item "@" => ({ f with inDecorator := true, passing := true }, false)
    | .item "lambda" => ({ f with isLambda := true, started := true, passing := true }, false)
    | .item "def" => ({ f with started := true, passing := true }, false)
    | .item "class" => ({ f with started := true, passing := true }, false)
    | _ => ({ f with passing := true }, false)
  else
    match p.piece with
    | .lineEnd =>
      if f.isLambda then ({ f with passing := false, last := p.row }, true)
      else ({ f with passing := false, last := p.row, inDecorator := false }, false)
    | piece =>
      if f.passing then (f, false)
      else match piece with
        | .indent =>
          let bodyCol := if f.bodyCol.isNone && f.started then some p.col else f.bodyCol
          ({ f with bodyCol, depth := f.depth + 1, passing := true }, false)
        | .dedent => ({ f with depth := f.depth - 1 }, f.depth - 1 ≤ 0)
        | .comment =>
          match f.bodyCol with
          | some c => if c ≤ p.col then ({ f with last := p.row }, false) else (f, false)
          | none => (f, false)
        | .blankEnd => (f, false)
        | _ => (f, f.depth = 0)

def Finder.takeAll (f : Finder) : List Placed → Finder × Bool
  | [] => (f, false)
  | p :: ps =>
    match f.take p with
    | (f, true) => (f, true)
    | (f, false) => f.takeAll ps

/-- The number of lines of the block that starts with the first line.  Nothing comes out if a
statement or a string is still open where the text ends. -/
def lengthFrom (row : Nat) (k : Carry) (f : Finder) : List (List Char) → Option Nat
  | [] => if k.string.isSome || k.brackets ≠ 0 || k.continued then none else some f.last
  | line :: lines =>
    match linePieces row k line with
    | none => some f.last
    | some (ps, k) =>
      match f.takeAll ps with
      | (f, true) => some f.last
      | (f, false) => lengthFrom (row + 1) k f lines

/-- The lines of the block that starts with the first of the given lines. -/
def lines (all : List (List Char)) : Option (List (List Char)) :=
  (lengthFrom 1 {} {} all).map all.take

/-! ## Heads -/

/-- Does a definition start on a line?  A lambda may stand anywhere on it. -/
def looksLikeHead (line : List Char) : Bool :=
  let rest := Text.trimLeft line
  let startsWord (w : String) (cs : List Char) : Bool :=
    w.toList.isPrefixOf cs && ((cs.drop w.length).head?.map Text.isBlank).getD false
  let isAsync := startsWord "async" rest && startsWord "def" (Text.trimLeft (rest.drop 5))
  let rec hasLambda (before : Bool) : List Char → Bool
    | [] => false
    | c :: cs =>
      let next := (cs.drop 5).head?
      (!before && "lambda".toList.isPrefixOf (c :: cs) &&
        (next = some ':' || (next.map Text.isBlank).getD false)) ||
      hasLambda (Text.isWordChar c) cs
  startsWord "def" rest || isAsync || rest.head? = some '@' || hasLambda false line

/-- The number of the line, from zero, on which the definition starts whose code starts at line
`n`: the nearest line at or before it that looks like a head.  Nothing comes out if there is no
such line in the text. -/
def headLine (all : Array (List Char)) : Nat → Option Nat
  | 0 => some 0
  | n + 1 =>
    match all[n + 1]? with
    | none => none
    | some line => if looksLikeHead line then some (n + 1) else headLine all n

end QualityGate.Source.Block
