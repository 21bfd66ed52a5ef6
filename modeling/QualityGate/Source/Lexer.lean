/-
Cutting a text into tokens.

The lexer works line by line.  At the start of a line it measures the indentation twice, once with
tabs up to the next multiple of eight and once with tabs of width one; the two measures must agree
on which lines are indented alike.  Lines inside brackets and lines that hold only blanks or a
comment have no indentation and no end of their own.
-/
import QualityGate.Source.Token
import QualityGate.Text.Identifier
import QualityGate.Text.Printable
import QualityGate.Text.Lines

namespace QualityGate.Source

open QualityGate.Text

namespace Lexer

def keywords : List String :=
  ["False", "None", "True", "and", "as", "assert", "async", "await", "break", "class", "continue",
   "def", "del", "elif", "else", "except", "finally", "for", "from", "global", "if", "import",
   "in", "is", "lambda", "nonlocal", "not", "or", "pass", "raise", "return", "try", "while",
   "with", "yield"]

def threeCharOps : List String := ["**=", "//=", ">>=", "<<="]

def twoCharOps : List String :=
  ["!=", "%=", "&=", "**", "*=", "+=", "-=", "->", "//", "/=", ":=", "<<", "<=", "<>", "==",
   ">=", ">>", "@=", "^=", "|="]

/-- The largest number of brackets that may be open at once. -/
def maxDepth : Nat := 200

/-- The largest number of indentation levels, the outermost included. -/
def maxIndents : Nat := 100

/-- What the lexer remembers between two tokens. -/
structure State where
  cursor : Cursor
  /-- The number of characters of the text, which bounds every loop. -/
  size : Nat
  /-- The open indentation levels in both measures, innermost first, without the outermost. -/
  indents : List (Nat × Nat) := []
  /-- Indents that are still to be reported, or dedents if negative. -/
  pending : Int := 0
  lineStart : Bool := true
  /-- The open brackets, innermost first. -/
  brackets : List Bracket := []

/-! ## Faults -/

/-- A fault of a character or a literal, reported behind what has been read. -/
def lexicalHalt (s : State) (c : Cursor) (cause : Complaint) : Halt :=
  ⟨⟨cause, c.line, .final c.chars, c.line, c.keptFrom⟩, true, s.brackets.head?, c⟩

def layoutHalt (s : State) (c : Cursor) (cause : Complaint) (column : Nat) : Halt :=
  ⟨⟨cause, c.line, .bytes column, c.line, c.keptFrom⟩, false, s.brackets.head?, c⟩

/-- The text ends although something is open; a bracket is named before all else. -/
def endHalt (s : State) (c : Cursor) : Halt :=
  match s.brackets with
  | b :: _ => ⟨b.fault c, false, some b, c⟩
  | [] => ⟨⟨.unexpectedEnd, c.line, .bytes c.col, c.line, c.keptFrom⟩, false, none, c⟩

def toLineEnd (c : Cursor) : Cursor :=
  (c.skipWhile (· ≠ '\n')).advance

/-- Step over a backslash and the line end behind it, into the next line. -/
def continueLine (s : State) (inToken : Bool) (c : Cursor) : Except Halt Cursor :=
  let c := c.advance
  if c.peek? = some '\n' then
    let c := c.advance
    if c.rest.isEmpty then .error (endHalt s c) else .ok (c.enterLine inToken)
  else
    -- the offending character counts one byte
    .error (layoutHalt s c .afterContinuation (c.keptBytes + c.col + 1))

/-! ## Indentation -/

/-- Measure the blanks at the start of a line in both ways; a continuation line fixes the measure
at the first backslash (`fixed`, if not zero). -/
def measureIndent (s : State) : Nat → Cursor → Nat → Nat → Nat →
    Except Halt (Cursor × Nat × Nat × Nat)
  | 0, c, col, alt, fixed => .ok (c, col, alt, fixed)
  | fuel + 1, c, col, alt, fixed =>
    match c.peek? with
    | some ' ' => measureIndent s fuel c.advance (col + 1) (alt + 1) fixed
    | some '\t' => measureIndent s fuel c.advance ((col / 8 + 1) * 8) (alt + 1) fixed
    | some '\x0c' => measureIndent s fuel c.advance 0 0 fixed
    | some '\\' =>
      match continueLine s false c with
      | .error h => .error h
      | .ok c' => measureIndent s fuel c' col alt (if fixed = 0 then col else fixed)
    | _ => .ok (c, col, alt, fixed)

/-- Close the levels that are deeper than `col`; the number of levels closed comes along. -/
def closeLevels (col : Nat) : List (Nat × Nat) → Int → List (Nat × Nat) × Int
  | [], n => ([], n)
  | (i, a) :: rest, n => if col < i then closeLevels col rest (n + 1) else ((i, a) :: rest, n)

/-- Compare the indentation of a line with the open levels. -/
def indentTo (s : State) (c : Cursor) (col alt : Nat) : Except Halt State :=
  let tabs := layoutHalt s (toLineEnd c) .inconsistentTabs 1
  let (top, altTop) := s.indents.headD (0, 0)
  if col = top then
    if alt = altTop then .ok { s with cursor := c } else .error tabs
  else if top < col then
    if maxIndents ≤ s.indents.length + 1 then
      .error (layoutHalt s (toLineEnd c) .tooManyIndents 1)
    else if alt ≤ altTop then .error tabs
    else .ok { s with cursor := c, indents := (col, alt) :: s.indents, pending := s.pending + 1 }
  else
    let (levels, closed) := closeLevels col s.indents 0
    let (newTop, newAlt) := levels.headD (0, 0)
    let e := toLineEnd c
    if col ≠ newTop then .error (layoutHalt s e .inconsistentUnindent e.col)
    else if alt ≠ newAlt then .error tabs
    else .ok { s with cursor := c, indents := levels, pending := s.pending - closed }

/-- Enter a line: measure its indentation unless it is blank or inside brackets.  The flag tells
whether the line is blank. -/
def startLine (s : State) : Except Halt (State × Bool) := do
  let c := s.cursor.enterLine false
  let s := { s with lineStart := false }
  let (c, col, alt, fixed) ← measureIndent s (s.size + 1) c 0 0 0
  let blank := c.peek? = some '#' || c.peek? = some '\n'
  if blank || !s.brackets.isEmpty then return ({ s with cursor := c }, blank)
  else if fixed = 0 then return (← indentTo s c col alt, false)
  else return (← indentTo s c fixed fixed, false)

/-! ## Numbers -/

/-- The length of the rest of a run of digits in which single low lines may stand between digits;
the flag is false if a low line is not followed by a digit. -/
def digitRun (isDigit : Char → Bool) : List Char → Nat × Bool
  | [] => (0, true)
  | c :: cs =>
    if isDigit c then
      let (n, ok) := digitRun isDigit cs
      (n + 1, ok)
    else if c = '_' then
      if (cs.head?.map isDigit).getD false then
        let (n, ok) := digitRun isDigit cs
        (n + 1, ok)
      else (1, false)
    else (0, true)

/-- Does `word` come next, with no letter, digit or low line behind it? -/
def wordFollows (word : List Char) (cs : List Char) : Bool :=
  word.isPrefixOf cs &&
    match (cs.drop word.length).head? with
    | some c => !(c.isAlphanum || c = '_' || 128 ≤ c.toNat)
    | none => true

/-- A number may run into certain keywords, but into no other word. -/
def endsWell (cs : List Char) : Bool :=
  match cs with
  | 'a' :: rest => wordFollows ['n', 'd'] rest
  | 'e' :: rest => wordFollows ['l', 's', 'e'] rest
  | 'f' :: rest => wordFollows ['o', 'r'] rest
  | 'i' :: c :: _ => c = 'f' || c = 'n' || c = 's'
  | 'o' :: rest => wordFollows ['r'] rest
  | 'n' :: rest => wordFollows ['o', 't'] rest
  | c :: _ => !(c.isAlphanum || c = '_' || 128 ≤ c.toNat)
  | [] => true

def endNumber (s : State) (kind : NumberKind) (c : Cursor) : Except Halt Cursor :=
  if endsWell c.rest then .ok c else .error (lexicalHalt s c (.badNumber kind))

def decimalTail (s : State) (c : Cursor) : Except Halt Cursor :=
  let (n, ok) := digitRun Char.isDigit c.rest
  let c := c.advanceBy n
  if ok then .ok c else .error (lexicalHalt s c (.badNumber .decimal))

def digitNext (c : Cursor) : Bool := (c.peek?.map Char.isDigit).getD false

/-- The end of a number behind its last digit: an imaginary unit may stand there. -/
def imaginaryTail (s : State) (c : Cursor) : Except Halt Cursor :=
  if c.peek? = some 'j' || c.peek? = some 'J' then endNumber s .imaginary c.advance
  else endNumber s .decimal c

def exponentTail (s : State) (c : Cursor) : Except Halt Cursor :=
  if c.peek? = some 'e' || c.peek? = some 'E' then
    let e := c.advance
    if e.peek? = some '+' || e.peek? = some '-' then
      let d := e.advance
      if digitNext d then do imaginaryTail s (← decimalTail s d)
      else .error (lexicalHalt s d (.badNumber .decimal))
    else if digitNext e then do imaginaryTail s (← decimalTail s e)
    else endNumber s .decimal c
  else imaginaryTail s c

/-- The digits behind a point, and the end of the number. -/
def fractionTail (s : State) (c : Cursor) : Except Halt Cursor :=
  if digitNext c then do exponentTail s (← decimalTail s c) else exponentTail s c

def radixTail (s : State) (kind : NumberKind) (isDigit : Char → Bool) (c : Cursor) :
    Except Halt Cursor :=
  let (n, ok) := digitRun isDigit c.rest
  let started := match c.rest with
    | '_' :: _ => ok || 1 < n
    | _ => 0 < n
  let c := c.advanceBy n
  let stray : Halt :=
    -- a decimal digit that the radix does not have is named
    match kind, c.peek? with
    | .hexadecimal, _ => lexicalHalt s c (.badNumber kind)
    | _, some d =>
      if d.isDigit then lexicalHalt s c.advance (.badDigit d kind)
      else lexicalHalt s c (.badNumber kind)
    | _, none => lexicalHalt s c (.badNumber kind)
  if !started || !ok then .error stray
  else if kind ≠ .hexadecimal && digitNext c then .error stray
  else endNumber s kind c

/-- A number that starts with the digit zero, which has been read. -/
def zeroTail (s : State) (start c : Cursor) : Except Halt Cursor :=
  match c.peek? with
  | some 'x' | some 'X' =>
    radixTail s .hexadecimal
      (fun d => d.isDigit || ('a' ≤ d && d ≤ 'f') || ('A' ≤ d && d ≤ 'F')) c.advance
  | some 'o' | some 'O' => radixTail s .octal (fun d => '0' ≤ d && d ≤ '7') c.advance
  | some 'b' | some 'B' => radixTail s .binary (fun d => d = '0' || d = '1') c.advance
  | _ =>
    let (zeros, ok) := digitRun (· = '0') c.rest
    let z := c.advanceBy zeros
    -- a low line may also stand between the zeros and another digit
    let fine := ok || digitNext z
    if !fine then .error (lexicalHalt s z (.badNumber .decimal))
    else do
      let nonzero := digitNext z
      let d ← if nonzero then decimalTail s z else pure z
      match d.peek? with
      | some '.' => fractionTail s d.advance
      | some 'e' | some 'E' => exponentTail s d
      | some 'j' | some 'J' => imaginaryTail s d
      | _ =>
        if nonzero then
          .error ⟨⟨.leadingZeros, d.line, .final (start.col + 1), d.line, d.keptFrom⟩, true,
            s.brackets.head?, d⟩
        else endNumber s .decimal d

def number (s : State) (c : Cursor) : Except Halt Cursor :=
  if c.peek? = some '0' then zeroTail s c c.advance
  else do
    let d ← decimalTail s c
    if d.peek? = some '.' then fractionTail s d.advance else exponentTail s d

/-! ## Strings -/

/-- Read a string to its end; `seen` counts the closing quotes read last.  A failure gives the
line at which the end was missed. -/
def stringTail (quote : Char) (size : Nat) : Nat → Nat → Cursor → Except Nat Cursor
  | 0, _, c => .error c.line
  | fuel + 1, seen, c =>
    if seen = size then .ok c
    else
      let c := c.enterLine true
      match c.peek? with
      | none => .error c.line
      | some x =>
        if size = 1 && x = '\n' then .error c.line
        else if x = quote then stringTail quote size fuel (seen + 1) c.advance
        else if x = '\\' then
          stringTail quote size fuel 0 (c.advance.enterLine true).advance
        else stringTail quote size fuel 0 c.advance

/-- Read a string from its first quote on; `start` is where its first letter stands. -/
def string (s : State) (start c : Cursor) (quote : Char) : Except Halt Cursor :=
  let after := c.advance
  let (size, seen, body) :=
    if after.peek? = some quote then
      if after.advance.peek? = some quote then (3, 0, after.advance.advance)
      else (1, 1, after.advance)
    else (1, 0, after)
  match stringTail quote size (s.size + 2) seen body with
  | .ok e => .ok e
  | .error line =>
    let cause := if size = 3 then Complaint.unterminatedTripleString line
      else Complaint.unterminatedString line
    .error ⟨⟨cause, start.line, .final (start.chars + 1), line, start.keptFrom⟩, true,
      s.brackets.head?, start⟩

/-- The number of letters in front of a quote, if what comes next is a string. -/
def stringPrefixLength (cs : List Char) : Option Nat :=
  let letters := cs.takeWhile (fun c => c.isAlpha)
  match (cs.drop letters.length).head? with
  | some q =>
    if q = '\'' || q = '"' then
      let lower := letters.map Char.toLower
      if lower ∈ [[], ['b'], ['r'], ['u'], ['f'], ['b', 'r'], ['r', 'b'], ['f', 'r'], ['r', 'f']]
      then some letters.length else none
    else none
  | none => none

/-! ## One token -/

inductive Move where
  | emit (t : Token) (s : State)
  | again (s : State)
  | nextLine (s : State)

def tokenAt (kind : TokenKind) (s : State) (start c : Cursor) : Token :=
  { kind
    text := String.ofList (start.rest.take (c.read - start.read))
    line := start.line, col := some start.col, endLine := c.line, endCol := c.col
    depth := s.brackets.length
    reachedCol := c.col, reachedLine := c.line, keptFrom := c.keptFrom }

def emptyToken (kind : TokenKind) (s : State) : Token :=
  let c := s.cursor
  { kind, text := "", line := c.line, col := none, endLine := c.line, endCol := 0
    depth := s.brackets.length
    reachedCol := c.col, reachedLine := c.line, keptFrom := c.keptFrom }

def emitText (kind : TokenKind) (s : State) (start c : Cursor) : Move :=
  let s := { s with cursor := c }
  .emit (tokenAt kind s start c) s

def word (s : State) (start : Cursor) : Except Halt Move :=
  let part (c : Char) : Bool := c.isAlphanum || c = '_' || 128 ≤ c.toNat
  let letters := start.rest.takeWhile part
  let good := identifierPrefixLength letters
  match keptFault? letters, letters[good]? with
  | some f, _ => .error (lexicalHalt s (start.advanceBy letters.length) (.undecodable f))
  | none, some x =>
    let c := start.advanceBy (good + 1)
    .error (lexicalHalt s c (if isPrintable x then .strayCharacter x else .unprintableCharacter x))
  | none, none =>
    let c := start.advanceBy letters.length
    let kind := if keywords.contains (String.ofList letters) then TokenKind.keyword else .name
    .ok (emitText kind s start c)

def closerOf : Char → Char
  | '(' => ')'
  | '[' => ']'
  | _ => '}'

def operator (s : State) (start : Cursor) (x : Char) : Except Halt Move :=
  let three := String.ofList (start.rest.take 3)
  let two := String.ofList (start.rest.take 2)
  if threeCharOps.contains three then .ok (emitText .op s start (start.advanceBy 3))
  else if twoCharOps.contains two then .ok (emitText .op s start (start.advanceBy 2))
  else
    let c := start.advance
    if x = '(' || x = '[' || x = '{' then
      if maxDepth ≤ s.brackets.length then .error (lexicalHalt s c .tooManyBrackets)
      else .ok (emitText .op
        { s with brackets := ⟨x, start.line, start.col⟩ :: s.brackets } start c)
    else if x = ')' || x = ']' || x = '}' then
      match s.brackets with
      | [] => .error (lexicalHalt s c (.unmatchedBracket x))
      | b :: outer =>
        let s := { s with brackets := outer }
        if closerOf b.opening = x then .ok (emitText .op s start c)
        else
          let line := if b.line = c.line then none else some b.line
          .error (lexicalHalt s c (.mismatchedBracket x b.opening line))
    else if !isPrintable x then .error (lexicalHalt s c (.unprintableCharacter x))
    else .ok (emitText .op s start c)

/-- Read on in the current line; `blank` tells whether the line holds no statement. -/
def look (s : State) (blank : Bool) : Except Halt Move :=
  let start := s.cursor.skipWhile (fun c => c = ' ' || c = '\t' || c = '\x0c')
  let start := if start.peek? = some '#' then start.skipWhile (· ≠ '\n') else start
  match start.peek? with
  | none =>
    if s.brackets.isEmpty then
      let s := { s with cursor := start }
      .ok (.emit (emptyToken .endOfFile s) s)
    else .error (endHalt s start)
  | some x =>
    match stringPrefixLength start.rest with
    | some n =>
      let q := start.advanceBy n
      match string s start q (q.peek?.getD '"') with
      | .ok c => .ok (emitText .string s start c)
      | .error h => .error h
    | none =>
      if x.isAlpha || x = '_' || 128 ≤ x.toNat then word s start
      else if x = '\n' then
        let after := start.advance
        let next := { s with cursor := after, lineStart := true }
        if blank || !s.brackets.isEmpty then .ok (.nextLine next)
        else
          let t := tokenAt .newline next start after
          .ok (.emit { t with text := "", endCol := start.col } next)
      else if x = '.' then
        if (start.advance.peek?.map Char.isDigit).getD false then
          (fractionTail s start.advance).map (emitText .number s start)
        else if ['.', '.', '.'].isPrefixOf start.rest then
          .ok (emitText .op s start (start.advanceBy 3))
        else .ok (emitText .op s start start.advance)
      else if x.isDigit then (number s start).map (emitText .number s start)
      else if x = '\\' then
        (continueLine s true start).map fun c => .again { s with cursor := c }
      else operator s start x

/-- The next token.  Blank lines and continued lines are passed over, at most `fuel` of them. -/
def next : Nat → State → Bool → Except Halt (Token × State)
  | 0, s, _ => .error (endHalt s s.cursor)
  | fuel + 1, s, blank => do
    let (s, blank) ← if s.lineStart then startLine s else pure (s, blank)
    if s.pending < 0 then
      let s := { s with pending := s.pending + 1 }
      return (emptyToken .dedent s, s)
    else if 0 < s.pending then
      let s := { s with pending := s.pending - 1 }
      return (emptyToken .indent s, s)
    else
      match ← look s blank with
      | .emit t s => return (t, s)
      | .again s => next fuel s blank
      | .nextLine s => next fuel s false

/-- Collect the tokens up to the end of the file or to the first fault. -/
def collect : Nat → State → Array Token → TokenStream
  | 0, _, ts => ⟨ts, none⟩
  | fuel + 1, s, ts =>
    match next (s.size + 2) s false with
    | .error h => ⟨ts, some h⟩
    | .ok (t, s) =>
      if t.kind = .endOfFile then ⟨ts.push t, none⟩ else collect fuel s (ts.push t)

end Lexer

/-- A text as it is read: unified line ends, and a line end behind the last line. -/
def readable (s : String) : List Char :=
  let cs := Text.unifyLineEnds s.toList
  if cs.getLast? = some '\n' then cs else cs ++ ['\n']

def tokenize (cs : List Char) : TokenStream :=
  Lexer.collect (2 * cs.length + 4) { cursor := { rest := cs }, size := cs.length } #[]

end QualityGate.Source
