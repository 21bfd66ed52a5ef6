/-
Parsing by ordered choice.

A parser looks at the tokens from a position on.  It succeeds with a value and the position behind
what it has taken, it misses, or it stops the whole parse with a fault.  A rule tries its
alternatives in order; an alternative may also give up for all alternatives of its rule (`cut`).
Rules that describe common mistakes take part only in a second parse, which is made after the
first has failed.

The results of certain rules are remembered by position.  What is remembered is shared between a
rule read with and without its mistake alternatives, except for the rules that are remembered only
to save time.
-/
import QualityGate.Source.Token
import QualityGate.Source.Tree
import Std.Data.TreeMap

namespace QualityGate.Source

inductive Rule where
  -- statements
  | statements | block | simpleStmt | compoundStmt | elifStmt
  -- expressions
  | expression | plainExpression | starExpressions | starExpression | namedExpression
  | badNamedExpression | disjunction | conjunction | inversion | bitOr | bitXor | bitAnd | shift
  | sum | term | factor | awaited | primary | atom | strings | arguments | args | slices
  | badAnnotationTarget
  -- targets
  | starTarget | targetAtom | targetPrimary | singleTarget | delTarget
  -- patterns
  | pattern | orPattern | closedPattern | starPattern
  deriving DecidableEq, Repr

namespace Rule

def index : Rule → Nat
  | statements => 0 | block => 1 | simpleStmt => 2 | compoundStmt => 3 | elifStmt => 4
  | expression => 5 | plainExpression => 6 | starExpressions => 7 | starExpression => 8
  | namedExpression => 9 | badNamedExpression => 10 | disjunction => 11 | conjunction => 12
  | inversion => 13 | bitOr => 14 | bitXor => 15 | bitAnd => 16 | shift => 17 | sum => 18
  | term => 19 | factor => 20 | awaited => 21 | primary => 22 | atom => 23 | strings => 24
  | arguments => 25 | args => 26 | slices => 27 | badAnnotationTarget => 28
  | starTarget => 29 | targetAtom => 30 | targetPrimary => 31 | singleTarget => 32
  | delTarget => 33 | pattern => 34 | orPattern => 35 | closedPattern => 36 | starPattern => 37

/-- How the results of a rule are remembered: for both parses alike, for each kind of parse on its
own, or not at all. -/
inductive Memory where
  | shared
  | perMode
  | no
  deriving DecidableEq

def memory : Rule → Memory
  | block | simpleStmt | expression | starExpression | badNamedExpression | disjunction
  | conjunction | inversion | bitOr | bitXor | bitAnd | shift | sum | term | factor | awaited
  | primary | strings | arguments | starTarget | targetAtom | targetPrimary | delTarget
  | closedPattern | starPattern => .shared
  | atom | slices | args | namedExpression | starExpressions | orPattern => .perMode
  | _ => .no

/-- How many levels a rule is made of: a rule with several kinds of operands in a row counts each,
and one that is extended to the right counts twice. -/
def levels : Rule → Nat
  | statements | bitOr => 3
  | atom => 4
  | simpleStmt | compoundStmt | bitXor | bitAnd | shift | sum | term | primary => 2
  | _ => 1

end Rule

/-- What a parse looks at and never changes. -/
structure Env where
  stream : TokenStream
  /-- Do the rules for common mistakes take part? -/
  mistakes : Bool
  /-- In the text of a replacement field, the column of the surrounding text that its columns are
  counted from. -/
  field : Option Nat := none
  /-- The number of levels around the current rule. -/
  level : Nat := 0

structure Progress where
  fill : Nat := 0
  /-- The remembered results: a tree and the position behind it, or a miss. -/
  memo : Std.TreeMap Nat (Option (Tree × Nat)) := {}

inductive Outcome (α : Type) where
  | done (value : α) (mark : Nat) (progress : Progress)
  | miss (progress : Progress)
  | cut (progress : Progress)
  | stop (fault : Fault) (fill : Nat)

/-- A parser looks at the tokens from a position on. -/
def Parser (α : Type) : Type := Env → Nat → Progress → Outcome α

namespace Parser

variable {α β : Type}

@[inline] protected def pure (a : α) : Parser α := fun _ mark g => .done a mark g

@[inline] protected def bind (p : Parser α) (f : α → Parser β) : Parser β := fun env mark g =>
  match p env mark g with
  | .done a mark g => f a env mark g
  | .miss g => .miss g
  | .cut g => .cut g
  | .stop e n => .stop e n

instance : Monad Parser where
  pure := Parser.pure
  bind := Parser.bind

@[inline] def fail : Parser α := fun _ _ g => .miss g

/-- No match, and no other alternative of the rule is to be tried. -/
@[inline] def giveUp : Parser α := fun _ _ g => .cut g

@[inline] def orElse (p q : Parser α) : Parser α := fun env mark g =>
  match p env mark g with
  | .miss g => q env mark g
  | r => r

@[inline] def firstOf (ps : List (Parser α)) : Parser α :=
  ps.foldr orElse fail

/-- The end of a rule: having given up inside is a plain miss outside. -/
@[inline] def rule (p : Parser α) : Parser α := fun env mark g =>
  match p env mark g with
  | .cut g => .miss g
  | r => r

/-- From here on the rule stands or falls with this alternative. -/
@[inline] def commit (p : Parser α) : Parser α := fun env mark g =>
  match p env mark g with
  | .miss g => .cut g
  | r => r

@[inline] def optional (p : Parser α) : Parser (Option α) := fun env mark g =>
  match p env mark g with
  | .done a mark g => .done (some a) mark g
  | .miss g => .done none mark g
  | .cut g => .done none mark g
  | .stop e n => .stop e n

/-- Succeed where `p` succeeds, without taking anything. -/
@[inline] def ahead (p : Parser α) : Parser Unit := fun env mark g =>
  match p env mark g with
  | .done _ _ g => .done () mark g
  | .miss g => .miss g
  | .cut g => .miss g
  | .stop e n => .stop e n

@[inline] def notAhead (p : Parser α) : Parser Unit := fun env mark g =>
  match p env mark g with
  | .done _ _ g => .miss g
  | .miss g => .done () mark g
  | .cut g => .done () mark g
  | .stop e n => .stop e n

/-- Repeat at most `fuel` times. -/
def manyUpTo (p : Parser α) : Nat → List α → Parser (List α)
  | 0, acc => fun _ mark g => .done acc.reverse mark g
  | fuel + 1, acc => fun env mark g =>
    match p env mark g with
    | .done a mark' g =>
      if mark < mark' then manyUpTo p fuel (a :: acc) env mark' g
      else .done (a :: acc).reverse mark' g
    | .miss g => .done acc.reverse mark g
    | .cut g => .done acc.reverse mark g
    | .stop e n => .stop e n

def many (p : Parser α) : Parser (List α) := fun env mark g =>
  manyUpTo p (env.stream.tokens.size + 1) [] env mark g

@[inline] def many1 (p : Parser α) : Parser (List α) := do
  let a ← p
  let as ← many p
  return a :: as

@[inline] def sepBy1 (p : Parser α) (sep : Parser β) : Parser (List α) := do
  let a ← p
  let as ← many (do let _ ← sep; p)
  return a :: as

/-- Does the parse take part in the search for common mistakes? -/
@[inline] def whenMistakes (p : Parser α) : Parser α := fun env mark g =>
  if env.mistakes then p env mark g else .miss g

@[inline] def withoutMistakes (p : Parser α) : Parser α := fun env mark g =>
  p { env with mistakes := false } mark g

def maxLevel : Nat := 6000

/-- Read a part that is `n` levels further in, if there is room for it. -/
@[inline] def deeper (n : Nat) (p : Parser α) : Parser α := fun env mark g =>
  if maxLevel < env.level + n then .stop ⟨.noRoom, 0, .final 0, 0, 0⟩ g.fill
  else p { env with level := env.level + n } mark g

/-! ## Tokens -/

def peek : Parser Token := fun env mark g =>
  match env.stream.tokens[mark]? with
  | some t => .done t mark (if g.fill ≤ mark then { g with fill := mark + 1 } else g)
  | none =>
    match env.stream.halt with
    | some h => .stop h.fault (mark + 1)
    | none => .miss g

@[inline] def satisfy (ok : Token → Bool) : Parser Token := fun env mark g =>
  match peek env mark g with
  | .done t mark g => if ok t then .done t (mark + 1) g else .miss g
  | r => r

def tok (text : String) : Parser Token :=
  satisfy fun t => (t.kind = .op || t.kind = .keyword) && t.text == text

def tokIn (texts : List String) : Parser Token :=
  satisfy fun t => (t.kind = .op || t.kind = .keyword) && texts.contains t.text

def kind (k : TokenKind) : Parser Token := satisfy fun t => t.kind = k

/-- A given name that is a keyword only in places. -/
def softKeyword (text : String) : Parser Token :=
  satisfy fun t => t.kind = .name && t.text == text

def lastTaken : Parser Token := fun env mark g =>
  match env.stream.tokens[mark - 1]? with
  | some t => .done t mark g
  | none => .miss g

/-- The last token before position `n` that has text of its own and is no line end. -/
def lastTextBefore (ts : Array Token) : Nat → Token
  | 0 => default
  | n + 1 =>
    match ts[n]? with
    | some t =>
      match t.kind with
      | .newline | .indent | .dedent | .endOfFile => lastTextBefore ts n
      | _ => t
    | none => default

/-! ## Spans -/

/-- The place of the next token, as the start of a span. -/
def here : Parser Span := fun env mark g =>
  match peek env mark g with
  | .done t mark g => .done ⟨t.line, t.col.getD 0, t.line, t.col.getD 0⟩ mark g
  | .miss g => .miss g
  | .cut g => .cut g
  | .stop e n => .stop e n

/-- A node from the start of `s` to the token just taken. -/
def mk (s : Span) (label : Label) (children : List Tree) : Parser Tree := fun env mark g =>
  let e := lastTextBefore env.stream.tokens mark
  .done (.node label { s with endLine := e.endLine, endCol := e.endCol } children) mark g

/-! ## Faults -/

def frontier (env : Env) (g : Progress) : Token :=
  env.stream.tokens.getD (g.fill - 1) default

/-- The fault with a given place.  Inside a replacement field the complaint says so, and columns
are counted from the field. -/
def faultAt (env : Env) (g : Progress) (cause : Complaint) (line column : Nat) : Fault :=
  let t := frontier env g
  match env.field with
  | some start => ⟨.inField cause, line, .final (column - start : Int), t.reachedLine, t.keptFrom⟩
  | none => ⟨cause, line, .bytes column, t.reachedLine, t.keptFrom⟩

/-- The fault at a token, which has no column if it has no text. -/
def faultAtToken (env : Env) (g : Progress) (cause : Complaint) (t : Token) : Fault :=
  faultAt env g cause t.line (match t.col with | some c => c + 1 | none => 0)

def faultAtFrontier (env : Env) (g : Progress) (cause : Complaint) : Fault :=
  let t := frontier env g
  faultAt env g cause t.line (match t.col with | some c => c + 1 | none => t.reachedCol)

/-- Stop with a complaint at a line and a byte column (counted from zero). -/
def complainAt (cause : Complaint) (line col : Nat) : Parser α := fun env _ g =>
  .stop (faultAt env g cause line (col + 1)) g.fill

def complainAtTree (cause : Complaint) (t : Tree) : Parser α :=
  complainAt cause t.span.line t.span.col

def complainAtToken (cause : Complaint) (t : Token) : Parser α := fun env _ g =>
  .stop (faultAtToken env g cause t) g.fill

/-- Stop with a complaint at the last token that has been looked at. -/
def complain (cause : Complaint) : Parser α := fun env _ g =>
  .stop (faultAtFrontier env g cause) g.fill

/-- A token that must come here. -/
def force (text : String) : Parser Token := do
  let t ← peek
  if (t.kind = .op || t.kind = .keyword) && t.text == text then tok text
  else complainAtToken (.expected text) t

/-! ## Complete parses -/

/-- A fault gives way to a fault of the lexer further on, and to a bracket that was opened on an
earlier line and is never closed. -/
def overridden (stream : TokenStream) (fault : Fault) (fill : Nat) : Fault :=
  if !fault.cause.blamesText then fault
  else match stream.halt, stream.tokens[fill - 1]? with
  | some h, some t =>
    if h.lexical then h.fault.behind
    else match h.unclosed with
      | some b => if b.line < t.line then b.fault h.cursor else fault
      | none => fault
  | _, _ => fault

/-- Parse without and, if that fails, with the rules for common mistakes.  If those find nothing,
the complaint is about the last token that the first parse looked at. -/
def parseStream (p : Parser α) (stream : TokenStream) (field : Option Nat) : Except Fault α :=
  let plain : Env := { stream, mistakes := false, field }
  let search : Env := { stream, mistakes := true, field }
  let second (first : Progress) : Except Fault α :=
    let general (g : Progress) : Fault :=
      let last := frontier plain first
      match last.kind with
      | .indent => faultAtFrontier search g .unexpectedIndent
      | .dedent => faultAtFrontier search g .unexpectedUnindent
      | _ => overridden stream (faultAtToken search g .invalid last) g.fill
    match p search 0 { fill := first.fill } with
    | .stop e n => .error (overridden stream e n)
    | .done _ _ g => .error (general g)
    | .miss g => .error (general g)
    | .cut g => .error (general g)
  match p plain 0 {} with
  | .done a _ _ => .ok a
  | .stop e n => .error (overridden stream e n)
  | .miss g => second g
  | .cut g => second g

end Parser

end QualityGate.Source
