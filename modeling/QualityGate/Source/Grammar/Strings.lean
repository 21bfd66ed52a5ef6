/-
String literals and their replacement fields.

Adjacent literals are one literal.  A formatted literal is cut into plain pieces and replacement
fields; the text of a field is parsed on its own, in parentheses, and may be followed by a
conversion and by a format, which is itself cut into pieces.
-/
import QualityGate.Source.Grammar.Basic
import QualityGate.Source.Lexer
import QualityGate.Source.Literal

namespace QualityGate.Source

namespace Strings

open Source.Parser

/-- What the next character of a plain piece belongs to. -/
inductive Within where
  | nothing
  | escape
  | characterName
  deriving DecidableEq

/-- A plain piece of a formatted literal: its characters, what follows, and whether a doubled
brace ended it.  In a format (`top` false) braces are not doubled. -/
def plainPiece (raw top : Bool) : List Char → Within → List Char →
    Except Complaint (List Char × List Char × Bool)
  | [], _, acc => .ok (acc.reverse, [], false)
  | c :: cs, .escape, acc => plainPiece raw top cs .nothing (c :: acc)
  | c :: cs, .characterName, acc =>
    plainPiece raw top cs (if c = '}' then .nothing else .characterName) (c :: acc)
  | c :: cs, .nothing, acc =>
    if !raw && c = '\\' then
      let within :=
        if ['N', '{'].isPrefixOf cs then Within.characterName
        else if cs.head? = some '{' || cs.head? = some '}' then .nothing
        else .escape
      plainPiece raw top cs within (c :: acc)
    else if c = '{' || c = '}' then
      if top && cs.head? = some c then .ok ((c :: acc).reverse, cs.drop 1, true)
      else if top && c = '}' then .error .lonelyBrace
      else .ok (acc.reverse, c :: cs, false)
    else plainPiece raw top cs .nothing (c :: acc)

def closes (opening closing : Char) : Bool :=
  (opening = '(' && closing = ')') || (opening = '[' && closing = ']') ||
    (opening = '{' && closing = '}')

/-- The expression of a replacement field and what follows it.  `quote` is the quotation mark of
the string the scan is in, with a flag for tripled ones, `skip` the number of characters to pass
over, and `stack` the open brackets. -/
def fieldText : List Char → Nat → Option (Char × Bool) → List Char → List Char →
    Except Complaint (List Char × List Char)
  | [], _, quote, stack, acc =>
    match quote, stack with
    | some _, _ => .error .fieldUnterminatedString
    | none, o :: _ => .error (.fieldUnmatched o)
    | none, [] => .ok (acc.reverse, [])
  | c :: cs, skip + 1, quote, stack, acc => fieldText cs skip quote stack (c :: acc)
  | c :: cs, 0, quote, stack, acc =>
    let tripled := 2 ≤ cs.length && cs.take 2 == [c, c]
    let next := cs.head?
    if c = '\\' then .error .fieldBackslash
    else match quote with
      | some (q, triple) =>
        if c = q then
          if triple then
            if tripled then fieldText cs 2 none stack (c :: acc)
            else fieldText cs 0 quote stack (c :: acc)
          else fieldText cs 0 none stack (c :: acc)
        else fieldText cs 0 quote stack (c :: acc)
      | none =>
        if c = '\'' || c = '"' then
          fieldText cs (if tripled then 2 else 0) (some (c, tripled)) stack (c :: acc)
        else if c = '[' || c = '{' || c = '(' then
          if Lexer.maxDepth ≤ stack.length then .error .fieldTooManyBrackets
          else fieldText cs 0 none (c :: stack) (c :: acc)
        else if c = '#' then .error .fieldComment
        else if stack.isEmpty && (c = '!' || c = ':' || c = '}' || c = '=' || c = '<' || c = '>')
        then
          if next = some '=' && (c = '!' || c = '=' || c = '<' || c = '>') then
            fieldText cs 1 none stack (c :: acc)
          else if c = '<' || c = '>' then fieldText cs 0 none stack (c :: acc)
          else .ok (acc.reverse, c :: cs)
        else if c = ']' || c = '}' || c = ')' then
          match stack with
          | [] => .error (.fieldUnmatched c)
          | o :: outer =>
            if closes o c then fieldText cs 0 none outer (c :: acc)
            else .error (.fieldMismatched c o)
        else fieldText cs 0 none stack (c :: acc)

/-- Lift a complaint into the parser, at the last token that has been looked at. -/
def orComplain {α : Type} : Except Complaint α → Parser α
  | .ok a => pure a
  | .error cause => complain cause

/-- Inside a field a fault of the layout says so, and columns are counted from the field. -/
def fieldHalt (start : Nat) (h : Halt) : Halt :=
  if h.lexical then h
  else
    let column := match h.fault.column with
      | .bytes n => Column.final (n - start : Int)
      | c => c
    { h with fault := { h.fault with cause := .inField h.fault.cause, column } }

/-- Where a replacement field stands: its line, and the column of the surrounding text from which
the columns of its first line are counted. -/
structure FieldPlace where
  line : Nat
  start : Nat

/-- The place of the field whose brace stands behind `before` in the token `t`.  The columns of a
field that starts a new line right behind its brace are not moved by the text before it, and
those of a field on a later line not by the place of the token. -/
def FieldPlace.of (t : Token) (before inside : List Char) : FieldPlace :=
  let blanks := inside.dropWhile fun c => c = ' ' || c = '\t' || c = '\x0c'
  let opensLine := blanks.head? = some '\n' || blanks.head? = some '}'
  let lines := before.count '\n'
  let bytes := ((before.reverse.takeWhile (· ≠ '\n')).map Char.utf8Size).foldl (· + ·) 0
  let moved := if opensLine then 0 else bytes
  ⟨t.line + lines, if lines = 0 then t.col.getD 0 + moved else moved⟩

/-- The tokens on the first line of a field have columns of the surrounding text. -/
def FieldPlace.shift (p : FieldPlace) (t : Token) : Token :=
  if t.reachedLine = p.line then
    { t with col := t.col.map (· + p.start), endCol := t.endCol + p.start }
  else t

/-- Parse the expression of a field; `terminator` is the character behind it. -/
def fieldExpression (call : Rule → Parser Tree) (text : List Char) (terminator : Option Char)
    (place : FieldPlace) : Parser Tree :=
  if text.all (fun c => c = ' ' || c = '\t' || c = '\n' || c = '\x0c') then
    match terminator with
    | some c => if c = '}' then complain .fieldEmpty else complain (.fieldEmptyBefore c)
    | none => complain .fieldEmpty
  else
    let cs := '(' :: (text ++ [')', '\n'])
    let stream := Lexer.collect (2 * cs.length + 4)
      { cursor := { rest := cs, line := place.line - 1 }, size := cs.length } #[]
    let stream : TokenStream :=
      { tokens := stream.tokens.map place.shift, halt := stream.halt.map (fieldHalt place.start) }
    fun _ mark g =>
      match parseStream (call .starExpressions) stream (some place.start) with
      | .ok t => .done t mark g
      | .error e => .stop e g.fill

/-- Complain of bytes that are part of no character.  Where escapes are read, each stretch of
characters beyond ASCII is looked at by itself. -/
def refuseKept (escapes : Bool) (cs : List Char) : Parser Unit :=
  let fault := if escapes then
      (cs.splitBy fun a b => decide (a.toNat < 128) == decide (b.toNat < 128)).findSome?
        Text.keptFault?
    else Text.keptFault? cs
  match fault with
  | some f => complain (.undecodable f)
  | none => pure ()

def pieceNode (raw : Bool) (span : Span) (cs : List Char) : Parser (List Tree) :=
  if cs.isEmpty then pure []
  else do
    refuseKept (!raw) cs
    let text ← if raw then pure cs else orComplain (decodeText cs 0 0)
    return [.node (.literal (.text (String.ofList text))) span []]

/-- Cut the body of a formatted literal into plain pieces and fields, and give what is left behind
a format.  `place` is where a field stands, by what is left behind its brace, and `level` the depth
of the format. -/
def pieces (call : Rule → Parser Tree) (raw : Bool) (span : Span)
    (place : List Char → FieldPlace) :
    Nat → Nat → List Char → List Tree → Parser (List Tree × List Char)
  | 0, _, rest, acc => pure (acc, rest)
  | fuel + 1, level, cs, acc => do
    let (plain, rest, doubled) ← orComplain (plainPiece raw (level == 0) cs .nothing [])
    let acc := acc ++ (← pieceNode raw span plain)
    if doubled then pieces call raw span place fuel level rest acc
    else match rest with
      | [] => if level = 0 then return (acc, []) else complain .fieldUnclosed
      | '}' :: _ => return (acc, rest)
      | _ :: inside =>
        if 2 ≤ level then complain .fieldNestedTooDeep
        else
          let (text, rest) ← orComplain (fieldText inside 0 none [] [])
          if rest.isEmpty then complain .fieldUnclosed
          else
            let value ← fieldExpression call text rest.head? (place inside)
            -- a field that shows its own text
            let (shown, rest) := match rest with
              | '=' :: r =>
                let blanks := r.takeWhile (fun c => c = ' ' || ('\t' ≤ c && c ≤ '\r'))
                (text ++ '=' :: blanks, r.drop blanks.length)
              | r => ([], r)
            let acc := if shown.isEmpty then acc
              else acc ++ [.node (.literal (.text (String.ofList shown))) span []]
            if rest.isEmpty then complain .fieldUnclosed
            else
              let (conversion, rest) ← match rest with
                | '!' :: c :: r =>
                  if c = 's' || c = 'r' || c = 'a' then pure (some c, r)
                  else complain .fieldBadConversion
                | '!' :: [] => complain .fieldUnclosed
                | r => pure (none, r)
              let (format, rest) ← match rest with
                | ':' :: [] => complain .fieldUnclosed
                | ':' :: r => do
                  let (parts, rest) ← pieces call raw span place fuel (level + 1) r []
                  pure (Tree.node .joined span parts, rest)
                | r => pure (Tree.missing, r)
              -- the value of such a field is shown as it is written, unless it says otherwise
              let conversion := conversion.or <|
                if shown.isEmpty || format.isPresent then none else some 'r'
              match rest with
              | '}' :: rest =>
                pieces call raw span place fuel level rest
                  (acc ++ [.node (.formatted conversion) span [value, format]])
              | _ => complain .fieldUnclosed

inductive Piece where
  | text (s : String)
  | bytes (bs : List UInt8)
  | parts (ts : List Tree)

def evaluate (call : Rule → Parser Tree) (span : Span) (t : Token) : Parser Piece := do
  let parts := StringParts.ofToken t.text
  if parts.isFormatted then
    let place (inside : List Char) : FieldPlace :=
      let before := parts.lead ++ parts.body.take (parts.body.length - inside.length - 1)
      .of t before inside
    let (ts, _) ← pieces call parts.isRaw span place (parts.body.length + 2) 0 parts.body []
    return .parts ts
  else if parts.isBytes then
    if parts.body.any (fun c => 128 ≤ c.toNat) then complainAtToken .bytesNotAscii t
    else if parts.isRaw then return .bytes (parts.body.map (·.toNat.toUInt8))
    else return .bytes (← orComplain (decodeBytes parts.body 0 0))
  else
    let plain := parts.isRaw || !parts.body.contains '\\'
    refuseKept (!plain) parts.body
    if plain then return .text (String.ofList parts.body)
    else return .text (String.ofList (← orComplain (decodeText parts.body 0 0)))

/-- Evaluate adjacent string tokens, which must all or none be bytes. -/
def evaluateAll (call : Rule → Parser Tree) (span : Span) (isBytes : Option Bool) :
    List Token → Parser (List Piece)
  | [] => pure []
  | t :: ts => do
    let p ← evaluate call span t
    let these := match p with
      | .bytes _ => true
      | _ => false
    if isBytes = some !these then complain .mixedBytes
    else return p :: (← evaluateAll call span (some these) ts)

def join (pieces : List Piece) : Label × List Tree :=
  let formatted := pieces.any fun
    | .parts _ => true
    | _ => false
  if formatted then
    (.joined, pieces.flatMap fun
      | .text s => if s.isEmpty then [] else [.node (.literal (.text s)) default []]
      | .bytes _ => []
      | .parts ts => ts)
  else
    let isBytes := pieces.any fun
      | .bytes _ => true
      | _ => false
    if isBytes then
      (.literal (.bytes (pieces.flatMap fun
        | .bytes bs => bs
        | _ => [])), [])
    else
      (.literal (.text (String.join (pieces.map fun
        | .text s => s
        | _ => ""))), [])

end Strings

def strings (call : Rule → Parser Tree) : Parser Tree := do
  let s ← Parser.here
  let ts ← Parser.many1 (Parser.kind .string)
  let span ← Parser.mk s .group []
  let pieces ← Strings.evaluateAll call span.span none ts
  let (label, children) := Strings.join pieces
  Parser.mk s label children

end QualityGate.Source
