/-
From text to syntax tree.

`run` ties the rules of the grammar together: a rule calls other rules with less fuel, and each
call either takes a token or goes on to one of finitely many rules, so fuel in proportion to the
length of the text suffices.  `parse` is the whole way from a text to its tree or to the place and
cause for which it is refused.
-/
import QualityGate.Source.Grammar.Statement

namespace QualityGate.Source

open Source.Parser

def ruleBody (call : Rule → Parser Tree) : Rule → Parser Tree
  | .statements => Grammar.statements call
  | .block => Grammar.block call
  | .simpleStmt => Grammar.simpleStmt call
  | .compoundStmt => Grammar.compoundStmt call
  | .elifStmt => Grammar.branch call "elif"
  | .expression => Grammar.expression call
  | .plainExpression => Grammar.plainExpression call
  | .starExpressions => Grammar.commaExpressions (call .starExpression)
  | .starExpression => Grammar.starExpression call
  | .namedExpression => Grammar.namedExpression call
  | .badNamedExpression => Grammar.badNamedExpression call
  | .disjunction => Grammar.boolOperands call "or" .or .conjunction
  | .conjunction => Grammar.boolOperands call "and" .and .inversion
  | .inversion => Grammar.inversion call
  | .bitOr => Grammar.leftAssociative call [("|", .bitOr)] .bitXor
  | .bitXor => Grammar.leftAssociative call [("^", .bitXor)] .bitAnd
  | .bitAnd => Grammar.leftAssociative call [("&", .bitAnd)] .shift
  | .shift => Grammar.leftAssociative call [("<<", .shiftLeft), (">>", .shiftRight)] .sum
  | .sum => Grammar.leftAssociative call [("+", .add), ("-", .sub)] .term
  | .term => Grammar.leftAssociative call
      [("*", .mul), ("/", .div), ("//", .floorDiv), ("%", .mod), ("@", .matMul)] .factor
  | .factor => Grammar.factor call
  | .awaited => Grammar.awaited call
  | .primary => Grammar.primary call
  | .atom => Grammar.atom call
  | .strings => strings call
  | .arguments => Grammar.arguments call
  | .args => Grammar.args call
  | .slices => Grammar.slices call
  | .badAnnotationTarget => Grammar.badAnnotationTarget call
  | .starTarget => Grammar.starTarget call
  | .targetAtom => Grammar.targetAtom call
  | .targetPrimary => Grammar.targetPrimary call
  | .singleTarget => Grammar.singleTarget call
  | .delTarget => Grammar.delTarget call
  | .pattern => Grammar.pattern call
  | .orPattern => Grammar.orPattern call
  | .closedPattern => Grammar.closedPattern call
  | .starPattern => Grammar.starPattern

/-- Read a rule, or recall what it gave at this position. -/
def remembered (r : Rule) (p : Parser Tree) : Parser Tree := fun env mark g =>
  match r.memory with
  | .no => p env mark g
  | m =>
    let mode := if m = .perMode && env.mistakes then 1 else 0
    let key := (mark * 64 + r.index) * 2 + mode
    match g.memo.get? key with
    | some (some (t, mark)) => .done t mark g
    | some none => .miss g
    | none =>
      match p env mark g with
      | .done t mark g => .done t mark { g with memo := g.memo.insert key (some (t, mark)) }
      | .miss g => .miss { g with memo := g.memo.insert key none }
      | .cut g => .cut g
      | .stop e n => .stop e n

/-- Read a rule with at most `fuel` rules inside each other. -/
def run : Nat → Rule → Parser Tree
  | 0, _ => fail
  | fuel + 1, r => remembered r (deeper r.levels (rule (ruleBody (run fuel) r)))

def fileRule (call : Rule → Parser Tree) : Parser Tree := do
  let s ← here
  let b ← optional (call .statements)
  let _ ← kind .endOfFile
  mk s .module ((b.map Tree.children).getD [])

/-! ## Columns -/

/-- The number of characters that the first `n` bytes of a text touch; one more if `n` goes past
the end. -/
def charsTouched : Nat → List Char → Nat
  | 0, _ => 0
  | _, [] => 1
  | n + 1, c :: cs => 1 + charsTouched (n + 1 - c.utf8Size) cs

def stretchBytes : Nat := 999

/-- The last stretch of a line, by which a column in it is found.  `used` counts the bytes of the
current stretch and `acc` holds its characters, last first.  The bytes that a stretch begins with
in the middle of a character are unreadable.  Behind a full stretch that does not end the line
comes an empty one. -/
def lastStretch : Nat → List Char → List Char → List Char
  | used, acc, [] => if used = stretchBytes && acc.head? ≠ some '\n' then [] else acc.reverse
  | used, acc, c :: cs =>
    let n := c.utf8Size
    if used = stretchBytes then lastStretch n [c] cs
    else if used + n ≤ stretchBytes then lastStretch (used + n) (c :: acc) cs
    else
      let excess := used + n - stretchBytes
      lastStretch excess (List.replicate excess '\ufffd') cs

def linesWithEnds (cs : List Char) : List (List Char) :=
  match (Text.splitAtNewlines cs).reverse with
  | [] => []
  | last :: init =>
    (init.reverse.map (· ++ ['\n'])) ++ (if last.isEmpty then [] else [last])

/-- The text by which the column of a fault is found.  Of a text that stands in a file (`onDisk`,
the text of the file) it is the last stretch of the line; otherwise it is what is at hand: the kept
lines if the fault is on the last line read, else the line. -/
def columnText (source : List Char) (onDisk : Option (List Char)) (f : Fault) : List Char :=
  let lines := linesWithEnds source
  let fromFile := onDisk.bind fun disk =>
    (linesWithEnds disk)[f.line - 1]?.map (lastStretch 0 [])
  match fromFile with
  | some l => l
  | none =>
    if f.reachedLine ≤ f.line then
      ((lines.take f.reachedLine).drop (f.keptFrom - 1)).flatten
    else (lines.getD (f.line - 1) []).filter (· ≠ '\n')

def Fault.refusal (source : List Char) (onDisk : Option (List Char)) (f : Fault) : Refusal :=
  if !f.cause.blamesText then ⟨f.cause, none, 0⟩
  else match f.column with
  | .final n => ⟨f.cause, some f.line, n⟩
  | .bytes n => ⟨f.cause, some f.line, charsTouched n (columnText source onDisk f)⟩

/-- The largest number of constructs inside each other. -/
def maxHeight : Nat := 2960

/-- Parse a text, which may hold bytes that are part of no character.  `onDisk` is the text of the
file that the source is said to come from, if there is such a file. -/
def parseKept (onDisk : Option String) (text : String) : Except Refusal Tree :=
  if text.toList.contains '\x00' then .error ⟨.nullCharacter, none, 0⟩
  else
    let source := readable text
    match parseStream (fileRule (run (source.length * 128 + 256))) (tokenize source) none with
    | .ok t => if maxHeight < t.height then .error ⟨.tooDeep, none, 0⟩ else .ok t
    | .error f =>
      .error (f.refusal source (onDisk.map fun d => Text.unifyLineEnds d.toList))

/-- Parse a text.  `onDisk` is the text of the file that the source is said to come from, if there
is such a file. -/
def parseWith (onDisk : Option String) (text : String) : Except Refusal Tree :=
  match Text.halfFault? text with
  | some f => .error ⟨.unwritable f, none, 0⟩
  | none => parseKept onDisk text

def parse (text : String) : Except Refusal Tree := parseWith none text

end QualityGate.Source
