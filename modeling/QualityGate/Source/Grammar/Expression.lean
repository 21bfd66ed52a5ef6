/-
The rules for expressions and assignment targets.

Every definition is one rule.  `call` reads a rule of the grammar that may lead back here.  The
alternatives that describe a common mistake stand where they are tried, under `whenMistakes`.
-/
import QualityGate.Source.Grammar.Strings
import QualityGate.Source.Grammar.Parameters
import QualityGate.Text.Compatibility

namespace QualityGate.Source.Grammar

open Source.Parser

variable (call : Rule → Parser Tree)

/-! ## Targets in complaints -/

inductive TargetUse where
  | assignment
  | deletion
  | iteration
  deriving DecidableEq

mutual

/-- The first part of an expression that cannot be a target. -/
def badTarget (use : TargetUse) : Tree → Option Tree
  | .node .list _ ts => badTargetIn use ts
  | .node .tuple _ ts => badTargetIn use ts
  | .node .starred s (t :: ts) =>
    if use = .deletion then some (.node .starred s (t :: ts)) else badTarget use t
  | .node (.compare ops) s (t :: ts) =>
    if use = .iteration then
      if ops.head? = some .member then badTarget use t else none
    else some (.node (.compare ops) s (t :: ts))
  | .node (.name _) _ _ => none
  | .node .subscript _ _ => none
  | .node (.attribute _) _ _ => none
  | t => some t

/-- The first part of several expressions that cannot be a target. -/
def badTargetIn (use : TargetUse) : List Tree → Option Tree
  | [] => none
  | t :: ts => (badTarget use t).or (badTargetIn use ts)

end

/-- Complain about the first part that cannot be a target; give up if there is none. -/
def refuseTarget (use : TargetUse) (t : Tree) : Parser Tree :=
  match badTarget use t with
  | some bad =>
    complainAtTree
      (if use = .deletion then .cannotDelete bad.describe else .cannotAssign bad.describe) bad
  | none => giveUp

/-! ## Small parts -/

def nameExpr : Parser Tree := do
  let s ← here
  let id ← ident
  mk s (.name id) []

def numberExpr : Parser Tree := do
  let s ← here
  let t ← kind .number
  match numberLiteral t.text with
  | .ok v => mk s (.literal v) []
  | .error cause => fun env _ g => .stop (faultAt env g cause t.line 0) g.fill

def starredExpression : Parser Tree := rule do
  let s ← here
  let _ ← tok "*"
  let e ← call .expression
  mk s .starred [e]

def assignmentExpression : Parser Tree := rule do
  let s ← here
  let target ← nameExpr
  let _ ← tok ":="
  commit do
    let e ← call .expression
    mk s .walrus [target, e]

/-- An expression that may be an assignment expression but is not followed by `:=`. -/
def walrusOrExpression : Parser Tree :=
  firstOf [
    assignmentExpression call,
    do
      let e ← call .expression
      notAhead (tok ":=")
      return e]

def starNamedExpression : Parser Tree := rule <| firstOf [
  do
    let s ← here
    let _ ← tok "*"
    let e ← call .bitOr
    mk s .starred [e],
  call .namedExpression]

def starNamedExpressions : Parser (List Tree) := do
  let ts ← sepBy1 (starNamedExpression call) (tok ",")
  let _ ← optional (tok ",")
  return ts

def yieldExpr : Parser Tree := rule <| firstOf [
  do
    let s ← here
    let _ ← tok "yield"
    let _ ← tok "from"
    let e ← call .expression
    mk s .yieldFrom [e],
  do
    let s ← here
    let _ ← tok "yield"
    let e ← optional (call .starExpressions)
    mk s .yield [e.getD .missing]]

/-! ## Targets -/

def targetLookahead : Parser Token := tokIn ["(", "[", "."]

def starTargets : Parser Tree := rule <| firstOf [
  do
    let a ← call .starTarget
    notAhead (tok ",")
    return a,
  do
    let s ← here
    let a ← call .starTarget
    let b ← many (do let _ ← tok ","; call .starTarget)
    let _ ← optional (tok ",")
    mk s .tuple (a :: b)]

/-- An attribute or an element of a primary, which is not followed by more of it. -/
def finalPart : Parser Tree := rule <| firstOf [
  do
    let s ← here
    let a ← call .targetPrimary
    let _ ← tok "."
    let b ← ident
    notAhead targetLookahead
    mk s (.attribute b) [a],
  do
    let s ← here
    let a ← call .targetPrimary
    let _ ← tok "["
    let b ← call .slices
    let _ ← tok "]"
    notAhead targetLookahead
    mk s .subscript [a, b]]

def starAtom : Parser Tree := rule <| firstOf [
  nameExpr,
  do
    let _ ← tok "("
    let a ← call .targetAtom
    let _ ← tok ")"
    return a,
  do
    let s ← here
    let _ ← tok "("
    let ts ← optional <| firstOf [
      do
        let a ← call .starTarget
        let b ← many1 (do let _ ← tok ","; call .starTarget)
        let _ ← optional (tok ",")
        return a :: b,
      do
        let a ← call .starTarget
        let _ ← tok ","
        return [a]]
    let _ ← tok ")"
    mk s .tuple (ts.getD []),
  do
    let s ← here
    let _ ← tok "["
    let ts ← optional do
      let ts ← sepBy1 (call .starTarget) (tok ",")
      let _ ← optional (tok ",")
      return ts
    let _ ← tok "]"
    mk s .list (ts.getD [])]

def starTarget : Parser Tree := firstOf [
  do
    let s ← here
    let _ ← tok "*"
    notAhead (tok "*")
    let a ← call .starTarget
    mk s .starred [a],
  call .targetAtom]

def targetAtom : Parser Tree := firstOf [finalPart call, starAtom call]

def singleTarget : Parser Tree := firstOf [
  finalPart call,
  nameExpr,
  do
    let _ ← tok "("
    let a ← call .singleTarget
    let _ ← tok ")"
    return a]

def delTargets : Parser (List Tree) := do
  let ts ← sepBy1 (call .delTarget) (tok ",")
  let _ ← optional (tok ",")
  return ts

def delTarget : Parser Tree := firstOf [
  finalPart call,
  nameExpr,
  do
    let _ ← tok "("
    let a ← call .delTarget
    let _ ← tok ")"
    return a,
  do
    let s ← here
    let _ ← tok "("
    let ts ← optional (delTargets call)
    let _ ← tok ")"
    mk s .tuple (ts.getD []),
  do
    let s ← here
    let _ ← tok "["
    let ts ← optional (delTargets call)
    let _ ← tok "]"
    mk s .list (ts.getD [])]

/-! ## Comprehensions -/

def badForTarget : Parser Tree := rule do
  let _ ← optional (tok "async")
  let _ ← tok "for"
  let a ← call .starExpressions
  refuseTarget .iteration a

def forIfClause : Parser Tree := rule <| firstOf [
  do
    let s ← here
    let _ ← tok "async"
    let _ ← tok "for"
    let target ← starTargets call
    let _ ← tok "in"
    commit do
      let iter ← call .disjunction
      let conds ← many (do let _ ← tok "if"; call .disjunction)
      mk s (.clause true) [target, iter, .many conds],
  do
    let s ← here
    let _ ← tok "for"
    let target ← starTargets call
    let _ ← tok "in"
    commit do
      let iter ← call .disjunction
      let conds ← many (do let _ ← tok "if"; call .disjunction)
      mk s (.clause false) [target, iter, .many conds],
  whenMistakes (badForTarget call)]

def forIfClauses : Parser (List Tree) := many1 (forIfClause call)

/-- Comprehensions over starred elements or over bare tuples. -/
def badComprehension : Parser Tree := rule <| firstOf [
  do
    let _ ← tokIn ["[", "(", "\x7b"]
    let a ← starredExpression call
    let _ ← forIfClauses call
    complainAtTree .unpackInComprehension a,
  do
    let _ ← tokIn ["[", "\x7b"]
    let a ← starNamedExpression call
    let _ ← tok ","
    let _ ← starNamedExpressions call
    let _ ← forIfClauses call
    complainAtTree .comprehensionParentheses a,
  do
    let _ ← tokIn ["[", "\x7b"]
    let a ← starNamedExpression call
    let _ ← tok ","
    let _ ← forIfClauses call
    complainAtTree .comprehensionParentheses a]

/-! ## Displays and parentheses -/

def tuple : Parser Tree := rule do
  let s ← here
  let _ ← tok "("
  let ts ← optional do
    let y ← starNamedExpression call
    let _ ← tok ","
    let z ← optional (starNamedExpressions call)
    return y :: z.getD []
  let _ ← tok ")"
  mk s .tuple (ts.getD [])

def group : Parser Tree := rule <| firstOf [
  do
    let _ ← tok "("
    let a ← firstOf [yieldExpr call, call .namedExpression]
    let _ ← tok ")"
    return a,
  whenMistakes <| rule <| firstOf [
    do
      let _ ← tok "("
      let a ← starredExpression call
      let _ ← tok ")"
      complainAtTree .starredHere a,
    do
      let _ ← tok "("
      let a ← tok "**"
      let _ ← call .expression
      let _ ← tok ")"
      complainAtToken .doubleStarredHere a]]

def genexp : Parser Tree := rule <| firstOf [
  do
    let s ← here
    let _ ← tok "("
    let a ← walrusOrExpression call
    let cs ← forIfClauses call
    let _ ← tok ")"
    mk s .generator [a, .many cs],
  whenMistakes (badComprehension call)]

def list : Parser Tree := rule do
  let s ← here
  let _ ← tok "["
  let ts ← optional (starNamedExpressions call)
  let _ ← tok "]"
  mk s .list (ts.getD [])

def listComp : Parser Tree := rule <| firstOf [
  do
    let s ← here
    let _ ← tok "["
    let a ← call .namedExpression
    let cs ← forIfClauses call
    let _ ← tok "]"
    mk s .listComp [a, .many cs],
  whenMistakes (badComprehension call)]

def set : Parser Tree := rule do
  let s ← here
  let _ ← tok "\x7b"
  let ts ← starNamedExpressions call
  let _ ← tok "\x7d"
  mk s .set ts

def setComp : Parser Tree := rule <| firstOf [
  do
    let s ← here
    let _ ← tok "\x7b"
    let a ← call .namedExpression
    let cs ← forIfClauses call
    let _ ← tok "\x7d"
    mk s .setComp [a, .many cs],
  whenMistakes (badComprehension call)]

def keyValue : Parser (List Tree) := rule do
  let k ← call .expression
  let _ ← tok ":"
  let v ← call .expression
  return [k, v]

def dictEntry : Parser (List Tree) := rule <| firstOf [
  do
    let _ ← tok "**"
    let e ← call .bitOr
    return [.missing, e],
  keyValue call]

def badEntry : Parser Tree := rule <| firstOf [
  do
    let a ← call .expression
    notAhead (tok ":")
    complainAt .missingDictColon a.span.line (a.span.endCol - 1),
  do
    let _ ← call .expression
    let _ ← tok ":"
    let a ← tok "*"
    let _ ← call .bitOr
    complainAtToken .starredDictValue a,
  do
    let _ ← call .expression
    let a ← tok ":"
    ahead (tokIn ["\x7d", ","])
    complainAtToken .missingDictValue a]

def badEntries : Parser Tree := rule <| firstOf [
  do
    let _ ← sepBy1 (dictEntry call) (tok ",")
    let _ ← tok ","
    badEntry call,
  do
    let _ ← call .expression
    let _ ← tok ":"
    let a ← tok "*"
    let _ ← call .bitOr
    complainAtToken .starredDictValue a,
  do
    let _ ← call .expression
    let a ← tok ":"
    ahead (tokIn ["\x7d", ","])
    complainAtToken .missingDictValue a]

/-- A dictionary.  Its mistaken entries are looked for in every parse. -/
def dict : Parser Tree := rule <| firstOf [
  do
    let s ← here
    let _ ← tok "\x7b"
    let es ← optional do
      let es ← sepBy1 (dictEntry call) (tok ",")
      let _ ← optional (tok ",")
      return es
    let _ ← tok "\x7d"
    mk s .dict (es.getD []).flatten,
  do
    let _ ← tok "\x7b"
    let t ← badEntries call
    let _ ← tok "\x7d"
    return t]

def dictComp : Parser Tree := rule <| firstOf [
  do
    let s ← here
    let _ ← tok "\x7b"
    let kv ← keyValue call
    let cs ← forIfClauses call
    let _ ← tok "\x7d"
    mk s .dictComp (kv ++ [.many cs]),
  whenMistakes <| rule do
    let _ ← tok "\x7b"
    let a ← tok "**"
    let _ ← call .bitOr
    let _ ← forIfClauses call
    let _ ← tok "\x7d"
    complainAtToken .dictUnpackInComprehension a]

/-! ## Arguments -/

def keywordArgument : Parser Tree := do
  let s ← here
  let n ← ident
  let _ ← tok "="
  let e ← call .expression
  mk s (.keyword (some n)) [e]

def badKeywordArgument : Parser Tree := rule <| firstOf [
  do
    let a ← tokIn ["True", "False", "None"]
    let _ ← tok "="
    complainAtToken (.cannotAssign a.text) a,
  do
    let a ← kind .name
    let _ ← tok "="
    let _ ← call .expression
    let _ ← forIfClauses call
    complainAtToken .assignInsteadOfCompare a,
  do
    notAhead (do let _ ← kind .name; tok "=")
    let a ← call .expression
    let _ ← tok "="
    complainAtTree .assignmentInArgument a]

def keywordOrStarred : Parser Tree := rule <| firstOf [
  whenMistakes (badKeywordArgument call),
  keywordArgument call,
  starredExpression call]

def keywordOrDoubleStarred : Parser Tree := rule <| firstOf [
  whenMistakes (badKeywordArgument call),
  keywordArgument call,
  do
    let s ← here
    let _ ← tok "**"
    let e ← call .expression
    mk s (.keyword none) [e]]

def keywordArguments : Parser (List Tree) := rule <| firstOf [
  do
    let a ← sepBy1 (keywordOrStarred call) (tok ",")
    let _ ← tok ","
    let b ← sepBy1 (keywordOrDoubleStarred call) (tok ",")
    return a ++ b,
  sepBy1 (keywordOrStarred call) (tok ","),
  sepBy1 (keywordOrDoubleStarred call) (tok ",")]

def isKeyword (t : Tree) : Bool :=
  match t.label with
  | .keyword _ => true
  | _ => false

def args : Parser Tree := firstOf [
  do
    let s ← here
    let a ← sepBy1
      (firstOf [
        starredExpression call,
        do
          let e ← walrusOrExpression call
          notAhead (tok "=")
          return e])
      (tok ",")
    let b ← optional (do let _ ← tok ","; keywordArguments call)
    let b := b.getD []
    mk s .call [.missing, .many (a ++ b.filter (!isKeyword ·)), .many (b.filter isKeyword)],
  do
    let s ← here
    let b ← keywordArguments call
    mk s .call [.missing, .many (b.filter (!isKeyword ·)), .many (b.filter isKeyword)]]

def badArguments : Parser Tree := rule <| firstOf [
  do
    let a ← call .args
    let _ ← tok ","
    let _ ← tok "*"
    complainAtTree .unpackAfterKeywordUnpack a,
  do
    let a ← call .expression
    let _ ← forIfClauses call
    let _ ← tok ","
    let _ ← optional <| firstOf [
      call .args,
      do
        let e ← call .expression
        let _ ← forIfClauses call
        return e]
    complainAtTree .bareGenerator a,
  do
    let a ← kind .name
    let _ ← tok "="
    let _ ← call .expression
    let _ ← forIfClauses call
    complainAtToken .assignInsteadOfCompare a,
  do
    let a ← call .args
    let _ ← forIfClauses call
    let given := (a.child 1).children
    if given.length ≤ 1 then giveUp
    else complainAtTree .bareGenerator (given.getLastD a),
  do
    let _ ← call .args
    let _ ← tok ","
    let a ← call .expression
    let _ ← forIfClauses call
    complainAtTree .bareGenerator a,
  do
    let a ← call .args
    let _ ← tok ","
    let _ ← call .args
    let unpacked := (a.child 2).children.any (fun k => k.label = .keyword none)
    complain (if unpacked then .positionalAfterKeywordUnpack else .positionalAfterKeyword)]

def arguments : Parser Tree := firstOf [
  do
    let a ← call .args
    let _ ← optional (tok ",")
    ahead (tok ")")
    return a,
  whenMistakes (badArguments call)]

/-! ## Primaries -/

def slice : Parser Tree := rule <| firstOf [
  do
    let s ← here
    let lower ← optional (call .expression)
    let _ ← tok ":"
    let upper ← optional (call .expression)
    let step ← optional (do let _ ← tok ":"; optional (call .expression))
    mk s .slice [lower.getD .missing, upper.getD .missing, (step.getD none).getD .missing],
  call .namedExpression]

def slices : Parser Tree := firstOf [
  do
    let a ← slice call
    notAhead (tok ",")
    return a,
  do
    let s ← here
    let ts ← sepBy1 (firstOf [slice call, starredExpression call]) (tok ",")
    let _ ← optional (tok ",")
    mk s .tuple ts]

def atom : Parser Tree := firstOf [
  nameExpr,
  do
    let s ← here
    let t ← tokIn ["True", "False", "None"]
    mk s (.literal (if t.text == "True" then .bool true
      else if t.text == "False" then .bool false else .none)) [],
  do
    ahead (kind .string)
    call .strings,
  numberExpr,
  do
    ahead (tok "(")
    firstOf [tuple call, group call, genexp call],
  do
    ahead (tok "[")
    firstOf [list call, listComp call],
  do
    ahead (tok "\x7b")
    firstOf [dict call, set call, dictComp call, setComp call],
  do
    let s ← here
    let _ ← tok "..."
    mk s (.literal .ellipsis) []]

def callNode (s : Span) (f : Tree) (a : Option Tree) : Parser Tree :=
  match a with
  | some a => mk s .call [f, a.child 1, a.child 2]
  | none => mk s .call [f, .many [], .many []]

/-- One step on from the primary `a`, which starts at `s`. -/
def primaryStep (s : Span) (a : Tree) : Parser Tree := rule <| firstOf [
  do
    let _ ← tok "."
    let b ← ident
    mk s (.attribute b) [a],
  do
    let g ← genexp call
    mk s .call [a, .many [g], .many []],
  do
    let _ ← tok "("
    let b ← optional (call .arguments)
    let _ ← tok ")"
    callNode s a b,
  do
    let _ ← tok "["
    let b ← call .slices
    let _ ← tok "]"
    mk s .subscript [a, b]]

/-- Extend a tree as long as a step succeeds, at most `fuel` times. -/
def extend (step : Tree → Parser Tree) : Nat → Tree → Parser Tree
  | 0, a => pure a
  | fuel + 1, a => fun env mark g =>
    match step a env mark g with
    | .done b mark g => extend step fuel b env mark g
    | .miss g => .done a mark g
    | .cut g => .done a mark g
    | .stop e n => .stop e n

def extendAll (step : Tree → Parser Tree) (a : Tree) : Parser Tree := fun env mark g =>
  extend step (env.stream.tokens.size + 1) a env mark g

def primary : Parser Tree := do
  let s ← here
  let a ← call .atom
  extendAll (primaryStep call s) a

/-- One step on from the primary `a` of a target, which must go on behind it. -/
def targetPrimaryStep (s : Span) (a : Tree) : Parser Tree := rule <| firstOf [
  do
    let _ ← tok "."
    let b ← ident
    ahead targetLookahead
    mk s (.attribute b) [a],
  do
    let _ ← tok "["
    let b ← call .slices
    let _ ← tok "]"
    ahead targetLookahead
    mk s .subscript [a, b],
  do
    let g ← genexp call
    ahead targetLookahead
    mk s .call [a, .many [g], .many []],
  do
    let _ ← tok "("
    let b ← optional (call .arguments)
    let _ ← tok ")"
    ahead targetLookahead
    callNode s a b]

/-- The primary in front of the last attribute or subscript of a target. -/
def targetPrimary : Parser Tree := do
  let s ← here
  let a ← call .atom
  ahead targetLookahead
  extendAll (targetPrimaryStep call s) a

def awaited : Parser Tree := firstOf [
  do
    let s ← here
    let _ ← tok "await"
    let a ← call .primary
    mk s .await [a],
  call .primary]

/-! ## Operators -/

def power : Parser Tree := deeper 1 <| rule <| firstOf [
  do
    let s ← here
    let a ← call .awaited
    let _ ← tok "**"
    let b ← call .factor
    mk s (.binary .pow) [a, b],
  call .awaited]

def factor : Parser Tree := firstOf [
  do
    let s ← here
    let t ← tokIn ["+", "-", "~"]
    let a ← call .factor
    let op := if t.text == "+" then UnaryOp.plus else if t.text == "-" then .minus else .invert
    mk s (.unary op) [a],
  power call]

def leftAssociative (ops : List (String × BinaryOp)) (operand : Rule) : Parser Tree := do
  let s ← here
  let a ← call operand
  extendAll (fun a => do
    let t ← tokIn (ops.map (·.1))
    let b ← call operand
    mk s (.binary ((ops.lookup t.text).getD .add)) [a, b]) a

def comparisonPart : Parser (CompareOp × Tree) := rule <| firstOf [
  do
    let t ← tokIn ["==", "!=", "<=", "<", ">=", ">"]
    let e ← call .bitOr
    let op := match t.text with
      | "==" => CompareOp.eq
      | "!=" => .ne
      | "<=" => .le
      | "<" => .lt
      | ">=" => .ge
      | _ => .gt
    return (op, e),
  do
    let _ ← tok "not"
    let _ ← tok "in"
    return (.notMember, ← call .bitOr),
  do
    let _ ← tok "in"
    return (.member, ← call .bitOr),
  do
    let _ ← tok "is"
    let _ ← tok "not"
    return (.isNot, ← call .bitOr),
  do
    let _ ← tok "is"
    return (.is, ← call .bitOr)]

def comparison : Parser Tree := rule <| firstOf [
  do
    let s ← here
    let a ← call .bitOr
    let parts ← many1 (comparisonPart call)
    mk s (.compare (parts.map (·.1))) (a :: parts.map (·.2)),
  call .bitOr]

def inversion : Parser Tree := firstOf [
  do
    let s ← here
    let _ ← tok "not"
    let a ← call .inversion
    mk s (.unary .not) [a],
  comparison call]

def boolOperands (word : String) (op : BoolOp) (operand : Rule) : Parser Tree := firstOf [
  do
    let s ← here
    let a ← call operand
    let bs ← many1 (do let _ ← tok word; call operand)
    mk s (.boolOp op) (a :: bs),
  call operand]

/-! ## Whole expressions -/

def lambdaExpr : Parser Tree := rule do
  let s ← here
  let _ ← tok "lambda"
  let ps ← optional (params call lambdaStyle)
  let _ ← tok ":"
  let e ← deeper 1 (call .expression)
  mk s .lambda [ps.getD (.node .params default []), e]

def conditionalAlternatives : List (Parser Tree) := [
  do
    let s ← here
    let a ← call .disjunction
    let _ ← tok "if"
    let b ← call .disjunction
    let _ ← tok "else"
    let c ← call .expression
    mk s .conditional [b, a, c],
  call .disjunction,
  lambdaExpr call]

/-- Is the tree the name of a statement of old that is a function now? -/
def isOldStatement (t : Tree) : Bool :=
  t.label = .name "print" || t.label = .name "exec"

/-- Two expressions side by side, or a condition without its other branch. -/
def badExpression : Parser Tree := rule <| firstOf [
  do
    notAhead <| firstOf [
      do
        let _ ← kind .name
        kind .string,
      satisfy fun t => t.kind = .name && ["_", "case", "match"].contains t.text]
    let a ← call .disjunction
    let _ ← call .plainExpression
    let last ← lastTaken
    if isOldStatement a || last.depth = 0 then giveUp
    else complainAtTree .forgottenComma a,
  do
    let a ← call .disjunction
    let _ ← tok "if"
    let _ ← call .disjunction
    notAhead (tokIn ["else", ":"])
    complainAtTree .missingElse a]

def oldStatement : Parser Tree := rule do
  let a ← nameExpr
  notAhead (tok "(")
  let _ ← call .starExpressions
  match a.label with
  | .name n => if isOldStatement a then complainAtTree (.missingCallParentheses n) a else giveUp
  | _ => giveUp

def expression : Parser Tree :=
  firstOf (whenMistakes (badExpression call) :: whenMistakes (oldStatement call) ::
    conditionalAlternatives call)

/-- An expression, read without regard to common mistakes. -/
def plainExpression : Parser Tree :=
  withoutMistakes (firstOf (conditionalAlternatives call))

def commaExpressions (item : Parser Tree) : Parser Tree := firstOf [
  do
    let s ← here
    let a ← item
    let bs ← many1 (do let _ ← tok ","; item)
    let _ ← optional (tok ",")
    mk s .tuple (a :: bs),
  do
    let s ← here
    let a ← item
    let _ ← tok ","
    mk s .tuple [a],
  item]

def expressions : Parser Tree := rule (commaExpressions (call .expression))

def starExpression : Parser Tree := firstOf [
  do
    let s ← here
    let _ ← tok "*"
    let e ← call .bitOr
    mk s .starred [e],
  call .expression]

/-- Assignments where a comparison or `:=` was meant. -/
def badNamedExpression : Parser Tree := firstOf [
  do
    let a ← call .expression
    let _ ← tok ":="
    let _ ← call .expression
    complainAtTree (.cannotUseWalrus a.describe) a,
  do
    let a ← kind .name
    let _ ← tok "="
    let _ ← call .bitOr
    notAhead (tokIn ["=", ":="])
    complainAtToken .assignInsteadOfCompare a,
  do
    notAhead <| firstOf [
      list call, tuple call, genexp call,
      do
        let s ← here
        let _ ← tokIn ["True", "None", "False"]
        mk s .absent []]
    let a ← call .bitOr
    let _ ← tok "="
    let _ ← call .bitOr
    notAhead (tokIn ["=", ":="])
    complainAtTree (.cannotAssignHere a.describe) a]

def namedExpression : Parser Tree := firstOf [
  assignmentExpression call,
  whenMistakes (call .badNamedExpression),
  do
    let e ← call .expression
    notAhead (tok ":=")
    return e]

end QualityGate.Source.Grammar
