/-
The rules for statements.
-/
import QualityGate.Source.Grammar.Patterns

namespace QualityGate.Source.Grammar

open Source.Parser

variable (call : Rule → Parser Tree)

/-! ## Missing colons and missing blocks -/

def missingColon : Parser Tree := do
  let _ ← kind .newline
  complain (.expected ":")

/-- A colon and the end of the line, without an indented block behind it. -/
def noBlock (owner : BlockOwner) (line : Nat) : Parser Tree := do
  let _ ← tok ":"
  let _ ← kind .newline
  notAhead (kind .indent)
  complain (.missingBlock owner line)

/-! ## Simple statements -/

def assignedValue : Parser Tree := firstOf [yieldExpr call, call .starExpressions]

def augmentedOps : List (String × BinaryOp) :=
  [("+=", .add), ("-=", .sub), ("*=", .mul), ("@=", .matMul), ("/=", .div), ("%=", .mod),
   ("&=", .bitAnd), ("|=", .bitOr), ("^=", .bitXor), ("<<=", .shiftLeft), (">>=", .shiftRight),
   ("**=", .pow), ("//=", .floorDiv)]

def augmentedOp : Parser BinaryOp := do
  let t ← tokIn (augmentedOps.map (·.1))
  return (augmentedOps.lookup t.text).getD .add

/-- A list or a tuple where a single target was expected. -/
def badAnnotationTarget : Parser Tree := firstOf [
  list call,
  tuple call,
  do
    let _ ← tok "("
    let a ← call .badAnnotationTarget
    let _ ← tok ")"
    return a]

def badAssignment : Parser Tree := rule <| firstOf [
  do
    let a ← call .badAnnotationTarget
    let _ ← tok ":"
    let _ ← call .expression
    complainAtTree (.annotatedTargets a.describe) a,
  do
    let a ← starNamedExpression call
    let _ ← tok ","
    let _ ← many (starNamedExpressions call)
    let _ ← tok ":"
    let _ ← call .expression
    complainAtTree (.annotatedTargets "tuple") a,
  do
    let a ← call .expression
    let _ ← tok ":"
    let _ ← call .expression
    complainAtTree .illegalAnnotatedTarget a,
  do
    let _ ← many (do let _ ← starTargets call; tok "=")
    let a ← call .starExpressions
    let _ ← tok "="
    refuseTarget .assignment a,
  do
    let _ ← many (do let _ ← starTargets call; tok "=")
    let a ← yieldExpr call
    let _ ← tok "="
    complainAtTree .assignToYield a,
  do
    let a ← call .starExpressions
    let _ ← augmentedOp
    let _ ← assignedValue call
    complainAtTree (.illegalAugmentedTarget a.describe) a]

def assignment : Parser Tree := rule <| firstOf [
  do
    let s ← here
    let a ← nameExpr
    let _ ← tok ":"
    let b ← call .expression
    let c ← optional (do let _ ← tok "="; assignedValue call)
    mk s .annAssign [a, b, c.getD .missing],
  do
    let s ← here
    let a ← firstOf [
      do
        let _ ← tok "("
        let b ← call .singleTarget
        let _ ← tok ")"
        return b,
      finalPart call]
    let _ ← tok ":"
    let b ← call .expression
    let c ← optional (do let _ ← tok "="; assignedValue call)
    mk s .annAssign [a, b, c.getD .missing],
  do
    let s ← here
    let ts ← many1 do
      let t ← starTargets call
      let _ ← tok "="
      return t
    let v ← assignedValue call
    notAhead (tok "=")
    mk s .assign [.many ts, v],
  do
    let s ← here
    let a ← call .singleTarget
    let op ← augmentedOp
    commit do
      let v ← assignedValue call
      mk s (.augAssign op) [a, v],
  whenMistakes (badAssignment call)]

def dottedName : Parser String := do
  let parts ← sepBy1 ident (tok ".")
  return ".".intercalate parts

def aliasName : Parser (Option String) := optional (do let _ ← tok "as"; ident)

def importedNames : Parser (List (String × Option String)) :=
  sepBy1 (do
    let n ← ident
    let a ← aliasName
    return (n, a)) (tok ",")

def importTargets : Parser (List (String × Option String)) := rule <| firstOf [
  do
    let _ ← tok "("
    let ns ← importedNames
    let _ ← optional (tok ",")
    let _ ← tok ")"
    return ns,
  do
    let ns ← importedNames
    notAhead (tok ",")
    return ns,
  do
    let _ ← tok "*"
    return [("*", none)],
  whenMistakes do
    let _ ← importedNames
    let _ ← tok ","
    let _ ← kind .newline
    complain .trailingImportComma]

def importDot : Parser Nat := do
  let t ← tokIn [".", "..."]
  return t.text.length

def importStmt : Parser Tree := firstOf [
  do
    let s ← here
    let _ ← tok "import"
    let ns ← sepBy1 (do
      let n ← dottedName
      let a ← aliasName
      return (n, a)) (tok ",")
    mk s (.importNames ns) [],
  do
    let s ← here
    let _ ← tok "from"
    let dots ← many importDot
    let n ← dottedName
    let _ ← tok "import"
    let ns ← importTargets
    mk s (.importFrom (some n) ns (dots.foldr (· + ·) 0)) [],
  do
    let s ← here
    let _ ← tok "from"
    let dots ← many1 importDot
    let _ ← tok "import"
    let ns ← importTargets
    mk s (.importFrom none ns (dots.foldr (· + ·) 0)) []]

def delStmt : Parser Tree := rule <| firstOf [
  do
    let s ← here
    let _ ← tok "del"
    let ts ← delTargets call
    ahead (firstOf [tok ";", kind .newline])
    mk s .delete ts,
  whenMistakes do
    let _ ← tok "del"
    let a ← call .starExpressions
    refuseTarget .deletion a]

def raiseStmt : Parser Tree := firstOf [
  do
    let s ← here
    let _ ← tok "raise"
    let a ← call .expression
    let b ← optional (do let _ ← tok "from"; call .expression)
    mk s .raise [a, b.getD .missing],
  do
    let s ← here
    let _ ← tok "raise"
    mk s .raise [.missing, .missing]]

def wordStmt (word : String) (label : Label) : Parser Tree := do
  let s ← here
  let _ ← tok word
  mk s label []

def simpleStmt : Parser Tree := firstOf [
  assignment call,
  do
    let s ← here
    let e ← call .starExpressions
    mk s .exprStmt [e],
  do
    let s ← here
    let _ ← tok "return"
    let e ← optional (call .starExpressions)
    mk s .ret [e.getD .missing],
  do
    ahead (tokIn ["import", "from"])
    importStmt,
  do
    ahead (tok "raise")
    raiseStmt call,
  wordStmt "pass" .pass,
  do
    ahead (tok "del")
    delStmt call,
  do
    ahead (tok "yield")
    let s ← here
    let e ← yieldExpr call
    mk s .exprStmt [e],
  do
    let s ← here
    let _ ← tok "assert"
    let a ← call .expression
    let b ← optional (do let _ ← tok ","; call .expression)
    mk s .assert [a, b.getD .missing],
  wordStmt "break" .break,
  wordStmt "continue" .continue,
  do
    let s ← here
    let _ ← tok "global"
    let ns ← sepBy1 ident (tok ",")
    mk s (.global ns) [],
  do
    let s ← here
    let _ ← tok "nonlocal"
    let ns ← sepBy1 ident (tok ",")
    mk s (.nonlocal ns) []]

def simpleStmts : Parser (List Tree) := rule <| firstOf [
  do
    let a ← call .simpleStmt
    notAhead (tok ";")
    let _ ← kind .newline
    return [a],
  do
    let ts ← sepBy1 (call .simpleStmt) (tok ";")
    let _ ← optional (tok ";")
    let _ ← kind .newline
    return ts]

/-! ## Blocks and branches -/

/-- An indented block, or simple statements on the same line. -/
def block : Parser Tree := firstOf [
  do
    let _ ← kind .newline
    let _ ← kind .indent
    let b ← call .statements
    let _ ← kind .dedent
    return b,
  do
    let ts ← simpleStmts call
    return .many ts,
  whenMistakes do
    let _ ← kind .newline
    notAhead (kind .indent)
    complain .bareMissingBlock]

def elseBlock : Parser Tree := rule <| firstOf [
  whenMistakes do
    let a ← tok "else"
    noBlock (.statement "else") a.line,
  do
    let _ ← tok "else"
    let _ ← force ":"
    call .block]

/-- `if` or `elif`, which differ in the keyword only. -/
def branch (word : String) : Parser Tree := firstOf [
  whenMistakes <| rule <| firstOf [
    do
      let _ ← tok word
      let _ ← call .namedExpression
      missingColon,
    do
      let a ← tok word
      let _ ← call .namedExpression
      noBlock (.statement word) a.line],
  do
    let s ← here
    let _ ← tok word
    let a ← call .namedExpression
    let _ ← tok ":"
    let b ← call .block
    let c ← call .elifStmt
    mk s .ifStmt [a, b, .many [c]],
  do
    let s ← here
    let _ ← tok word
    let a ← call .namedExpression
    let _ ← tok ":"
    let b ← call .block
    let c ← optional (elseBlock call)
    mk s .ifStmt [a, b, c.getD (.many [])]]

def whileStmt : Parser Tree := rule <| firstOf [
  whenMistakes <| rule <| firstOf [
    do
      let _ ← tok "while"
      let _ ← call .namedExpression
      missingColon,
    do
      let a ← tok "while"
      let _ ← call .namedExpression
      noBlock (.statement "while") a.line],
  do
    let s ← here
    let _ ← tok "while"
    let a ← call .namedExpression
    let _ ← tok ":"
    let b ← call .block
    let c ← optional (elseBlock call)
    mk s .whileLoop [a, b, c.getD (.many [])]]

def badFor : Parser Tree := rule <| firstOf [
  do
    let _ ← optional (tok "async")
    let _ ← tok "for"
    let _ ← starTargets call
    let _ ← tok "in"
    let _ ← call .starExpressions
    missingColon,
  do
    let _ ← optional (tok "async")
    let a ← tok "for"
    let _ ← starTargets call
    let _ ← tok "in"
    let _ ← call .starExpressions
    noBlock (.statement "for") a.line]

def forTail (s : Span) (isAsync : Bool) : Parser Tree := do
  let _ ← tok "for"
  let t ← starTargets call
  let _ ← tok "in"
  commit do
    let e ← call .starExpressions
    let _ ← tok ":"
    let b ← call .block
    let c ← optional (elseBlock call)
    mk s (.forLoop isAsync) [t, e, b, c.getD (.many [])]

def forStmt : Parser Tree := rule <| firstOf [
  whenMistakes (badFor call),
  do
    let s ← here
    forTail call s false,
  do
    let s ← here
    let _ ← tok "async"
    forTail call s true,
  whenMistakes (badForTarget call)]

/-! ## `with` -/

def withItem : Parser Tree := rule <| firstOf [
  do
    let s ← here
    let e ← call .expression
    let _ ← tok "as"
    let t ← call .starTarget
    ahead (tokIn [",", ")", ":"])
    mk s .withItem [e, t],
  whenMistakes <| rule do
    let _ ← call .expression
    let _ ← tok "as"
    let a ← call .expression
    ahead (tokIn [",", ")", ":"])
    refuseTarget .assignment a,
  do
    let s ← here
    let e ← call .expression
    mk s .withItem [e, .missing]]

def roughWithItems (item : Parser Tree) : Parser (List Tree) :=
  sepBy1 (do
    let e ← item
    let _ ← optional (do let _ ← tok "as"; call .starTarget)
    return e) (tok ",")

def roughWithHeads : List (Parser Token) := [
  do
    let _ ← optional (tok "async")
    let a ← tok "with"
    let _ ← roughWithItems call (call .expression)
    return a,
  do
    let _ ← optional (tok "async")
    let a ← tok "with"
    let _ ← tok "("
    let _ ← roughWithItems call (expressions call)
    let _ ← optional (tok ",")
    let _ ← tok ")"
    return a]

/-- A `with` statement behind its first keyword, in parentheses. -/
def withParenthesized (s : Span) (isAsync : Bool) : Parser Tree := do
  let _ ← tok "with"
  let _ ← tok "("
  let items ← sepBy1 (withItem call) (tok ",")
  let _ ← optional (tok ",")
  let _ ← tok ")"
  let _ ← tok ":"
  let b ← call .block
  mk s (.withStmt isAsync) [.many items, b]

/-- A `with` statement behind its first keyword, without parentheses. -/
def withPlain (s : Span) (isAsync : Bool) : Parser Tree := do
  let _ ← tok "with"
  let items ← sepBy1 (withItem call) (tok ",")
  let _ ← tok ":"
  let b ← call .block
  mk s (.withStmt isAsync) [.many items, b]

def withStmt : Parser Tree := rule <| firstOf [
  whenMistakes <| rule <| firstOf <| (roughWithHeads call).map fun head => do
    let a ← head
    noBlock (.statement "with") a.line,
  do
    let s ← here
    withParenthesized call s false,
  do
    let s ← here
    withPlain call s false,
  do
    let s ← here
    let _ ← tok "async"
    withParenthesized call s true,
  do
    let s ← here
    let _ ← tok "async"
    withPlain call s true,
  whenMistakes <| rule <| firstOf <| (roughWithHeads call).map fun head => do
    let _ ← head
    missingColon]

/-! ## `try` -/

def badHandler : Parser Tree := rule <| firstOf [
  do
    let _ ← tok "except"
    let _ ← optional (tok "*")
    let a ← call .expression
    let _ ← tok ","
    let _ ← expressions call
    let _ ← aliasName
    let _ ← tok ":"
    complainAtTree .barehandedExceptTuple a,
  do
    let _ ← tok "except"
    let _ ← optional (tok "*")
    let _ ← call .expression
    let _ ← aliasName
    missingColon,
  do
    let _ ← tok "except"
    missingColon,
  do
    let _ ← tok "except"
    let _ ← tok "*"
    let _ ← firstOf [kind .newline, tok ":"]
    complain .missingExceptType]

def exceptBlock : Parser Tree := rule <| firstOf [
  whenMistakes <| rule <| firstOf [
    do
      let a ← tok "except"
      let _ ← call .expression
      let _ ← aliasName
      noBlock (.statement "except") a.line,
    do
      let a ← tok "except"
      noBlock (.statement "except") a.line],
  do
    let s ← here
    let _ ← tok "except"
    let e ← call .expression
    let n ← aliasName
    let _ ← tok ":"
    let b ← call .block
    mk s (.handler n) [e, b],
  do
    let s ← here
    let _ ← tok "except"
    let _ ← tok ":"
    let b ← call .block
    mk s (.handler none) [.missing, b],
  whenMistakes (badHandler call)]

def exceptStarBlock : Parser Tree := rule <| firstOf [
  whenMistakes <| rule do
    let a ← tok "except"
    let _ ← tok "*"
    let _ ← call .expression
    let _ ← aliasName
    noBlock (.statement "except*") a.line,
  do
    let s ← here
    let _ ← tok "except"
    let _ ← tok "*"
    let e ← call .expression
    let n ← aliasName
    let _ ← tok ":"
    let b ← call .block
    mk s (.handler n) [e, b],
  whenMistakes (badHandler call)]

def finallyBlock : Parser Tree := rule <| firstOf [
  whenMistakes do
    let a ← tok "finally"
    noBlock (.statement "finally") a.line,
  do
    let _ ← tok "finally"
    let _ ← force ":"
    call .block]

def badTry : Parser Tree := rule <| firstOf [
  do
    let a ← tok "try"
    noBlock (.statement "try") a.line,
  do
    let _ ← tok "try"
    let _ ← tok ":"
    let _ ← call .block
    notAhead (tokIn ["except", "finally"])
    complain .missingHandler,
  do
    let _ ← tok "try"
    let _ ← tok ":"
    let _ ← many (call .block)
    let _ ← many1 (exceptBlock call)
    let a ← tok "except"
    let _ ← tok "*"
    let _ ← call .expression
    let _ ← aliasName
    let _ ← tok ":"
    complainAtToken .mixedHandlers a,
  do
    let _ ← tok "try"
    let _ ← tok ":"
    let _ ← many (call .block)
    let _ ← many1 (exceptStarBlock call)
    let a ← tok "except"
    let _ ← optional do
      let _ ← call .expression
      aliasName
    let _ ← tok ":"
    complainAtToken .mixedHandlers a]

def tryStmt : Parser Tree := rule <| firstOf [
  whenMistakes (badTry call),
  do
    let s ← here
    let _ ← tok "try"
    let _ ← force ":"
    let b ← call .block
    let f ← finallyBlock call
    mk s (.tryStmt false) [b, .many [], .many [], f],
  do
    let s ← here
    let _ ← tok "try"
    let _ ← force ":"
    let b ← call .block
    let hs ← many1 (exceptBlock call)
    let e ← optional (elseBlock call)
    let f ← optional (finallyBlock call)
    mk s (.tryStmt false) [b, .many hs, e.getD (.many []), f.getD (.many [])],
  do
    let s ← here
    let _ ← tok "try"
    let _ ← force ":"
    let b ← call .block
    let hs ← many1 (exceptStarBlock call)
    let e ← optional (elseBlock call)
    let f ← optional (finallyBlock call)
    mk s (.tryStmt true) [b, .many hs, e.getD (.many []), f.getD (.many [])]]

/-! ## `match` -/

def subject : Parser Tree := rule <| firstOf [
  do
    let s ← here
    let a ← starNamedExpression call
    let _ ← tok ","
    let bs ← optional (starNamedExpressions call)
    mk s .tuple (a :: bs.getD []),
  call .namedExpression]

def guardExpr : Parser Tree := do
  let _ ← tok "if"
  call .namedExpression

def caseBlock : Parser Tree := rule <| firstOf [
  whenMistakes <| rule <| firstOf [
    do
      let _ ← softKeyword "case"
      let _ ← patterns call
      let _ ← optional (guardExpr call)
      missingColon,
    do
      let a ← softKeyword "case"
      let _ ← patterns call
      let _ ← optional (guardExpr call)
      noBlock (.statement "case") a.line],
  do
    let s ← here
    let _ ← softKeyword "case"
    let p ← patterns call
    let g ← optional (guardExpr call)
    let _ ← tok ":"
    let b ← call .block
    mk s .matchCase [p, g.getD .missing, b]]

def matchStmt : Parser Tree := rule <| firstOf [
  do
    let s ← here
    let _ ← softKeyword "match"
    let e ← subject call
    let _ ← tok ":"
    let _ ← kind .newline
    let _ ← kind .indent
    let cs ← many1 (caseBlock call)
    let _ ← kind .dedent
    mk s .matchStmt [e, .many cs],
  whenMistakes <| rule <| firstOf [
    do
      let _ ← softKeyword "match"
      let _ ← subject call
      missingColon,
    do
      let a ← softKeyword "match"
      let _ ← subject call
      noBlock (.statement "match") a.line]]

/-! ## Definitions -/

def decorators : Parser (List Tree) :=
  many1 do
    let _ ← tok "@"
    let e ← call .namedExpression
    let _ ← kind .newline
    return e

def classArguments : Parser (Option Tree) := do
  let a ← optional do
    let _ ← tok "("
    let a ← optional (call .arguments)
    let _ ← tok ")"
    return a
  return a.getD none

def classRaw : Parser Tree := rule <| firstOf [
  whenMistakes <| rule <| firstOf [
    do
      let _ ← tok "class"
      let _ ← ident
      let _ ← classArguments call
      missingColon,
    do
      let a ← tok "class"
      let _ ← ident
      let _ ← classArguments call
      noBlock .classDefinition a.line],
  do
    let s ← here
    let _ ← tok "class"
    let n ← ident
    let a ← classArguments call
    let _ ← tok ":"
    let b ← call .block
    let a := a.getD .missing
    mk s (.classDef n) [.many (a.child 1).children, .many (a.child 2).children, b, .many []]]

def functionTail (s : Span) (isAsync : Bool) : Parser Tree := do
  let _ ← tok "def"
  let n ← ident
  let _ ← force "("
  let ps ← optional (params call defStyle)
  let _ ← tok ")"
  let r ← optional (do let _ ← tok "->"; call .expression)
  let _ ← force ":"
  let b ← call .block
  mk s (.functionDef n isAsync)
    [ps.getD (.node .params default []), b, .many [], r.getD .missing]

def functionRaw : Parser Tree := rule <| firstOf [
  whenMistakes <| rule do
    let _ ← optional (tok "async")
    let a ← tok "def"
    let _ ← ident
    let _ ← tok "("
    let _ ← optional (params call defStyle)
    let _ ← tok ")"
    let _ ← optional (do let _ ← tok "->"; call .expression)
    noBlock .functionDefinition a.line,
  do
    let s ← here
    functionTail call s false,
  do
    let s ← here
    let _ ← tok "async"
    functionTail call s true]

/-- A definition with its decorators, which stand in the `i`-th part. -/
def decorate (i : Nat) (ds : List Tree) : Tree → Tree
  | .node l s ts => .node l s (ts.set i (.many ds))

def functionDef : Parser Tree := rule <| firstOf [
  do
    let ds ← decorators call
    let f ← functionRaw call
    return decorate 2 ds f,
  functionRaw call]

def classDef : Parser Tree := rule <| firstOf [
  do
    let ds ← decorators call
    let c ← classRaw call
    return decorate 3 ds c,
  classRaw call]

def compoundStmt : Parser Tree := firstOf [
  do
    ahead (tokIn ["def", "@", "async"])
    functionDef call,
  do
    ahead (tok "if")
    rule (branch call "if"),
  do
    ahead (tokIn ["class", "@"])
    classDef call,
  do
    ahead (tokIn ["with", "async"])
    withStmt call,
  do
    ahead (tokIn ["for", "async"])
    forStmt call,
  do
    ahead (tok "try")
    tryStmt call,
  do
    ahead (tok "while")
    whileStmt call,
  matchStmt call]

def statements : Parser Tree := do
  let ts ← many1 <| firstOf [
    do
      let t ← call .compoundStmt
      return [t],
    simpleStmts call]
  return .many ts.flatten

end QualityGate.Source.Grammar
