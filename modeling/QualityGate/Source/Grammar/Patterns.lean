/-
The rules for the patterns of `match` statements.
-/
import QualityGate.Source.Grammar.Expression

namespace QualityGate.Source.Grammar

open Source.Parser

variable (call : Rule → Parser Tree)

def isImaginary (t : Tree) : Bool :=
  match t.label with
  | .literal (.imaginary ..) => true
  | _ => false

def signedNumber : Parser Tree := rule <| firstOf [
  numberExpr,
  do
    let s ← here
    let _ ← tok "-"
    let n ← numberExpr
    mk s (.unary .minus) [n]]

def realNumber : Parser Tree := do
  let n ← numberExpr
  if isImaginary n then complainAtTree .patternNeedsReal n else return n

def signedReal : Parser Tree := rule <| firstOf [
  realNumber,
  do
    let s ← here
    let _ ← tok "-"
    let n ← realNumber
    mk s (.unary .minus) [n]]

def complexNumber : Parser Tree := rule do
  let s ← here
  let a ← signedReal
  let t ← tokIn ["+", "-"]
  let b ← numberExpr
  if isImaginary b then mk s (.binary (if t.text == "+" then .add else .sub)) [a, b]
  else complainAtTree .patternNeedsImaginary b

def constantKeyword : Parser (Span × Literal) := do
  let s ← here
  let t ← tokIn ["None", "True", "False"]
  return (s, if t.text == "True" then .bool true else if t.text == "False" then .bool false
    else .none)

def literalValue : Parser Tree := firstOf [
  do
    let n ← signedNumber
    notAhead (tokIn ["+", "-"])
    return n,
  complexNumber,
  call .strings]

def literalPattern : Parser Tree := rule <| firstOf [
  do
    let s ← here
    let v ← literalValue call
    mk s .patValue [v],
  do
    let (s, v) ← constantKeyword
    mk s (.patSingleton v) []]

def literalKey : Parser Tree := rule <| firstOf [
  literalValue call,
  do
    let (s, v) ← constantKeyword
    mk s (.literal v) []]

def captureTarget : Parser String := rule do
  notAhead (softKeyword "_")
  let n ← ident
  notAhead (tokIn [".", "(", "="])
  return n

def wildcard : Parser Tree := do
  let s ← here
  let _ ← softKeyword "_"
  mk s (.patAs none) [.missing]

def nameOrAttribute : Parser Tree := do
  let s ← here
  let a ← nameExpr
  extendAll (fun a => do
    let _ ← tok "."
    let b ← ident
    mk s (.attribute b) [a]) a

def attributeOnly : Parser Tree := rule do
  let a ← nameOrAttribute
  match a.label with
  | .attribute _ => return a
  | _ => fail

def maybeStarPattern : Parser Tree := firstOf [call .starPattern, call .pattern]

/-- Patterns with commas, and perhaps one at the end. -/
def sequenceItems : Parser (List Tree) := do
  let ps ← sepBy1 (maybeStarPattern call) (tok ",")
  let _ ← optional (tok ",")
  return ps

def openSequence : Parser (List Tree) := rule do
  let p ← maybeStarPattern call
  let _ ← tok ","
  let ps ← optional (sequenceItems call)
  return p :: ps.getD []

def sequencePattern : Parser Tree := rule <| firstOf [
  do
    let s ← here
    let _ ← tok "["
    let ps ← optional (sequenceItems call)
    let _ ← tok "]"
    mk s .patSequence (ps.getD []),
  do
    let s ← here
    let _ ← tok "("
    let ps ← optional (openSequence call)
    let _ ← tok ")"
    mk s .patSequence (ps.getD [])]

def keyPattern : Parser (List Tree) := rule do
  let k ← firstOf [literalKey call, attributeOnly]
  let _ ← tok ":"
  let p ← call .pattern
  return [k, p]

def restPattern : Parser String := rule do
  let _ ← tok "**"
  captureTarget

def mappingPattern : Parser Tree := rule <| firstOf [
  do
    let s ← here
    let _ ← tok "\x7b"
    let _ ← tok "\x7d"
    mk s (.patMapping none) [],
  do
    let s ← here
    let _ ← tok "\x7b"
    let r ← restPattern
    let _ ← optional (tok ",")
    let _ ← tok "\x7d"
    mk s (.patMapping (some r)) [],
  do
    let s ← here
    let _ ← tok "\x7b"
    let items ← sepBy1 (keyPattern call) (tok ",")
    let _ ← tok ","
    let r ← restPattern
    let _ ← optional (tok ",")
    let _ ← tok "\x7d"
    mk s (.patMapping (some r)) items.flatten,
  do
    let s ← here
    let _ ← tok "\x7b"
    let items ← sepBy1 (keyPattern call) (tok ",")
    let _ ← optional (tok ",")
    let _ ← tok "\x7d"
    mk s (.patMapping none) items.flatten]

def positionalPatterns : Parser (List Tree) := sepBy1 (call .pattern) (tok ",")

def keywordPatterns : Parser (List (String × Tree)) :=
  sepBy1 (rule do
    let n ← ident
    let _ ← tok "="
    let p ← call .pattern
    return (n, p)) (tok ",")

def classPattern : Parser Tree := rule <| firstOf [
  do
    let s ← here
    let c ← nameOrAttribute
    let _ ← tok "("
    let _ ← tok ")"
    mk s (.patClass []) [c, .many [], .many []],
  do
    let s ← here
    let c ← nameOrAttribute
    let _ ← tok "("
    let ps ← positionalPatterns call
    let _ ← optional (tok ",")
    let _ ← tok ")"
    mk s (.patClass []) [c, .many ps, .many []],
  do
    let s ← here
    let c ← nameOrAttribute
    let _ ← tok "("
    let ks ← keywordPatterns call
    let _ ← optional (tok ",")
    let _ ← tok ")"
    mk s (.patClass (ks.map (·.1))) [c, .many [], .many (ks.map (·.2))],
  do
    let s ← here
    let c ← nameOrAttribute
    let _ ← tok "("
    let ps ← positionalPatterns call
    let _ ← tok ","
    let ks ← keywordPatterns call
    let _ ← optional (tok ",")
    let _ ← tok ")"
    mk s (.patClass (ks.map (·.1))) [c, .many ps, .many (ks.map (·.2))],
  whenMistakes do
    let _ ← nameOrAttribute
    let _ ← tok "("
    let _ ← optional (do let _ ← positionalPatterns call; tok ",")
    let _ ← keywordPatterns call
    let _ ← tok ","
    let ps ← positionalPatterns call
    complainAtTree .positionalAfterKeywordPattern (ps.headD .missing)]

def closedPattern : Parser Tree := firstOf [
  literalPattern call,
  do
    let s ← here
    let n ← captureTarget
    mk s (.patAs (some n)) [.missing],
  wildcard,
  rule do
    let s ← here
    let a ← attributeOnly
    notAhead (tokIn [".", "(", "="])
    mk s .patValue [a],
  do
    let _ ← tok "("
    let p ← call .pattern
    let _ ← tok ")"
    return p,
  sequencePattern call,
  mappingPattern call,
  classPattern call]

def starPattern : Parser Tree := firstOf [
  do
    let s ← here
    let _ ← tok "*"
    let n ← captureTarget
    mk s (.patStar (some n)) [],
  do
    let s ← here
    let _ ← tok "*"
    let _ ← wildcard
    mk s (.patStar none) []]

def orPattern : Parser Tree := do
  let s ← here
  let ps ← sepBy1 (call .closedPattern) (tok "|")
  match ps with
  | [p] => return p
  | ps => mk s .patOr ps

def pattern : Parser Tree := firstOf [
  rule <| firstOf [
    do
      let s ← here
      let p ← call .orPattern
      let _ ← tok "as"
      let n ← captureTarget
      mk s (.patAs (some n)) [p],
    whenMistakes <| rule <| firstOf [
      do
        let _ ← call .orPattern
        let _ ← tok "as"
        let a ← softKeyword "_"
        complainAtToken .wildcardTarget a,
      do
        let _ ← call .orPattern
        let _ ← tok "as"
        notAhead (kind .name)
        let a ← call .expression
        complainAtTree .badPatternTarget a]],
  call .orPattern]

def patterns : Parser Tree := firstOf [
  do
    let s ← here
    let ps ← openSequence call
    mk s .patSequence ps,
  call .pattern]

end QualityGate.Source.Grammar
