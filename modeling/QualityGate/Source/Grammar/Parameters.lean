/-
The rules for parameter lists.

A function definition and a lambda expression have the same parameter lists, up to the token that
ends the list, annotations, and the wording of some complaints.
-/
import QualityGate.Source.Grammar.Basic
import QualityGate.Text.Compatibility

namespace QualityGate.Source.Grammar

open Source.Parser

def ident : Parser String := do
  let t ← kind .name
  return Text.compatibilityForm t.text

/-- What differs between the parameter lists of definitions and of lambda expressions. -/
structure ParamStyle where
  closer : String
  annotated : Bool
  deriving DecidableEq

def defStyle : ParamStyle := ⟨")", true⟩

def lambdaStyle : ParamStyle := ⟨":", false⟩

variable (call : Rule → Parser Tree) (style : ParamStyle)

structure Param where
  span : Span
  name : String
  type : Tree

def Param.tree (p : Param) (kind : ParamKind) (default : Tree) : Tree :=
  .node (.param kind p.name) p.span [p.type, default]

def param : Parser Param := rule do
  let s ← here
  let n ← ident
  let type ← if style.annotated then optional (do let _ ← tok ":"; call .expression) else pure none
  let t ← mk s .absent []
  return ⟨t.span, n, type.getD .missing⟩

def starAnnotatedParam : Parser Param := rule do
  let s ← here
  let n ← ident
  let _ ← tok ":"
  let type ← call .starExpression
  let t ← mk s .absent []
  return ⟨t.span, n, type⟩

def paramEnd : Parser Unit :=
  firstOf [
    do let _ ← tok ",",
    ahead (tok style.closer)]

def defaultValue : Parser Tree := rule <| firstOf [
  do
    let _ ← tok "="
    call .expression,
  whenMistakes do
    let a ← tok "="
    ahead (tokIn [")", ","])
    complainAtToken .missingDefault a]

def plainParam : Parser Param := rule do
  let p ← param call style
  paramEnd style
  return p

def defaultParam : Parser (Param × Tree) := rule do
  let p ← param call style
  let d ← defaultValue call
  paramEnd style
  return (p, d)

def anyParam : Parser (Param × Tree) := rule do
  let p ← param call style
  let d ← optional (defaultValue call)
  paramEnd style
  return (p, d.getD .missing)

def slashEnd : Parser Unit := do
  let _ ← tok "/"
  paramEnd style

def slashPlain : Parser (List (Param × Tree)) := rule do
  let ps ← many1 (plainParam call style)
  slashEnd style
  return ps.map (·, .missing)

def slashDefault : Parser (List (Param × Tree)) := rule do
  let ps ← many (plainParam call style)
  let ds ← many1 (defaultParam call style)
  slashEnd style
  return ps.map (·, .missing) ++ ds

def badDoubleStar : Parser (List Tree) := rule <| firstOf [
  do
    let _ ← tok "**"
    let _ ← param call style
    let a ← tok "="
    complainAtToken .defaultForDoubleStar a,
  do
    let _ ← tok "**"
    let _ ← param call style
    let _ ← tok ","
    let a ← param call style
    complainAt .afterDoubleStar a.span.line a.span.col,
  do
    let _ ← tok "**"
    let _ ← param call style
    let _ ← tok ","
    let a ← tokIn ["*", "**", "/"]
    complainAtToken .afterDoubleStar a]

/-- The parameter that takes all other keyword arguments. -/
def doubleStar : Parser (List Tree) := rule <| firstOf [
  whenMistakes (badDoubleStar call style),
  do
    let _ ← tok "**"
    let p ← plainParam call style
    return [p.tree .keywords .missing]]

def badStar : Parser (List Tree) := rule <| firstOf [
  do
    let a ← tok "*"
    let _ ← firstOf [
      tok style.closer,
      do
        let _ ← tok ","
        firstOf [tok style.closer, tok "**"]]
    if style.annotated then complainAtToken .bareStar a else complain .bareStar,
  do
    let _ ← tok "*"
    let _ ← param call style
    let a ← tok "="
    complainAtToken .defaultForStar a,
  do
    let _ ← tok "*"
    let _ ← firstOf [do let _ ← plainParam call style, do let _ ← tok ","]
    let _ ← many (anyParam call style)
    let a ← tok "*"
    let _ ← firstOf [do let _ ← plainParam call style, do let _ ← tok ","]
    complainAtToken .repeatedStar a]

def keywordOnly (ps : List (Param × Tree)) : List Tree :=
  ps.map fun (p, d) => p.tree .keywordOnly d

def starPart : Parser (List Tree) := rule <| firstOf <| [
  whenMistakes (badStar call style),
  do
    let _ ← tok "*"
    let p ← plainParam call style
    let ks ← many (anyParam call style)
    let kw ← optional (doubleStar call style)
    return p.tree .variadic .missing :: keywordOnly ks ++ kw.getD []] ++
  (if style.annotated then [do
    let _ ← tok "*"
    let p ← starAnnotatedParam call
    paramEnd style
    let ks ← many (anyParam call style)
    let kw ← optional (doubleStar call style)
    return p.tree .variadic .missing :: keywordOnly ks ++ kw.getD []] else []) ++ [
  do
    let _ ← tok "*"
    let _ ← tok ","
    let ks ← many1 (anyParam call style)
    let kw ← optional (doubleStar call style)
    return keywordOnly ks ++ kw.getD [],
  doubleStar call style]

def paramTrees (kind : ParamKind) (ps : List (Param × Tree)) : List Tree :=
  ps.map fun (p, d) => p.tree kind d

def parameters : Parser (List Tree) := rule <| firstOf [
  do
    let a ← slashPlain call style
    let b ← many (plainParam call style)
    let c ← many (defaultParam call style)
    let d ← optional (starPart call style)
    return paramTrees .positionalOnly a ++ paramTrees .ordinary (b.map (·, .missing) ++ c) ++
      d.getD [],
  do
    let a ← slashDefault call style
    let c ← many (defaultParam call style)
    let d ← optional (starPart call style)
    return paramTrees .positionalOnly a ++ paramTrees .ordinary c ++ d.getD [],
  do
    let b ← many1 (plainParam call style)
    let c ← many (defaultParam call style)
    let d ← optional (starPart call style)
    return paramTrees .ordinary (b.map (·, .missing) ++ c) ++ d.getD [],
  do
    let c ← many1 (defaultParam call style)
    let d ← optional (starPart call style)
    return paramTrees .ordinary c ++ d.getD [],
  starPart call style]

def slashAny : Parser (List (Param × Tree)) :=
  firstOf [slashPlain call style, slashDefault call style]

def badParameters : Parser (List Tree) := rule <| firstOf [
  do
    let _ ← many (plainParam call style)
    let _ ← firstOf [slashDefault call style, many1 (defaultParam call style)]
    let a ← plainParam call style
    complainAt .defaultBeforePlain a.span.line a.span.col,
  do
    let _ ← many (plainParam call style)
    let a ← tok "("
    if style.annotated then
      let _ ← many1 (plainParam call style)
    else
      let _ ← sepBy1 (param call style) (tok ",")
    let _ ← optional (tok ",")
    let _ ← tok ")"
    complainAtToken
      (if style.annotated then .parenthesizedParameters else .parenthesizedLambdaParameters) a,
  do
    let a ← tok "/"
    let _ ← tok ","
    complainAtToken .nothingBeforeSlash a,
  do
    let _ ← slashAny call style
    let _ ← many (anyParam call style)
    let a ← tok "/"
    complainAtToken .repeatedSlash a,
  do
    let _ ← optional (slashAny call style)
    let _ ← many (anyParam call style)
    let _ ← tok "*"
    let _ ← firstOf [do let _ ← tok ",", do let _ ← plainParam call style]
    let _ ← many (anyParam call style)
    let a ← tok "/"
    complainAtToken .slashAfterStar a,
  do
    let _ ← many1 (anyParam call style)
    let _ ← tok "/"
    let a ← tok "*"
    complainAtToken .slashStarComma a]

def params : Parser Tree := do
  let s ← here
  let ps ← firstOf [whenMistakes (badParameters call style), parameters call style]
  mk s .params ps

end QualityGate.Source.Grammar
