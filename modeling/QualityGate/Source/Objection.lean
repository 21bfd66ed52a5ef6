/-
What can be wrong with a module that can be read.

A text that follows the grammar may still be no program: a statement can stand where it has no
meaning, and a name can be declared in two ways.  An `Objection` is one cause for which such a
module is not run.  Unlike a complaint about the text it is found in the syntax tree.
-/
import QualityGate.Source.Tree

namespace QualityGate.Source

/-- The two ways to say that a name is not local. -/
inductive Declaration where
  | global
  | nonlocal
  deriving DecidableEq, Repr

def Declaration.word : Declaration → String
  | global => "global"
  | nonlocal => "nonlocal"

inductive Objection where
  -- features
  | noBraces
  | unknownFeature (name : String)
  | lateFeature
  -- names
  | repeatedParameter (name : String)
  | parameterDeclared (name : String) (d : Declaration)
  | usedBefore (name : String) (d : Declaration)
  | annotatedDeclared (name : String) (d : Declaration)
  | assignedBefore (name : String) (d : Declaration)
  | declaredTwice (name : String)
  | nonlocalAtTop
  | noBinding (name : String)
  | starImport
  | reservedName (isDeletion : Bool)
  -- comprehensions and annotations
  | yieldInside (what : String)
  | walrusInIterable
  | walrusRebinds (name : String)
  | loopRebinds (name : String)
  | walrusInClass
  | annotationHolds (what : String)
  -- places
  | outsideFunction (what : String)
  | outsideAsync (what : String)
  | valueInAsyncGenerator
  | yieldFromInAsync
  | asyncComprehension
  | breakOutsideLoop
  | continueOutsideLoop
  | leavesGroupHandler
  | defaultNotLast
  | tooManyBlocks
  -- targets and calls
  | repeatedStar
  | tooManyBeforeStar
  | bareStarTarget
  | misplacedStar
  | repeatedKeyword (name : String)
  -- patterns
  | unreachableAfterWildcard
  | unreachableAfterName (name : String)
  | repeatedPatternStar
  | tooManyBeforePatternStar
  | differentNames
  | repeatedPatternName (name : String)
  deriving DecidableEq, Repr

def Objection.message : Objection → String
  | noBraces => "not a chance"
  | unknownFeature n => s!"future feature {n} is not defined"
  | lateFeature => "from __future__ imports must occur at the beginning of the file"
  | repeatedParameter n => s!"duplicate argument '{n}' in function definition"
  | parameterDeclared n d => s!"name '{n}' is parameter and {d.word}"
  | usedBefore n d => s!"name '{n}' is used prior to {d.word} declaration"
  | annotatedDeclared n d => s!"annotated name '{n}' can't be {d.word}"
  | assignedBefore n d => s!"name '{n}' is assigned to before {d.word} declaration"
  | declaredTwice n => s!"name '{n}' is nonlocal and global"
  | nonlocalAtTop => "nonlocal declaration not allowed at module level"
  | noBinding n => s!"no binding for nonlocal '{n}' found"
  | starImport => "import * only allowed at module level"
  | reservedName isDeletion =>
    if isDeletion then "cannot delete __debug__" else "cannot assign to __debug__"
  | yieldInside what => s!"'yield' inside {what}"
  | walrusInIterable =>
    "assignment expression cannot be used in a comprehension iterable expression"
  | walrusRebinds n =>
    s!"assignment expression cannot rebind comprehension iteration variable '{n}'"
  | loopRebinds n =>
    s!"comprehension inner loop cannot rebind assignment expression target '{n}'"
  | walrusInClass =>
    "assignment expression within a comprehension cannot be used in a class body"
  | annotationHolds what => s!"{what} cannot be used within an annotation"
  | outsideFunction what => s!"'{what}' outside function"
  | outsideAsync what => s!"'{what}' outside async function"
  | valueInAsyncGenerator => "'return' with value in async generator"
  | yieldFromInAsync => "'yield from' inside async function"
  | asyncComprehension =>
    "asynchronous comprehension outside of an asynchronous function"
  | breakOutsideLoop => "'break' outside loop"
  | continueOutsideLoop => "'continue' not properly in loop"
  | leavesGroupHandler =>
    "'break', 'continue' and 'return' cannot appear in an except* block"
  | defaultNotLast => "default 'except:' must be last"
  | tooManyBlocks => "too many statically nested blocks"
  | repeatedStar => "multiple starred expressions in assignment"
  | tooManyBeforeStar => "too many expressions in star-unpacking assignment"
  | bareStarTarget => "starred assignment target must be in a list or tuple"
  | misplacedStar => "can't use starred expression here"
  | repeatedKeyword n => s!"keyword argument repeated: {n}"
  | unreachableAfterWildcard => "wildcard makes remaining patterns unreachable"
  | unreachableAfterName n => s!"name capture '{n}' makes remaining patterns unreachable"
  | repeatedPatternStar => "multiple starred expressions in sequence pattern"
  | tooManyBeforePatternStar => "too many expressions in star-unpacking sequence pattern"
  | differentNames => "alternative patterns bind different names"
  | repeatedPatternName n => s!"multiple assignments to name '{n}' in pattern"

structure Objected where
  cause : Objection
  line : Int
  deriving DecidableEq, Repr

/-! ## Features -/

def featureNames : List String :=
  ["nested_scopes", "generators", "division", "absolute_import", "with_statement",
    "print_function", "unicode_literals", "barry_as_FLUFL", "generator_stop", "annotations"]

def featureModule : String := "__future__"

/-- What a module asks for: the features, and the last line on which it does. -/
structure Features where
  names : List String := []
  lastLine : Int := -1
  deriving DecidableEq, Repr

def Features.keepsAnnotations (f : Features) : Bool := f.names.contains "annotations"

def checkFeatures (line : Nat) : List String → Except Objected Unit
  | [] => .ok ()
  | n :: ns =>
    if featureNames.contains n then checkFeatures line ns
    else .error ⟨if n = "braces" then .noBraces else .unknownFeature n, line⟩

/-- Can a statement stand before the import of a feature, like documentation? -/
def isRemark (t : Tree) : Bool :=
  match t.label, (t.child 0).label with
  | .exprStmt, .literal _ => true
  | _, _ => false

/-- The features that statements ask for.  `late` tells that a statement has come behind which
features cannot be asked for, and `line` is that of the statement before. -/
def featuresFrom (f : Features) (late : Bool) (line : Nat) : List Tree → Except Objected Features
  | [] => .ok f
  | t :: ts =>
    if late && line < t.span.line then .ok f
    else
      match t.label with
      | .importFrom (some m) names _ =>
        if m ≠ featureModule then featuresFrom f true t.span.line ts
        else if late then .error ⟨.lateFeature, t.span.line⟩
        else
          match checkFeatures t.span.line (names.map (·.1)) with
          | .error o => .error o
          | .ok () =>
            featuresFrom ⟨f.names ++ names.map (·.1), t.span.line⟩ late t.span.line ts
      | _ => featuresFrom f (late || !isRemark t) t.span.line ts

def features (t : Tree) : Except Objected Features := featuresFrom {} false 0 t.children

end QualityGate.Source
