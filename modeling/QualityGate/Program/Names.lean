/-
The names that a piece of a program sets.

A name that is set anywhere in a function is local to it, unless it is declared otherwise.
-/
import QualityGate.Source.Tree

namespace QualityGate.Program

open Source (Tree Label)

mutual

def targetNames : Tree → List String
  | .node (.name id) _ _ => [id]
  | .node .tuple _ ts => targetNamesIn ts
  | .node .list _ ts => targetNamesIn ts
  | .node .starred _ ts => targetNamesIn ts
  | .node .group _ ts => targetNamesIn ts
  | _ => []

def targetNamesIn : List Tree → List String
  | [] => []
  | t :: ts => targetNames t ++ targetNamesIn ts

end

def importedName : String × Option String → String
  | (_, some alias_) => alias_
  | (name, none) => (name.splitOn ".").headD ""

/-- The names that a construct itself sets, its parts apart. -/
def ownNames (l : Label) (ts : List Tree) : List String :=
  match l with
  | .functionDef name _ => [name]
  | .classDef name => [name]
  | .assign => targetNames (ts.getD 0 default)
  | .augAssign _ => targetNames (ts.getD 0 default)
  | .annAssign => targetNames (ts.getD 0 default)
  | .forLoop _ => targetNames (ts.getD 0 default)
  | .withItem => targetNames (ts.getD 1 default)
  | .walrus => targetNames (ts.getD 0 default)
  | .delete => targetNamesIn ts
  | .handler (some name) => [name]
  | .importNames names => names.map importedName
  | .importFrom _ names _ => names.map fun (n, a) => a.getD n
  | .patAs (some name) => [name]
  | .patStar (some name) => [name]
  | .patMapping (some name) => [name]
  | _ => []

/-- Does a construct have names of its own? -/
def opensScope : Label → Bool
  | .functionDef _ _ => true
  | .classDef _ => true
  | .lambda => true
  | .listComp => true
  | .setComp => true
  | .dictComp => true
  | .generator => true
  | _ => false

mutual

def setNames : Tree → List String
  | .node l _ ts => ownNames l ts ++ if opensScope l then [] else setNamesIn ts

def setNamesIn : List Tree → List String
  | [] => []
  | t :: ts => setNames t ++ setNamesIn ts

end

mutual

/-- The names that a piece declares to be those of the module or of a function around. -/
def outerNames : Tree → List String
  | .node (.global names) _ _ => names
  | .node (.nonlocal names) _ _ => names
  | .node l _ ts => if opensScope l then [] else outerNamesIn ts

def outerNamesIn : List Tree → List String
  | [] => []
  | t :: ts => outerNames t ++ outerNamesIn ts

end

mutual

/-- Does a piece hand out values one by one? -/
def yields : Tree → Bool
  | .node .yield _ _ => true
  | .node .yieldFrom _ _ => true
  | .node l _ ts => !opensScope l && yieldsIn ts

def yieldsIn : List Tree → Bool
  | [] => false
  | t :: ts => yields t || yieldsIn ts

end

def localNames (params : List String) (body : List Tree) : List String :=
  params ++ (setNamesIn body).filter fun n => !(outerNamesIn body).contains n

def docOf (body : List Tree) : Option String :=
  match body with
  | .node .exprStmt _ [.node (.literal (.text s)) _ _] :: _ => some s
  | _ => none

end QualityGate.Program
