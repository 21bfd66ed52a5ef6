/-
Finding a text in another one.
-/
namespace QualityGate.Text

def isInfix (needle : List Char) : List Char → Bool
  | [] => needle.isEmpty
  | c :: cs => needle.isPrefixOf (c :: cs) || isInfix needle cs

def holds (text needle : String) : Bool := isInfix needle.toList text.toList

end QualityGate.Text
