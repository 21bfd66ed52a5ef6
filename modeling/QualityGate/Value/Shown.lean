/-
The text of a value in a message.

Texts inside a value are quoted; a text on its own is shown as it is.
-/
import QualityGate.Value
import QualityGate.Text.Quoted

namespace QualityGate.Value

mutual

def literal : Value → String
  | null => "None"
  | bool true => "True"
  | bool false => "False"
  | int n => toString n
  | float x => Number.floatText x
  | text s => Text.quote s
  | list vs => "[" ++ ", ".intercalate (literals vs) ++ "]"
  | object fs => "\x7b" ++ ", ".intercalate (literalFields fs) ++ "\x7d"

def literals : List Value → List String
  | [] => []
  | v :: vs => literal v :: literals vs

def literalFields : List (String × Value) → List String
  | [] => []
  | (k, v) :: fs => (Text.quote k ++ ": " ++ literal v) :: literalFields fs

end

def shown : Value → String
  | text s => s
  | v => literal v

end QualityGate.Value
