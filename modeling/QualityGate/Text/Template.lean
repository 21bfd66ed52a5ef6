/-
Texts with fields to fill in.

A field is a name in braces; a brace that is text is written twice.
-/
namespace QualityGate.Text

/-- Fill in the fields of a text.  The name of a field that is not given is the error.  The first
argument bounds the number of pieces. -/
def fillFrom (fields : List (String × String)) : Nat → List Char → Except String (List Char)
  | 0, _ => .ok []
  | _, [] => .ok []
  | fuel + 1, '\x7b' :: '\x7b' :: cs => ('\x7b' :: ·) <$> fillFrom fields fuel cs
  | fuel + 1, '\x7d' :: '\x7d' :: cs => ('\x7d' :: ·) <$> fillFrom fields fuel cs
  | fuel + 1, '\x7b' :: cs => do
    let name := String.ofList (cs.takeWhile (· ≠ '\x7d'))
    match fields.lookup name with
    | some value => return value.toList ++ (← fillFrom fields fuel (cs.drop (name.length + 1)))
    | none => .error name
  | fuel + 1, c :: cs => (c :: ·) <$> fillFrom fields fuel cs

/-- Fill in the fields of a text.  The name of a field that is not given is the error. -/
def fill (fields : List (String × String)) (template : String) : Except String String :=
  String.ofList <$> fillFrom fields (template.length + 1) template.toList

end QualityGate.Text
