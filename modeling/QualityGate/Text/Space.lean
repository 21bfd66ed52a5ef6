/-
Spaces, line ends and words as the patterns of the watcher know them.

A word is made of ASCII letters, digits and low lines.  The spaces are those of Unicode and the
byte order mark.
-/
namespace QualityGate.Text

def isSpace (c : Char) : Bool :=
  let n := c.toNat
  (9 ≤ n && n ≤ 13) || n = 0x20 || n = 0xA0 || n = 0x1680 || (0x2000 ≤ n && n ≤ 0x200A) ||
    n = 0x2028 || n = 0x2029 || n = 0x202F || n = 0x205F || n = 0x3000 || n = 0xFEFF

def isLineEnd (c : Char) : Bool := c = '\n' || c = '\r' || c = '\u2028' || c = '\u2029'

def isWordPart (c : Char) : Bool := c.isAlphanum || c = '_'

def stripSpaces (cs : List Char) : List Char :=
  ((cs.dropWhile isSpace).reverse.dropWhile isSpace).reverse

/-- What is behind a given text, if the list starts with it. -/
def afterText (text : String) (cs : List Char) : Option (List Char) :=
  if text.toList.isPrefixOf cs then some (cs.drop text.length) else none

def afterSpaces : List Char → Option (List Char)
  | [] => none
  | c :: cs => if isSpace c then some (cs.dropWhile isSpace) else none

def afterWord : List Char → Option (List Char)
  | [] => none
  | c :: cs => if isWordPart c then some (cs.dropWhile isWordPart) else none

/-- The words of a text.  `word` holds the current one, last character first. -/
def wordsFrom (word : List Char) : List Char → List (List Char)
  | [] => if word.isEmpty then [] else [word.reverse]
  | c :: cs =>
    if isWordPart c then wordsFrom (c :: word) cs
    else if word.isEmpty then wordsFrom [] cs
    else word.reverse :: wordsFrom [] cs

def words (cs : List Char) : List (List Char) := wordsFrom [] cs

end QualityGate.Text
