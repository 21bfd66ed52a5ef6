/-
The functions that the watcher sees in a text.

The watcher does not parse.  In a Python file it looks for heads, `def name(` at the start of a
line, and gives to each function the text from its head to the next one.  In a script it looks for
a few forms of definition and follows the braces.
-/
import QualityGate.Text.Lines
import QualityGate.Text.Space
import QualityGate.Text.Surrogate

namespace QualityGate.Watch

open Text

/-! ## Heads -/

/-- The name of the function whose head stands in front, and what is behind the head.  Spaces and
even empty lines before the word `def` belong to the head. -/
def headAt (cs : List Char) : Option (String × List Char) := do
  let gap ← afterText "def" (cs.dropWhile isSpace)
  let start ← afterSpaces gap
  let rest ← afterWord start
  let after ← afterText "(" (rest.dropWhile isSpace)
  return (String.ofList (start.takeWhile isWordPart), after)

/-- A head: the name of the function, and the number of characters before the head. -/
structure Head where
  name : String
  start : Nat
  deriving DecidableEq, Repr

/-- The heads in a text whose first character is the `n`-th.  The flag tells whether the text
starts with a new line. -/
def headsFrom (lineStart : Bool) (n : Nat) (cs : List Char) : List Head :=
  match cs with
  | [] => []
  | c :: rest =>
    match (if lineStart then headAt (c :: rest) else none) with
    | some (name, after) =>
      if _h : after.length < (c :: rest).length then
        ⟨name, n⟩ :: headsFrom false (n + ((c :: rest).length - after.length)) after
      else [⟨name, n⟩]
    | none => headsFrom (isLineEnd c) (n + 1) rest
termination_by cs.length
decreasing_by all_goals simp only [List.length_cons] at *; omega

def heads (cs : List Char) : List Head := headsFrom true 0 cs

/-! ## Segments -/

/-- A function: its name, the line on which its head starts, and its text. -/
structure Segment where
  name : String
  start : Nat
  line : Nat
  text : List Char
  deriving DecidableEq, Repr

/-- The number of the line on which the character behind the first `n` stands. -/
def lineAt (cs : List Char) (n : Nat) : Nat := (cs.take n).count '\n' + 1

/-- Cut a text at heads: each segment goes to the next head, the last one to the end. -/
def cutAt (cs : List Char) : List Head → List Segment
  | [] => []
  | [h] => [⟨h.name, h.start, lineAt cs h.start, cs.drop h.start⟩]
  | h :: next :: more =>
    ⟨h.name, h.start, lineAt cs h.start, (cs.take next.start).drop h.start⟩ ::
      cutAt cs (next :: more)

def segments (cs : List Char) : List Segment := cutAt cs (heads cs)

/-- The number of lines that are neither blank nor start with a comment mark. -/
def codeLines (mark : String) (cs : List Char) : Nat :=
  ((splitAtNewlines cs).filter fun line =>
    let line := stripSpaces line
    !line.isEmpty && !mark.toList.isPrefixOf line).length

def branchWords : List (List Char) :=
  ["if", "while", "for", "try", "except", "and", "or"].map String.toList

/-- The complexity of a function: one more than the number of its branch words. -/
def complexity (cs : List Char) : Nat := 1 + (words cs).countP branchWords.contains

/-- Does a text hold a string in three quotes of either kind? -/
def mentionsDoc : List Char → Bool
  | [] => false
  | c :: cs =>
    "\"\"\"".toList.isPrefixOf (c :: cs) || "'''".toList.isPrefixOf (c :: cs) || mentionsDoc cs

def mentionsTest (name : String) : List Char → Bool
  | [] => false
  | c :: cs =>
    ((afterText "def" (c :: cs)).bind afterSpaces |>.bind (afterText ("test_" ++ name))).isSome ||
      mentionsTest name cs

/-! ## Scripts -/

/-- What is behind `const name =` and, if there is one, the word `async`. -/
def afterBinding (cs : List Char) : Option (List Char) := do
  let gap ← afterText "const" cs
  let rest ← afterWord (← afterSpaces gap)
  let value := (← afterText "=" (rest.dropWhile isSpace)).dropWhile isSpace
  return ((afterText "async" value).bind afterSpaces).getD value

def afterNamed (cs : List Char) : Option (List Char) := do
  afterWord (← afterSpaces (← afterText "function" cs))

def afterArrow (cs : List Char) : Option (List Char) := do
  let params ← afterText "(" (← afterBinding cs)
  let rest ← afterText ")" (params.dropWhile (· ≠ ')'))
  afterText "=>" (rest.dropWhile isSpace)

/-- What is behind the definition of a function in a script, if one stands in front. -/
def scriptHeadAt (cs : List Char) : Option (List Char) :=
  (afterNamed cs).or ((afterArrow cs).or ((afterBinding cs).bind (afterText "function")))

/-- The text up to the brace that closes the first one, as far as the counts of braces tell:
`depth` is how many more have been opened than closed, and `opened` tells whether any has been
opened. -/
def bracedFrom (opened : Bool) (depth : Int) : List Char → List Char
  | [] => []
  | c :: cs =>
    if c = '\x7b' then c :: bracedFrom true (depth + 1) cs
    else if c = '\x7d' then
      if opened && depth = 1 then [c] else c :: bracedFrom opened (depth - 1) cs
    else c :: bracedFrom opened depth cs

/-- The text up to the brace that closes the first one, or all of it. -/
def braced (cs : List Char) : List Char := bracedFrom false 0 cs

/-- The text of the function that starts at a place, counted in units of sixteen bits.  There is no
character at a place before the text. -/
def functionText (content : String) (start : Int) : String :=
  String.join (List.replicate (-start).toNat "undefined") ++
    String.ofList (braced (dropUnits start.toNat content.toList))

/-- The functions of a script: the line on which each starts, and its text. -/
def scriptFunctionsFrom (line : Nat) (cs : List Char) : List (Nat × List Char) :=
  match cs with
  | [] => []
  | c :: rest =>
    match scriptHeadAt (c :: rest) with
    | some after =>
      let found := (line, braced (c :: rest))
      if _h : after.length < (c :: rest).length then
        let read := (c :: rest).take ((c :: rest).length - after.length)
        found :: scriptFunctionsFrom (line + read.count '\n') after
      else [found]
    | none => scriptFunctionsFrom (if c = '\n' then line + 1 else line) rest
termination_by cs.length
decreasing_by all_goals simp only [List.length_cons] at *; omega

def scriptFunctions (cs : List Char) : List (Nat × List Char) := scriptFunctionsFrom 1 cs

end QualityGate.Watch
