/-
Line ends.

Three conventions for the end of a line are read (`\n`, `\r\n` and `\r`) and unified to the first.
The lines of a text as people count them are cut at a longer list of boundaries, which also holds
the vertical tab, the form feed, the three information separators, the next-line character and the
two Unicode separators.
-/
namespace QualityGate.Text

/-- Every line end as a single `\n`. -/
def unifyLineEnds : List Char → List Char
  | [] => []
  | '\r' :: '\n' :: cs => '\n' :: unifyLineEnds cs
  | '\r' :: cs => '\n' :: unifyLineEnds cs
  | c :: cs => c :: unifyLineEnds cs

def isLineBoundary (c : Char) : Bool :=
  c = '\n' || c = '\r' || c = '\x0b' || c = '\x0c' || c = '\x1c' || c = '\x1d' || c = '\x1e' ||
    c = '\u0085' || c = '\u2028' || c = '\u2029'

/-- The lines of a text without their boundaries; `\r\n` is one boundary, and a boundary at the
end of the text starts no further line.  `line` holds the current line, last character first. -/
def splitLinesFrom (line : List Char) : List Char → List (List Char)
  | [] => if line.isEmpty then [] else [line.reverse]
  | '\r' :: '\n' :: cs => line.reverse :: splitLinesFrom [] cs
  | c :: cs =>
    if isLineBoundary c then line.reverse :: splitLinesFrom [] cs
    else splitLinesFrom (c :: line) cs

def splitLines (s : String) : List String :=
  (splitLinesFrom [] s.toList).map String.ofList

/-- Cut a text at each `\n`; there is always one piece more than there are cuts. -/
def splitAtNewlines : List Char → List (List Char)
  | [] => [[]]
  | c :: cs =>
    if c = '\n' then [] :: splitAtNewlines cs
    else match splitAtNewlines cs with
      | [] => [[c]]
      | l :: ls => (c :: l) :: ls

/-- The text of some lines, each of which is ended. -/
def ofLines (lines : List String) : String := String.join (lines.map (· ++ "\n"))

end QualityGate.Text
