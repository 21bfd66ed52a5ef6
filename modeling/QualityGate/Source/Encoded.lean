/-
Source files as bytes.

A file may start with a mark that says that it is UTF-8, and a comment on one of its first two
lines may name an encoding.  A file that is not said to be in another encoding is UTF-8.  It is not
refused as a whole for bytes that are none: in comments they do no harm.
-/
import QualityGate.Text.Encoding
import QualityGate.Text.Lines

namespace QualityGate.Source

open Text (Encoding)

def defaultEncoding : String := "utf-8"

def isEncodingChar (c : Char) : Bool := c.isAlphanum || c = '-' || c = '_' || c = '.'

def isInnerBlank (c : Char) : Bool := c = ' ' || c = '\t' || c = '\x0c'

/-- The name behind the first `coding:` or `coding=` in a comment that has a name behind it. -/
def encodingIn : List Char → Option String
  | [] => none
  | c :: cs =>
    let named : Option String :=
      match "coding".toList.isPrefixOf (c :: cs), cs.drop 5 with
      | true, mark :: rest =>
        if mark = ':' || mark = '=' then
          let name := (rest.dropWhile fun x => x = ' ' || x = '\t').takeWhile isEncodingChar
          if name.isEmpty then none else some (String.ofList name)
        else none
      | _, _ => none
    named.or (encodingIn cs)

/-- The common encodings have many names; these are the ones that count.  Only the first twelve
characters of a name are looked at. -/
def commonName (name : String) : String :=
  let short := (name.toList.take 12).map fun c => if c = '_' then '-' else c.toLower
  let isOrStarts (s : String) : Bool :=
    short == s.toList || (s.toList ++ ['-']).isPrefixOf short
  if isOrStarts defaultEncoding then defaultEncoding
  else if ["latin-1", "iso-8859-1", "iso-latin-1"].any isOrStarts then "iso-8859-1"
  else name

/-- The name of the encoding that some lines declare.  Only a comment can stand on such a line, and
the line behind it counts if the first holds nothing else. -/
def declaredIn : List (List Char) → Option String
  | [] => none
  | line :: lines =>
    match line.dropWhile isInnerBlank with
    | [] => declaredIn lines
    | '#' :: comment => ((encodingIn comment).map commonName).or (declaredIn lines)
    | _ => none

def declaredEncoding (cs : List Char) : Option String :=
  declaredIn ((Text.splitAtNewlines cs).take 2)

def utf8Mark : List UInt8 := [0xEF, 0xBB, 0xBF]

/-- The bytes of a file behind the mark, with unified line ends, and the name of their encoding. -/
def openBytes (bytes : ByteArray) : Except Encoding.Problem (List UInt8 × String) :=
  let all := bytes.toList
  let marked := utf8Mark.isPrefixOf all
  let cs := Text.unifyLineEnds
    ((if marked then all.drop 3 else all).map fun b => Char.ofNat b.toNat)
  let name := (declaredEncoding cs).getD defaultEncoding
  if marked && name ≠ defaultEncoding then .error (.againstMark name)
  else .ok (cs.map fun c => c.toNat.toUInt8, name)

/-- The encoding with a name.  The default need not be looked for. -/
def encodingNamed (name : String) : Except Encoding.Problem Encoding :=
  if name = defaultEncoding then .ok .utf8 else Encoding.ofName name

def decodeNamed (name : String) (bytes : List UInt8) : Except Encoding.Problem String := do
  let e ← encodingNamed name
  match e.decode bytes with
  | .ok cs => .ok (String.ofList cs)
  | .error f => .error (.fault f)

/-- The text of a file that is to be run.  Bytes that are no UTF-8 are kept. -/
def textOfBytes (bytes : ByteArray) : Except Encoding.Problem String := do
  let (bs, name) ← openBytes bytes
  if name = defaultEncoding then return Text.decodeKeeping ⟨bs.toArray⟩
  else decodeNamed name bs

def shownOfBytes (bytes : ByteArray) : Except Encoding.Problem String := do
  let (bs, name) ← openBytes bytes
  decodeNamed name bs

end QualityGate.Source
