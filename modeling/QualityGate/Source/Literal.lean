/-
The values of numeric and string literals.
-/
import QualityGate.Source.Complaint
import QualityGate.Source.Tree
import QualityGate.Text.CharacterName
import QualityGate.Text.Escape

namespace QualityGate.Source

open Text

/-! ## Numbers -/

def maxIntegerDigits : Nat := 4300

def numberLiteral (text : String) : Except Complaint Literal :=
  let cs := text.toList.filter (· ≠ '_')
  match cs with
  | '0' :: 'x' :: ds | '0' :: 'X' :: ds => .ok (.int (digitsValue 16 ds))
  | '0' :: 'o' :: ds | '0' :: 'O' :: ds => .ok (.int (digitsValue 8 ds))
  | '0' :: 'b' :: ds | '0' :: 'B' :: ds => .ok (.int (digitsValue 2 ds))
  | _ =>
    if cs.all Char.isDigit then
      if maxIntegerDigits < cs.length then .error (.hugeNumber cs.length)
      else .ok (.int (digitsValue 10 cs))
    else
      let imaginary := cs.getLast? = some 'j' || cs.getLast? = some 'J'
      let cs := if imaginary then cs.dropLast else cs
      let whole := cs.takeWhile Char.isDigit
      let rest := cs.drop whole.length
      let (fraction, rest) := match rest with
        | '.' :: r => (r.takeWhile Char.isDigit, r.drop (r.takeWhile Char.isDigit).length)
        | r => ([], r)
      let exponent : Int := match rest with
        | _ :: '-' :: ds => -(digitsValue 10 ds : Int)
        | _ :: '+' :: ds => digitsValue 10 ds
        | _ :: ds => digitsValue 10 ds
        | [] => 0
      let digits := digitsValue 10 (whole ++ fraction)
      let scale := exponent - fraction.length
      .ok (if imaginary then .imaginary digits scale else .decimal digits scale)

/-! ## Strings -/

structure StringParts where
  isRaw : Bool
  isBytes : Bool
  isFormatted : Bool
  lead : List Char
  body : List Char

def StringParts.ofToken (text : String) : StringParts :=
  let cs := text.toList
  let letters := cs.takeWhile Char.isAlpha
  let rest := cs.drop letters.length
  let lower := letters.map Char.toLower
  let quote := rest.headD '"'
  let size := if [quote, quote, quote].isPrefixOf rest && 6 ≤ rest.length then 3 else 1
  { isRaw := lower.contains 'r', isBytes := lower.contains 'b', isFormatted := lower.contains 'f'
    lead := letters ++ rest.take size
    body := (rest.drop size).take (rest.length - 2 * size) }

/-- The number of bytes a character takes while escapes are decoded: others than ASCII are
spelled out. -/
def spelledSize (c : Char) : Nat := if c.toNat < 128 then 1 else 10

/-- Decode the escapes of a text string.  `at_` is the byte position in the spelled-out form,
`skip` the number of characters that belong to an escape already decoded. -/
def decodeText : List Char → Nat → Nat → Except Complaint (List Char)
  | [], _, _ => .ok []
  | c :: cs, at_, skip + 1 => decodeText cs (at_ + spelledSize c) skip
  | c :: cs, at_, 0 =>
    if c ≠ '\\' then (decodeText cs (at_ + spelledSize c) 0).map (c :: ·)
    else match cs with
      | [] => .ok [c]
      | e :: rest =>
        let hex (n : Nat) (form : String) : Except Complaint (List Char) :=
          let ds := (rest.take n).takeWhile isHexDigit
          if ds.length < n then
            .error (.badEscape s!"{at_}-{at_ + 1 + ds.length}: truncated {form} escape")
          else
            let v := digitsValue 16 ds
            if 0x10FFFF < v then
              .error (.badEscape s!"{at_}-{at_ + 1 + n}: illegal Unicode character")
            else (decodeText cs (at_ + 1) (n + 1)).map (pointChar v :: ·)
        if e = '\n' then decodeText cs (at_ + 1) 1
        else match simpleEscape e with
          | some x => (decodeText cs (at_ + 1) 1).map (x :: ·)
          | none =>
            if isOctalDigit e then
              let ds := (cs.take 3).takeWhile isOctalDigit
              (decodeText cs (at_ + 1) ds.length).map (pointChar (digitsValue 8 ds) :: ·)
            else if e = 'x' then hex 2 "\\xXX"
            else if e = 'u' then hex 4 "\\uXXXX"
            else if e = 'U' then hex 8 "\\UXXXXXXXX"
            else if e = 'N' then
              match rest with
              | '{' :: name =>
                let letters := name.takeWhile (· ≠ '}')
                if letters.isEmpty || letters.length = name.length then
                  let upto := at_ + 1 + (if letters.isEmpty then 1 else letters.length + 1)
                  .error (.badEscape s!"{at_}-{upto}: malformed \\N character escape")
                else
                  match Text.CharacterName.find? letters with
                  | some n => (decodeText cs (at_ + 1) (letters.length + 3)).map (pointChar n :: ·)
                  | none =>
                    let size := (letters.map spelledSize).foldl (· + ·) 0
                    .error (.badEscape s!"{at_}-{at_ + 3 + size}: unknown Unicode character name")
              | _ => .error (.badEscape s!"{at_}-{at_ + 1}: malformed \\N character escape")
            else
              -- before a character that is spelled out the backslash is spelled out too
              let size := if e.toNat < 128 then 1 else 6
              (decodeText cs (at_ + size) 1).map (c :: e :: ·)

/-- Decode the escapes of a byte string; `at_` is the position and `skip` counts the characters
that belong to an escape already decoded. -/
def decodeBytes : List Char → Nat → Nat → Except Complaint (List UInt8)
  | [], _, _ => .ok []
  | _ :: cs, at_, skip + 1 => decodeBytes cs (at_ + 1) skip
  | c :: cs, at_, 0 =>
    if c ≠ '\\' then (decodeBytes cs (at_ + 1) 0).map (c.toNat.toUInt8 :: ·)
    else match cs with
      | [] => .ok [c.toNat.toUInt8]
      | e :: rest =>
        if e = '\n' then decodeBytes cs (at_ + 1) 1
        else match simpleEscape e with
          | some x => (decodeBytes cs (at_ + 1) 1).map (x.toNat.toUInt8 :: ·)
          | none =>
            if isOctalDigit e then
              let ds := (cs.take 3).takeWhile isOctalDigit
              (decodeBytes cs (at_ + 1) ds.length).map ((digitsValue 8 ds).toUInt8 :: ·)
            else if e = 'x' then
              let ds := (rest.take 2).takeWhile isHexDigit
              if ds.length < 2 then
                .error (.badBytesEscape s!"invalid \\x escape at position {at_}")
              else (decodeBytes cs (at_ + 1) 3).map ((digitsValue 16 ds).toUInt8 :: ·)
            else (decodeBytes cs (at_ + 1) 1).map
              (c.toNat.toUInt8 :: e.toNat.toUInt8 :: ·)

end QualityGate.Source
