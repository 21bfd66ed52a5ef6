/-
Encodings: ways to read bytes as a text.

An encoding is asked for by one of its names, in which only letters, digits and points count.  Of the
encodings with one byte for each character, those of western and central Europe are read.
-/
import QualityGate.Text.Utf8

namespace QualityGate.Text

inductive Encoding where
  | utf8
  | ascii
  /-- The last bytes are the characters of a table, and each byte before them is the character with
  its number. -/
  | singleByte (table : String)
  deriving DecidableEq, Repr

namespace Encoding

/-! ## Names -/

/-- A name in the form of the tables: small letters, and one low line for each stretch of what is
neither a letter, a digit nor a point. -/
def tableName (name : String) : String :=
  let step : Bool × List Char → Char → Bool × List Char := fun (cut, done) c =>
    if c.isAlphanum || c = '.' then
      (false, c.toLower :: (if cut && !done.isEmpty then '_' :: done else done))
    else (true, done)
  String.ofList (name.toList.foldl step (false, [])).2.reverse

/-- What stands in a table for a byte without a character. -/
def noChar : Char := '\ufffd'

def all : List (List String × Encoding) := [
  (["utf_8", "utf_8_sig", "cp65001", "u8", "utf", "utf8", "utf8_ucs2", "utf8_ucs4"], utf8),
  (["ascii", "646", "ansi_x3.4_1968", "cp367", "csascii", "ibm367", "iso646_us", "iso_ir_6", "us",
    "us_ascii"], ascii),
  (["latin_1", "8859", "cp819", "csisolatin1", "ibm819", "iso8859", "iso8859_1", "iso_8859_1",
    "iso_ir_100", "l1", "latin", "latin1"], singleByte ""),
  (["cp1250", "1250", "windows_1250"], singleByte <|
    "€�‚�„…†‡�‰Š‹ŚŤŽŹ�‘’“”•–—�™š›śťžź\u00a0ˇ˘Ł¤Ą¦§¨©Ş«¬\u00ad®Ż°±˛ł´µ¶·¸ąş»Ľ˝ľżŔÁÂĂÄĹĆÇČÉ" ++
    "ĘËĚÍÎĎĐŃŇÓÔŐÖ×ŘŮÚŰÜÝŢßŕáâăäĺćçčéęëěíîďđńňóôőö÷řůúűüýţ˙"),
  (["cp1252", "1252", "windows_1252"], singleByte <|
    "€�‚ƒ„…†‡ˆ‰Š‹Œ�Ž��‘’“”•–—˜™š›œ�žŸ\u00a0¡¢£¤¥¦§¨©ª«¬\u00ad®¯°±²³´µ¶·¸¹º»¼½¾¿ÀÁÂÃÄÅÆÇÈÉ" ++
    "ÊËÌÍÎÏÐÑÒÓÔÕÖ×ØÙÚÛÜÝÞßàáâãäåæçèéêëìíîïðñòóôõö÷øùúûüýþÿ"),
  (["iso8859_2", "csisolatin2", "iso_8859_2", "iso_ir_101", "l2", "latin2"], singleByte <|
    "\u00a0Ą˘Ł¤ĽŚ§¨ŠŞŤŹ\u00adŽŻ°ą˛ł´ľśˇ¸šşťź˝žżŔÁÂĂÄĹĆÇČÉĘËĚÍÎĎĐŃŇÓÔŐÖ×ŘŮÚŰÜÝŢßŕáâăäĺćçčé" ++
    "ęëěíîďđńňóôőö÷řůúűüýţ˙"),
  (["iso8859_15", "iso_8859_15", "l9", "latin9"], singleByte <|
    "\u00a0¡¢£€¥Š§š©ª«¬\u00ad®¯°±²³Žµ¶·ž¹º»ŒœŸ¿ÀÁÂÃÄÅÆÇÈÉÊËÌÍÎÏÐÑÒÓÔÕÖ×ØÙÚÛÜÝÞßàáâãäåæçèé" ++
    "êëìíîïðñòóôõö÷øùúûüýþÿ")]

def ofName (name : String) : Except Problem Encoding :=
  match all.find? fun (names, _) => names.contains (tableName name) with
  | some (_, e) => .ok e
  | none => .error (.unknown name)

/-! ## Reading -/

/-- Read bytes one by one.  `char?` gives the character of a byte, and `fault` the fault at a byte
that has none. -/
def decodeEach (char? : UInt8 → Option Char) (fault : Nat → UInt8 → Fault) :
    Nat → List Char → List UInt8 → Except Fault (List Char)
  | _, done, [] => .ok done.reverse
  | pos, done, b :: bs =>
    match char? b with
    | some c => decodeEach char? fault (pos + 1) (c :: done) bs
    | none => .error (fault pos b)

def asciiChar? (b : UInt8) : Option Char := if b < 0x80 then some (Char.ofNat b.toNat) else none

def tableChar? (table : List Char) (b : UInt8) : Option Char :=
  let first := 256 - table.length
  let c := if b.toNat < first then Char.ofNat b.toNat else table.getD (b.toNat - first) noChar
  if c = noChar then none else some c

def decode (e : Encoding) (bytes : List UInt8) : Except Fault (List Char) :=
  match e with
  | utf8 =>
    match decodeFrom bytes.length 0 [] bytes with
    | .ok cs => .ok cs
    | .error f => .error f.inEncoding
  | ascii =>
    decodeEach asciiChar? (fun pos b => ⟨"ascii", pos, [b], "ordinal not in range(128)"⟩) 0 [] bytes
  | singleByte table =>
    decodeEach (tableChar? table.toList)
      (fun pos b => ⟨"charmap", pos, [b], "character maps to <undefined>"⟩) 0 [] bytes

end Encoding

end QualityGate.Text
