/-
Reading bytes as UTF-8.

The first fault ends the reading.  It is described by the bytes that it spans, which are those of
the longest beginning of a well-formed sequence.
-/
import QualityGate.Text.Encoding.Problem

namespace QualityGate.Text

inductive Utf8Reason where
  | badStart
  | badContinuation
  | cutOff
  deriving DecidableEq, Repr

/-- A fault in a text: where it starts, the bytes that it spans, and what is wrong. -/
structure Utf8Fault where
  position : Nat
  bytes : List UInt8
  reason : Utf8Reason
  deriving DecidableEq, Repr

def Utf8Reason.text : Utf8Reason → String
  | badStart => "invalid start byte"
  | badContinuation => "invalid continuation byte"
  | cutOff => "unexpected end of data"

def Utf8Fault.inEncoding (f : Utf8Fault) : Encoding.Fault :=
  ⟨"utf-8", f.position, f.bytes, f.reason.text⟩

def Utf8Fault.message (f : Utf8Fault) : String := f.inEncoding.message

def isContinuation (b : UInt8) : Bool := 0x80 ≤ b && b < 0xC0

/-- May a byte stand second behind this first one? -/
def isSecond (first b : UInt8) : Bool :=
  isContinuation b &&
    !(first == 0xE0 && b < 0xA0) && !(first == 0xED && 0xA0 ≤ b) &&
    !(first == 0xF0 && b < 0x90) && !(first == 0xF4 && 0x90 ≤ b)

/-- How many bytes a sequence has that starts with this byte, if one can. -/
def sequenceLength (b : UInt8) : Option Nat :=
  if b < 0x80 then some 1
  else if b < 0xC2 then none
  else if b < 0xE0 then some 2
  else if b < 0xF0 then some 3
  else if b < 0xF5 then some 4
  else none

/-- How many of the following bytes, at most `room`, continue the sequence. -/
def continuationCount (first : UInt8) (room : Nat) : List UInt8 → Nat
  | [] => 0
  | b :: bs =>
    if room = 0 || !isSecond first b then 0
    else 1 + ((bs.take (room - 1)).takeWhile isContinuation).length

/-- The low bits of a byte that continues a sequence, behind the bits read so far. -/
def appendBits (n : Nat) (b : UInt8) : Nat := n * 64 + b.toNat % 64

def leadBits (length : Nat) (b : UInt8) : Nat :=
  match length with
  | 1 => b.toNat
  | 2 => b.toNat % 32
  | 3 => b.toNat % 16
  | _ => b.toNat % 8

/-- Decode the bytes from a position on; `done` holds the characters before it, last first.
The first argument bounds the number of characters. -/
def decodeFrom : Nat → Nat → List Char → List UInt8 → Except Utf8Fault (List Char)
  | 0, _, done, _ => .ok done.reverse
  | _, _, done, [] => .ok done.reverse
  | fuel + 1, pos, done, b :: bs =>
    match sequenceLength b with
    | none => .error ⟨pos, [b], .badStart⟩
    | some n =>
      let k := continuationCount b (n - 1) bs
      if k + 1 = n then
        decodeFrom fuel (pos + n) (Char.ofNat ((bs.take k).foldl appendBits (leadBits n b)) :: done)
          (bs.drop k)
      else
        .error ⟨pos, b :: bs.take k, if k < bs.length then .badContinuation else .cutOff⟩

/-- Decode bytes of any kind: what is no sequence becomes the replacement character, one for each
longest beginning of a sequence.  The first argument bounds the number of characters. -/
def decodeAnyFrom : Nat → List Char → List UInt8 → List Char
  | 0, done, _ => done.reverse
  | _, done, [] => done.reverse
  | fuel + 1, done, b :: bs =>
    match sequenceLength b with
    | none => decodeAnyFrom fuel ('\ufffd' :: done) bs
    | some n =>
      let k := continuationCount b (n - 1) bs
      let c :=
        if k + 1 = n then Char.ofNat ((bs.take k).foldl appendBits (leadBits n b)) else '\ufffd'
      decodeAnyFrom fuel (c :: done) (bs.drop k)

/-- The text that bytes of any kind are taken for. -/
def decodeAny (bytes : ByteArray) : String :=
  match String.fromUTF8? bytes with
  | some s => s
  | none => String.ofList (decodeAnyFrom bytes.size [] bytes.toList)

def decodeUtf8 (bytes : ByteArray) : Except Utf8Fault String :=
  match String.fromUTF8? bytes with
  | some s => .ok s
  | none => (decodeFrom bytes.size 0 [] bytes.toList).map String.ofList

/-! ## Bytes that are kept -/

def keptChar (b : UInt8) : Char := halfChar (0xDC00 + b.toNat)

def keptByte? (c : Char) : Option UInt8 :=
  (half? c).bind fun n => if 0xDC80 ≤ n && n ≤ 0xDCFF then some (n - 0xDC00).toUInt8 else none

/-- Decode bytes of any kind: a byte that is part of no character is kept.  The first argument
bounds the number of characters, and `done` holds those before, last first. -/
def decodeKeepingFrom : Nat → List Char → List UInt8 → List Char
  | 0, done, _ => done.reverse
  | _, done, [] => done.reverse
  | fuel + 1, done, b :: bs =>
    match sequenceLength b with
    | none => decodeKeepingFrom fuel (keptChar b :: done) bs
    | some n =>
      let k := continuationCount b (n - 1) bs
      if k + 1 = n then
        decodeKeepingFrom fuel (Char.ofNat ((bs.take k).foldl appendBits (leadBits n b)) :: done)
          (bs.drop k)
      else decodeKeepingFrom fuel (keptChar b :: done) bs

/-- The text of bytes of any kind, in which those that are part of no character are kept. -/
def decodeKeeping (bytes : ByteArray) : String :=
  match String.fromUTF8? bytes with
  | some s => s
  | none => String.ofList (decodeKeepingFrom bytes.size [] bytes.toList)

/-- The bytes of a character, which may stand for a single one. -/
def bytesOf (c : Char) : List UInt8 :=
  match keptByte? c with
  | some b => [b]
  | none => (String.singleton c).toUTF8.toList

def keptFault? (cs : List Char) : Option Utf8Fault :=
  if cs.any fun c => (keptByte? c).isSome then
    let bytes := cs.flatMap bytesOf
    match decodeFrom bytes.length 0 [] bytes with
    | .ok _ => none
    | .error f => some f
  else none

end QualityGate.Text
