/-
Text in quotes, as messages show it.

A text is put between single quotes, or between double quotes if it holds single quotes and no
double ones.  The quote in use, the backslash and every character that cannot be printed are
written as escapes.
-/
import QualityGate.Text.Printable
import QualityGate.Text.Surrogate

namespace QualityGate.Text

/-- A number in hexadecimal with at least the given number of digits. -/
def hexDigits (width n : Nat) : List Char :=
  let ds := Nat.toDigits 16 n
  List.replicate (width - ds.length) '0' ++ ds

/-- A character written as an escape: by two, four or eight digits. -/
def escapedChar (c : Char) : List Char :=
  if let some n := half? c then '\\' :: 'u' :: hexDigits 4 n
  else if c.toNat < 0x100 then '\\' :: 'x' :: hexDigits 2 c.toNat
  else if c.toNat < 0x10000 then '\\' :: 'u' :: hexDigits 4 c.toNat
  else '\\' :: 'U' :: hexDigits 8 c.toNat

def quotedChar (q c : Char) : List Char :=
  if c = q || c = '\\' then ['\\', c]
  else if c = '\n' then ['\\', 'n']
  else if c = '\r' then ['\\', 'r']
  else if c = '\t' then ['\\', 't']
  else if isPrintable c then [c]
  else escapedChar c

def quoteFor (cs : List Char) : Char :=
  if cs.contains '\'' && !cs.contains '"' then '"' else '\''

/-- A text with every character beyond ASCII written as an escape. -/
def escapeBeyond (s : String) : String :=
  String.ofList (s.toList.flatMap fun c => if c.toNat < 0x80 then [c] else escapedChar c)

def quotedByte (q : Char) (b : UInt8) : List Char :=
  let c := Char.ofNat b.toNat
  if c = q || c = '\\' then ['\\', c]
  else if c = '\n' then ['\\', 'n']
  else if c = '\r' then ['\\', 'r']
  else if c = '\t' then ['\\', 't']
  else if 32 ≤ b.toNat && b.toNat < 127 then [c]
  else '\\' :: 'x' :: hexDigits 2 b.toNat

def quoteBytes (bs : List UInt8) : String :=
  let q := quoteFor (bs.map fun b => Char.ofNat b.toNat)
  String.ofList (q :: bs.flatMap (quotedByte q) ++ [q])

def quote (s : String) : String :=
  let q := quoteFor s.toList
  String.ofList (q :: s.toList.flatMap (quotedChar q) ++ [q])

/-! ## What cannot be written -/

/-- A stretch of halves of pairs, which have no bytes, and where it starts. -/
structure HalfFault where
  position : Nat
  halves : List Nat
  deriving DecidableEq, Repr

def HalfFault.message (f : HalfFault) : String :=
  let place :=
    match f.halves with
    | [n] => s!"character '\\u{String.ofList (hexDigits 4 n)}' in position {f.position}"
    | ns => s!"characters in position {f.position}-{f.position + ns.length - 1}"
  s!"'utf-8' codec can't encode {place}: surrogates not allowed"

/-- The first stretch of halves in a text that starts with one of those that are in the way. -/
def halfFaultFrom (inTheWay : Nat → Bool) : Nat → List Char → Option HalfFault
  | _, [] => none
  | pos, c :: cs =>
    match half? c with
    | some n =>
      if inTheWay n then
        some ⟨pos, ((c :: cs).takeWhile fun x => (half? x).isSome).filterMap half?⟩
      else halfFaultFrom inTheWay (pos + 1) cs
    | none => halfFaultFrom inTheWay (pos + 1) cs

/-- Why a text cannot be written, if it cannot. -/
def halfFault? (s : String) : Option HalfFault := halfFaultFrom (fun _ => true) 0 s.toList

/-- Why a text cannot be the name of a file, if it cannot.  Some halves stand for single bytes. -/
def nameFault? (s : String) : Option HalfFault :=
  halfFaultFrom (fun n => !(0xDC80 ≤ n && n ≤ 0xDCFF)) 0 s.toList

end QualityGate.Text
