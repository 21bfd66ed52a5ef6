/-
Why bytes cannot be read as a text.

Either there is no way to read them, or the way that is asked for fails at some of the bytes.
-/
import QualityGate.Text.Quoted

namespace QualityGate.Text.Encoding

/-- Bytes at which an encoding fails: where they start, what they are, and what is wrong. -/
structure Fault where
  encoding : String
  position : Nat
  bytes : List UInt8
  reason : String
  deriving DecidableEq, Repr

def Fault.message (f : Fault) : String :=
  let place :=
    match f.bytes with
    | [b] => s!"byte 0x{String.ofList (hexDigits 2 b.toNat)} in position {f.position}"
    | bs => s!"bytes in position {f.position}-{f.position + bs.length - 1}"
  s!"'{f.encoding}' codec can't decode {place}: {f.reason}"

inductive Problem where
  | unknown (name : String)
  /-- The encoding is at odds with the mark that the bytes start with. -/
  | againstMark (name : String)
  | fault (f : Fault)
  deriving DecidableEq, Repr

def Problem.message : Problem → String
  | unknown name => s!"unknown encoding: {name}"
  | againstMark name => s!"encoding problem: {name} with BOM"
  | fault f => f.message

end QualityGate.Text.Encoding
