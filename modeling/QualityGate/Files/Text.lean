/-
Files as texts, and the directories that programs start from.
-/
import QualityGate.Failure
import QualityGate.Text.Lines

namespace QualityGate

structure Places where
  here : Location
  home : Location
  tool : String := ""
  deriving Inhabited

def Location.path (loc : Location) : Path := ⟨1, loc⟩

/-- The text of a file, with all line ends made the same. -/
def Disk.readText (d : Disk) (here : Location) (s : String) : Except Failure String :=
  match d.read here s with
  | .error e => .error (.file e)
  | .ok bytes =>
    match Text.decodeUtf8 bytes with
    | .error f => .error (.undecodable f)
    | .ok t => .ok (String.ofList (Text.unifyLineEnds t.toList))

def Disk.writeText (d : Disk) (here : Location) (s text : String) : Except FileError Disk :=
  d.write here s text.toUTF8

end QualityGate
