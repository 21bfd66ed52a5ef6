/-
Modules that can be run.

A text that follows the grammar is looked at three times before it is run: for the features that
it asks for, for what its names mean, and for statements that stand where they have no meaning.
The first objection counts.
-/
import QualityGate.Source.Parse
import QualityGate.Source.Placement
import QualityGate.Source.Scope

namespace QualityGate.Source

/-- Object to what cannot be run.  The second part are the cautions up to the objection. -/
def checkRunnable (t : Tree) : Except Objected Unit × List Caution :=
  match features t with
  | .error o => (.error o, [])
  | .ok f =>
    match Scope.check f.keepsAnnotations t with
    | .error o => (.error o, [])
    | .ok () => Placement.check f t

end QualityGate.Source
