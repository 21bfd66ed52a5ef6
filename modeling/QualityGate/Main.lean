/-
The command line.

The files below the current directory and the files of the user's settings are read before a
command runs.  What the command changed is written when it has ended.
-/
import QualityGate.Command.Perform

namespace QualityGate.CommandLine

def maxLevels : Nat := 64

/-- Put what stands at a place, and everything below it, onto a disk.  What cannot be read is left
out. -/
def readTree : Nat → Location → IO.FS.DirEntry → Disk → IO Disk
  | 0, _, _, d => return d
  | levels + 1, loc, e, d => do
    if ← e.path.isDir then
      let mut d := d.addDirs loc
      for x in ← e.path.readDir do
        d ← readTree levels (loc ++ [x.fileName]) x d
      return d
    else
      try return d.addWithParents loc (.file (← IO.FS.readBinFile e.path))
      catch _ => return d

def readOne (path : Path) (d : Disk) : IO Disk := do
  try return d.addWithParents path.names (.file (← IO.FS.readBinFile path.text))
  catch _ => return d

def writeChanges (old new : Disk) : IO Unit := do
  for (loc, e) in new.entries do
    let path := (Location.path loc).text
    match e, old.get? loc with
    | .dir, none => IO.FS.createDirAll path
    | .file bytes, some (.file before) => if !(bytes == before) then IO.FS.writeBinFile path bytes
    | .file bytes, _ => IO.FS.writeBinFile path bytes
    | _, _ => pure ()

def startSession : IO Session := do
  let here := (Path.ofText (← IO.currentDir).toString).names
  let home := (Path.ofText ((← IO.getEnv "HOME").getD "/")).names
  let places : Places := { here, home }
  let root : IO.FS.DirEntry := ⟨← IO.currentDir, "."⟩
  let mut d ← readTree maxLevels here root {}
  for p in (Settings.Store.new places).files do
    d ← readOne p d
  return { disk := d, places, args := ["spyq"], searchPath := [(Location.path here).text] }

def codeOf : Value → UInt32
  | .int n => n.toNat.toUInt32
  | .null => 0
  | .bool b => if b then 1 else 0
  | _ => 1

/-- Run the tool: do what the command line asks for, print, and keep what was changed. -/
def run (args : List String) : IO UInt32 := do
  let start ← startSession
  let (code, w) := match Command.perform args start with
    | .ok code w => (codeOf (.int code), w)
    | .error (.exit v) w => (codeOf v, w)
    | .error f w => (1, { w with err := w.err ++ f.message ++ "\n" })
  writeChanges start.disk w.disk
  IO.print w.out
  IO.eprint w.err
  return code

end QualityGate.CommandLine

def main (args : List String) : IO UInt32 := QualityGate.CommandLine.run args
