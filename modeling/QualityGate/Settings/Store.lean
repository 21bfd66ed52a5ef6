/-
Where settings are kept.

Settings are looked for in three places: the project, the user's configuration directory and an
older place in the home directory.  The first one that is there counts, and its fields are laid
over the defaults.
-/
import QualityGate.Settings.Basic
import QualityGate.Json.Read
import QualityGate.Json.Write
import QualityGate.Files.Text

namespace QualityGate

namespace Settings

def defaults : Settings := ofFields [
  ("max_file_lines", .int 300),
  ("max_function_lines", .int 50),
  ("max_function_params", .int 4),
  ("max_nesting_depth", .int 4),
  ("enable_import_hook", .bool true),
  ("validate_on_import", .bool true)]

def projectFile (p : Places) : Path := (Location.path p.here).child "spyq.json"

def userFile (p : Places) : Path := (Location.path p.home).child ".config/spyq/config.json"

def legacyFile (p : Places) : Path := (Location.path p.home).child ".spyq/config.json"

structure Store where
  settings : Settings
  files : List Path
  deriving Inhabited

/-- A store before anything is loaded. -/
def Store.new (p : Places) : Store :=
  ⟨defaults, [projectFile p, userFile p, legacyFile p]⟩

def readFile (d : Disk) (here : Location) (path : Path) : Except Failure Value :=
  match d.readText here path.text with
  | .error (.file e) => .error (.configUnreadable path.text e.message)
  | .error e => .error e
  | .ok t =>
    match Json.parse t with
    | .error f =>
      .error (if f.fault.blamesText then .configUnreadable path.text (f.message t)
        else .notReadable f.fault)
    | .ok v => .ok v

/-- Take over what the first file that is there holds. -/
def Store.load (s : Store) (d : Disk) (here : Location) : Store × Option Failure :=
  match s.files.find? fun p => d.pathExists here p.text with
  | none => (s, none)
  | some path =>
    match readFile d here path with
    | .error e => (s, some e)
    | .ok v =>
      let (settings, fault) := s.settings.update v
      ({ s with settings }, fault)

def current (d : Disk) (p : Places) : Except Failure Settings :=
  match (Store.new p).load d p.here with
  | (s, none) => .ok s.settings
  | (_, some e) => .error e

/-- The file that settings are saved to when no path is given: that of the project if there is
one, else that of the user. -/
def saveFile (d : Disk) (p : Places) : Path :=
  let here := Location.path p.here
  if d.pathExists p.here (here.child "pyproject.toml").text ||
      d.pathExists p.here (here.child "setup.py").text then
    projectFile p
  else userFile p

def fileStyle : Json.Style := { indent := some 2 }

/-- Save a value as settings.  Directories made on the way stay even if the file is refused. -/
def save (d : Disk) (p : Places) (v : Value) (path : Option Path) : Disk × Except Failure Path :=
  let path := path.getD (saveFile d p)
  match d.makeDirs p.here path.parent with
  | (d, some e) => (d, .error (.file e))
  | (d, none) =>
    match d.writeText p.here path.text (Json.render fileStyle v) with
    | .error e =>
      (d, .error (if e.isSystem then .configUnwritable path.text e.message else .file e))
    | .ok d => (d, .ok path)

end Settings

end QualityGate
