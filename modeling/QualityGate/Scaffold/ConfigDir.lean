/-
The configuration directory of a project.

Four files are made in it, each of them only if it is missing or if all are to be made anew.
-/
import QualityGate.Json.Write
import QualityGate.Scaffold.Rules
import QualityGate.Session
import QualityGate.Settings.Store

namespace QualityGate.Scaffold

def configDir : String := ".spyq"

def configFiles : List (String × String) := [
  ("config.json", Json.render Settings.fileStyle projectRules),
  (".eslintrc.advanced.js", lintRules),
  (".prettierrc", Json.render Settings.fileStyle layoutRules),
  ("sonar-project.properties", scanProperties)]

/-- Make those of some files that are missing, or all of them if `force` is set, and list those
that were made. -/
def writeMissing (force : Bool) : List (String × String) → Act (List String)
  | [] => return []
  | (name, text) :: rest => do
    let path := configDir ++ "/" ++ name
    if force || !(← Act.pathExists path) then
      Act.writeText path text
      return path :: (← writeMissing force rest)
    else writeMissing force rest

/-- Make the configuration directory and its files.  The answer lists the files that were made, or
says why one could not be. -/
def makeConfigDir (force : Bool) : Act (Except String (List String)) := do
  Act.makeDir configDir
  Act.recover (.ok <$> writeMissing force configFiles) fun f => return .error f.message

def announceConfigDir (force : Bool) : Act Unit := do
  match ← makeConfigDir force with
  | .ok [] => Act.printLine "✅ SPYQ configuration already exists. Use --force to overwrite."
  | .ok files =>
    Act.printLine "✅ SPYQ configuration initialized successfully!"
    Act.printLine "\nCreated files:"
    for file in files do
      Act.printLine s!"  - {file}"
    Act.printLine "\nNext steps:"
    Act.printLine "  1. Review the configuration in .spyq/config.json"
    Act.printLine "  2. Run 'spyq setup' to set up the quality guard"
  | .error reason =>
    Act.printLine s!"❌ Error initializing SPYQ: {reason}"
    throw (.exit (.int 1))

end QualityGate.Scaffold
