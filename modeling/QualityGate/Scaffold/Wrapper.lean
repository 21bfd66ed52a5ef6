/-
Putting a wrapper around Python for a user.

The wrapper is a link to a script among the installed packages.  The link is made even if that
script is not there; that it cannot be made runnable then shows afterwards.
-/
import QualityGate.Session

namespace QualityGate.Scaffold

/-- The line that puts the user's programs in front of the others. -/
def pathLine : String := "\nexport PATH=\"$HOME/.local/bin:$PATH\""

/-- Link the wrapper under the name of Python among the user's programs, and see to it that they
are found. -/
def linkWrapper : Act Unit := do
  let w ← get
  let home := Location.path w.places.home
  let dir := (home.child ".local").child "bin"
  Act.makeDirs dir
  match w.environment.lookup "PATH" with
  | none => throw (.missingKey (.text "PATH"))
  | some dirs =>
    if !(dirs.splitOn ":").contains dir.text then
      Act.appendText (home.child ".bashrc").text pathLine
  let target := (dir.child "python").text
  if ← Act.pathExists target then Act.removeFile target
  let script := (((Location.path w.interpreter.site).child "spyq").child "scripts").child "spyq-python"
  Act.makeLink script.text target
  Act.makeRunnable target

/-- The variables that keep the wrapper away. -/
def wrapperSwitches : List String := ["VIRTUAL_ENV", "SPYQ_DISABLE"]

/-- Let Python find the tool and its programs from its start on, unless a variable keeps the
wrapper away. -/
def startWrapper : Act Unit := do
  for name in wrapperSwitches do
    if (← Act.fromEnvironment? name).isSome then return ()
  let w ← get
  let dir := (Location.path w.interpreter.userSite).text
  if !(← Act.pathExists dir) then Act.makeDirsNamed dir
  Act.writeText (Path.joinName dir "spyq.pth") (w.places.tool ++ "\n")
  let programs := Path.joinName w.places.tool "scripts"
  let others := (w.environment.lookup "PATH").getD ""
  Act.setVariable "PATH" s!"{programs}:{others}"

end QualityGate.Scaffold
