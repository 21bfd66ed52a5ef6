/-
A finder of modules that puts guards around their functions.

Only modules of the user are looked at: those whose name does not start like that of one of a few
modules of the language, and that are not installed packages.
-/
import QualityGate.Guard.Install

namespace QualityGate.Imports

open Program

def systemNames : List String := ["os", "sys", "json", "ast", "inspect", "functools"]

def installedPackages : List String := ["numpy", "attr"]

/-- Is a module in a directory for installed packages, as far as can be found out? -/
def isInstalled (name : String) : Act Bool := do
  if installedPackages.contains ((name.splitOn ".").headD "") then return true
  match name.splitOn "." with
  | [_] =>
    match ← findModule none name with
    | some (.file path _) => return Text.holds path "site-packages"
    | _ => return false
  | _ => return false

def isUserModule (name : String) : Act Bool := do
  if systemNames.any fun n => name.startsWith n then return false
  return !(← isInstalled name)

def findGuarded (name : String) : Act (Option String) := do
  if !(← isUserModule name) then return none
  match ← findModule none name with
  | some (.file path _) => return some path
  | some .library => return some (libraryOrigin name)
  | _ => return none

/-- Put one more of these finders in front of the others, and say so; the number of them. -/
def addGuardFinder (finders : Nat) : Act Nat := do
  Act.printLine "🪝 Quality Guard import hook zainstalowany"
  return finders + 1

def loadGuarded (name : String) (guardThere : Bool) : Act Unit := do
  match ← findGuarded name with
  | none => throw (.noAttribute "NoneType" "loader")
  | some path =>
    runFile name path
    if guardThere then Guard.guardModule name

end QualityGate.Imports
