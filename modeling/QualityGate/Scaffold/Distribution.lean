/-
The distribution of the tool: what is said about it, and the packages that belong to it.

The packages are those below a directory of sources: a directory is a package if its name has no
dot in it and there is an `__init__.py` in it, and only packages are searched for more.
-/
import QualityGate.Session

namespace QualityGate.Scaffold

/-- The packages below a location, `around` before their names.  The first argument bounds how deep
they lie. -/
def packagesFrom (d : Disk) : Nat → Location → String → List String
  | 0, _, _ => []
  | depth + 1, loc, around => (d.namesIn loc).flatMap fun n =>
    let inner := loc ++ [n]
    if n.toList.contains '.' || !d.isDirAt inner || !d.isFile inner "__init__.py" then []
    else
      let name := around ++ n
      name :: packagesFrom d depth inner (name ++ ".")

def packagesIn (d : Disk) (here : Location) (dir : String) : List String :=
  match d.find here dir with
  | .ok (loc, .dir) =>
    (packagesFrom d d.entries.length loc "").mergeSort fun a b => !(b < a)
  | _ => []

def sourceDir : String := "src"

structure Distribution where
  packages : List String
  /-- The long description, which is the text of a file. -/
  about : String

def makeDistribution : Act Distribution := do
  let packages := packagesIn (← Act.disk) (← Act.here) sourceDir
  return ⟨packages, ← Act.readText "README.md"⟩

def Distribution.toValue (t : Distribution) : Value :=
  let texts (ss : List String) : Value := .list (ss.map .text)
  .object [
    ("name", .text "spyq"),
    ("version", .text "0.1.10"),
    ("author", .text "Tom Sapletta"),
    ("author_email", .text "tom@sapletta.com"),
    ("url", .text "https://github.com/wronai/quality"),
    ("description", .text "SPYQ - Shell Python Quality Guard"),
    ("long_description", .text t.about),
    ("classifiers", texts [
      "Programming Language :: Python :: 3",
      "License :: OSI Approved :: MIT License",
      "Operating System :: OS Independent"]),
    ("packages", texts t.packages),
    ("package_dir", .object [("", .text sourceDir)]),
    ("install_requires", texts ["click>=8.1.7"]),
    ("entry_points", .object [("console_scripts", texts ["spyq=spyq.cli:main"])]),
    ("python_requires", .text ">=3.7"),
    ("install_command", .text "PostInstallCommand"),
    ("description_of_command", .text "Post-installation for installation mode.")]

end QualityGate.Scaffold
