/-
Paths of files.

A path is a list of names, counted from the root or from the current directory.  Empty names and
`.` are dropped when a path is read, `..` is kept, because what it stands for depends on links.
-/
namespace QualityGate

structure Path where
  /-- The number of slashes it is written with in front: none if it is counted from the current
  directory. -/
  slashes : Nat
  names : List String
  deriving DecidableEq, Repr, Inhabited

namespace Path

def absolute (p : Path) : Bool := p.slashes ≠ 0

/-- The number of slashes in front of a path that are kept: two stay two, more are as good as
one. -/
def leadingSlashes (s : String) : Nat :=
  let n := (s.toList.takeWhile (· = '/')).length
  if n ≤ 2 then n else 1

/-- What stands between the slashes of a text. -/
def parts (s : String) : List String := (s.toList.splitOn '/').map String.ofList

def ofText (s : String) : Path where
  slashes := leadingSlashes s
  names := (parts s).filter fun n => n ≠ "" && n ≠ "."

/-- The text of a path; the current directory itself is a dot. -/
def text (p : Path) : String :=
  if p.absolute then String.ofList (List.replicate p.slashes '/') ++ "/".intercalate p.names
  else if p.names.isEmpty then "." else "/".intercalate p.names

/-- A path counted from another one; an absolute one stays what it is. -/
def join (p q : Path) : Path :=
  if q.absolute then q else { p with names := p.names ++ q.names }

def child (p : Path) (s : String) : Path := p.join (ofText s)

def parent (p : Path) : Path := { p with names := p.names.dropLast }

def name (p : Path) : String := p.names.getLast?.getD ""

/-- The number of characters before the last dot of a name, unless that dot stands first or
last. -/
def stemLength (s : List Char) : Nat :=
  let k := (s.reverse.takeWhile (· ≠ '.')).length
  if k = 0 || s.length ≤ k + 1 then s.length else s.length - k - 1

def stem (p : Path) : String :=
  String.ofList (p.name.toList.take (stemLength p.name.toList))

def ending (p : Path) : String :=
  String.ofList (p.name.toList.drop (stemLength p.name.toList))

/-! ## Paths as texts -/

def splitLast (s : String) : String × String :=
  let base := (s.toList.reverse.takeWhile (· ≠ '/')).reverse
  let head := s.toList.take (s.length - base.length)
  let trimmed := (head.reverse.dropWhile (· = '/')).reverse
  (String.ofList (if trimmed.isEmpty then head else trimmed), String.ofList base)

def joinName (dir name : String) : String :=
  if dir.isEmpty || dir.endsWith "/" then dir ++ name else dir ++ "/" ++ name

end Path

end QualityGate
