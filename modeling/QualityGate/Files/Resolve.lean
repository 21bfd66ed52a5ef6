/-
Paths made absolute, in two ways: as texts, where `..` takes away the name before it, whatever
stands on the disk, and on the disk, where links are followed.
-/
import QualityGate.Files.Disk

namespace QualityGate

namespace Disk

/-- The location that names lead to from a directory when the links on the way are followed.  What
is not there is taken as it is written, and so is the rest when no more links may be followed. -/
def follow (d : Disk) (links : Nat) (base : Location) (names : List String) : Location :=
  match names with
  | [] => base
  | name :: rest =>
    if name = ".." then follow d links base.dropLast rest
    else
      match d.get? (base ++ [name]) with
      | some (.link target) =>
        match links with
        | 0 => base ++ name :: rest
        | links + 1 =>
          let p := Path.ofText target
          follow d links (if p.absolute then [] else base) (p.names ++ rest)
      | _ => follow d links (base ++ [name]) rest
termination_by (links, names.length)

/-- The location that a path given as text names, links followed. -/
def resolve (d : Disk) (here : Location) (s : String) : Location :=
  let p := Path.ofText s
  d.follow maxLinks (if p.absolute then [] else here) p.names

end Disk

namespace Path

/-- The location that a path names when it is counted from a directory. -/
def resolve (here : Location) (s : String) : Location :=
  (parts s).foldl
    (fun loc n =>
      if n = "" || n = "." then loc else if n = ".." then loc.dropLast else loc ++ [n])
    (if s.startsWith "/" then [] else here)

/-- How many names two locations have in common at their start. -/
def commonLength : Location → Location → Nat
  | a :: as, b :: bs => if a = b then commonLength as bs + 1 else 0
  | _, _ => 0

def relative (source target : Location) : String :=
  let n := commonLength source target
  "/".intercalate (List.replicate (source.length - n) ".." ++ target.drop n)

/-- The last name of a path, without the slashes behind it. -/
def lastName (s : String) : List Char :=
  ((s.toList.reverse.dropWhile (· = '/')).takeWhile (· ≠ '/')).reverse

/-- The ending of the last name from its last dot on.  A name that starts with its only dot has
none, and neither have two dots. -/
def lastEnding (s : String) : String :=
  let name := lastName s
  let k := (name.reverse.takeWhile (· ≠ '.')).length
  if k + 1 < name.length && name ≠ ['.', '.'] then
    String.ofList (name.drop (name.length - k - 1))
  else ""

def lastStem (s : String) : String :=
  String.ofList ((lastName s).take ((lastName s).length - (lastEnding s).length))

/-- The path of the directory that the last name stands in. -/
def directory (s : String) : String :=
  let cs := s.toList.reverse.dropWhile (· = '/')
  if cs.isEmpty then (if s.startsWith "/" then "/" else ".")
  else
    let rest := cs.dropWhile (· ≠ '/')
    match rest with
    | [] => "."
    | ['/'] => "/"
    | _ :: more => String.ofList more.reverse

end Path

end QualityGate
