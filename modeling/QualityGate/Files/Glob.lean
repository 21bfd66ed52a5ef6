/-
File name patterns.

In a pattern `*` stands for any characters, `?` for one, and brackets for one of those listed in
them.  A pattern for a path is matched directory by directory; names that start with a dot are
found only by patterns that start with one.
-/
import QualityGate.Files.Disk

namespace QualityGate.Glob

open QualityGate.Path (splitLast joinName)

inductive Member where
  | char (c : Char)
  | range (lo hi : Char)
  deriving DecidableEq, Repr

inductive Part where
  | char (c : Char)
  | any
  | star
  | oneOf (negated : Bool) (members : List Member)
  deriving DecidableEq, Repr

/-- The members listed in brackets: a hyphen between two characters makes a range. -/
def members : List Char → List Member
  | a :: '-' :: b :: rest => .range a b :: members rest
  | a :: rest => .char a :: members rest
  | [] => []

/-- The text up to the closing bracket and what follows it.  A bracket that comes first, or first
behind an exclamation mark, does not close. -/
def bracketed (cs : List Char) : Option (List Char × List Char) :=
  let lead := match cs with
    | '!' :: ']' :: _ => 2
    | '!' :: _ => 1
    | ']' :: _ => 1
    | _ => 0
  let inner := (cs.drop lead).takeWhile (· ≠ ']')
  match cs.drop (lead + inner.length) with
  | _ :: rest => some (cs.take (lead + inner.length), rest)
  | [] => none

/-- The parts of a pattern; the first argument bounds their number. -/
def partsFrom : Nat → List Char → List Part
  | 0, _ => []
  | _, [] => []
  | fuel + 1, '*' :: cs => .star :: partsFrom fuel cs
  | fuel + 1, '?' :: cs => .any :: partsFrom fuel cs
  | fuel + 1, '[' :: cs =>
    match bracketed cs with
    | none => .char '[' :: partsFrom fuel cs
    | some ('!' :: list, rest) => .oneOf true (members list) :: partsFrom fuel rest
    | some (list, rest) => .oneOf false (members list) :: partsFrom fuel rest
  | fuel + 1, c :: cs => .char c :: partsFrom fuel cs

def parts (s : String) : List Part := partsFrom s.length s.toList

def Member.has (c : Char) : Member → Bool
  | char d => c = d
  | range lo hi => lo ≤ c && c ≤ hi

def Part.has (c : Char) : Part → Bool
  | char d => c = d
  | any => true
  | star => false
  | oneOf negated ms => ms.any (Member.has c) != negated

def matchesParts : List Part → List Char → Bool
  | [], cs => cs.isEmpty
  | .star :: ps, [] => matchesParts ps []
  | .star :: ps, c :: cs => matchesParts ps (c :: cs) || matchesParts (.star :: ps) cs
  | _ :: _, [] => false
  | p :: ps, c :: cs => p.has c && matchesParts ps cs
termination_by ps cs => ps.length + cs.length

def matchesName (pattern name : String) : Bool := matchesParts (parts pattern) name.toList

def isPattern (s : String) : Bool := s.toList.any fun c => c = '*' || c = '?' || c = '['

def isHidden (s : String) : Bool := s.startsWith "."

/-- Is there anything at a path, a link that leads nowhere included? -/
def somethingAt (d : Disk) (here : Location) (s : String) : Bool :=
  match d.locate here s false with
  | .ok loc => (d.get? loc).isSome
  | .error _ => false

/-- The names in a directory that match a pattern; only those of directories if asked for. -/
def namesMatching (d : Disk) (here : Location) (dirsOnly : Bool) (dir pattern : String) :
    List String :=
  let dir := if dir.isEmpty then "." else dir
  match d.find here dir with
  | .ok (loc, .dir) =>
    (d.namesIn loc).filter fun n =>
      (isHidden pattern || !isHidden n) && matchesName pattern n &&
        (!dirsOnly || d.isDir here (joinName dir n))
  | _ => []

/-- The paths that match a pattern; the first argument bounds the number of directories in it. -/
def findFrom (d : Disk) (here : Location) : Nat → Bool → String → List String
  | 0, _, _ => []
  | fuel + 1, dirsOnly, pattern =>
    let (dir, base) := splitLast pattern
    if !isPattern pattern then
      if base.isEmpty then (if d.isDir here dir then [pattern] else [])
      else if somethingAt d here pattern then [pattern] else []
    else if dir.isEmpty then namesMatching d here dirsOnly "" base
    else
      let dirs := if dir ≠ pattern && isPattern dir then findFrom d here fuel true dir else [dir]
      dirs.flatMap fun dir =>
        let names :=
          if isPattern base then namesMatching d here dirsOnly dir base
          else if base.isEmpty then (if d.isDir here dir then [""] else [])
          else if somethingAt d here (joinName dir base) then [base] else []
        names.map (joinName dir)

def find (d : Disk) (here : Location) (pattern : String) : List String :=
  findFrom d here (pattern.length + 1) false pattern

/-- The paths below a directory whose last name matches a pattern.  Those directly in the directory
come before those in its subdirectories.  A directory with a path that is too long is refused.  The
first argument bounds the depth. -/
def belowFrom (d : Disk) (pattern : String) :
    Nat → Location → Path → Except FileError (List Path)
  | 0, _, _ => .ok []
  | fuel + 1, loc, p =>
    if Disk.maxPath < p.text.utf8ByteSize then .error ⟨.nameTooLong, p.text⟩
    else do
      let names := d.namesIn loc
      let inner ← (names.filter fun n => d.isDirAt (loc ++ [n])).mapM fun n =>
        belowFrom d pattern fuel (loc ++ [n]) (p.child n)
      return (names.filter (matchesName pattern)).map p.child ++ inner.flatten

/-- The paths below a directory whose last name matches a pattern. -/
def below (d : Disk) (here : Location) (p : Path) (pattern : String) :
    Except FileError (List Path) :=
  match d.find here p.text with
  | .ok (loc, .dir) => belowFrom d pattern (d.entries.length + 1) loc p
  | _ => .ok []

end QualityGate.Glob
