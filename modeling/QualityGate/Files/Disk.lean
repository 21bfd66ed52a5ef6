/-
Files, directories and links.

A disk maps locations, which are lists of names from the root, to what stands there.  A path is
followed name by name: each name on the way has to be a directory or a link to one.
-/
import QualityGate.Files.Path
import QualityGate.Text.Quoted

namespace QualityGate

/-- Where something stands: the names from the root. -/
abbrev Location := List String

inductive Entry where
  | file (bytes : ByteArray)
  | dir
  | link (target : String)
  deriving Inhabited

inductive Trouble where
  | missing
  | alreadyThere
  | notDirectory
  | isDirectory
  | notEmpty
  | nameTooLong
  | tooManyLinks
  /-- A path with a null character, which the system is not even asked for. -/
  | nullInPath
  /-- A path with half a pair of units, which has no bytes. -/
  | unwritable
  deriving DecidableEq, Repr

def Trouble.describe : Trouble → Nat × String
  | missing => (2, "No such file or directory")
  | alreadyThere => (17, "File exists")
  | notDirectory => (20, "Not a directory")
  | isDirectory => (21, "Is a directory")
  | notEmpty => (39, "Directory not empty")
  | nameTooLong => (36, "File name too long")
  | tooManyLinks => (40, "Too many levels of symbolic links")
  | nullInPath => (0, "embedded null byte")
  | unwritable => (0, "surrogates not allowed")

/-- A refused operation, with the path that was asked for. -/
structure FileError where
  trouble : Trouble
  path : String
  deriving DecidableEq, Repr

def FileError.isSystem (e : FileError) : Bool :=
  e.trouble ≠ .nullInPath && e.trouble ≠ .unwritable

def FileError.message (e : FileError) : String :=
  if e.isSystem then
    s!"[Errno {e.trouble.describe.1}] {e.trouble.describe.2}: {Text.quote e.path}"
  else
    match e.trouble, Text.nameFault? e.path with
    | .unwritable, some f => f.message
    | t, _ => t.describe.2

structure Disk where
  entries : List (Location × Entry) := []
  deriving Inhabited

namespace Disk

/-- What stands at a location.  The root is always a directory. -/
def get? (d : Disk) (loc : Location) : Option Entry :=
  if loc.isEmpty then some .dir else d.entries.lookup loc

def put (loc : Location) (e : Entry) : List (Location × Entry) → List (Location × Entry)
  | [] => [(loc, e)]
  | (l, f) :: rest => if l = loc then (l, e) :: rest else (l, f) :: put loc e rest

def set (d : Disk) (loc : Location) (e : Entry) : Disk := ⟨put loc e d.entries⟩

/-- Take away what stands at a location and everything below it. -/
def erase (d : Disk) (loc : Location) : Disk :=
  ⟨d.entries.filter fun (l, _) => !loc.isPrefixOf l⟩

def isDirAt (d : Disk) (loc : Location) : Bool :=
  match d.get? loc with
  | some .dir => true
  | _ => false

def namesIn (d : Disk) (loc : Location) : List String :=
  let names := d.entries.filterMap fun (l, _) =>
    if l.dropLast = loc then l.getLast? else none
  names.mergeSort fun a b => !(b < a)

def addDirs (d : Disk) (loc : Location) : Disk :=
  (List.range (loc.length + 1)).foldl
    (fun d n => if (d.get? (loc.take n)).isNone then d.set (loc.take n) .dir else d) d

def addWithParents (d : Disk) (loc : Location) (e : Entry) : Disk :=
  (d.addDirs loc.dropLast).set loc e

def maxName : Nat := 255

def maxPath : Nat := 4095

/-- Follow names from a directory.  `links` bounds how many links may be followed; the last name
is followed too if `final` is set.  The location that comes out may hold nothing. -/
def walk (d : Disk) (final : Bool) (links : Nat) (base : Location) (names : List String) :
    Except Trouble Location :=
  match names with
  | [] => .ok base
  | name :: rest =>
    if name = "." then walk d final links base rest
    else if name = ".." then walk d final links base.dropLast rest
    else if maxName < name.utf8ByteSize then .error .nameTooLong
    else
      let loc := base ++ [name]
      match d.get? loc with
      | none => if rest.isEmpty then .ok loc else .error .missing
      | some .dir => walk d final links loc rest
      | some (.file _) => if rest.isEmpty then .ok loc else .error .notDirectory
      | some (.link target) =>
        if rest.isEmpty && !final then .ok loc
        else
          match links with
          | 0 => .error .tooManyLinks
          | links + 1 =>
            let p := Path.ofText target
            walk d final links (if p.absolute then [] else base) (p.names ++ rest)
termination_by (links, names.length)

def maxLinks : Nat := 40

/-- The names that a text asks to follow.  A slash at the end asks for a directory. -/
def namesToFollow (s : String) : List String :=
  let names := (Path.ofText s).names
  if s.toList.getLast? = some '/' then names ++ ["."] else names

/-- The location that a path given as text leads to from the current directory. -/
@[irreducible] def locate (d : Disk) (here : Location) (s : String) (final : Bool := true) :
    Except Trouble Location :=
  if (Text.nameFault? s).isSome then .error .unwritable
  else if s.toList.contains '\x00' then .error .nullInPath
  else if s.isEmpty then .error .missing
  else if maxPath < s.utf8ByteSize then .error .nameTooLong
  else walk d final maxLinks (if s.startsWith "/" then [] else here) (namesToFollow s)

def find (d : Disk) (here : Location) (s : String) : Except Trouble (Location × Entry) := do
  let loc ← d.locate here s
  match d.get? loc with
  | some e => .ok (loc, e)
  | none => .error .missing

/-- What stands at a path, if anything.  A path that cannot be followed leads nowhere, but one
with a name that is too long is refused. -/
def lookAt (d : Disk) (here : Location) (s : String) : Except FileError (Option Entry) :=
  match d.find here s with
  | .ok (_, e) => .ok (some e)
  | .error .nameTooLong => .error ⟨.nameTooLong, s⟩
  | .error _ => .ok none

def pathExists (d : Disk) (here : Location) (s : String) : Bool :=
  match d.find here s with
  | .ok _ => true
  | .error _ => false

def isFile (d : Disk) (here : Location) (s : String) : Bool :=
  match d.find here s with
  | .ok (_, .file _) => true
  | _ => false

def isDir (d : Disk) (here : Location) (s : String) : Bool :=
  match d.find here s with
  | .ok (_, .dir) => true
  | _ => false

def read (d : Disk) (here : Location) (s : String) : Except FileError ByteArray :=
  match d.find here s with
  | .ok (_, .file bytes) => .ok bytes
  | .ok _ => .error ⟨.isDirectory, s⟩
  | .error t => .error ⟨t, s⟩

def write (d : Disk) (here : Location) (s : String) (bytes : ByteArray) : Except FileError Disk :=
  match d.locate here s with
  | .error t => .error ⟨t, s⟩
  | .ok loc =>
    match d.get? loc with
    | some .dir => .error ⟨.isDirectory, s⟩
    | _ => .ok (d.set loc (.file bytes))

/-- A path without the slashes at its end, unless it is made of slashes alone. -/
def withoutEndSlash (s : String) : String :=
  let cs := s.toList.reverse.dropWhile (· = '/')
  if cs.isEmpty then s else String.ofList cs.reverse

/-- Make a directory.  A slash at the end of its path says nothing new. -/
def makeDir (d : Disk) (here : Location) (s : String) : Except FileError Disk :=
  match d.locate here (withoutEndSlash s) false with
  | .error t => .error ⟨t, s⟩
  | .ok loc =>
    match d.get? loc with
    | none => .ok (d.set loc .dir)
    | some _ => .error ⟨.alreadyThere, s⟩

def ensureDir (d : Disk) (here : Location) (s : String) : Disk × Option FileError :=
  match d.makeDir here s with
  | .ok d => (d, none)
  | .error e => (d, if e.trouble ≠ .missing && d.isDir here s then none else some e)

/-- Make a directory that may be there already, and its parents.  What was made before a refusal
stays.  The first argument is the number of parents that may be tried. -/
def makeDirsFrom : Nat → Disk → Location → Path → Disk × Option FileError
  | 0, d, here, p => d.ensureDir here p.text
  | fuel + 1, d, here, p =>
    match d.ensureDir here p.text with
    | (d, none) => (d, none)
    | (d, some e) =>
      if e.trouble = .missing && !p.names.isEmpty then
        match makeDirsFrom fuel d here p.parent with
        | (d, some e) => (d, some e)
        | (d, none) => d.ensureDir here p.text
      else (d, some e)

def makeDirs (d : Disk) (here : Location) (p : Path) : Disk × Option FileError :=
  makeDirsFrom (p.names.length + 1) d here p

/-- The path above a path as it is written, and its last name.  A slash at the end says nothing
new. -/
def splitNamed (s : String) : String × String :=
  let split := Path.splitLast s
  if split.2.isEmpty then Path.splitLast split.1 else split

/-- Make a directory that may be there already, or a link to one. -/
def makeNamedHere (d : Disk) (here : Location) (s : String) : Disk × Option FileError :=
  match d.makeDir here s with
  | .ok d => (d, none)
  | .error e => (d, if d.isDir here s then none else some e)

/-- Make a directory that may be there already, and those above it that are missing, with each
path taken as it is written.  What was made before a refusal stays.  The first argument bounds the
number of directories. -/
def makeNamedFrom : Nat → Disk → Location → String → Disk × Option FileError
  | 0, d, _, _ => (d, none)
  | fuel + 1, d, here, s =>
    let (head, last) := splitNamed s
    if head.isEmpty || last.isEmpty || d.pathExists here head then d.makeNamedHere here s
    else
      match makeNamedFrom fuel d here head with
      | (d, some e) => if e.trouble = .alreadyThere then d.makeNamedHere here s else (d, some e)
      | (d, none) => d.makeNamedHere here s

/-- Make a directory that may be there already, and those above it that are missing. -/
def makeNamed (d : Disk) (here : Location) (s : String) : Disk × Option FileError :=
  makeNamedFrom (s.length + 1) d here s

/-- Write behind the end of a file, a new one if there is none. -/
def append (d : Disk) (here : Location) (s : String) (bytes : ByteArray) :
    Except FileError Disk :=
  match d.locate here s with
  | .error t => .error ⟨t, s⟩
  | .ok loc =>
    match d.get? loc with
    | some .dir => .error ⟨.isDirectory, s⟩
    | some (.file old) => .ok (d.set loc (.file (old ++ bytes)))
    | _ => .ok (d.set loc (.file bytes))

end Disk

end QualityGate
