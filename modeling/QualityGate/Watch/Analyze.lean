/-
The analysis of one file.
-/
import QualityGate.Files.Resolve
import QualityGate.Files.Text
import QualityGate.Text.Quoted
import QualityGate.Watch.Functions
import QualityGate.Watch.Option
import QualityGate.Watch.Violation

namespace QualityGate.Watch

inductive Fault where
  | system (trouble : Trouble) (call path : String)
  | noProperty (value property : String)
  | nullInPath (path : String)
  | notFunction (name : String)
  deriving DecidableEq, Repr

def describe : Trouble → String
  | .missing | .unwritable => "ENOENT: no such file or directory"
  | .alreadyThere => "EEXIST: file already exists"
  | .notDirectory => "ENOTDIR: not a directory"
  | .isDirectory => "EISDIR: illegal operation on a directory"
  | .notEmpty => "ENOTEMPTY: directory not empty"
  | .tooManyLinks => "ELOOP: too many symbolic links encountered"
  | .nameTooLong => "ENAMETOOLONG: name too long"
  | .nullInPath => "EINVAL: invalid argument"

def Fault.ofTrouble (trouble : Trouble) (call path : String) : Fault :=
  if trouble = .nullInPath then .nullInPath path else .system trouble call path

/-- The quote around a text that is shown: single if the text has none, else double or a grave
accent, whichever it has not. -/
def shownQuote (cs : List Char) : Char :=
  if !cs.contains '\'' then '\''
  else if !cs.contains '"' then '"'
  else if !cs.contains '\x60' then '\x60'
  else '\''

def shownChar (q c : Char) : List Char :=
  let hex (width n : Nat) : List Char := (Text.hexDigits width n).map Char.toUpper
  if c = q || c = '\\' then ['\\', c]
  else if c = '\n' then ['\\', 'n']
  else if c = '\r' then ['\\', 'r']
  else if c = '\t' then ['\\', 't']
  else if c = '\x08' then ['\\', 'b']
  else if c = '\x0c' then ['\\', 'f']
  else if c.toNat < 32 || (0x7F ≤ c.toNat && c.toNat < 0xA0) then '\\' :: 'x' :: hex 2 c.toNat
  else if let some n := Text.half? c then '\\' :: 'u' :: hex 4 n
  else [c]

def maxShown : Nat := 128

/-- A text between quotes, cut if it is long. -/
def shownText (s : String) : String :=
  let q := shownQuote s.toList
  let cs := q :: s.toList.flatMap (shownChar q) ++ [q]
  if cs.length ≤ maxShown then String.ofList cs else String.ofList (cs.take maxShown) ++ "..."

def Fault.message : Fault → String
  | system t call path =>
    s!"{describe t}, {call}" ++ if path.isEmpty then "" else s!" '{path}'"
  | noProperty value property =>
    s!"Cannot read properties of {value} (reading '{property}')"
  | nullInPath path =>
    s!"The argument 'path' must be a string or Uint8Array without null bytes. Received {shownText path}"
  | notFunction name => s!"{name} is not a function"

/-- The rules of a configuration.  Nothing can be asked of what is not there. -/
def rulesOf (quality : Value) : Except Fault Value :=
  match quality with
  | .null => .error (.noProperty "null" "rules")
  | v =>
    match v.get? "rules" with
    | none => .error (.noProperty "undefined" "max_file_lines")
    | some .null => .error (.noProperty "null" "max_file_lines")
    | some rules => .ok rules

def limitText (limit : Option Value) : String := (limit.map shown).getD "undefined"

def checkSegment (rules : Value) (s : Segment) : List Violation :=
  let long := rules.get? "max_function_lines"
  let complex := rules.get? "max_complexity"
  let lines := codeLines "#" s.text
  (if exceeds lines long then [⟨s.line, .functionTooLong s.name lines (limitText long)⟩] else []) ++
    (if isSet (rules.get? "require_docstrings") && !mentionsDoc s.text then
      [⟨s.line, .undocumented s.name⟩] else []) ++
    (if exceeds (complexity s.text) complex then
      [⟨s.line, .tooComplex s.name (complexity s.text) (limitText complex)⟩] else [])

def readAny (d : Disk) (here : Location) (path : String) : Except Fault String :=
  match d.read here path with
  | .ok bytes => .ok (Text.decodeAny bytes)
  | .error e =>
    if e.trouble = .isDirectory then .error (.system .isDirectory "read" "")
    else .error (.ofTrouble e.trouble "open" path)

def testPlaces (file : String) : List String :=
  [s!"tests/test_{file}.py", s!"test_{file}.py", s!"{file}_test.py", s!"tests/{file}_test.py"]

def hasTest (d : Disk) (here : Location) (name : String) : List String → Except Fault Bool
  | [] => .ok false
  | path :: paths =>
    if d.pathExists here path then do
      let text ← readAny d here path
      if mentionsTest name text.toList then return true else hasTest d here name paths
    else hasTest d here name paths

def checkTests (d : Disk) (here : Location) (path : String) (ss : List Segment) :
    Except Fault (List Violation) := do
  let file := Path.lastStem path
  let dir := Path.resolve here (Path.directory path)
  let places := (testPlaces file).map fun p => (Location.path (Path.resolve dir p)).text
  let found ← ss.mapM fun s => do
    if ← hasTest d here s.name places then return []
    return [⟨s.line, .untested s.name file⟩]
  return found.flatten

def checkModule (d : Disk) (here : Location) (rules : Value) (path : String) (text : List Char) :
    Except Fault (List Violation) := do
  let ss := segments text
  let found := ss.flatMap (checkSegment rules)
  if isSet (rules.get? "require_tests") then
    return found ++ (← checkTests d here path ss)
  return found

def checkScript (rules : Value) (text : List Char) : List Violation :=
  let long := rules.get? "max_function_lines"
  (scriptFunctions text).flatMap fun (line, body) =>
    let lines := codeLines "//" body
    if exceeds lines long then [⟨line, .scriptFunctionTooLong lines (limitText long)⟩] else []

def checkLength (rules : Value) (text : List Char) : List Violation :=
  let limit := rules.get? "max_file_lines"
  let lines := (Text.splitAtNewlines text).length
  if exceeds lines limit then [⟨0, .fileTooLarge lines (limitText limit)⟩] else []

def analyze (d : Disk) (here : Location) (quality : Value) (path : String) :
    Except Fault (List Violation) := do
  match d.find here path with
  | .error t => throw (.ofTrouble t "stat" path)
  | .ok _ =>
    let text := (← readAny d here path).toList
    let rules ← rulesOf quality
    let found := checkLength rules text
    match Path.lastEnding path with
    | ".py" => return found ++ (← checkModule d here rules path text)
    | ".js" => return found ++ checkScript rules text
    | ".ts" => return found ++ checkScript rules text
    | _ => return found

end QualityGate.Watch
