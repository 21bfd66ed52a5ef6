/-
The watcher: what it keeps, and what it does on each event.

The watcher keeps for each file the number of its violations and the violations themselves, both in
the order in which the files came first.  Changes are not processed at once: each waits until no
further change of the same file comes, and only the last one is processed.
-/
import QualityGate.Json.Read
import QualityGate.Json.Strict
import QualityGate.Json.Write
import QualityGate.Watch.Analyze

namespace QualityGate.Watch

/-! ## Tables -/

/-- A table from files to something, in the order in which the files came first. -/
abbrev Table (α : Type) := List (String × α)

namespace Table

variable {α : Type}

def set (file : String) (a : α) : Table α → Table α
  | [] => [(file, a)]
  | (f, b) :: t => if f = file then (f, a) :: t else (f, b) :: set file a t

def erase (t : Table α) (file : String) : Table α := t.filter fun (f, _) => f ≠ file

end Table

/-! ## The state -/

inductive Change where
  | changed
  | added
  | removed
  | other (name : String)
  deriving DecidableEq, Repr

def Change.name : Change → String
  | changed => "changed"
  | added => "added"
  | removed => "removed"
  | other name => name

/-- A change that waits: the file that it is about, how it was named, and what happened. -/
structure Pending where
  file : Location
  path : String
  change : Change
  deriving DecidableEq, Repr

structure Notice where
  title : String
  message : String
  deriving DecidableEq, Repr

structure Watcher where
  disk : Disk
  here : Location
  clock : String := "1970-01-01T00:00:00.000Z"
  options : List (String × Value) := []
  quality : Value := .null
  counts : Table Nat := []
  last : Table (List Violation) := []
  pending : List Pending := []
  console : List String := []
  notices : List Notice := []

/-! ## Options -/

def defaultOptions : List (String × Value) := [
  ("watchPaths", .list [.text "src/**/*.\x7bjs,ts,py\x7d", .text "core/**/*.py"]),
  ("ignored", .list [.text "**/node_modules/**", .text "**/.git/**", .text "**/dist/**",
    .text "**/__pycache__/**", .text "**/venv/**"]),
  ("debounceMs", .int 500),
  ("enableNotifications", .bool true),
  ("qualityConfigPath", .text "quality-config.json"),
  ("logLevel", .text "info")]

def defaultQuality : Value := .object [
  ("rules", .object [
    ("max_file_lines", .int 200), ("max_function_lines", .int 50), ("max_complexity", .int 10),
    ("require_tests", .bool true), ("require_docstrings", .bool true)]),
  ("enforcement", .object [("level", .text "error"), ("real_time_feedback", .bool true)])]

namespace Watcher

def option? (w : Watcher) (name : String) : Option Value := w.options.lookup name

def isVerbose (w : Watcher) : Bool :=
  match w.option? "logLevel" with
  | some (.text s) => s = "verbose"
  | _ => false

def print (w : Watcher) (line : String) : Watcher := { w with console := w.console ++ [line] }

/-- The names that a table of signs has from the start, which stand for functions. -/
def builtInNames : List String := [
  "hasOwnProperty", "isPrototypeOf", "propertyIsEnumerable", "toLocaleString", "toString",
  "valueOf", "__defineGetter__", "__defineSetter__", "__lookupGetter__", "__lookupSetter__"]

def functionSign (name : String) : String := s!"function {name}() \x7b [native code] \x7d"

/-- The sign of a level.  What a table has from the start is taken for a sign as well. -/
def icon : String → String
  | "error" => "❌"
  | "warn" => "⚠️"
  | "verbose" => "🔍"
  | "constructor" => functionSign "Object"
  | "__proto__" => "[object Object]"
  | level => if builtInNames.contains level then functionSign level else "ℹ️"

def log (w : Watcher) (level message : String) : Watcher :=
  if level = "verbose" && !w.isVerbose then w else w.print s!"{icon level} {message}"

/-! ## Starting -/

def received : Value → String
  | .null => "null"
  | .bool b => s!"type boolean ({shown (.bool b)})"
  | .int n => s!"type number ({shown (.int n)})"
  | .float x => s!"type number ({shown (.float x)})"
  | .list _ => "an instance of Array"
  | _ => "an instance of Object"

/-- The rules that a file holds, none if it is not there, or why they cannot be read. -/
def readQuality (w : Watcher) : Except String (Option Value) :=
  match w.option? "qualityConfigPath" with
  | some (.text s) =>
    let path := (Location.path (Path.resolve w.here s)).text
    if !w.disk.pathExists w.here path then .ok none
    else
      match readAny w.disk w.here path with
      | .error f => .error f.message
      | .ok text =>
        match Json.Strict.fault? text with
        | some f => .error f.message
        | none =>
          match Json.parseWithin {} text with
          | .ok v => .ok (some (heldValue v))
          | .error _ => .ok none
  | v => .error
    s!"The \"path\" argument must be of type string. Received {received (v.getD .null)}"

def loadQuality (w : Watcher) : Watcher :=
  match w.readQuality with
  | .ok (some v) => { w with quality := v }
  | .ok none => { w with quality := defaultQuality }
  | .error reason =>
    { w.log "warn" s!"Failed to load quality config: {reason}" with quality := defaultQuality }

def watched (w : Watcher) : Except Fault String :=
  match w.option? "watchPaths" with
  | some (.list vs) => .ok (", ".intercalate (shownParts vs))
  | some .null => .error (.noProperty "null" "join")
  | _ => .error (.notFunction "this.config.watchPaths.join")

/-- The options that a value gives by name.  Those of a list or of a text are named by their
places. -/
def optionFields : Value → List (String × Value)
  | .list vs => vs.mapIdx fun i v => (toString i, v)
  | .text s => (Text.splitUnits s.toList).mapIdx fun i c => (toString i, .text (String.singleton c))
  | v => v.fields

def start (d : Disk) (here : Location) (options : Value) : Except Fault Watcher := do
  if let .null := options then throw (.noProperty "null" "watchPaths")
  let fields := heldFields (Value.update defaultOptions (optionFields options))
  let w := loadQuality { disk := d, here := here, options := fields }
  let w := w.print "🔍 Quality Watcher started"
  return w.print s!"👀 Watching: {← w.watched}"

/-! ## Reports -/

def total (w : Watcher) : Nat := w.counts.foldr (fun c n => c.2 + n) 0

def filesWithIssues (w : Watcher) : Nat := w.counts.countP fun (_, n) => 0 < n

def score (w : Watcher) : Nat := 100 - 2 * w.total

def status (w : Watcher) : Value := .object [
  ("totalViolations", .int w.total), ("filesWithIssues", .int w.filesWithIssues),
  ("qualityScore", .int w.score)]

def fileReport (here : Location) (file : String) (vs : List Violation) : Value := .object [
  ("path", .text (Path.relative here (Path.resolve here file))),
  ("violationCount", .int vs.length),
  ("violations", .list (vs.map Violation.summary))]

def report (w : Watcher) : Value := .object [
  ("timestamp", .text w.clock),
  ("summary", .object [
    ("totalFiles", .int w.counts.length), ("filesWithViolations", .int w.filesWithIssues),
    ("totalViolations", .int w.total), ("qualityScore", .int w.score)]),
  ("files", .list (w.last.map fun (file, vs) => fileReport w.here file vs))]

def statusFile : String := ".quality-status.json"

def writeReport (w : Watcher) : Except Fault Watcher :=
  let text := Json.render { indent := some 2, ascii := false } w.report
  match w.disk.writeText w.here statusFile text with
  | .ok d => .ok { w with disk := d }
  | .error e => .error (.system e.trouble "open" statusFile)

/-! ## Changes -/

/-- The sign and the words for a number of violations after another. -/
def verdict (previous current : Nat) : String × String :=
  if current = 0 then ("✅", "No issues")
  else
    (if previous < current then "⬆️" else if current < previous then "⬇️" else "🔄",
      s!"{current} violation" ++ if 1 < current then "s" else "")

def logViolation (w : Watcher) (v : Violation) : Watcher :=
  let sign := if v.finding.severity = .error then "❌" else "⚠️"
  (w.log "info" s!"  {sign} Line {v.line}: {v.finding.message}").log "info"
    s!"     💡 {v.finding.suggestion}"

def counted (n : Nat) (word : String) : String := s!"{n} {word}" ++ if 1 < n then "s" else ""

def notice (path : String) (vs : List Violation) : Notice :=
  let errors := vs.countP fun v => v.finding.severity = .error
  let warnings := vs.countP fun v => v.finding.severity = .warning
  let parts := (if 0 < errors then [counted errors "error"] else []) ++
    (if 0 < warnings then [counted warnings "warning"] else [])
  ⟨"🛡️ Quality Guard", s!"{String.ofList (Path.lastName path)}: " ++ ", ".intercalate parts⟩

def keep (w : Watcher) (path : String) (vs : List Violation) : Watcher :=
  { w with counts := w.counts.set path vs.length, last := w.last.set path vs }

def tell (w : Watcher) (path : String) (previous : Nat) (vs : List Violation) : Watcher :=
  let (sign, words) := verdict previous vs.length
  let shownPath := Path.relative w.here (Path.resolve w.here path)
  let w := w.log "info" s!"{sign} {shownPath}: {words}"
  let w := if w.isVerbose then vs.foldl logViolation w else w
  if isSet (w.option? "enableNotifications") && !vs.isEmpty then
    { w with notices := w.notices ++ [notice path vs] }
  else w

def logFailure (w : Watcher) (path : String) (f : Fault) : Watcher :=
  w.log "error" s!"Analysis failed for {path}: {f.message}"

/-- Keep the violations of a file, tell the user, and write the report. -/
def accept (w : Watcher) (path : String) (vs : List Violation) : Watcher :=
  let told := (w.keep path vs).tell path ((w.counts.lookup path).getD 0) vs
  match told.writeReport with
  | .ok w => w
  | .error f => told.logFailure path f

def process (w : Watcher) (path : String) (change : Change) : Watcher :=
  let w := w.log "info" s!"📝 {change.name}: {path}"
  if change = .removed then
    { w with counts := w.counts.erase path, last := w.last.erase path }
  else
    match analyze w.disk w.here w.quality path with
    | .ok vs => w.accept path vs
    | .error f => w.logFailure path f

/-! ## Waiting -/

/-- A change comes in.  It takes the place of an earlier one of the same file. -/
def receive (w : Watcher) (path : String) (change : Change) : Watcher :=
  let file := Path.resolve w.here path
  { w with pending := w.pending.filter (fun p => p.file ≠ file) ++ [⟨file, path, change⟩] }

def expire (w : Watcher) (file : Location) : Watcher :=
  match w.pending.find? fun p => p.file = file with
  | none => w
  | some p =>
    { w.process p.path p.change with pending := w.pending.filter fun q => q.file ≠ file }

/-- All waiting times pass, in the order in which they were started. -/
def settle (w : Watcher) : Watcher := (w.pending.map (·.file)).foldl expire w

/-- Stop: nothing waits any longer. -/
def cleanup (w : Watcher) : Watcher := { w with pending := [] }

def fire (w : Watcher) (event path : String) : Watcher :=
  match event with
  | "change" => w.receive path .changed
  | "add" => w.receive path .added
  | "unlink" => w.receive path .removed
  | "error" => w.log "error" s!"Watcher error: {path}"
  | _ => w

end Watcher

end QualityGate.Watch
