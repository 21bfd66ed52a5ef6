/-
Why an operation fails.

Each constructor is one cause.  The wording of all of them is in `Failure.message`.  Leaving the
program and an interruption by the user end an operation too, but are not errors.
-/
import QualityGate.Files.Disk
import QualityGate.Guard.Violation
import QualityGate.Json.Read
import QualityGate.Program.Signature
import QualityGate.Source.Complaint
import QualityGate.Source.Objection
import QualityGate.Text.Utf8
import QualityGate.Value.Shown

namespace QualityGate

/-- A value of the wrong kind, or of the wrong shape, for what is done with it. -/
inductive Misuse where
  | notComparable (kind : String)
  /-- Fields are taken from something that is not a collection. -/
  | notIterable (kind : String)
  /-- An element is neither a pair nor a sequence. -/
  | notSequence (index : Nat)
  | unhashable (kind : String)
  /-- Something is looked for in a value that is not a collection. -/
  | notContainer (kind : String)
  | listIndex (kind : String)
  | textIndex (kind : String)
  | notPath (kind : String)
  /-- It is asked whether something exists that is not a path. -/
  | notStatPath (kind : String)
  /-- The source is asked for of something that has none. -/
  | notInspectable (kind : String)
  | builtinClass (shown : String)
  | notCallable (kind : String)
  | misfit (function : String) (m : Program.Misfit)
  | noLength (kind : String)
  | badOperands (op left right : String)
  | notSubscriptable (kind : String)
  deriving DecidableEq, Repr

def Misuse.message : Misuse → String
  | notComparable kind => s!"'>' not supported between instances of 'int' and '{kind}'"
  | notIterable kind => s!"'{kind}' object is not iterable"
  | notSequence index => s!"cannot convert dictionary update sequence element #{index} to a sequence"
  | unhashable kind => s!"unhashable type: '{kind}'"
  | notContainer kind => s!"argument of type '{kind}' is not iterable"
  | listIndex kind => s!"list indices must be integers or slices, not {kind}"
  | textIndex kind => s!"string indices must be integers, not '{kind}'"
  | notPath kind => s!"expected str, bytes or os.PathLike object, not {kind}"
  | notStatPath kind => s!"stat: path should be string, bytes, os.PathLike or integer, not {kind}"
  | notInspectable kind =>
    "module, class, method, function, traceback, frame, or code object was expected, " ++
      s!"got {kind}"
  | builtinClass shown => s!"{shown} is a built-in class"
  | notCallable kind => s!"'{kind}' object is not callable"
  | misfit function m => m.message function
  | noLength kind => s!"object of type '{kind}' has no len()"
  | badOperands op left right =>
    s!"unsupported operand type(s) for {op}: '{left}' and '{right}'"
  | notSubscriptable kind => s!"'{kind}' object is not subscriptable"

inductive Failure where
  | configUnreadable (path reason : String)
  | configUnwritable (path reason : String)
  | file (e : FileError)
  /-- The system refuses to make a link at a path to what the error names. -/
  | link (e : FileError) (target : String)
  /-- A file is to be copied onto itself; both paths are given as they are shown. -/
  | sameFile (source target : String)
  | undecodable (f : Text.Utf8Fault)
  | unwritable (f : Text.HalfFault)
  /-- A source text is not a module; `origin` is the name of the file. -/
  | notModule (refusal : Source.Refusal) (origin : String)
  /-- A source text can be read, but not run as a module; `origin` is the name of the file. -/
  | notRunnable (objected : Source.Objected) (origin : String)
  | notReadable (fault : Json.Fault)
  | misuse (m : Misuse)
  /-- An element of the fields to take over is not a pair. -/
  | notPair (index size : Nat)
  /-- A sequence has too few elements to be taken apart. -/
  | tooFew (expected size : Nat)
  | noAttribute (kind name : String)
  | noModuleAttribute (module name : String)
  | missingKey (key : Value)
  | noName (name : String)
  | noLocal (name : String)
  | noModule (name : String)
  | noPackage (name package : String)
  | noMain (path : String)
  | noImport (name module file : String)
  | noSource (reason : String)
  /-- A source text ends inside a statement or a string. -/
  | sourceCutOff (reason : String) (row : Nat)
  | noLevel (name : Value)
  | violated (kind : Guard.Kind) (violations : List Guard.Violation)
  | refusedImport (path : String)
  | raised (kind message : String)
  | programFailed (command : List String) (code : Int)
  | noNetwork
  | endOfInput
  /-- A running module goes beyond what can be run. -/
  | unsupported (what : String)
  | exit (code : Value)
  | interrupted
  deriving Inhabited

namespace Failure

/-- The exceptions that a program is not meant to recover from, leaving apart. -/
def finalExceptions : List String :=
  ["BaseException", "BaseExceptionGroup", "GeneratorExit", "KeyboardInterrupt"]

/-- Is it an error, that is, something a program may recover from? -/
def isError : Failure → Bool
  | exit _ => false
  | interrupted => false
  | raised kind _ => !finalExceptions.contains kind
  | _ => true

/-- The failure of a program whose parts are inside each other without end. -/
def endless : Failure := raised "RecursionError" "maximum recursion depth exceeded"

def className : Failure → String
  | configUnreadable .. | configUnwritable .. => "ConfigError"
  | file e | link e _ =>
    match e.trouble with
    | .missing => "FileNotFoundError"
    | .alreadyThere => "FileExistsError"
    | .notDirectory => "NotADirectoryError"
    | .isDirectory => "IsADirectoryError"
    | .nullInPath => "ValueError"
    | .unwritable => "UnicodeEncodeError"
    | _ => "OSError"
  | sameFile .. => "SameFileError"
  | programFailed .. => "CalledProcessError"
  | noNetwork => "RuntimeError"
  | undecodable _ => "UnicodeDecodeError"
  | unwritable _ => "UnicodeEncodeError"
  | notModule r _ =>
    match r.cause.family with
    | .general => "SyntaxError"
    | .layout => "IndentationError"
    | .tabs => "TabError"
    | .depth => "RecursionError"
    | .memory => "MemoryError"
    | .bytes => "UnicodeDecodeError"
    | .halves => "UnicodeEncodeError"
  | notRunnable .. => "SyntaxError"
  | notReadable f =>
    match f with
    | .hugeInteger _ => "ValueError"
    | .tooDeep => "RecursionError"
    | _ => "JSONDecodeError"
  | misuse _ => "TypeError"
  | notPair .. | noLevel _ | tooFew .. => "ValueError"
  | noAttribute .. | noModuleAttribute .. => "AttributeError"
  | missingKey _ => "KeyError"
  | noName _ => "NameError"
  | noLocal _ => "UnboundLocalError"
  | noModule _ | noPackage .. => "ModuleNotFoundError"
  | noImport .. | noMain _ => "ImportError"
  | noSource _ => "OSError"
  | sourceCutOff .. => "TokenError"
  | violated kind _ => kind.name
  | refusedImport _ => "ValidationError"
  | raised kind _ => kind
  | endOfInput => "EOFError"
  | unsupported _ => "NotImplementedError"
  | interrupted => "KeyboardInterrupt"
  | exit _ => "SystemExit"

def placed (what origin : String) (line : Int) : String :=
  s!"{what} ({(Path.ofText origin).name}, line {line})"

/-- The wording of a refusal: the complaint and, if there is one, the line. -/
def refusalText (r : Source.Refusal) (origin : String) : String :=
  match r.line with
  | none => r.cause.message
  | some n => placed r.cause.message origin n

/-- The names of the signals that can end a program, from the first on. -/
def signals : List String := [
  "HUP", "INT", "QUIT", "ILL", "TRAP", "ABRT", "BUS", "FPE", "KILL", "USR1", "SEGV", "USR2",
  "PIPE", "ALRM", "TERM", "STKFLT", "CHLD", "CONT", "STOP", "TSTP", "TTIN", "TTOU", "URG", "XCPU",
  "XFSZ", "VTALRM", "PROF", "WINCH", "IO", "PWR", "SYS"]

/-- The wording for a program that ended with a code other than 0.  A code below 0 is a signal. -/
def programFailure (command : List String) (code : Int) : String :=
  let shown := "[" ++ ", ".intercalate (command.map Text.quote) ++ "]"
  if 0 ≤ code then s!"Command '{shown}' returned non-zero exit status {code}."
  else
    let number := code.natAbs
    match signals[number - 1]? with
    | some name => s!"Command '{shown}' died with <Signals.SIG{name}: {number}>."
    | none => s!"Command '{shown}' died with unknown signal {number}."

def message : Failure → String
  | configUnreadable path reason => s!"Error loading config from {path}: {reason}"
  | configUnwritable path reason => s!"Error saving config to {path}: {reason}"
  | file e => e.message
  | link e target => s!"{e.message} -> {Text.quote target}"
  | sameFile source target => s!"{source} and {target} are the same file"
  | undecodable f => f.message
  | unwritable f => f.message
  | notModule r origin => refusalText r origin
  | notRunnable o origin => placed o.cause.message origin o.line
  | notReadable f => f.text
  | misuse m => m.message
  | notPair index size =>
    s!"dictionary update sequence element #{index} has length {size}; 2 is required"
  | tooFew expected size =>
    s!"not enough values to unpack (expected {expected}, got {size})"
  | noAttribute kind name => s!"'{kind}' object has no attribute '{name}'"
  | noModuleAttribute module name => s!"module '{module}' has no attribute '{name}'"
  | missingKey key => key.literal
  | noName name => s!"name '{name}' is not defined"
  | noLocal name =>
    s!"cannot access local variable '{name}' where it is not associated with a value"
  | noModule name => s!"No module named '{name}'"
  | noPackage name package => s!"No module named '{name}'; '{package}' is not a package"
  | noMain path => s!"can't find '__main__' module in {Text.quote path}"
  | noImport name module origin => s!"cannot import name '{name}' from '{module}' ({origin})"
  | noSource reason => reason
  | sourceCutOff reason row => s!"('{reason}', ({row}, 0))"
  | noLevel name => s!"{name.literal} is not a valid QualityLevel"
  | violated _ vs =>
    match Guard.report vs with
    | .ok s => s
    | .error _ => ""
  | refusedImport path => s!"Validation failed for {path}"
  | raised _ message => message
  | programFailed command code => programFailure command code
  | noNetwork => "no network"
  | endOfInput => "EOF when reading a line"
  | unsupported what => what
  | exit code => code.shown
  | interrupted => ""

/-- The failure in which violations are raised.  A violation whose rule has no name cannot be
reported. -/
def ofViolations (kind : Guard.Kind) (vs : List Guard.Violation) : Failure :=
  match Guard.report vs with
  | .ok _ => violated kind vs
  | .error v => noAttribute v.kindName "upper"

end Failure

end QualityGate
