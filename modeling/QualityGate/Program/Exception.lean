/-
The exceptions of the language.

Every exception is derived from another one, up to `BaseException`.
-/
namespace QualityGate.Program

def derivedExceptions : List (String × List String) := [
  ("BaseException", ["BaseExceptionGroup", "Exception", "GeneratorExit", "KeyboardInterrupt",
    "SystemExit"]),
  ("BaseExceptionGroup", ["ExceptionGroup"]),
  ("Exception", ["ArithmeticError", "AssertionError", "AttributeError", "BufferError", "EOFError",
    "ImportError", "LookupError", "MemoryError", "NameError", "OSError", "ReferenceError",
    "RuntimeError", "StopAsyncIteration", "StopIteration", "SyntaxError", "SystemError",
    "TypeError", "ValueError", "Warning"]),
  ("ArithmeticError", ["FloatingPointError", "OverflowError", "ZeroDivisionError"]),
  ("ImportError", ["ModuleNotFoundError"]),
  ("LookupError", ["IndexError", "KeyError"]),
  ("NameError", ["UnboundLocalError"]),
  ("OSError", ["BlockingIOError", "ChildProcessError", "ConnectionError", "FileExistsError",
    "FileNotFoundError", "InterruptedError", "IsADirectoryError", "NotADirectoryError",
    "PermissionError", "ProcessLookupError", "TimeoutError"]),
  ("ConnectionError", ["BrokenPipeError", "ConnectionAbortedError", "ConnectionRefusedError",
    "ConnectionResetError"]),
  ("RuntimeError", ["NotImplementedError", "RecursionError"]),
  ("SyntaxError", ["IndentationError"]),
  ("IndentationError", ["TabError"]),
  ("ValueError", ["UnicodeError"]),
  ("UnicodeError", ["UnicodeDecodeError", "UnicodeEncodeError", "UnicodeTranslateError"]),
  ("Warning", ["BytesWarning", "DeprecationWarning", "EncodingWarning", "FutureWarning",
    "ImportWarning", "PendingDeprecationWarning", "ResourceWarning", "RuntimeWarning",
    "SyntaxWarning", "UnicodeWarning", "UserWarning"])]

def exceptionNames : List String := "BaseException" :: derivedExceptions.flatMap (·.2)

def exceptionParent? (name : String) : Option String :=
  (derivedExceptions.find? fun (_, names) => names.contains name).map (·.1)

/-- Is an exception another one, or derived from it?  The first argument bounds the steps. -/
def isDerivedFrom : Nat → String → String → Bool
  | 0, _, _ => false
  | fuel + 1, base, name =>
    name = base || ((exceptionParent? name).map (isDerivedFrom fuel base)).getD false

def inFamily (base name : String) : Bool := isDerivedFrom derivedExceptions.length base name

/-- The names under which an exception is known as well. -/
def exceptionAlias? : String → Option String
  | "EnvironmentError" => some "OSError"
  | "IOError" => some "OSError"
  | _ => none

def systemException? : Int → Option String
  | 1 => some "PermissionError"
  | 2 => some "FileNotFoundError"
  | 3 => some "ProcessLookupError"
  | 4 => some "InterruptedError"
  | 10 => some "ChildProcessError"
  | 11 => some "BlockingIOError"
  | 13 => some "PermissionError"
  | 17 => some "FileExistsError"
  | 20 => some "NotADirectoryError"
  | 21 => some "IsADirectoryError"
  | 32 => some "BrokenPipeError"
  | 103 => some "ConnectionAbortedError"
  | 104 => some "ConnectionResetError"
  | 108 => some "BrokenPipeError"
  | 110 => some "TimeoutError"
  | 111 => some "ConnectionRefusedError"
  | 114 => some "BlockingIOError"
  | 115 => some "BlockingIOError"
  | _ => none

end QualityGate.Program
