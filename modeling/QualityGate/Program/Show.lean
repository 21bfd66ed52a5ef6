/-
Objects as values and as texts.
-/
import QualityGate.Number.Division
import QualityGate.Program.Inspect
import QualityGate.Settings.Basic

namespace QualityGate.Program

open Source (Literal)

mutual

/-- The value that an object is; `fallback` says what to take for one that is none. -/
def Object.toValueWith (fallback : Object → Value) : Object → Value
  | .null => .null
  | .bool b => .bool b
  | .int n => .int n
  | .float x => .float x
  | .text s => .text s
  | .tuple xs => .list (Object.toValuesWith fallback xs)
  | .list xs => .list (Object.toValuesWith fallback xs)
  | .dict fs => .object (Object.toFieldsWith fallback fs)
  | o => fallback o

def Object.toValuesWith (fallback : Object → Value) : List Object → List Value
  | [] => []
  | x :: xs => Object.toValueWith fallback x :: Object.toValuesWith fallback xs

def Object.toFieldsWith (fallback : Object → Value) :
    List (Object × Object) → List (String × Value)
  | [] => []
  | (k, v) :: fs =>
    let key := match Object.toValueWith fallback k with
      | .text s => s
      | v => v.literal
    (key, Object.toValueWith fallback v) :: Object.toFieldsWith fallback fs

end

mutual

def Store.literal (s : Store) : Object → String
  | .null => "None"
  | .bool b => if b then "True" else "False"
  | .int n => toString n
  | .float x => Number.floatText x
  | .text t => Text.quote t
  | .complex z => z.text
  | .bytes bs => "b" ++ Text.quoteBytes bs
  | .ellipsis => "Ellipsis"
  | .tuple [x] => "(" ++ s.literal x ++ ",)"
  | .tuple xs => "(" ++ ", ".intercalate (s.literals xs) ++ ")"
  | .list xs => "[" ++ ", ".intercalate (s.literals xs) ++ "]"
  | .set [] => "set()"
  | .set xs => "\x7b" ++ ", ".intercalate (s.literals xs) ++ "\x7d"
  | .dict fs => "\x7b" ++ ", ".intercalate (s.literalPairs fs) ++ "\x7d"
  | .exception kind [] => kind ++ "()"
  | .exception kind [x] => kind ++ "(" ++ s.literal x ++ ")"
  | .exception kind xs => kind ++ "(" ++ ", ".intercalate (s.literals xs) ++ ")"
  | .cls id =>
    match s.class? id with
    | some c => s!"<class '{c.module}.{c.fullName}'>"
    | none => ""
  | .builtin m n =>
    if isBuiltinClass m n then "<class '" ++ n ++ "'>" else "<built-in function " ++ n ++ ">"
  | .other "NotImplementedType" => "NotImplemented"
  | o => "<" ++ s.kindName o ++ " object>"

def Store.literals (s : Store) : List Object → List String
  | [] => []
  | x :: xs => s.literal x :: s.literals xs

def Store.literalPairs (s : Store) : List (Object × Object) → List String
  | [] => []
  | (k, v) :: fs => (s.literal k ++ ": " ++ s.literal v) :: s.literalPairs fs

end

/-- The text of an exception about a call of the system: its number, its words, and the files that
it is about. -/
def Store.systemText (s : Store) (number words : Object) (files : List Object) : String :=
  let text (o : Object) : String :=
    match o with
    | .text t => t
    | o => s.literal o
  let start := s!"[Errno {text number}] {text words}"
  match files with
  | [file] => start ++ ": " ++ s.literal file
  | [file, _] => start ++ ": " ++ s.literal file
  | [file, _, other] => start ++ ": " ++ s.literal file ++ " -> " ++ s.literal other
  | _ => start

/-- The text of a complaint about a source text: what it is, the name of the file, and the line. -/
def Store.placedText (s : Store) (what file line : Object) : String :=
  let what := match what with
    | .text t => t
    | o => s.literal o
  let name := match file with
    | .text t => some ((t.splitOn "/").getLastD "")
    | _ => none
  let number := match line with
    | .int n => some n
    | _ => none
  match name, number with
  | some f, some n => s!"{what} ({f}, line {n})"
  | some f, none => s!"{what} ({f})"
  | none, some n => s!"{what} (line {n})"
  | none, none => what

/-- The text of an exception about a character that cannot be written or read in an encoding. -/
def codingText (kind encoding : String) (unit : Option String) (first last : Int)
    (reason : String) : String :=
  let codec := if encoding.isEmpty then "" else s!"'{encoding}' codec "
  match unit with
  | some u => s!"{codec}can't {kind} {u} in position {first}: {reason}"
  | none =>
    let units := if kind = "decode" then "bytes" else "characters"
    s!"{codec}can't {kind} {units} in position {first}-{last - 1}: {reason}"

def shownCharacter (t : String) (first last : Int) : Option String :=
  if 0 ≤ first && last = first + 1 then
    t.toList[first.toNat]?.map fun c => s!"character '{String.ofList (Text.escapedChar c)}'"
  else none

def shownByte (bs : List UInt8) (first last : Int) : Option String :=
  if 0 ≤ first && last = first + 1 then
    bs[first.toNat]?.map fun b => s!"byte 0x{String.ofList (Text.hexDigits 2 b.toNat)}"
  else none

def Store.exceptionText (s : Store) (kind : String) (args : List Object) : String :=
  match kind, args with
  | "UnicodeDecodeError", [.text e, .bytes bs, .int i, .int j, .text why] =>
    codingText "decode" e (shownByte bs i j) i j why
  | "UnicodeEncodeError", [.text e, .text t, .int i, .int j, .text why] =>
    codingText "encode" e (shownCharacter t i j) i j why
  | "UnicodeTranslateError", [.text t, .int i, .int j, .text why] =>
    codingText "translate" "" (shownCharacter t i j) i j why
  | _, [] => if inFamily "SyntaxError" kind then "None" else ""
  | _, [.text t] => if kind = "KeyError" then Text.quote t else t
  | _, [x] => s.literal x
  | _, x :: y :: more =>
    if inFamily "OSError" kind && more.length ≤ 3 then s.systemText x y more
    else
      match inFamily "BaseExceptionGroup" kind, inFamily "SyntaxError" kind, args with
      | true, _, [.text t, .list es] | true, _, [.text t, .tuple es] =>
        s!"{t} ({es.length} sub-exception" ++ (if es.length = 1 then ")" else "s)")
      | _, true, [what, .tuple (file :: line :: _)] => s.placedText what file line
      | _, true, [what, .list (file :: line :: _)] => s.placedText what file line
      | _, true, [what, .text t] =>
        s.placedText what (.text (t.take 1).toString) .null
      | _, true, _ => s.placedText x .null .null
      | _, _, _ => s.literal (.tuple args)

def Store.shown (s : Store) : Object → String
  | .text t => t
  | .exception kind xs => s.exceptionText kind xs
  | o => s.literal o

def Object.truthy : Object → Bool
  | .null => false
  | .bool b => b
  | .int n => n ≠ 0
  | .float x => x != 0.0
  | .complex z => !z.same ⟨0.0, 0.0⟩
  | .text s => !s.isEmpty
  | .bytes bs => !bs.isEmpty
  | .tuple xs => !xs.isEmpty
  | .list xs => !xs.isEmpty
  | .set xs => !xs.isEmpty
  | .dict fs => !fs.isEmpty
  | _ => true

def Object.toFloat? : Object → Option Float
  | .int n => some (Number.floatOfInt n)
  | .bool b => some (Float.ofInt (Key.truthNumber b))
  | .float x => some x
  | _ => none

def Object.toComplex? : Object → Option Number.Complex
  | .complex z => some z
  | o => o.toFloat?.map Number.Complex.ofFloat

def Object.toInt? : Object → Option Int
  | .int n => some n
  | .bool b => some (Key.truthNumber b)
  | _ => none

def Object.isWhole (n : Int) : Object → Bool
  | .float x => Number.compareWhole n x = some .eq
  | .complex z => z.im == 0.0 && Number.compareWhole n z.re = some .eq
  | _ => false

def Object.equalNumber (a b : Object) : Bool :=
  match a.toInt?, b.toInt? with
  | some m, some n => m == n
  | some m, none => b.isWhole m
  | none, some n => a.isWhole n
  | none, none =>
    match a.toComplex?, b.toComplex? with
    | some x, some y => x.same y
    | _, _ => false

mutual

def Object.equal : Object → Object → Bool
  | .null, .null => true
  | .text a, .text b => a == b
  | .bytes a, .bytes b => a == b
  | .ellipsis, .ellipsis => true
  | .tuple xs, .tuple ys => Object.equalAll xs ys
  | .list xs, .list ys => Object.equalAll xs ys
  | .set xs, .set ys => xs.length == ys.length && Object.equalWithin xs ys
  | .dict fs, .dict gs => fs.length == gs.length && Object.equalEntries fs gs
  | .function a, .function b => a == b
  | .cls a, .cls b => a == b
  | .inst a, .inst b => a == b
  | .module a, .module b => a == b
  | .builtin a b, .builtin c d => a == c && b == d
  | a, b => a.equalNumber b

def Object.equalAll : List Object → List Object → Bool
  | [], [] => true
  | x :: xs, y :: ys => Object.equal x y && Object.equalAll xs ys
  | _, _ => false

def Object.equalWithin : List Object → List Object → Bool
  | [], _ => true
  | x :: xs, ys => ys.any (fun y => Object.equal x y) && Object.equalWithin xs ys

def Object.equalEntries : List (Object × Object) → List (Object × Object) → Bool
  | [], _ => true
  | (k, v) :: fs, gs =>
    gs.any (fun (k', v') => Object.equal k k' && Object.equal v v') && Object.equalEntries fs gs

end

def literalObject : Literal → Object
  | .none => .null
  | .bool b => .bool b
  | .ellipsis => .ellipsis
  | .int n => .int n
  | .decimal digits exponent => .float (Number.floatOf digits exponent)
  | .imaginary digits exponent => .complex ⟨0.0, Number.floatOf digits exponent⟩
  | .text s => .text s
  | .bytes bs => .bytes bs

end QualityGate.Program
