/-
Reading JSON text.

Besides the standard values the words `NaN`, `Infinity` and `-Infinity` are read.  Of a key that
occurs twice in an object the last value counts, at the place of the first.  A number with a
fraction or an exponent is a floating-point number, any other is an integer.
-/
import QualityGate.Text.Surrogate
import QualityGate.Value

namespace QualityGate.Json

inductive Fault where
  | expectingValue
  | expectingName
  | expectingColon
  | expectingComma
  | unterminatedString
  | controlCharacter
  | badEscape
  | badHexEscape
  | extraData
  | byteOrderMark
  | hugeInteger (digits : Nat)
  | tooDeep
  deriving DecidableEq, Repr

def Fault.text : Fault → String
  | expectingValue => "Expecting value"
  | expectingName => "Expecting property name enclosed in double quotes"
  | expectingColon => "Expecting ':' delimiter"
  | expectingComma => "Expecting ',' delimiter"
  | unterminatedString => "Unterminated string starting at"
  | controlCharacter => "Invalid control character at"
  | badEscape => "Invalid \\escape"
  | badHexEscape => "Invalid \\uXXXX escape"
  | extraData => "Extra data"
  | byteOrderMark => "Unexpected UTF-8 BOM (decode using utf-8-sig)"
  | hugeInteger n => s!"Exceeds the limit (4300 digits) for integer string conversion: " ++
      s!"value has {n} digits; use sys.set_int_max_str_digits() to increase the limit"
  | tooDeep => "maximum recursion depth exceeded"

/-- Is the text wrong, and not only more than can be read? -/
def Fault.blamesText : Fault → Bool
  | hugeInteger _ | tooDeep => false
  | _ => true

structure Failure where
  fault : Fault
  pos : Nat
  deriving DecidableEq, Repr

/-- What is left of the text, and how much of it has been read. -/
structure Input where
  rest : List Char
  pos : Nat := 0

abbrev Reader (α : Type) : Type := Input → Except Failure (α × Input)

def isBlank (c : Char) : Bool := c = ' ' || c = '\t' || c = '\n' || c = '\r'

def Input.drop (i : Input) (n : Nat) : Input := ⟨i.rest.drop n, i.pos + n⟩

def Input.skipBlanks (i : Input) : Input := i.drop (i.rest.takeWhile isBlank).length

/-! ## Strings -/

def hexValue? (c : Char) : Option Nat :=
  if c.isDigit then some (c.toNat - '0'.toNat)
  else if 'a' ≤ c && c ≤ 'f' then some (c.toNat - 'a'.toNat + 10)
  else if 'A' ≤ c && c ≤ 'F' then some (c.toNat - 'A'.toNat + 10)
  else none

/-- The value of the four hexadecimal digits in front. -/
def hexQuad? : List Char → Option Nat
  | a :: b :: c :: d :: _ => do
    let a ← hexValue? a
    let b ← hexValue? b
    let c ← hexValue? c
    let d ← hexValue? d
    return ((a * 16 + b) * 16 + c) * 16 + d
  | _ => none

def escape? : Char → Option Char
  | '"' => some '"'
  | '\\' => some '\\'
  | '/' => some '/'
  | 'b' => some '\x08'
  | 'f' => some '\x0c'
  | 'n' => some '\n'
  | 'r' => some '\r'
  | 't' => some '\t'
  | _ => none

/-- A UTF-16 unit as a character; half of a pair may stand on its own. -/
def unitChar (n : Nat) : Char :=
  if 0xD800 ≤ n && n < 0xE000 then Text.halfChar n else Char.ofNat n

/-- Read a string behind its opening quote, which stands at `start`.  `skip` is the number of
characters that belong to an escape already read. -/
def stringTail (start : Nat) : List Char → Nat → Nat → Except Failure (List Char × Input)
  | [], _, _ => .error ⟨.unterminatedString, start⟩
  | _ :: cs, pos, skip + 1 => stringTail start cs (pos + 1) skip
  | c :: cs, pos, 0 =>
    let keep (x : Char) (n : Nat) : Except Failure (List Char × Input) :=
      (stringTail start cs (pos + 1) n).map fun (xs, i) => (x :: xs, i)
    if c = '"' then .ok ([], ⟨cs, pos + 1⟩)
    else if c = '\\' then
      match cs.head? with
      | none => .error ⟨.unterminatedString, start⟩
      | some e =>
        if e = 'u' then
          match hexQuad? (cs.drop 1) with
          | none => .error ⟨.badHexEscape, pos + 1⟩
          | some n =>
            if 0xD800 ≤ n && n < 0xDC00 && (cs.drop 5).take 2 == ['\\', 'u'] then
              match hexQuad? (cs.drop 7) with
              | some m =>
                if 0xDC00 ≤ m && m < 0xE000 then
                  keep (Char.ofNat (0x10000 + (n - 0xD800) * 0x400 + (m - 0xDC00))) 11
                else keep (unitChar n) 5
              | none => keep (unitChar n) 5
            else keep (unitChar n) 5
        else match escape? e with
          | some x => keep x 1
          | none => .error ⟨.badEscape, pos⟩
    else if c.toNat < 32 then .error ⟨.controlCharacter, pos⟩
    else keep c 0

/-! ## Numbers -/

structure Bounds where
  /-- The largest number of digits of an integer. -/
  digits : Option Nat := none
  /-- The largest number of parts inside each other. -/
  depth : Option Nat := none

def usualBounds : Bounds := ⟨some 4300, some 985⟩

def Bounds.exceeded (bound : Option Nat) (n : Nat) : Bool :=
  match bound with
  | some m => m < n
  | none => false

def decimalValue (ds : List Char) : Nat :=
  ds.foldl (fun n d => n * 10 + (d.toNat - '0'.toNat)) 0

/-- The digits in front of a text, as far as they belong to one number: no digit follows a zero. -/
def leadingDigits : List Char → List Char
  | '0' :: _ => ['0']
  | cs => cs.takeWhile Char.isDigit

/-- The length of a fraction: a point with at least one digit behind it. -/
def fractionLength : List Char → Nat
  | '.' :: cs =>
    let n := (cs.takeWhile Char.isDigit).length
    if n = 0 then 0 else n + 1
  | _ => 0

/-- The length of an exponent: a mark, perhaps a sign, and at least one digit. -/
def exponentLength : List Char → Nat
  | c :: cs =>
    if c = 'e' || c = 'E' then
      let sign := if cs.head? = some '+' || cs.head? = some '-' then 1 else 0
      let n := ((cs.drop sign).takeWhile Char.isDigit).length
      if n = 0 then 0 else n + sign + 1
    else 0
  | [] => 0

/-- Read a number behind its sign.  It starts at `start`. -/
def unsigned (b : Bounds) (negative : Bool) (start : Nat) : Reader Value := fun j =>
  let ds := leadingDigits j.rest
  if ds.isEmpty then .error ⟨.expectingValue, start⟩
  else
    let k := j.drop ds.length
    let fraction := k.rest.take (fractionLength k.rest)
    let l := k.drop fraction.length
    let exponent := l.rest.take (exponentLength l.rest)
    let m := l.drop exponent.length
    if fraction.isEmpty && exponent.isEmpty then
      if Bounds.exceeded b.digits ds.length then .error ⟨.hugeInteger ds.length, start⟩
      else
        let n : Int := decimalValue ds
        .ok (.int (if negative then -n else n), m)
    else
      let places := fraction.drop 1
      let e : Int := match exponent with
        | _ :: '-' :: es => -(decimalValue es : Int)
        | _ :: '+' :: es => decimalValue es
        | _ :: es => decimalValue es
        | [] => 0
      let x := Number.floatOf (decimalValue (ds ++ places)) (e - places.length)
      .ok (.float (if negative then -x else x), m)

def number (b : Bounds) : Reader Value := fun i =>
  if i.rest.head? = some '-' then unsigned b true i.pos (i.drop 1) else unsigned b false i.pos i

/-! ## Values -/

def words : List (List Char × Value) :=
  [("null".toList, .null), ("true".toList, .bool true), ("false".toList, .bool false),
   ("NaN".toList, .float (0.0 / 0.0)), ("Infinity".toList, .float (1.0 / 0.0)),
   ("-Infinity".toList, .float (-1.0 / 0.0))]

/-- Read the key of a member and the colon behind it, up to the value. -/
def memberKey : Reader String := fun i =>
  match i.rest with
  | '"' :: cs => do
    let (key, j) ← stringTail i.pos cs (i.pos + 1) 0
    let j := j.skipBlanks
    if j.rest.head? = some ':' then return (String.ofList key, (j.drop 1).skipBlanks)
    else throw ⟨.expectingColon, j.pos⟩
  | _ => throw ⟨.expectingName, i.pos⟩

mutual

/-- Read a value that is inside `depth` others.  The first number bounds the steps that are left. -/
def value (b : Bounds) : Nat → Nat → Reader Value
  | 0, _, i => .error ⟨.tooDeep, i.pos⟩
  | fuel + 1, depth, i =>
    let tooDeep := Bounds.exceeded b.depth (depth + 1)
    match i.rest with
    | '"' :: cs => (stringTail i.pos cs (i.pos + 1) 0).map fun (s, j) => (.text (String.ofList s), j)
    | '{' :: _ =>
      let j := (i.drop 1).skipBlanks
      if tooDeep then .error ⟨.tooDeep, i.pos⟩
      else if j.rest.head? = some '}' then .ok (.object [], j.drop 1)
      else members b fuel (depth + 1) [] j
    | '[' :: _ =>
      let j := (i.drop 1).skipBlanks
      if tooDeep then .error ⟨.tooDeep, i.pos⟩
      else if j.rest.head? = some ']' then .ok (.list [], j.drop 1)
      else elements b fuel (depth + 1) [] j
    | cs =>
      match words.find? (fun w => w.1.isPrefixOf cs) with
      | some (w, v) => .ok (v, i.drop w.length)
      | none => number b i

def members (b : Bounds) : Nat → Nat → List (String × Value) → Reader Value
  | 0, _, _, i => .error ⟨.tooDeep, i.pos⟩
  | fuel + 1, depth, acc, i => do
    let (key, j) ← memberKey i
    let (v, k) ← value b fuel depth j
    let acc := Value.setField key v acc
    let k := k.skipBlanks
    if k.rest.head? = some '}' then return (.object acc, k.drop 1)
    else if k.rest.head? = some ',' then members b fuel depth acc (k.drop 1).skipBlanks
    else throw ⟨.expectingComma, k.pos⟩

def elements (b : Bounds) : Nat → Nat → List Value → Reader Value
  | 0, _, _, i => .error ⟨.tooDeep, i.pos⟩
  | fuel + 1, depth, acc, i => do
    let (v, j) ← value b fuel depth i
    let j := j.skipBlanks
    if j.rest.head? = some ']' then return (.list (v :: acc).reverse, j.drop 1)
    else if j.rest.head? = some ',' then elements b fuel depth (v :: acc) (j.drop 1).skipBlanks
    else throw ⟨.expectingComma, j.pos⟩

end

def parseWithin (b : Bounds) (s : String) : Except Failure Value := do
  let cs := s.toList
  if cs.head? = some '\ufeff' then throw ⟨.byteOrderMark, 0⟩
  let i := ({ rest := cs } : Input).skipBlanks
  let (v, j) ← value b (2 * cs.length + 2) 0 i
  let j := j.skipBlanks
  if j.rest.isEmpty then return v else throw ⟨.extraData, j.pos⟩

def parse (s : String) : Except Failure Value := parseWithin usualBounds s

def lineColumn (s : String) (pos : Nat) : Nat × Nat :=
  let before := s.toList.take pos
  (before.count '\n' + 1, (before.reverse.takeWhile (· ≠ '\n')).length + 1)

def Failure.message (s : String) (f : Failure) : String :=
  match f.fault with
  | .hugeInteger _ | .tooDeep => f.fault.text
  | _ =>
    let (line, column) := lineColumn s f.pos
    s!"{f.fault.text}: line {line} column {column} (char {f.pos})"

end QualityGate.Json
