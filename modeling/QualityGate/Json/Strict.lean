/-
The first place at which a text stops being JSON.

Only what the format itself allows is accepted.  A fault is described by what stands at its place;
places are counted in units of sixteen bits.
-/
import QualityGate.Text.Space
import QualityGate.Text.Surrogate

namespace QualityGate.Json.Strict

inductive Fault where
  | endOfText
  | number (position : Nat)
  | string (position : Nat)
  | token (c : Char) (position : Nat)
  deriving DecidableEq, Repr

def Fault.message : Fault → String
  | endOfText => "Unexpected end of JSON input"
  | number p => s!"Unexpected number in JSON at position {p}"
  | string p => s!"Unexpected string in JSON at position {p}"
  | token c p => s!"Unexpected token {c} in JSON at position {p}"

structure Input where
  rest : List Char
  position : Nat

/-- A step over something that is accepted. -/
abbrev Scan := Input → Except Fault Input

def Input.fault (i : Input) : Fault :=
  match i.rest with
  | [] => .endOfText
  | c :: _ =>
    if c = '"' then .string i.position
    else if c = '-' || c.isDigit then .number i.position
    else .token c i.position

def Input.drop : Nat → Input → Input
  | 0, i => i
  | n + 1, i =>
    match i.rest with
    | [] => i
    | c :: cs => Input.drop n ⟨cs, i.position + Text.units c⟩

def isBlank (c : Char) : Bool := c = ' ' || c = '\t' || c = '\n' || c = '\r'

def Input.skip (i : Input) : Input := i.drop (i.rest.takeWhile isBlank).length

def expect (c : Char) : Scan := fun i =>
  match i.rest with
  | d :: _ => if d = c then .ok (i.drop 1) else .error i.fault
  | [] => .error i.fault

def digits : Scan := fun i =>
  let n := (i.rest.takeWhile Char.isDigit).length
  if n = 0 then .error i.fault else .ok (i.drop n)

def isHex (c : Char) : Bool := c.isDigit || ('a' ≤ c && c ≤ 'f') || ('A' ≤ c && c ≤ 'F')

def hexDigits : Nat → Scan
  | 0, i => .ok i
  | n + 1, i =>
    match i.rest with
    | c :: _ => if isHex c then hexDigits n (i.drop 1) else .error i.fault
    | [] => .error i.fault

/-- Step over a string behind its opening quote.  The first argument bounds its length. -/
def stringTail : Nat → Scan
  | 0, i => .error i.fault
  | fuel + 1, i =>
    match i.rest with
    | [] => .error .endOfText
    | c :: _ =>
      if c = '"' then .ok (i.drop 1)
      else if c = '\\' then
        let i := i.drop 1
        match i.rest with
        | 'u' :: _ => do stringTail fuel (← hexDigits 4 (i.drop 1))
        | e :: _ =>
          if "\"\\/bfnrt".toList.contains e then stringTail fuel (i.drop 1) else .error i.fault
        | [] => .error .endOfText
      else if c.toNat < 32 then .error (.token c i.position)
      else stringTail fuel (i.drop 1)

def number : Scan := fun i => do
  let i := if i.rest.head? = some '-' then i.drop 1 else i
  let i ←
    if i.rest.head? = some '0' then
      let j := i.drop 1
      match j.rest with
      | c :: _ => if c.isDigit then throw (.number j.position) else pure j
      | [] => pure j
    else digits i
  let i ← if i.rest.head? = some '.' then digits (i.drop 1) else pure i
  if i.rest.head? = some 'e' || i.rest.head? = some 'E' then
    let j := i.drop 1
    let j := if j.rest.head? = some '+' || j.rest.head? = some '-' then j.drop 1 else j
    digits j
  else return i

def word : List Char → Scan
  | [], i => .ok i
  | c :: cs, i =>
    match i.rest with
    | d :: _ => if d = c then word cs (i.drop 1) else .error i.fault
    | [] => .error .endOfText

mutual

/-- Step over a value in at most `fuel` steps. -/
def value : Nat → Scan
  | 0, i => .error i.fault
  | fuel + 1, i =>
    let i := i.skip
    match i.rest with
    | '"' :: _ => stringTail (i.rest.length + 1) (i.drop 1)
    | '\x7b' :: _ =>
      let j := (i.drop 1).skip
      if j.rest.head? = some '\x7d' then .ok (j.drop 1) else members fuel j
    | '[' :: _ =>
      let j := (i.drop 1).skip
      if j.rest.head? = some ']' then .ok (j.drop 1) else elements fuel j
    | 't' :: _ => word "true".toList i
    | 'f' :: _ => word "false".toList i
    | 'n' :: _ => word "null".toList i
    | c :: _ => if c = '-' || c.isDigit then number i else .error i.fault
    | [] => .error .endOfText

/-- Step over the fields of an object up to its end. -/
def members : Nat → Scan
  | 0, i => .error i.fault
  | fuel + 1, i => do
    let i ← expect '"' i.skip
    let i ← stringTail (i.rest.length + 1) i
    let i ← expect ':' i.skip
    let i := (← value fuel i).skip
    if i.rest.head? = some ',' then members fuel (i.drop 1) else expect '\x7d' i

/-- Step over the elements of a list up to its end. -/
def elements : Nat → Scan
  | 0, i => .error i.fault
  | fuel + 1, i => do
    let i := (← value fuel i).skip
    if i.rest.head? = some ',' then elements fuel (i.drop 1) else expect ']' i

end

def fault? (s : String) : Option Fault :=
  match value (2 * s.length + 4) ⟨s.toList, 0⟩ with
  | .error f => some f
  | .ok i =>
    let i := i.skip
    if i.rest.isEmpty then none else some i.fault

end QualityGate.Json.Strict
