/-
Reading a command line.

Every argument is marked first: it is a switch, a plain argument, or the two hyphens behind which
there are no more switches.  Then slots and switches are filled in turn.  A slot that can be filled
with nothing is, as soon as it is tried, so arguments behind a later switch are left over.
-/
import QualityGate.Command.Form
import QualityGate.Text.Blank

namespace QualityGate.Command

inductive Stop where
  | help (text : String)
  /-- The command line is refused by a program, whose usage is shown. -/
  | refused (usage program message : String)
  deriving DecidableEq, Repr

def Form.refuse {α : Type} (f : Form) (message : String) : Except Stop α :=
  .error (.refused f.usage f.program message)

def Switch.title (s : Switch) : String := "/".intercalate s.names

/-! ## Marks -/

/-- A switch as it is written: which one, if it is known, by which name, and what is attached to
it. -/
structure Use where
  switch : Option Switch
  name : String
  attached : Option String := none

inductive Mark where
  | argument
  | hyphens
  | switch (u : Use)

def Mark.isArgument : Mark → Bool
  | argument => true
  | _ => false

def Mark.isHyphens : Mark → Bool
  | hyphens => true
  | _ => false

def Mark.isSwitch : Mark → Bool
  | switch _ => true
  | _ => false

def Form.named (f : Form) : List (String × Switch) :=
  f.switches.flatMap fun s => s.names.map fun n => (n, s)

def splitEquals (s : String) : String × Option String :=
  let name := s.toList.takeWhile (· ≠ '=')
  match s.toList.drop name.length with
  | [] => (s, none)
  | _ :: value => (String.ofList name, some (String.ofList value))

/-- Is it a number below zero?  The digits may be of any script, and a line may end behind them. -/
def isNegativeNumber (s : String) : Bool :=
  match s.toList with
  | '-' :: cs =>
    let isEnd (rest : List Char) : Bool := rest.isEmpty || rest = ['\n']
    let whole := cs.takeWhile Text.isDecimal
    match cs.drop whole.length with
    | '.' :: more =>
      let places := more.takeWhile Text.isDecimal
      !places.isEmpty && isEnd (more.drop places.length)
    | rest => !whole.isEmpty && isEnd rest
  | _ => false

/-- The switches that an argument can be short for. -/
def Form.candidates (f : Form) (s : String) : List Use :=
  if s.startsWith "--" then
    let (start, value) := splitEquals s
    (f.named.filter fun (n, _) => n.startsWith start).map fun (n, sw) =>
      { switch := some sw, name := n, attached := value }
  else
    let short := String.ofList (s.toList.take 2)
    f.named.filterMap fun (n, sw) =>
      if n = short then
        some { switch := some sw, name := n, attached := some (String.ofList (s.toList.drop 2)) }
      else if n.startsWith s then some { switch := some sw, name := n }
      else none

/-- What an argument is before the two hyphens. -/
def Form.mark (f : Form) (s : String) : Except Stop Mark := do
  if !s.startsWith "-" then return .argument
  if let some sw := f.named.lookup s then return .switch { switch := some sw, name := s }
  if s = "-" then return .argument
  let (name, value) := splitEquals s
  if let (some v, some sw) := (value, f.named.lookup name) then
    return .switch { switch := some sw, name := name, attached := some v }
  match f.candidates s with
  | [u] => return .switch u
  | u :: us =>
    let names := ", ".intercalate ((u :: us).map (·.name))
    f.refuse s!"ambiguous option: {s} could match {names}"
  | [] =>
    if isNegativeNumber s || s.contains ' ' then return .argument
    return .switch { switch := none, name := s }

def Form.marks (f : Form) : List String → Except Stop (List (String × Mark))
  | [] => return []
  | s :: ss => do
    if s = "--" then return (s, .hyphens) :: ss.map fun t => (t, .argument)
    let m ← f.mark s
    return (s, m) :: (← f.marks ss)

/-! ## Filling -/

/-- The arguments with their marks that are still to be read. -/
abbrev Rest := List (String × Mark)

/-- How many arguments a slot takes from the front, if it can be filled. -/
def Arity.take (a : Arity) (rest : Rest) : Option Nat :=
  let lead := (rest.takeWhile (·.2.isHyphens)).length
  let behind (n : Nat) : Nat := ((rest.drop n).takeWhile (·.2.isHyphens)).length
  let first := ((rest.drop lead).head?.map (·.2.isArgument)).getD false
  match a with
  | .one => if first then some (lead + 1 + behind (lead + 1)) else none
  | .optional => if first then some (lead + 1 + behind (lead + 1)) else some lead
  | .many => some (rest.takeWhile fun x => !x.2.isSwitch).length
  | .rest => some rest.length
  | .command _ => if first then some rest.length else none

def fillAll (rest : Rest) : List Slot → Option (List Nat)
  | [] => some []
  | s :: ss => do
    let n ← s.arity.take rest
    return n :: (← fillAll (rest.drop n) ss)

/-- How many arguments each of the first slots takes, for as many slots as can be filled. -/
def fillSome (rest : Rest) (slots : List Slot) : Nat → List Nat
  | 0 => []
  | n + 1 => (fillAll rest (slots.take (n + 1))).getD (fillSome rest slots n)

structure Reading where
  fields : List (String × Value)
  slots : List Slot
  extras : List String := []

def Reading.set (r : Reading) (key : String) (v : Value) : Reading :=
  { r with fields := Value.setField key v r.fields }

/-- How a command is read: its fields and what it leaves over. -/
abbrev CommandReader := String → List String → Except Stop (List (String × Value) × List String)

variable (f : Form) (readCommand : CommandReader)

def fillSlot (r : Reading) (s : Slot) (args : List String) : Except Stop Reading :=
  let plain := args.erase "--"
  match s.arity with
  | .one => .ok (r.set s.key (.text (plain.headD "")))
  | .optional => .ok (r.set s.key ((plain.head?.map Value.text).getD s.default))
  | .many =>
    .ok (r.set s.key (if plain.isEmpty then s.default else .list (plain.map .text)))
  | .rest => .ok (r.set s.key (.list (args.map .text)))
  | .command names =>
    match args with
    | [] => .ok r
    | name :: more =>
      if names.contains name then do
        let (fields, left) ← readCommand name more
        let r := r.set s.key (.text name)
        return { r with fields := Value.update r.fields fields, extras := r.extras ++ left }
      else
        let choices := ", ".intercalate (names.map Text.quote)
        let shown := Text.quote name
        f.refuse s!"argument {s.key}: invalid choice: {shown} (choose from {choices})"

def fillSlots (r : Reading) (rest : Rest) : List Slot → List Nat → Except Stop (Reading × Rest)
  | s :: ss, n :: ns => do
    let r ← fillSlot f readCommand r s ((rest.take n).map (·.1))
    fillSlots r (rest.drop n) ss ns
  | _, _ => .ok (r, rest)

/-- Fill as many slots as possible from the front. -/
def readSlots (r : Reading) (rest : Rest) : Except Stop (Reading × Rest) := do
  let counts := fillSome rest r.slots r.slots.length
  let (r', rest) ← fillSlots f readCommand r rest r.slots counts
  return ({ r' with slots := r.slots.drop counts.length }, rest)

def applySwitch (r : Reading) (s : Switch) (args : List String) : Except Stop Reading :=
  match s.effect with
  | .help => .error (.help f.help)
  | .flag => .ok (r.set s.key (.bool true))
  | .value => .ok (r.set s.key (.text (args.headD "")))

def applySwitches (r : Reading) : List (Switch × List String) → Except Stop Reading
  | [] => .ok r
  | (s, args) :: more => do applySwitches (← applySwitch f r s args) more

def refuseAttached {α : Type} (s : Switch) (text : List Char) : Except Stop α :=
  let shown := Text.quote (String.ofList text)
  f.refuse s!"argument {s.title}: ignored explicit argument {shown}"

/-- Read a switch with the text that is attached to it.  Switches of one letter can be written
together: `known` holds those that have been read, last first. -/
def readAttached (r : Reading) (known : List (Switch × List String)) (rest : Rest)
    (s : Switch) (name : String) : List Char → Except Stop (Reading × Rest)
  | [] => do
    if s.takesValue then return (← applySwitches f r ((s, [""]) :: known).reverse, rest)
    refuseAttached f s []
  | c :: cs => do
    if s.takesValue then
      let value := String.ofList (c :: cs)
      return (← applySwitches f r ((s, [value]) :: known).reverse, rest)
    let next := String.ofList ['-', c]
    let known := (s, []) :: known
    match if name.startsWith "--" then none else f.named.lookup next with
    | none => refuseAttached f s (c :: cs)
    | some t =>
      if !cs.isEmpty then readAttached r known rest t next cs
      else if t.takesValue then
        match rest with
        | (a, .argument) :: rest =>
          return (← applySwitches f r ((t, [a]) :: known).reverse, rest)
        | _ => f.refuse s!"argument {t.title}: expected one argument"
      else return (← applySwitches f r ((t, []) :: known).reverse, rest)

def readSwitch (r : Reading) (arg : String) (u : Use) (rest : Rest) :
    Except Stop (Reading × Rest) :=
  match u.switch with
  | none => .ok ({ r with extras := r.extras ++ [arg] }, rest)
  | some s =>
    match u.attached with
    | some text => readAttached f r [] rest s u.name text.toList
    | none =>
      if s.takesValue then
        match rest with
        | (a, .argument) :: rest => do return (← applySwitch f r s [a], rest)
        | _ => f.refuse s!"argument {s.title}: expected one argument"
      else do return (← applySwitch f r s [], rest)

/-- Read slots and switches in turn up to the last switch.  The first argument bounds the number
of turns. -/
def readTurns : Nat → Reading → Rest → Except Stop (Reading × Rest)
  | 0, r, rest => .ok (r, rest)
  | turns + 1, r, rest => do
    if !rest.any (·.2.isSwitch) then return (r, rest)
    match rest with
    | (arg, .switch u) :: more =>
      let (r, rest) ← readSwitch f r arg u more
      readTurns turns r rest
    | _ =>
      let (r', rest') ← readSlots f readCommand r rest
      if rest'.length < rest.length then readTurns turns r' rest'
      else
        -- nothing takes the arguments before the next switch
        let stray := rest'.takeWhile fun x => !x.2.isSwitch
        readTurns turns { r' with extras := r'.extras ++ stray.map (·.1) }
          (rest'.drop stray.length)

/-- What has been read before the first argument: everything is as it is by default. -/
def Form.blank : Reading :=
  let flags := f.switches.filterMap fun s =>
    match s.effect with
    | .help => none
    | .flag => some (s.key, Value.bool false)
    | .value => some (s.key, .null)
  { fields := flags ++ f.slots.map fun s => (s.key, s.default), slots := f.slots }

/-- Read a command line as far as it is understood: the fields, and the arguments left over. -/
def Form.readKnown (args : List String) :
    Except Stop (List (String × Value) × List String) := do
  let rest ← f.marks args
  let (r, rest) ← readTurns f readCommand (args.length + 1) f.blank rest
  let (r, rest) ← readSlots f readCommand r rest
  let missing := (r.slots.filter Slot.required).map (·.key)
  if !missing.isEmpty then
    f.refuse ("the following arguments are required: " ++ ", ".intercalate missing)
  return (r.fields, r.extras ++ rest.map (·.1))

def Form.read (args : List String) : Except Stop (List (String × Value)) := do
  let (fields, extras) ← f.readKnown readCommand args
  if !extras.isEmpty then
    f.refuse ("unrecognized arguments: " ++ " ".intercalate extras)
  return fields

end QualityGate.Command
