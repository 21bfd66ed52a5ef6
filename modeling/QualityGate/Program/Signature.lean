/-
Parameters and arguments.

A call gives some arguments by position and some by name.  `bind` says which parameter gets which
argument, or why the arguments do not fit.
-/
namespace QualityGate.Program

inductive Taking where
  | positionOnly
  | either
  | rest
  | nameOnly
  | names
  deriving DecidableEq, Repr

structure Parameter where
  name : String
  taking : Taking := .either
  hasDefault : Bool := false
  deriving DecidableEq, Repr

inductive Misfit where
  | unexpected (name : String)
  | repeated (name : String)
  | onlyByPosition (names : List String)
  | tooMany (least most given namedOnly : Nat)
  | missing (names : List String)
  | missingNamed (names : List String)
  deriving DecidableEq, Repr

def plural (n : Nat) : String := if n = 1 then "" else "s"

/-- Names in quotes, the last one joined by a word. -/
def enumerate : List String → String
  | [] => ""
  | [a] => s!"'{a}'"
  | [a, b] => s!"'{a}' and '{b}'"
  | names =>
    let quoted := names.map fun n => s!"'{n}'"
    ", ".intercalate quoted.dropLast ++ ", and " ++ quoted.getLastD ""

def Misfit.message (function : String) : Misfit → String
  | unexpected name => s!"{function}() got an unexpected keyword argument '{name}'"
  | repeated name => s!"{function}() got multiple values for argument '{name}'"
  | onlyByPosition names =>
    let list := ", ".intercalate names
    s!"{function}() got some positional-only arguments passed as keyword arguments: '{list}'"
  | tooMany least most given namedOnly =>
    let range := if least = most then toString most else s!"from {least} to {most}"
    let ending := if least = most then plural most else "s"
    let extra :=
      if namedOnly = 0 then ""
      else s!" positional argument{plural given} (and {namedOnly} keyword-only " ++
        s!"argument{plural namedOnly})"
    let verb := if given = 1 && namedOnly = 0 then "was" else "were"
    s!"{function}() takes {range} positional argument{ending} but {given}{extra} {verb} given"
  | missing names =>
    s!"{function}() missing {names.length} required positional argument{plural names.length}: " ++
      enumerate names
  | missingNamed names =>
    s!"{function}() missing {names.length} required keyword-only argument" ++
      s!"{plural names.length}: {enumerate names}"

inductive Binding (α : Type) where
  | given (a : α)
  | default
  | rest (as : List α)
  | names (as : List (String × α))

variable {α : Type}

def positional (ps : List Parameter) : List Parameter :=
  ps.filter fun p => p.taking = .positionOnly || p.taking = .either

def byName (ps : List Parameter) : List Parameter :=
  ps.filter fun p => p.taking = .either || p.taking = .nameOnly

def hasKind (ps : List Parameter) (t : Taking) : Bool := ps.any (·.taking = t)

/-- Fill parameters by name.  `filled` holds what is filled already, `extra` what no parameter is
named for. -/
def fillNames (ps : List Parameter) :
    List (String × α) → List (String × α) → List (String × α) →
      Except Misfit (List (String × α) × List (String × α))
  | filled, extra, [] => .ok (filled, extra)
  | filled, extra, (k, a) :: more =>
    if (byName ps).any (·.name = k) then
      if (filled.lookup k).isSome then .error (.repeated k)
      else fillNames ps (filled ++ [(k, a)]) extra more
    else if hasKind ps .names then fillNames ps filled (extra ++ [(k, a)]) more
    else
      let wrong := (positional ps).filter fun p =>
        p.taking = .positionOnly && ((k, a) :: more).any (·.1 = p.name)
      if wrong.isEmpty then .error (.unexpected k)
      else .error (.onlyByPosition (wrong.map (·.name)))

def bind (ps : List Parameter) (args : List α) (named : List (String × α)) :
    Except Misfit (List (String × Binding α)) := do
  let slots := positional ps
  let (filled, extra) ←
    fillNames ps ((slots.map (·.name)).zip args) [] named
  let namedOnly := (ps.filter fun p =>
    p.taking = .nameOnly && (filled.lookup p.name).isSome).length
  let least := (slots.filter fun p => !p.hasDefault).length
  if slots.length < args.length && !hasKind ps .rest then
    throw (.tooMany least slots.length args.length namedOnly)
  let lacking (p : Parameter) : Bool := !p.hasDefault && (filled.lookup p.name).isNone
  let missing := (slots.filter lacking).map (·.name)
  if !missing.isEmpty then throw (.missing missing)
  let missingNamed := ((ps.filter (·.taking = .nameOnly)).filter lacking).map (·.name)
  if !missingNamed.isEmpty then throw (.missingNamed missingNamed)
  return ps.map fun p =>
    match p.taking with
    | .rest => (p.name, .rest (args.drop slots.length))
    | .names => (p.name, .names extra)
    | _ =>
      match filled.lookup p.name with
      | some a => (p.name, .given a)
      | none => (p.name, .default)

end QualityGate.Program
