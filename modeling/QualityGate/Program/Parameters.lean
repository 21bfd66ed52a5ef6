/-
The parameters of objects, as a caller sees them.
-/
import QualityGate.Program.Show

namespace QualityGate.Program

def Function.ownParams (f : Function) : List String :=
  match f.code with
  | .closure c => (parametersOf c.params).map (·.name)
  | .fence _ _ => ["args", "kwargs"]

/-- The names of the parameters of an object.  A function that was put around another one passes
them on.  A signature that was set by hand counts before all else; no object here can be one, but it
can be empty.  The first argument bounds how far the names are looked for. -/
def Store.paramNames (s : Store) : Nat → Object → Except Failure (List String)
  | 0, _ => .ok []
  | fuel + 1, o =>
    let drop1 (r : Except Failure (List String)) : Except Failure (List String) :=
      r.map (·.drop 1)
    match o with
    | .function id =>
      match s.function? id with
      | none => .ok []
      | some f =>
        match f.attributes.lookup "__signature__", f.wrapped with
        | some .null, _ => .ok f.ownParams
        | some x, _ =>
          .error (.raised "TypeError" s!"unexpected object {s.literal x} in __signature__ attribute")
        | none, some inner => s.paramNames fuel inner
        | none, none => .ok f.ownParams
    | .method _ f => drop1 (s.paramNames fuel f)
    | .staticMethod f => s.paramNames fuel f
    | .curried f args => (s.paramNames fuel f).map (·.drop args.length)
    | .cls id =>
      match s.classAttr? maxDepth id "__init__" with
      | some f => drop1 (s.paramNames fuel f)
      | none => .ok []
    | .inst id =>
      match (s.instances[id]?).bind fun (c, _) => s.classAttr? maxDepth c "__call__" with
      | some f => drop1 (s.paramNames fuel f)
      | none => .error (.raised "TypeError" s!"{s.kindName o} is not a callable object")
    | .builtin m n =>
      if isBuiltinClass m n then
        .error (.raised "ValueError" s!"no signature found for builtin type <class '{n}'>")
      else if n = "print" then .ok ["args", "sep", "end", "file", "flush"]
      else .ok ["obj"]
    | _ => .error (.raised "TypeError" s!"{s.kindName o} is not a callable object")

end QualityGate.Program
