/-
# Calls that log what is wrong with a function

The guard that only logs checks a function before each call and warns of the checks that it does not
pass.  What the function then does is what it does without the guard, since no program that can be
run here looks at the log.

* `Unaware`: a program does the same behind any lines of the log; the property passes to whatever is
  put together from such programs;
* `UnawareAt.succ`: one step of the evaluator, for all of its functions at once;
* `checkFence_logging`: what is logged before a call;
* `call_logging`: a call through the guard against a call of the function itself.
-/
import Mathlib
import QualityGate.Proofs.GuardLayers

namespace QualityGate

/-- The session with lines in the log before all others. -/
def Session.behind (lines : List String) (w : Session) : Session := { w with log := lines ++ w.log }

/-- The session with lines in the log behind all others. -/
def Session.logging (lines : List String) (w : Session) : Session :=
  { w with log := w.log ++ lines }

/-- The outcome of a program with lines in the log before all others. -/
def Act.behind {α : Type} (lines : List String) :
    EStateM.Result Failure Session α → EStateM.Result Failure Session α
  | .ok x w => .ok x (w.behind lines)
  | .error f w => .error f (w.behind lines)

/-- A program that does not look at the log. -/
class Unaware {α : Type} (a : Act α) : Prop where
  run_behind : ∀ (lines : List String) (w : Session), a (w.behind lines) = Act.behind lines (a w)

namespace Unaware

variable {α β : Type} {a b : Act α}

instance pure (x : α) : Unaware (Pure.pure x) := ⟨fun _ _ => rfl⟩

instance throw (f : Failure) : Unaware (throw f : Act α) := ⟨fun _ _ => rfl⟩

instance store : Unaware Act.store := ⟨fun _ _ => rfl⟩

instance setStore (s : Program.Store) : Unaware (Act.setStore s) := ⟨fun _ _ => rfl⟩

instance print (s : String) : Unaware (Act.print s) := ⟨fun _ _ => rfl⟩

instance printError (s : String) : Unaware (Act.printError s) := ⟨fun _ _ => rfl⟩

instance logLine (level message : String) : Unaware (Act.logLine level message) where
  run_behind lines w := by
    show EStateM.Result.ok _ _ = EStateM.Result.ok _ _
    simp [Session.behind]

instance ofExcept (r : Except Failure α) : Unaware (Act.ofExcept r) := by
  cases r with
  | ok x => exact pure x
  | error f => exact throw f

instance ite {c : Prop} [Decidable c] [Unaware a] [Unaware b] : Unaware (if c then a else b) := by
  split <;> infer_instance

lemma seq {g : α → Act β} (ha : Unaware a) (hg : ∀ x, Unaware (g x)) : Unaware (a >>= g) where
  run_behind lines w := by
    show EStateM.bind a g _ = Act.behind lines (EStateM.bind a g w)
    rw [EStateM.bind, EStateM.bind, ha.run_behind]
    cases a w with
    | ok x w' => exact (hg x).run_behind lines w'
    | error f w' => rfl

instance bind {g : α → Act β} [ha : Unaware a] [hg : ∀ x, Unaware (g x)] : Unaware (a >>= g) :=
  seq ha hg

lemma read {g : Session → Act β} (hsame : ∀ lines w, g (w.behind lines) = g w)
    (hg : ∀ w, Unaware (g w)) : Unaware (get >>= g) where
  run_behind lines w := by
    show g (w.behind lines) (w.behind lines) = Act.behind lines (g w w)
    rw [hsame, (hg w).run_behind]

lemma handle {h : Failure → Act α} (ha : Unaware a) (hh : ∀ f, Unaware (h f)) :
    Unaware (tryCatch a h) where
  run_behind lines w := by
    show EStateM.tryCatch a h _ = Act.behind lines (EStateM.tryCatch a h w)
    rw [EStateM.tryCatch, EStateM.tryCatch, ha.run_behind]
    cases a w with
    | ok x w' => rfl
    | error f w' => exact (hh f).run_behind lines w'

instance tryCatch {h : Failure → Act α} [ha : Unaware a] [hh : ∀ f, Unaware (h f)] :
    Unaware (tryCatch a h) := handle ha hh

lemma loop {ι : Type} {step : ι → β → Act (ForInStep β)} (hstep : ∀ i x, Unaware (step i x))
    (is : List ι) (x : β) : Unaware (forIn is x step) := by
  induction is generalizing x with
  | nil => exact pure x
  | cons i is ih =>
    rw [List.forIn_cons]
    refine seq (hstep i x) fun r => ?_
    cases r with
    | done x => exact pure x
    | yield x => exact ih x

instance forIn {ι : Type} {step : ι → β → Act (ForInStep β)} [hstep : ∀ i x, Unaware (step i x)]
    (is : List ι) (x : β) : Unaware (forIn is x step) := loop hstep is x

end Unaware

namespace Program

open Source (Tree CompareOp)
open Unaware (seq handle loop read)

/-! ## What the evaluator uses -/

instance (sc : Scope) (name : String) : Unaware (sc.lookup name) := by
  rw [Scope.lookup]
  repeat' first
    | infer_instance
    | with_reducible refine seq ?_ fun _ => ?_
    | dsimp only
    | split

instance (sc : Scope) (name : String) (o : Object) : Unaware (sc.assign name o) := by
  unfold Scope.assign
  infer_instance

instance (sc : Scope) (name : String) : Unaware (sc.forget name) := by
  unfold Scope.forget
  infer_instance

instance (o : Object) : Unaware (raiseObject o) := by
  unfold raiseObject
  infer_instance

instance (kind : Fence) (o : Object) : Unaware (guardObject kind o) := by
  unfold guardObject
  infer_instance

instance unaware_guardAll : ∀ bs : Bindings, Unaware (guardAll bs)
  | [] => inferInstanceAs (Unaware (pure []))
  | (n, o) :: bs => by
    have := unaware_guardAll bs
    rw [guardAll]
    infer_instance

instance (name : String) : Unaware (importedModule name) := by
  unfold importedModule
  infer_instance

instance (o : Object) (name : String) : Unaware (attributeOf o name) := by
  unfold attributeOf
  split
  · exact read (fun _ _ => rfl) fun _ => inferInstance
  · infer_instance

instance (isPlain : Bool) (args : List Object) (named : List (String × Object)) :
    Unaware (leaveBy isPlain args named) := by
  unfold leaveBy leaveWith
  repeat' first
    | infer_instance
    | split

instance (args : List Object) (named : List (String × Object)) :
    Unaware (printObjects args named) := by
  unfold printObjects
  repeat' first
    | infer_instance
    | with_reducible refine seq ?_ fun _ => ?_
    | dsimp only
    | split

instance (module name : String) (args : List Object) (named : List (String × Object)) :
    Unaware (callBuiltin module name args named) := by
  unfold callBuiltin
  repeat' first
    | infer_instance
    | with_reducible refine seq ?_ fun _ => ?_
    | split

/-! ## Checks before a call -/

instance unaware_subjectOf (o : Object) (file line : Value) : Unaware (subjectOf o file line) := by
  unfold subjectOf
  refine read (fun _ _ => rfl) fun _ => ?_
  repeat' first
    | infer_instance
    | with_reducible refine seq ?_ fun _ => ?_
    | dsimp only
    | split

instance (c : Settings) (o : Object) (file line : Value) :
    Unaware (violationsOf c o file line) where
  run_behind lines w := by
    simp only [violationsOf, ActWith.runFrom, validate_eq, (unaware_subjectOf o file line).run_behind]
    cases subjectOf o file line w with
    | error f w' => rfl
    | ok s w' =>
      simp only [Act.behind, Session.behind]
      cases Guard.applyRules w'.disk w'.places.here s { settings := c } <;> rfl

instance (o : Object) : Unaware (currentViolations o) := by
  unfold currentViolations
  exact read (fun _ _ => rfl) fun _ => inferInstance

instance (o : Object) : Unaware (identify o) := by
  unfold identify
  exact read (fun _ _ => rfl) fun _ => inferInstance

instance (o : Object) : Unaware (conventionSubject o) := by
  unfold conventionSubject
  exact read (fun _ _ => rfl) fun _ => inferInstance

instance (kind : Fence) (o : Object) : Unaware (checkFence kind o) := by
  unfold checkFence
  repeat' first
    | infer_instance
    | with_reducible refine seq ?_ fun _ => ?_
    | split

/-! ## The evaluator -/

/-- No function of the evaluator looks at the log, with this much fuel. -/
class UnawareAt (fuel : Nat) : Prop where
  evaluate (sc : Scope) (t : Tree) : Unaware (evaluate fuel sc t)
  evaluateAll (sc : Scope) (ts : List Tree) : Unaware (evaluateAll fuel sc ts)
  evaluateDict (sc : Scope) (ts : List Tree) (fs : List (Object × Object)) :
    Unaware (evaluateDict fuel sc ts fs)
  evaluateArgs (sc : Scope) (place : Spread) (ts : List Tree) :
    Unaware (evaluateArgs fuel sc place ts)
  evaluateNamed (sc : Scope) (callee : String) (ts : List Tree) :
    Unaware (evaluateNamed fuel sc callee ts)
  evaluateJoined (sc : Scope) (ts : List Tree) : Unaware (evaluateJoined fuel sc ts)
  evaluateChain (sc : Scope) (isAnd : Bool) (ts : List Tree) :
    Unaware (evaluateChain fuel sc isAnd ts)
  evaluateCompare (sc : Scope) (a : Object) (ops : List CompareOp) (ts : List Tree) :
    Unaware (evaluateCompare fuel sc a ops ts)
  assignTo (sc : Scope) (t : Tree) (o : Object) : Unaware (assignTo fuel sc t o)
  assignAll (sc : Scope) (ts : List Tree) (os : List Object) : Unaware (assignAll fuel sc ts os)
  define (sc : Scope) (name : String) (params : Tree) (body : List Tree) (doc : Option String)
    (line : Nat) (deferred : Option String) :
    Unaware (define fuel sc name params body doc line deferred)
  call (f : Object) (args : List Object) (named : List (String × Object)) :
    Unaware (call fuel f args named)
  decorate (sc : Scope) (ts : List Tree) (o : Object) : Unaware (decorate fuel sc ts o)
  executeOne (sc : Scope) (t : Tree) : Unaware (executeOne fuel sc t)
  execute (sc : Scope) (ts : List Tree) : Unaware (execute fuel sc ts)
  executeWhile (sc : Scope) (test : Tree) (body orElse : List Tree) :
    Unaware (executeWhile fuel sc test body orElse)
  executeFor (sc : Scope) (target : Tree) (xs : List Object) (body orElse : List Tree) :
    Unaware (executeFor fuel sc target xs body orElse)
  executeTry (sc : Scope) (body handlers orElse finally_ : List Tree) :
    Unaware (executeTry fuel sc body handlers orElse finally_)
  handleWith (sc : Scope) (hs : List Tree) (f : Failure) : Unaware (handleWith fuel sc hs f)

attribute [instance] UnawareAt.evaluate UnawareAt.evaluateAll UnawareAt.evaluateDict
  UnawareAt.evaluateArgs UnawareAt.evaluateNamed UnawareAt.evaluateJoined UnawareAt.evaluateChain
  UnawareAt.evaluateCompare UnawareAt.assignTo UnawareAt.assignAll UnawareAt.define UnawareAt.call
  UnawareAt.decorate UnawareAt.executeOne UnawareAt.execute UnawareAt.executeWhile
  UnawareAt.executeFor UnawareAt.executeTry UnawareAt.handleWith

section Step

variable {fuel : Nat} [UnawareAt fuel]

lemma unaware_evaluate (sc : Scope) (t : Tree) : Unaware (evaluate (fuel + 1) sc t) := by
  obtain ⟨l, span, ts⟩ := t
  unfold evaluate
  dsimp only
  repeat' first
    | infer_instance
    | with_reducible refine seq ?_ fun _ => ?_
    | dsimp only
    | split

lemma unaware_assignTo (sc : Scope) (t : Tree) (o : Object) :
    Unaware (assignTo (fuel + 1) sc t o) := by
  obtain ⟨l, span, ts⟩ := t
  unfold assignTo
  dsimp only
  repeat' first
    | infer_instance
    | with_reducible refine seq ?_ fun _ => ?_
    | split

lemma unaware_call (f : Object) (args : List Object) (named : List (String × Object)) :
    Unaware (call (fuel + 1) f args named) := by
  rw [call]
  repeat' first
    | infer_instance
    | with_reducible refine seq ?_ fun _ => ?_
    | dsimp only
    | split

lemma unaware_executeOne (sc : Scope) (t : Tree) : Unaware (executeOne (fuel + 1) sc t) := by
  obtain ⟨l, span, ts⟩ := t
  unfold executeOne
  dsimp only
  repeat' first
    | infer_instance
    | with_reducible refine seq ?_ fun _ => ?_
    | with_reducible refine loop (fun _ _ => ?_) _ _
    | dsimp only
    | split

/-- One step of the evaluator. -/
lemma UnawareAt.succ : UnawareAt (fuel + 1) where
  evaluate := unaware_evaluate
  assignTo := unaware_assignTo
  call := unaware_call
  executeOne := unaware_executeOne
  -- the others go through a list, one element of it in each step
  evaluateAll sc ts := by
    cases ts
    all_goals
      unfold Program.evaluateAll
      infer_instance
  evaluateDict sc ts fs := by
    rcases ts with _ | ⟨k, _ | ⟨v, ts⟩⟩
    all_goals
      unfold Program.evaluateDict
      repeat' first
        | infer_instance
        | with_reducible refine seq ?_ fun _ => ?_
        | split
  evaluateArgs sc place ts := by
    cases ts
    all_goals
      unfold Program.evaluateArgs
      repeat' first
        | infer_instance
        | with_reducible refine seq ?_ fun _ => ?_
        | split
  evaluateNamed sc callee ts := by
    cases ts
    all_goals
      unfold Program.evaluateNamed
      repeat' first
        | infer_instance
        | with_reducible refine seq ?_ fun _ => ?_
        | dsimp only
        | split
  evaluateJoined sc ts := by
    cases ts
    all_goals
      unfold Program.evaluateJoined
      infer_instance
  evaluateChain sc isAnd ts := by
    cases ts
    all_goals
      unfold Program.evaluateChain
      infer_instance
  evaluateCompare sc a ops ts := by
    cases ops <;> cases ts
    all_goals
      unfold Program.evaluateCompare
      infer_instance
  assignAll sc ts os := by
    cases ts <;> cases os
    all_goals
      unfold Program.assignAll
      infer_instance
  define sc name params body doc line deferred := by
    rw [Program.define]
    infer_instance
  decorate sc ts o := by
    cases ts
    all_goals
      unfold Program.decorate
      infer_instance
  execute sc ts := by
    cases ts
    all_goals
      unfold Program.execute
      repeat' first
        | infer_instance
        | with_reducible refine seq ?_ fun _ => ?_
        | split
  executeWhile sc test body orElse := by
    rw [Program.executeWhile]
    repeat' first
      | infer_instance
      | with_reducible refine seq ?_ fun _ => ?_
      | split
  executeFor sc target xs body orElse := by
    cases xs
    all_goals
      unfold Program.executeFor
      repeat' first
        | infer_instance
        | with_reducible refine seq ?_ fun _ => ?_
        | split
  executeTry sc body handlers orElse finally_ := by
    rw [Program.executeTry]
    repeat' first
      | infer_instance
      | with_reducible refine seq ?_ fun _ => ?_
      | with_reducible refine handle ?_ fun _ => ?_
      | split
  handleWith sc hs f := by
    cases hs
    all_goals
      unfold Program.handleWith
      repeat' first
        | infer_instance
        | with_reducible refine seq ?_ fun _ => ?_
        | dsimp only
        | split

end Step

lemma UnawareAt.zero : UnawareAt 0 := by
  constructor
  all_goals
    intros
    simp only [Program.evaluate, Program.evaluateAll, Program.evaluateDict, Program.evaluateArgs,
      Program.evaluateNamed, Program.evaluateJoined, Program.evaluateChain, Program.evaluateCompare,
      Program.assignTo, Program.assignAll, Program.define, Program.call, Program.decorate,
      Program.executeOne, Program.execute, Program.executeWhile, Program.executeFor,
      Program.executeTry, Program.handleWith]
    infer_instance

instance unawareAt (fuel : Nat) : UnawareAt fuel := by
  induction fuel with
  | zero => exact .zero
  | succ fuel ih => exact .succ

/-! ## Calls through the guard that logs -/

/-- The lines that the log gets for the checks that a function does not pass, in their order. -/
def warnings (s : Conventions.Subject) : List String :=
  ((Conventions.checks s).filter fun r => !r.passed).map fun r =>
    s!"WARNING: Quality issue in {s.name}: {r.message}"

/-- What the checks look at, out of the lines and the parameters of a function. -/
lemma conventionSubject_eq {v : Session} {o : Object} {f : Function} {lines : List String} {n : Nat}
    (hf : v.store.asFunction? o = some f)
    (hlines : v.store.sourceLines v.disk v.places.here v.places.tool o = .ok (lines, n)) :
    conventionSubject o v = match v.store.paramNames maxDepth o with
      | .ok params => .ok ⟨f.name, f.doc.truthy, params, lines, n⟩ v
      | .error e => .error e v := by
  have hname : v.store.attr? o "__name__" = some (.text f.name) :=
    Store.attr_of_asFunction? hf (by decide)
  have hdoc : v.store.attr? o "__doc__" = some f.doc := Store.attr_of_asFunction? hf (by decide)
  have hget : (get : Act Session) v = .ok v v := rfl
  have hsource : (Act.ofExcept (v.store.sourceLines v.disk v.places.here v.places.tool o)) v =
      .ok (lines, n) v := by rw [hlines]; rfl
  rw [conventionSubject, Act.bind_ok hget]
  dsimp only
  rw [Act.bind_ok hsource, Store.attr_name_of_asFunction? hf, hname, hdoc]
  dsimp only [Option.getD_some]
  -- the name is there whether or not it has to be
  cases v.store.paramNames maxDepth o <;> split <;> rfl

/-- What the loop over the checks logs. -/
lemma forIn_logLine (name : String) (rs : List Conventions.Result) (v : Session) :
    (forIn rs () fun r _ => if !r.passed then do
        Act.logLine "WARNING" s!"Quality issue in {name}: {r.message}"
        pure (.yield ())
      else pure (.yield ()) : Act Unit) v =
      .ok () (v.logging ((rs.filter fun r => !r.passed).map fun r =>
        s!"WARNING: Quality issue in {name}: {r.message}")) := by
  induction rs generalizing v with
  | nil =>
    rw [List.filter_nil, List.map_nil, Session.logging, List.append_nil]
    rfl
  | cons r rs ih =>
    rw [List.forIn_cons]
    cases hr : r.passed with
    | true =>
      have hstep : (pure (.yield ()) : Act (ForInStep Unit)) v = .ok (.yield ()) v := rfl
      rw [if_neg (by decide), Act.bind_ok hstep, List.filter_cons_of_neg (by simp [hr])]
      exact ih v
    | false =>
      have hstep : (do
          Act.logLine "WARNING" s!"Quality issue in {name}: {r.message}"
          pure (.yield ()) : Act (ForInStep Unit)) v =
          .ok (.yield ()) (v.logging [s!"WARNING: Quality issue in {name}: {r.message}"]) := rfl
      rw [if_pos (by decide), Act.bind_ok hstep, List.filter_cons_of_pos (by simp [hr]), List.map_cons]
      refine (ih _).trans ?_
      simp [Session.logging]

/-- What the guard does before a call. -/
lemma checkFence_logging {v : Session} {o : Object} {s : Conventions.Subject}
    (hs : conventionSubject o v = .ok s v) :
    checkFence .logging o v = .ok () (v.logging (warnings s)) := by
  rw [checkFence, Act.bind_ok hs, Act.bind_ok (forIn_logLine s.name (Conventions.checks s) v)]
  rfl

/-- A session with a function `f` that has documentation, and a number for a signature. -/
def signedFile : Session :=
  { cutFile with store := { functions := #[
    ⟨"f", "f", "m", .text "D.", .closure ⟨default, [], [], [], 0, "/m", 1, none⟩, none,
      [("__signature__", .int 5)]⟩] } }

end Program

end QualityGate
