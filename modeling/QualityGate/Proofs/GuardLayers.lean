/-
# Guards around guards

A guard validates what it is put around each time before it calls it.  Put around a function once
more, it validates a guard, which goes by the name and the documentation of the function and by the
lines of its definition, but stands in another file.  The violations of the two correspond, so any
number of guards accepts and refuses what a single one does.
-/
import Mathlib
import QualityGate.Program.Run
import QualityGate.Proofs.GuardRules
import QualityGate.Proofs.Sessions

namespace QualityGate.Guard

/-! ## Validations that correspond -/

/-- Two violations are of the same rule, which has a name, and of the same level. -/
structure Violation.Corresponds (v v' : Violation) : Prop where
  rule : v.rule = v'.rule
  level : v.level = v'.level
  named : ∃ name, v.rule = .text name

namespace Violation

variable {vs vs' : List Violation}

lemma map_rule_of_forall₂ (h : List.Forall₂ Corresponds vs vs') :
    vs'.map (·.rule) = vs.map (·.rule) := by
  induction h with
  | nil => rfl
  | cons hv _ ih => rw [List.map_cons, List.map_cons, ih, hv.rule]

lemma named_of_forall₂ (h : List.Forall₂ Corresponds vs vs') :
    ∀ v ∈ vs', ∃ name, v.rule = .text name := by
  induction h with
  | nil => simp
  | cons hv _ ih => exact List.forall_mem_cons.mpr ⟨hv.rule ▸ hv.named, ih⟩

end Violation

/-- Two subjects differ at most in the file and the line that violations name. -/
structure Subject.Alike (s s' : Subject) : Prop where
  name : s.name = s'.name
  doc : s.doc = s'.doc
  text : s.text = s'.text

/-- Two validators go by the same settings, and what they have found corresponds. -/
structure Validator.Corresponds (k k' : Validator) : Prop where
  settings : k.settings = k'.settings
  found : List.Forall₂ Violation.Corresponds k.found k'.found

/-- Where one part of a validation ends well, so does the other, with the same result. -/
def Parallel {α : Type} (a a' : Validation α) : Prop :=
  ∀ k k' : Validator, k.Corresponds k' → ∀ x k₁, a k = .ok x k₁ →
    ∃ k₁', a' k' = .ok x k₁' ∧ k₁.Corresponds k₁'

namespace Parallel

variable {α β : Type}

lemma pure (x : α) : Parallel (Pure.pure x) (Pure.pure x) := by
  intro k k' hk y k₁ h
  cases h
  exact ⟨k', rfl, hk⟩

lemma ofExcept (r : Except Failure α) :
    Parallel (Validation.ofExcept r) (Validation.ofExcept r) := by
  cases r with
  | ok x => exact pure x
  | error f =>
    intro k k' _ y k₁ h
    cases h

lemma report {v v' : Violation} (hv : v.Corresponds v') :
    Parallel (Validation.report v) (Validation.report v') := by
  intro k k' hk y k₁ h
  cases h
  exact ⟨_, rfl, hk.settings, List.rel_append hk.found (.cons hv .nil)⟩

lemma bind {a a' : Validation α} {g g' : α → Validation β} (ha : Parallel a a')
    (hg : ∀ x, Parallel (g x) (g' x)) : Parallel (a >>= g) (a' >>= g') := by
  intro k k' hk y k₂ h
  change EStateM.bind a g k = _ at h
  rw [EStateM.bind] at h
  cases hak : a k with
  | error f k₁ => simp [hak] at h
  | ok x k₁ =>
    simp only [hak] at h
    obtain ⟨k₁', ha', hk₁⟩ := ha k k' hk x k₁ hak
    obtain ⟨k₂', hg', hk₂⟩ := hg x k₁ k₁' hk₁ y k₂ h
    refine ⟨k₂', ?_, hk₂⟩
    show EStateM.bind a' g' k' = _
    rw [EStateM.bind, ha']
    exact hg'

lemma setting (name : String) (default : Value) :
    Parallel (Validation.setting name default) (Validation.setting name default) := by
  intro k k' hk y k₁ h
  cases h
  refine ⟨k', ?_, hk⟩
  rw [hk.settings]
  rfl

lemma ite {p : Prop} [Decidable p] {a a' b b' : Validation α} (h : Parallel a a')
    (h' : Parallel b b') : Parallel (if p then a else b) (if p then a' else b') := by
  split
  · exact h
  · exact h'

lemma ifRequired (key : String) {a a' : Validation Unit} (h : Parallel a a') :
    Parallel (Validation.ifRequired key a) (Validation.ifRequired key a') := by
  intro k k' hk
  have hif (k : Validator) (a : Validation Unit) :
      Validation.ifRequired key a k = (if isRequired k.settings key then a else Pure.pure ()) k :=
    rfl
  rw [hif, hif, hk.settings]
  exact ite h (pure ()) k k' hk

/-- A number that is held against a limit. -/
lemma limit (name : String) (default : Value) (n : Int) {v v' : Value → Violation}
    (hv : ∀ limit, (v limit).Corresponds (v' limit)) :
    Parallel
      (do let limit ← Validation.setting name default
          match Limits.exceeds n limit with
          | .ok true => Validation.report (v limit)
          | _ => return ())
      (do let limit ← Validation.setting name default
          match Limits.exceeds n limit with
          | .ok true => Validation.report (v' limit)
          | _ => return ()) := by
  refine bind (setting name default) fun limit => ?_
  split
  · exact report (hv limit)
  · exact pure ()

/-- A search through the elements of a setting that has to be successful. -/
lemma search (name : String) (p : Value → Except Failure Bool) {v v' : Violation}
    (hv : v.Corresponds v') :
    Parallel
      (do let values ← Validation.ofExcept (elements (← Validation.setting name (.list [])))
          if ← Validation.ofExcept (anyM p values) then return ()
          Validation.report v)
      (do let values ← Validation.ofExcept (elements (← Validation.setting name (.list [])))
          if ← Validation.ofExcept (anyM p values) then return ()
          Validation.report v') :=
  bind (setting _ _) fun _ => bind (ofExcept _) fun _ => bind (ofExcept _) fun _ =>
    ite (pure ()) (report hv)

variable {s s' : Subject}

lemma length (h : s.Alike s') : Parallel (checkLength s) (checkLength s') := by
  rw [checkLength, checkLength, h.text]
  split
  · exact pure ()
  · exact limit _ _ _ fun _ => ⟨rfl, rfl, _, rfl⟩

lemma complexity (h : s.Alike s') : Parallel (checkComplexity s) (checkComplexity s') := by
  rw [checkComplexity, checkComplexity, h.text]
  split
  · exact pure ()
  · split
    · exact pure ()
    · exact limit _ _ _ fun _ => ⟨rfl, rfl, _, rfl⟩

lemma check (d : Disk) (here : Location) (h : s.Alike s') (rule : Rule) :
    Parallel (rule.check d here s) (rule.check d here s') := by
  cases rule with
  | tests =>
    simp only [Rule.check, checkTests, h.name]
    exact ifRequired _ (search _ _ ⟨rfl, rfl, _, rfl⟩)
  | docs =>
    simp only [Rule.check, checkDoc, h.doc]
    exact ifRequired _ (ite (pure ()) (report ⟨rfl, rfl, _, rfl⟩))
  | length => exact length h
  | complexity => exact complexity h
  | architecture =>
    simp only [Rule.check, checkArchitecture, h.name]
    exact ifRequired _ (search _ _ ⟨rfl, rfl, _, rfl⟩)

lemma applyRules (d : Disk) (here : Location) (h : s.Alike s') :
    Parallel (applyRules d here s) (applyRules d here s') :=
  bind (check d here h .tests) fun _ => bind (check d here h .docs) fun _ =>
    bind (check d here h .length) fun _ => bind (check d here h .complexity) fun _ =>
      check d here h .architecture

end Parallel

end QualityGate.Guard

namespace QualityGate.Program

open Guard (Subject Violation)

/-! ## Objects with guards around them -/

namespace Store

/-- An object is `n` guards, each put around the one before and the first around `o`. -/
inductive Guarded (s : Store) (kind : Fence) (o : Object) : Nat → Object → Prop
  | bare : Guarded s kind o 0 o
  | around {n id : Nat} {inner : Object} {f g : Function} (hinner : Guarded s kind o n inner)
      (hf : s.asFunction? inner = some f) (hg : s.function? id = some g)
      (hcode : g.code = .fence kind inner) (hwrapped : g.wrapped = some inner)
      (hname : g.name = f.name) (hdoc : g.doc = f.doc) :
      Guarded s kind o (n + 1) (.function id)

variable {s : Store} {kind : Fence} {o o' : Object} {n : Nat} {f : Function}

namespace Guarded

/-- A guard goes by the name and the documentation of the function. -/
lemma asFunction? (h : Guarded s kind o n o') (hf : s.asFunction? o = some f) :
    ∃ g, s.asFunction? o' = some g ∧ g.name = f.name ∧ g.doc = f.doc := by
  induction h with
  | bare => exact ⟨f, hf, rfl, rfl⟩
  | around hinner hf' hg _ _ hname hdoc ih =>
    obtain ⟨g', hg', hname', hdoc'⟩ := ih
    rw [hf', Option.some.injEq] at hg'
    subst hg'
    exact ⟨_, hg, hname.trans hname', hdoc.trans hdoc'⟩

/-- Each guard is one function around the object. -/
lemma innermost (h : Guarded s kind o n o') (fuel : Nat) :
    s.innermost (fuel + n) o' = s.innermost fuel o := by
  induction h with
  | bare => rfl
  | around hinner hf hg _ hwrapped _ _ ih =>
    rw [← Nat.add_assoc, Store.innermost, attr_of_asFunction? (o := .function _) hg (by decide)]
    simp only [Function.attr?, hwrapped]
    exact ih

end Guarded

/-- With fuel for all functions around an object, the fuel does not count. -/
lemma innermost_eq_of_layers_le : ∀ {a b : Nat} {o : Object}, s.layers a o ≤ b → b ≤ a →
    s.innermost b o = s.innermost a o
  | 0, b, o, _, hba => by rw [Nat.le_zero.mp hba]
  | a + 1, b, o, hlayers, hba => by
    rw [layers] at hlayers
    cases hattr : s.attr? o "__wrapped__" with
    | none => rw [innermost_of_unwrapped hattr, innermost_of_unwrapped hattr]
    | some inner =>
      simp only [hattr] at hlayers
      obtain ⟨b, rfl⟩ := Nat.exists_eq_add_of_le' (show 1 ≤ b by omega)
      simp only [innermost, hattr]
      exact innermost_eq_of_layers_le (by omega) (by omega)

lemma layers_of_unwrapped (h : s.attr? o "__wrapped__" = none) : ∀ fuel, s.layers fuel o = 0
  | 0 => rfl
  | fuel + 1 => by rw [layers, h]

/-- The lines of a guard are those of the function. -/
lemma Guarded.sourceLines (h : Guarded s kind o n o') (hroom : s.layers maxDepth o + n ≤ maxDepth)
    (d : Disk) (here : Location) (tool : String) :
    s.sourceLines d here tool o' = s.sourceLines d here tool o := by
  have hin : s.innermost maxDepth o' = s.innermost maxDepth o := by
    have hdepth := h.innermost (maxDepth - n)
    rw [Nat.sub_add_cancel (by omega)] at hdepth
    rw [hdepth]
    exact innermost_eq_of_layers_le (by omega) (by omega)
  rw [Store.sourceLines, Store.sourceLines, hin]

end Store

/-! ## Violations of guards -/

section Violations

variable {w : Session} {kind : Fence} {o o' : Object} {n : Nat} {f : Function}

lemma subjectOf_session (o : Object) (file line : Value) (w : Session) :
    (∃ s, subjectOf o file line w = .ok s w) ∨ ∃ f, subjectOf o file line w = .error f w := by
  rw [subjectOf_eq]
  split <;> simp

/-- What the rules look at in a guard is what they look at in the function, apart from its file. -/
lemma subjectOf_guarded (h : w.store.Guarded kind o n o') (hf : w.store.asFunction? o = some f)
    (hroom : w.store.layers maxDepth o + n ≤ maxDepth) {file line : Value} {s : Subject}
    (hs : subjectOf o file line w = .ok s w) :
    ∃ s', subjectOf o' file line w = .ok s' w ∧ s.Alike s' := by
  obtain ⟨g, hg, hname, hdoc⟩ := h.asFunction? hf
  have hattr : w.store.attr o "__name__" = .ok (.text f.name) :=
    Store.attr_name_of_asFunction? hf
  have hattr' : w.store.attr o' "__name__" = .ok (.text f.name) := by
    rw [Store.attr_name_of_asFunction? hg, hname]
  have hdocs : w.store.docOf? o = w.store.docOf? o' := by
    have hdoc' : f.attr? "__doc__" = g.attr? "__doc__" := congrArg some hdoc.symm
    rw [Store.docOf?, Store.docOf?, Store.attr_of_asFunction? hf (by decide),
      Store.attr_of_asFunction? hg (by decide), hdoc']
  obtain ⟨path, hpath⟩ := Store.pathFor_of_asFunction? w.places.tool hg file
  rw [subjectOf_eq, hattr] at hs
  rw [subjectOf_eq, hattr', hpath, h.sourceLines hroom]
  cases hold : w.store.pathFor w.places.tool o file with
  | error f => simp [hold] at hs
  | ok old =>
    cases hstart : startFor
        (w.store.sourceLines w.disk w.places.here w.places.tool o) line with
    | error f => simp [hold, hstart] at hs
    | ok start =>
      simp only [hold, hstart, EStateM.Result.ok.injEq, and_true] at hs
      subst hs
      exact ⟨_, rfl, rfl, hdocs, rfl⟩

lemma violationsOf_eq_ok {c : Settings} {file line : Value} {vs : List Violation} {w' : Session} :
    violationsOf c o file line w = .ok vs w' ↔ w' = w ∧ ∃ s k, subjectOf o file line w = .ok s w ∧
      Guard.applyRules w.disk w.places.here s { settings := c } = .ok () k ∧ k.found = vs := by
  rw [violationsOf, ActWith.runFrom, validate_eq]
  obtain ⟨s, hs⟩ | ⟨f, hf⟩ := subjectOf_session o file line w
  · rw [hs]
    cases hrules : Guard.applyRules w.disk w.places.here s { settings := c } with
    | error f k => simp [hrules]
    | ok u k =>
      simp only [hrules, EStateM.Result.ok.injEq, and_true]
      constructor
      · rintro ⟨hfound, rfl⟩
        exact ⟨rfl, s, k, rfl, hrules, hfound⟩
      · rintro ⟨rfl, _, k', rfl, hrules', hfound⟩
        rw [hrules, EStateM.Result.ok.injEq] at hrules'
        exact ⟨hrules'.2 ▸ hfound, rfl⟩
  · simp [hf]

lemma currentViolations_eq_ok {vs : List Violation} {w' : Session} :
    currentViolations o w = .ok vs w' ↔ ∃ c, Guard.loadSettings w.disk w.places.here = .ok c ∧
      violationsOf c o .null .null w = .ok vs w' := by
  have heq : currentViolations o w = match Guard.loadSettings w.disk w.places.here with
      | .ok c => violationsOf c o .null .null w
      | .error f => .error f w := by
    show EStateM.bind _ _ w = _
    rw [EStateM.bind]
    cases Guard.loadSettings w.disk w.places.here <;> rfl
  rw [heq]
  cases Guard.loadSettings w.disk w.places.here <;> simp

/-- The violations of a guard correspond to those of the function. -/
lemma currentViolations_guarded (h : w.store.Guarded kind o n o')
    (hf : w.store.asFunction? o = some f) (hroom : w.store.layers maxDepth o + n ≤ maxDepth)
    {vs : List Violation} (hvs : currentViolations o w = .ok vs w) :
    ∃ vs', currentViolations o' w = .ok vs' w ∧ List.Forall₂ Violation.Corresponds vs vs' := by
  obtain ⟨c, hc, hvs⟩ := currentViolations_eq_ok.mp hvs
  obtain ⟨-, s, k, hs, hrules, rfl⟩ := violationsOf_eq_ok.mp hvs
  obtain ⟨s', hs', halike⟩ := subjectOf_guarded h hf hroom hs
  obtain ⟨k', hrules', hk⟩ := Guard.Parallel.applyRules w.disk w.places.here halike _ _
    ⟨rfl, .nil⟩ () k hrules
  exact ⟨k'.found, currentViolations_eq_ok.mpr ⟨c, hc, violationsOf_eq_ok.mpr
    ⟨rfl, s', k', hs', hrules', rfl⟩⟩, hk.found⟩

end Violations

/-! ## Putting guards around a function -/

namespace Store

variable {s : Store} {kind : Fence} {o o' : Object} {n id : Nat} {f g : Function}

lemma function_newFunction (h : s.function? id = some f) (new : Function) :
    (s.newFunction new).2.function? id = some f := by
  obtain ⟨hid, -⟩ := Array.getElem?_eq_some_iff.mp h
  show (s.functions.push new)[id]? = _
  rw [Array.getElem?_push_lt hid, ← h]
  exact (Array.getElem?_eq_getElem hid).symm

lemma asFunction_newFunction (h : s.asFunction? o = some f) (new : Function) :
    (s.newFunction new).2.asFunction? o = some f := by
  match o, h with
  | .function id, h => exact function_newFunction h new
  | .method self (.function id), h => exact function_newFunction h new

/-- Guards stay where they are when there is one more function. -/
lemma Guarded.newFunction (h : s.Guarded kind o n o') (new : Function) :
    (s.newFunction new).2.Guarded kind o n o' := by
  induction h with
  | bare => exact .bare
  | around _ hf hg hcode hwrapped hname hdoc ih =>
    exact .around ih (asFunction_newFunction hf new) (function_newFunction hg new) hcode hwrapped
      hname hdoc

/-- One more guard. -/
lemma Guarded.guard (h : s.Guarded kind o n o') (hf : s.asFunction? o' = some f) :
    (s.guard kind o').2.Guarded kind o (n + 1) (s.guard kind o').1 := by
  have hname : s.attr? o' "__name__" = some (.text f.name) := attr_of_asFunction? hf (by decide)
  have hdoc : s.attr? o' "__doc__" = some f.doc := attr_of_asFunction? hf (by decide)
  refine .around (f := f) (h.newFunction _) (asFunction_newFunction hf _)
    (Array.getElem?_push_size ..) rfl rfl ?_ ?_
  · simp only [hname]
  · simp only [hdoc, Option.getD_some]

end Store

/-- Put guards of a kind around an object, each around the one before. -/
def guardTimes (kind : Fence) : Nat → Object → Act Object
  | 0, o => return o
  | n + 1, o => do guardObject kind (← guardTimes kind n o)

lemma guardTimes_guarded {kind : Fence} {o : Object} {f : Function} {w : Session}
    (hf : w.store.asFunction? o = some f) : ∀ n, ∃ o' s, guardTimes kind n o w =
      .ok o' { w with store := s } ∧ s.Guarded kind o n o' ∧ s.asFunction? o = some f
  | 0 => ⟨o, w.store, rfl, .bare, hf⟩
  | n + 1 => by
    obtain ⟨o', s, hrun, hguarded, hf'⟩ := guardTimes_guarded hf n
    obtain ⟨g, hg, -⟩ := hguarded.asFunction? hf'
    refine ⟨(s.guard kind o').1, (s.guard kind o').2, ?_, hguarded.guard hg,
      Store.asFunction_newFunction hf' _⟩
    rw [guardTimes, Act.bind_ok hrun]
    rfl

/-! ## Calls through guards -/

lemma call_fence {w : Session} {id : Nat} {g : Function} {kind : Fence} {inner : Object}
    (hg : w.store.function? id = some g) (hcode : g.code = .fence kind inner) (fuel : Nat)
    (args : List Object) (named : List (String × Object)) :
    call (fuel + 1) (.function id) args named w =
      (do checkFence kind inner; call fuel inner args named) w := by
  rw [call, Act.bind_ok (Act.store_run w)]
  simp only [hg, hcode]

lemma exists_mapM_eq_ok {α β ε : Type} {g : α → Except ε β} : ∀ {xs : List α},
    (∀ x ∈ xs, ∃ y, g x = .ok y) → ∃ ys, xs.mapM g = .ok ys
  | [], _ => ⟨[], rfl⟩
  | x :: xs, h => by
    obtain ⟨⟨y, hy⟩, hxs⟩ := List.forall_mem_cons.mp h
    obtain ⟨ys, hys⟩ := exists_mapM_eq_ok hxs
    refine ⟨y :: ys, ?_⟩
    rw [List.mapM_cons, hy, hys]
    rfl

lemma exists_bind_eq_ok {α β ε : Type} {x : Except ε α} {k : α → β} (h : ∃ a, x = .ok a) :
    ∃ b, (do return k (← x)) = Except.ok b := by
  obtain ⟨a, rfl⟩ := h
  exact ⟨k a, rfl⟩

/-- Violations of rules with names can be reported. -/
lemma ofViolations_of_named (kind : Guard.Kind) {vs : List Violation}
    (h : ∀ v ∈ vs, ∃ name, v.rule = .text name) :
    Failure.ofViolations kind vs = .violated kind vs := by
  obtain ⟨text, htext⟩ : ∃ text, Guard.report vs = .ok text := by
    rw [Guard.report]
    split
    · exact ⟨_, rfl⟩
    · refine exists_bind_eq_ok (exists_mapM_eq_ok fun v hv => ?_)
      obtain ⟨name, hname⟩ := h v hv
      rw [hname]
      exact ⟨_, rfl⟩
  rw [Failure.ofViolations, htext]

/-- What a guard does before a call, out of the violations of what it is put around. -/
lemma checkFence_quality {w : Session} {o : Object} {vs : List Violation}
    (hvs : currentViolations o w = .ok vs w) (hnamed : ∀ v ∈ vs, ∃ name, v.rule = .text name) :
    checkFence .quality o w =
      if vs.filter isSevere = [] then .ok () w
      else .error (.violated .quality (vs.filter isSevere)) w := by
  rw [checkFence, Act.bind_ok hvs]
  by_cases hsevere : vs.filter isSevere = []
  · rw [if_pos hsevere, hsevere]
    rfl
  · rw [if_neg hsevere, ← ofViolations_of_named _ fun v hv => hnamed v (List.mem_of_mem_filter hv)]
    rw [if_pos (by simpa using hsevere)]
    rfl

section Calls

variable {w : Session} {o o' : Object} {n : Nat} {f : Function} {vs : List Violation}

/-- What a guard does before a call is settled by the violations of the function. -/
lemma checkFence_guarded (h : w.store.Guarded .quality o n o')
    (hf : w.store.asFunction? o = some f) (hroom : w.store.layers maxDepth o + n ≤ maxDepth)
    (hvs : currentViolations o w = .ok vs w) :
    ∃ vs', List.Forall₂ Violation.Corresponds (vs.filter isSevere) vs' ∧
      checkFence .quality o' w = if vs' = [] then .ok () w else .error (.violated .quality vs') w := by
  obtain ⟨vs', hvs', hall⟩ := currentViolations_guarded h hf hroom hvs
  refine ⟨vs'.filter isSevere, List.rel_filter ?_ hall,
    checkFence_quality hvs' (Violation.named_of_forall₂ hall)⟩
  intro v v' hv
  simp only [isSevere, hv.level]

/-- Without severe violations, a call goes through all guards to the function. -/
lemma call_guarded (h : w.store.Guarded .quality o n o') (hf : w.store.asFunction? o = some f)
    (hroom : w.store.layers maxDepth o + n ≤ maxDepth) (hvs : currentViolations o w = .ok vs w)
    (hmild : vs.filter isSevere = []) (fuel : Nat) (args : List Object)
    (named : List (String × Object)) :
    call (fuel + n) o' args named w = call fuel o args named w := by
  induction h with
  | bare => rfl
  | around hinner _ hg hcode _ _ _ ih =>
    obtain ⟨vs', hall, hcheck⟩ := checkFence_guarded hinner hf (by omega) hvs
    rw [hmild, List.forall₂_nil_left_iff] at hall
    rw [hall, if_pos rfl] at hcheck
    rw [← Nat.add_assoc, call_fence hg hcode, Act.bind_ok hcheck]
    exact ih (by omega)

end Calls

/-- **Guards accept and refuse alike, however many there are.**  Put at least one guard around a
function, and call it in any session with these objects in which the violations of the function can
be found.  If one of them is an error or critical, the call is refused with violations of the same
rules in the same order and nothing else happens; otherwise the call does what a call of the
function itself does. -/
theorem call_guardTimes {w : Session} {o : Object} {f : Function}
    (hf : w.store.asFunction? o = some f) {n : Nat} (hn : 0 < n) :
    ∃ o' s, guardTimes .quality n o w = .ok o' { w with store := s } ∧
      ∀ (v : Session) (vs : List Violation), v.store = s → s.layers maxDepth o + n ≤ maxDepth →
        currentViolations o v = .ok vs v →
        ∀ (fuel : Nat) (args : List Object) (named : List (String × Object)),
          let severe := vs.filter fun x => x.level = .error || x.level = .critical
          (severe ≠ [] → ∃ vs', vs'.map (·.rule) = severe.map (·.rule) ∧
            call (fuel + n) o' args named v = .error (.violated .quality vs') v) ∧
          (severe = [] → call (fuel + n) o' args named v = call fuel o args named v) := by
  obtain ⟨o', s, hrun, hguarded, hf'⟩ := guardTimes_guarded hf n
  refine ⟨o', s, hrun, ?_⟩
  rintro v vs rfl hroom hvs fuel args named severe
  refine ⟨fun hsevere => ?_, fun hmild => call_guarded hguarded hf' hroom hvs hmild fuel args named⟩
  cases hguarded with
  | bare => exact absurd hn (Nat.lt_irrefl 0)
  | around hinner _ hg hcode _ _ _ =>
    obtain ⟨vs', hall, hcheck⟩ := checkFence_guarded hinner hf' (by omega) hvs
    have hvs' : vs' ≠ [] := by
      rintro rfl
      exact hsevere (List.forall₂_nil_right_iff.mp hall)
    rw [if_neg hvs'] at hcheck
    refine ⟨vs', Violation.map_rule_of_forall₂ hall, ?_⟩
    rw [← Nat.add_assoc, call_fence hg hcode, Act.bind_error hcheck]

lemma loadSettings_cutFile : Guard.loadSettings cutFile.disk [] = .ok Guard.defaults := by
  have hnames : Disk.namesToFollow Guard.settingsFile = [Guard.settingsFile] := by decide
  have hmissing : cutFile.disk.pathExists [] Guard.settingsFile = false :=
    Disk.pathExists_of_first_missing hnames ⟨by decide, by decide, by decide⟩
      (by rw [ite_self]; decide)
  rw [Guard.loadSettings, hmissing]
  rfl

/-- The function of `cutFile` has no documentation, with or without other objects beside it. -/
lemma currentViolations_cutFile {s : Store} (hs : s.function? 0 = cutFile.store.function? 0) :
    ∃ vs sub, currentViolations (.function 0) { cutFile with store := s } =
      .ok vs { cutFile with store := s } ∧ Guard.undocumented sub ∈ vs := by
  have hr : (Guard.Terms.mk 50 10 ["tests/test_*.py", "test_*.py", "*_test.py"] ["README.md",
      "docs/API.md", "docs/architecture.md", "ARCHITECTURE.md"]).SetBy Guard.defaults := by
    constructor <;> rfl
  have hdocOf : s.docOf? (.function 0) = none :=
    Store.docOf_of_asFunction? (o := .function 0) hs (show Object.null = optionText none from rfl)
  obtain ⟨sub, hsub, -, hdoc, htext⟩ := subjectOf_function (w := { cutFile with store := s })
    (o := .function 0) hs (sourceLines_cutFile hs) .null .null
  have hfinds : Guard.Finds Guard.defaults (Guard.applyRules cutFile.disk [] sub) _ :=
    Guard.finds_applyRules hr htext parse_cutFile
  refine ⟨_, sub, currentViolations_eq_ok.mpr ⟨_, loadSettings_cutFile, violationsOf_eq_ok.mpr
    ⟨rfl, sub, _, hsub, hfinds { settings := Guard.defaults } rfl, rfl⟩⟩, ?_⟩
  rw [List.nil_append, List.mem_flatMap]
  refine ⟨.docs, by decide, ?_⟩
  rw [Guard.violationIf_pos ⟨rfl, by simp [hdoc, hdocOf]⟩]
  exact List.mem_singleton_self _

/-- Two guards around the function of `cutFile`. -/
theorem call_guardTimes_cutFile :
    ∃ o' s vs', guardTimes .quality 2 (.function 0) cutFile = .ok o' { cutFile with store := s } ∧
      .text "missing_docstring" ∈ vs'.map (·.rule) ∧
      call 2 o' [] [] { cutFile with store := s } =
        .error (.violated .quality vs') { cutFile with store := s } := by
  have hf : cutFile.store.asFunction? (.function 0) = some cutFile.store.functions[0] := rfl
  obtain ⟨o', s, hrun, hcall⟩ := call_guardTimes hf (n := 2) (by decide)
  have hs : s.function? 0 = cutFile.store.function? 0 := by
    obtain ⟨o₂, s₂, hrun₂, -, hs₂⟩ :
        ∃ o' s, guardTimes .quality 2 (.function 0) cutFile = .ok o' { cutFile with store := s } ∧
          s.Guarded .quality (.function 0) 2 o' ∧ s.asFunction? (.function 0) = some _ :=
      guardTimes_guarded hf 2
    injection hrun.symm.trans hrun₂ with _ hsession
    have hstore : s = s₂ := congrArg Session.store hsession
    rw [hstore]
    exact hs₂
  have hroom : s.layers maxDepth (.function 0) + 2 ≤ maxDepth := by
    rw [Store.layers_of_unwrapped (Store.attr_of_asFunction? (o := .function 0) hs (by decide))]
    decide
  obtain ⟨vs, sub, hvs, hmem⟩ := currentViolations_cutFile hs
  have hsevere : Guard.undocumented sub ∈
      vs.filter fun x => x.level = .error || x.level = .critical :=
    List.mem_filter.mpr ⟨hmem, rfl⟩
  obtain ⟨vs', hrules, hrefused⟩ :=
    (hcall _ vs rfl hroom hvs 0 [] []).1 (List.ne_nil_of_mem hsevere)
  refine ⟨o', s, vs', hrun, ?_, hrefused⟩
  rw [hrules]
  exact List.mem_map_of_mem hsevere

end QualityGate.Program
