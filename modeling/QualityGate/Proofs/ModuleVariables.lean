/-
# The variables of a module

To put guards around the functions of a module is to put new objects in the place of some of its
variables.  New functions come into being on the way, and nothing else changes.

* `Store.Grown`: what a store keeps when there are more functions and other variables;
* `Replaced`: what became of each variable of a module, in any number of steps;
* `Renewal.replaceAll`: the loop that replaces variables.
-/
import Mathlib
import QualityGate.Guard.Install
import QualityGate.Proofs.GuardLayers

namespace QualityGate.Program

/-! ## Variables -/

namespace Bindings

variable {name : String} {o x : Object} {bs rest : Bindings}

lemma set_append (h : name ∉ bs.map Prod.fst) :
    set name x (bs ++ (name, o) :: rest) = bs ++ (name, x) :: rest := by
  induction bs with
  | nil => simp [set]
  | cons p bs ih =>
    obtain ⟨hne, hbs⟩ : name ≠ p.1 ∧ name ∉ bs.map Prod.fst := by simpa using h
    rw [List.cons_append, set, if_neg (Ne.symm hne), ih hbs, List.cons_append]

lemma lookup_set_self (name : String) (x : Object) (bs : Bindings) :
    (set name x bs).lookup name = some x := by
  induction bs with
  | nil => simp [set]
  | cons p bs ih =>
    rw [set]
    split
    · next h => simp [h]
    · next h => rwa [List.lookup_cons, beq_false_of_ne (Ne.symm h)]

/-- A name stands at one place only. -/
lemma not_mem_of_nodup (h : ((bs ++ (name, o) :: rest).map Prod.fst).Nodup) :
    name ∉ bs.map Prod.fst ∧ name ∉ rest.map Prod.fst := by
  rw [List.map_append, List.map_cons] at h
  exact ⟨fun hmem => List.disjoint_of_nodup_append h hmem (by simp),
    (List.nodup_cons.mp h.of_append_right).1⟩

lemma set_of_mem (hnames : (bs.map Prod.fst).Nodup) (h : (name, o) ∈ bs) : set name o bs = bs := by
  obtain ⟨before, after, rfl⟩ := List.append_of_mem h
  exact set_append (not_mem_of_nodup hnames).1

end Bindings

namespace Store

variable {s s₁ s₂ : Store} {i id : Nat} {o o' : Object} {f : Function}

/-- Does the function that an object is, or is made of, exist? -/
def Held (s : Store) : Object → Prop
  | .function id => id < s.functions.size
  | .method _ (.function id) => id < s.functions.size
  | .staticMethod (.function id) => id < s.functions.size
  | _ => True

/-- A store with more functions, and with other variables in one frame. -/
structure Grown (i : Nat) (s s' : Store) : Prop where
  shape : ∃ frames new, s' = { s with frames := frames, functions := s.functions ++ new }
  frame : ∀ j, j ≠ i → s'.frame j = s.frame j

namespace Grown

lemma refl (i : Nat) (s : Store) : Grown i s s :=
  ⟨⟨s.frames, #[], by simp⟩, fun _ _ => rfl⟩

lemma trans (h₁ : Grown i s s₁) (h₂ : Grown i s₁ s₂) : Grown i s s₂ := by
  obtain ⟨frames₁, new₁, rfl⟩ := h₁.shape
  obtain ⟨frames₂, new₂, rfl⟩ := h₂.shape
  exact ⟨⟨frames₂, new₁ ++ new₂, by simp [Array.append_assoc]⟩,
    fun j hj => (h₂.frame j hj).trans (h₁.frame j hj)⟩

lemma function_eq (h : Grown i s s₁) (hid : id < s.functions.size) :
    s₁.function? id = s.function? id := by
  obtain ⟨frames, new, rfl⟩ := h.shape
  exact Array.getElem?_append_left hid

lemma function? (h : Grown i s s₁) (hf : s.function? id = some f) : s₁.function? id = some f := by
  obtain ⟨hid, -⟩ := Array.getElem?_eq_some_iff.mp hf
  rw [h.function_eq hid, hf]

lemma asFunction? (h : Grown i s s₁) (hf : s.asFunction? o = some f) :
    s₁.asFunction? o = some f := by
  match o, hf with
  | .function id, hf => exact h.function? hf
  | .method self (.function id), hf => exact h.function? hf

lemma guarded {kind : Fence} {n : Nat} (h : Grown i s s₁) (hg : s.Guarded kind o n o') :
    s₁.Guarded kind o n o' := by
  induction hg with
  | bare => exact .bare
  | around _ hf hg hcode hwrapped hname hdoc ih =>
    exact .around ih (h.asFunction? hf) (h.function? hg) hcode hwrapped hname hdoc

lemma held (h : Grown i s s₁) (ho : s.Held o) : s₁.Held o := by
  obtain ⟨frames, new, rfl⟩ := h.shape
  unfold Held at ho ⊢
  split <;> simp_all <;> omega

lemma module? (h : Grown i s s₁) (name : String) : s₁.module? name = s.module? name := by
  obtain ⟨frames, new, rfl⟩ := h.shape
  rfl

lemma classAttr? (h : Grown i s s₁) (fuel id : Nat) (name : String) :
    s₁.classAttr? fuel id name = s.classAttr? fuel id name := by
  obtain ⟨frames, new, rfl⟩ := h.shape
  induction fuel generalizing id with
  | zero => rfl
  | succ fuel ih =>
    simp only [Store.classAttr?, ih]
    rfl

lemma isCallable (h : Grown i s s₁) (o : Object) : s₁.isCallable o = s.isCallable o := by
  cases o with
  | inst id =>
    have hinstances : s₁.instances = s.instances := by
      obtain ⟨frames, new, rfl⟩ := h.shape
      rfl
    simp only [Store.isCallable, hinstances, h.classAttr?]
  | _ => rfl

/-- Whether an object that can be called is from a module does not depend on what is new. -/
lemma isFrom (h : Grown i s s₁) (ho : s.Held o) (hcall : s.isCallable o = true) (module : String) :
    Guard.isFrom s₁ module o = Guard.isFrom s module o := by
  have hattr : s₁.attr? o "__module__" = s.attr? o "__module__" := by
    unfold Store.attr?
    split
    -- functions, and the methods and static methods that are made of them
    case h_1 | h_4 | h_7 => rw [h.function_eq ho]
    -- modules, which cannot be called
    case h_8 => cases hcall
    all_goals
      obtain ⟨frames, new, rfl⟩ := h.shape
      rfl
  rw [Guard.isFrom, Guard.isFrom, hattr]

end Grown

/-! ## Modules -/

/-- A module that has been loaded: its variables have different names, and the functions that they
hold exist. -/
structure Loaded (s : Store) (module : String) (m : Module) : Prop where
  found : s.module? module = some m
  names : ((s.frame m.frame).map Prod.fst).Nodup
  held : ∀ p ∈ s.frame m.frame, s.Held p.2

lemma Loaded.varsOf {module : String} {m : Module} (h : s.Loaded module m) :
    s.varsOf module = s.frame m.frame := by
  rw [Store.varsOf, h.found]
  rfl

lemma frame_setVar_ne {i j : Nat} (h : j ≠ i) (name : String) (x : Object) :
    (s.setVar i name x).frame j = s.frame j := by
  simp [setVar, frame, Array.getD_eq_getD_getElem?, Array.getElem?_modify, h.symm]

lemma frame_setVar (i : Nat) (name : String) (x : Object) (h : s.frame i ≠ []) :
    (s.setVar i name x).frame i = Bindings.set name x (s.frame i) := by
  have hi : i < s.frames.size := by
    by_contra hi
    exact h (by simp [frame, hi])
  simp [setVar, frame, hi, Array.getElem_modify_self]

/-- To set a variable to what it holds changes nothing. -/
lemma setVar_of_mem {i : Nat} {name : String} (hnames : ((s.frame i).map Prod.fst).Nodup)
    (h : (name, o) ∈ s.frame i) : s.setVar i name o = s := by
  have hframes : s.frames.modify i (Bindings.set name o) = s.frames := by
    refine Array.ext (by simp) fun j h₁ h₂ => ?_
    rw [Array.getElem_modify]
    split
    · next hij =>
      subst hij
      have hframe : s.frame i = s.frames[i] := by simp [frame, h₂]
      rw [← hframe]
      exact Bindings.set_of_mem hnames h
    · rfl
  rw [setVar, hframes]

lemma Grown.setVar (i : Nat) (name : String) (x : Object) : Grown i s (s.setVar i name x) :=
  ⟨⟨_, #[], by simp [Store.setVar]; rfl⟩, fun _ hj => frame_setVar_ne hj name x⟩

end Store

def isPublic (p : String × Object) : Bool := !p.1.startsWith "_"

/-- What became of a variable between two stores: those that are chosen are replaced. -/
structure Kept (s s' : Store) (chosen : String × Object → Bool) (R : Object → Object → Prop)
    (p q : String × Object) : Prop where
  name : q.1 = p.1
  held : s.Held p.2
  held' : s'.Held q.2
  value : if chosen p then R p.2 q.2 else q.2 = p.2

namespace Kept

variable {s s' : Store} {chosen : String × Object → Bool} {R : Object → Object → Prop}
  {vars vars' : Bindings}

lemma map_fst (h : List.Forall₂ (Kept s s' chosen R) vars vars') :
    vars'.map Prod.fst = vars.map Prod.fst := by
  induction h with
  | nil => rfl
  | cons hpq _ ih => rw [List.map_cons, List.map_cons, hpq.name, ih]

lemma forall_right {P : String × Object → Prop} (hP : ∀ p q, Kept s s' chosen R p q → P q)
    (h : List.Forall₂ (Kept s s' chosen R) vars vars') : ∀ q ∈ vars', P q := by
  induction h with
  | nil => simp
  | cons hpq _ ih => exact List.forall_mem_cons.mpr ⟨hP _ _ hpq, ih⟩

lemma unchanged {i : Nat} (hgrown : Store.Grown i s s') (hheld : ∀ p ∈ vars, s.Held p.2)
    (h : ∀ p ∈ vars, chosen p = false) : List.Forall₂ (Kept s s' chosen R) vars vars :=
  List.forall₂_same.mpr fun p hp =>
    ⟨rfl, hheld p hp, hgrown.held (hheld p hp), by simp [h p hp]⟩

/-- What became of variables in two steps. -/
lemma trans {s'' : Store} {chosen' chosen'' : String × Object → Bool}
    {R' R'' : Object → Object → Prop} {vars'' : Bindings}
    (hstep : ∀ p q t, Kept s s' chosen R p q → Kept s' s'' chosen' R' q t →
      if chosen'' p then R'' p.2 t.2 else t.2 = p.2)
    (h : List.Forall₂ (Kept s s' chosen R) vars vars')
    (h' : List.Forall₂ (Kept s' s'' chosen' R') vars' vars'') :
    List.Forall₂ (Kept s s'' chosen'' R'') vars vars'' := by
  induction h generalizing vars'' with
  | nil => cases h'; exact .nil
  | cons hpq _ ih =>
    cases h' with
    | cons hqt hrest =>
      exact .cons ⟨hqt.name.trans hpq.name, hpq.held, hqt.held', hstep _ _ _ hpq hqt⟩ (ih hrest)

end Kept

/-- What became of a module between two stores. -/
structure Replaced (module : String) (m : Module) (chosen : String × Object → Bool)
    (R : Object → Object → Prop) (s s' : Store) : Prop where
  grown : Store.Grown m.frame s s'
  loaded : s'.Loaded module m
  vars : List.Forall₂ (Kept s s' chosen R) (s.varsOf module) (s'.varsOf module)

namespace Replaced

variable {s s' s'' : Store} {module : String} {m : Module}
  {chosen chosen' chosen'' : String × Object → Bool} {R R' R'' : Object → Object → Prop}

lemma of_frame (hloaded : s.Loaded module m) (hgrown : Store.Grown m.frame s s')
    (h : List.Forall₂ (Kept s s' chosen R) (s.frame m.frame) (s'.frame m.frame)) :
    Replaced module m chosen R s s' := by
  have hloaded' : s'.Loaded module m :=
    ⟨(hgrown.module? module).trans hloaded.found, by rw [Kept.map_fst h]; exact hloaded.names,
      Kept.forall_right (fun _ _ hpq => hpq.held') h⟩
  exact ⟨hgrown, hloaded', by rwa [hloaded.varsOf, hloaded'.varsOf]⟩

lemma refl (hloaded : s.Loaded module m) (hR : ∀ p, chosen p = true → R p.2 p.2) :
    Replaced module m chosen R s s := by
  refine of_frame hloaded (.refl _ _) (List.forall₂_same.mpr fun p hp => ?_)
  refine ⟨rfl, hloaded.held p hp, hloaded.held p hp, ?_⟩
  split
  · next hchosen => exact hR p hchosen
  · rfl

lemma trans (h : Replaced module m chosen R s s') (h' : Replaced module m chosen' R' s' s'')
    (hstep : ∀ p q t, Kept s s' chosen R p q → Kept s' s'' chosen' R' q t →
      if chosen'' p then R'' p.2 t.2 else t.2 = p.2) :
    Replaced module m chosen'' R'' s s'' :=
  ⟨h.grown.trans h'.grown, h'.loaded, Kept.trans hstep h.vars h'.vars⟩

end Replaced

/-- Put something else in the place of a variable of a module if it passes a test. -/
def replaceIf (test : Store → Object → Bool) (make : Object → Act Object) (module : String)
    (p : String × Object) : Act (ForInStep PUnit) := do
  let s ← Act.store
  if test s p.2 then
    setInModule module p.1 (← make p.2)
    return .yield PUnit.unit
  else return .yield PUnit.unit

/-- Put something else in the place of the public variables of a module that pass a test. -/
def replaceAll (test : Store → Object → Bool) (make : Object → Act Object) (module : String) :
    Act Unit := do
  forIn (← publicVariables module) PUnit.unit fun p _ => replaceIf test make module p
  return ()

/-- Making new objects for old ones: what is made from `o` is related to it in the store before and
the store behind, the variables stay, and neither the test for `o` nor the relation depends on other
objects that are new. -/
structure Renewal (i : Nat) (test : Store → Object → Bool) (make : Object → Act Object)
    (R : Store → Store → Object → Object → Prop) : Prop where
  run : ∀ {w : Session} {o : Object}, w.store.Held o →
    ∃ o' s, make o w = .ok o' { w with store := s } ∧ Store.Grown i w.store s ∧
      s.frame i = w.store.frame i ∧ s.Held o' ∧ R w.store s o o'
  test_eq : ∀ {s s' : Store} {o : Object}, Store.Grown i s s' → s.Held o → test s' o = test s o
  mono : ∀ {s₀ s s' s₁ : Store} {o o' : Object}, Store.Grown i s₀ s → Store.Grown i s' s₁ →
    s₀.Held o → test s₀ o = true → R s s' o o' → R s₀ s₁ o o'

namespace Renewal

variable {test : Store → Object → Bool} {make : Object → Act Object}
  {R : Store → Store → Object → Object → Prop} {module name : String} {m : Module} {o : Object}

/-- One variable gets a new value. -/
lemma setInModule (h : Renewal m.frame test make R) {w : Session} {before after : Bindings}
    (hfound : w.store.module? module = some m) (ho : w.store.Held o)
    (hvars : w.store.frame m.frame = before ++ (name, o) :: after)
    (hname : name ∉ before.map Prod.fst) :
    ∃ o' s s', (do setInModule module name (← make o)) w = .ok () { w with store := s } ∧
      Store.Grown m.frame w.store s ∧ s.frame m.frame = before ++ (name, o') :: after ∧
      s.Held o' ∧ Store.Grown m.frame s' s ∧ R w.store s' o o' := by
  obtain ⟨o', s', hmake, hgrown, hframe, hheld, hR⟩ := h.run ho
  have hset := Store.Grown.setVar (s := s') m.frame name o'
  have hframe' : (s'.setVar m.frame name o').frame m.frame = before ++ (name, o') :: after := by
    rw [Store.frame_setVar _ _ _ (by simp [hframe, hvars]), hframe, hvars,
      Bindings.set_append hname]
  refine ⟨o', s'.setVar m.frame name o', s', ?_, hgrown.trans hset, hframe', hset.held hheld, hset,
    hR⟩
  have hmodule : s'.module? module = some m := (hgrown.module? module).trans hfound
  rw [Act.bind_ok hmake, Program.setInModule, Act.bind_ok (Act.store_run _), hmodule]
  rfl

/-- The loop over the variables, of which those in `before` have been visited. -/
lemma loop (h : Renewal m.frame test make R) (s₀ : Store) : ∀ (todo before : Bindings)
    (w : Session), w.store.module? module = some m → Store.Grown m.frame s₀ w.store →
      w.store.frame m.frame = before ++ todo → ((before ++ todo).map Prod.fst).Nodup →
      (∀ p ∈ todo, s₀.Held p.2) →
    ∃ s todo', (forIn (todo.filter isPublic) PUnit.unit
        fun p _ => replaceIf test make module p) w = .ok PUnit.unit { w with store := s } ∧
      Store.Grown m.frame w.store s ∧ s.frame m.frame = before ++ todo' ∧
      List.Forall₂ (Kept s₀ s (fun p => isPublic p && test s₀ p.2) (R s₀ s)) todo todo'
  | [], before, w, _, _, hvars, _, _ => ⟨w.store, [], rfl, .refl _ _, hvars, .nil⟩
  | (name, o) :: todo, before, w, hfound, hgrown, hvars, hnames, hheld => by
    obtain ⟨ho, htodo⟩ := List.forall_mem_cons.mp hheld
    have htest : test w.store o = test s₀ o := h.test_eq hgrown ho
    by_cases hreplaced : (isPublic (name, o) && test s₀ o) = true
    · obtain ⟨hpublic, hpasses⟩ := Bool.and_eq_true_iff.mp hreplaced
      obtain ⟨o', s₁, s', hset, hgrown₁, hvars₁, hheld₁, hgrown', hR⟩ :=
        h.setInModule hfound (hgrown.held ho) hvars (Bindings.not_mem_of_nodup hnames).1
      obtain ⟨s, todo', hloop, hs, hvars', hall⟩ := h.loop s₀ todo (before ++ [(name, o')])
        { w with store := s₁ } ((hgrown₁.module? module).trans hfound) (hgrown.trans hgrown₁)
        (by simpa using hvars₁) (by simpa using hnames) htodo
      refine ⟨s, (name, o') :: todo', ?_, hgrown₁.trans hs, by simpa using hvars', .cons ?_ hall⟩
      · have hstep : replaceIf test make module (name, o) w =
            .ok (.yield PUnit.unit) { w with store := s₁ } := by
          rw [replaceIf, Act.bind_ok (Act.store_run w), htest, if_pos hpasses, ← bind_assoc,
            Act.bind_ok hset]
          rfl
        rw [List.filter_cons_of_pos hpublic, List.forIn_cons, Act.bind_ok hstep]
        exact hloop
      · refine ⟨rfl, ho, hs.held hheld₁, ?_⟩
        rw [if_pos hreplaced]
        exact h.mono hgrown (hgrown'.trans hs) ho hpasses hR
    · obtain ⟨s, todo', hloop, hs, hvars', hall⟩ := h.loop s₀ todo (before ++ [(name, o)])
        w hfound hgrown (by simpa using hvars) (by simpa using hnames) htodo
      refine ⟨s, (name, o) :: todo', ?_, hs, by simpa using hvars', .cons ?_ hall⟩
      · by_cases hpublic : isPublic (name, o) = true
        · have hstep : replaceIf test make module (name, o) w = .ok (.yield PUnit.unit) w := by
            rw [replaceIf, Act.bind_ok (Act.store_run w), htest, if_neg (by simp_all)]
            rfl
          rw [List.filter_cons_of_pos hpublic, List.forIn_cons, Act.bind_ok hstep]
          exact hloop
        · rw [List.filter_cons_of_neg hpublic]
          exact hloop
      · exact ⟨rfl, ho, (hgrown.trans hs).held ho, by rw [if_neg hreplaced]⟩

/-- Variable by variable, what becomes of a module when some of its variables are replaced. -/
lemma replaceAll (h : Renewal m.frame test make R) {w : Session}
    (hloaded : w.store.Loaded module m) :
    ∃ s, replaceAll test make module w = .ok () { w with store := s } ∧
      Replaced module m (fun p => isPublic p && test w.store p.2) (R w.store s) w.store s := by
  obtain ⟨s, vars, hloop, hs, hvars, hall⟩ := h.loop w.store (w.store.frame m.frame) [] w
    hloaded.found (.refl _ _) rfl hloaded.names hloaded.held
  rw [List.nil_append] at hvars
  refine ⟨s, ?_, .of_frame hloaded hs (hvars ▸ hall)⟩
  have hpublic : publicVariables module w = .ok ((w.store.varsOf module).filter isPublic) w := rfl
  rw [Program.replaceAll, Act.bind_ok hpublic, hloaded.varsOf, Act.bind_ok hloop]
  rfl

end Renewal

/-- Nothing changes if nothing new is made. -/
lemma replaceAll_self {test : Store → Object → Bool} {make : Object → Act Object} {module : String}
    {m : Module} {w : Session} (hloaded : w.store.Loaded module m)
    (hmake : ∀ p ∈ w.store.frame m.frame, isPublic p = true → test w.store p.2 = true →
      make p.2 w = .ok p.2 w) : replaceAll test make module w = .ok () w := by
  have hstep : ∀ p ∈ (w.store.frame m.frame).filter isPublic,
      replaceIf test make module p w = .ok (.yield PUnit.unit) w := by
    intro p hp
    obtain ⟨hmem, hpublic⟩ := List.mem_filter.mp hp
    rw [replaceIf, Act.bind_ok (Act.store_run w)]
    split
    · next htest =>
      have hset : setInModule module p.1 p.2 w = .ok () w := by
        rw [setInModule, Act.bind_ok (Act.store_run w), hloaded.found]
        show EStateM.Result.ok () { w with store := w.store.setVar m.frame p.1 p.2 } = _
        rw [Store.setVar_of_mem hloaded.names hmem]
      rw [Act.bind_ok (hmake p hmem hpublic htest), Act.bind_ok hset]
      rfl
    · rfl
  have hloop : ∀ ps : List (String × Object),
      (∀ p ∈ ps, replaceIf test make module p w = .ok (.yield PUnit.unit) w) →
      (forIn ps PUnit.unit fun p _ => replaceIf test make module p) w = .ok PUnit.unit w := by
    intro ps hps
    induction ps with
    | nil => rfl
    | cons p ps ih =>
      obtain ⟨hp, hrest⟩ := List.forall_mem_cons.mp hps
      rw [List.forIn_cons, Act.bind_ok hp]
      exact ih hrest
  have hpublic : publicVariables module w = .ok ((w.store.varsOf module).filter isPublic) w := rfl
  rw [replaceAll, Act.bind_ok hpublic, hloaded.varsOf, Act.bind_ok (hloop _ hstep)]
  rfl

end QualityGate.Program
