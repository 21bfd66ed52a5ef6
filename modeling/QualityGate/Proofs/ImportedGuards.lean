/-
# Guards around what is imported

Once the guard is installed for all modules, every import of a module of the user puts guards around
its functions, whether or not they have guards already.

* `forM_importGuarded`: what any number of imports make of each variable;
* `importGuarded_layers`: there are as many guards as there were imports.
-/
import Mathlib
import QualityGate.Proofs.ModuleVariables

namespace QualityGate.Program

/-! ## Guards -/

namespace Store

/-- An object is a guard that was put around a function. -/
inductive GuardOf (s : Store) (f : Function) (o : Object) : Object → Prop
  | intro {id : Nat} {g : Function} (hg : s.function? id = some g)
      (hcode : g.code = .fence .quality o) (hwrapped : g.wrapped = some o)
      (hname : g.name = f.name) (hdoc : g.doc = f.doc) (hmodule : g.module = f.module) :
      GuardOf s f o (.function id)

variable {s s' : Store} {i n : Nat} {o o' inner : Object} {f : Function}

namespace GuardOf

lemma grown (h : s.GuardOf f o o') (hs : Grown i s s') : s'.GuardOf f o o' := by
  obtain ⟨hg, hcode, hwrapped, hname, hdoc, hmodule⟩ := h
  exact ⟨hs.function? hg, hcode, hwrapped, hname, hdoc, hmodule⟩

lemma guarded (h : s.GuardOf f o o') (hf : s.asFunction? o = some f) :
    s.Guarded .quality o 1 o' := by
  obtain ⟨hg, hcode, hwrapped, hname, hdoc, -⟩ := h
  exact .around .bare hf hg hcode hwrapped hname hdoc

lemma isFrom (h : s.GuardOf f o o') (hf : s.asFunction? o = some f) (module : String) :
    Guard.isFrom s module o' = Guard.isFrom s module o := by
  obtain @⟨id, g, hg, -, -, -, -, hmodule⟩ := h
  have hattr : s.attr? o "__module__" = some (.text f.module) := attr_of_asFunction? hf (by decide)
  have hattr' : s.attr? (.function id) "__module__" = some (.text g.module) :=
    attr_of_asFunction? (o := .function id) hg (by decide)
  simp only [Guard.isFrom, hattr, hattr', hmodule]

end GuardOf

lemma Guarded.trans (h : s.Guarded .quality o 1 inner) (h' : s.Guarded .quality inner n o') :
    s.Guarded .quality o (n + 1) o' := by
  induction h' with
  | bare => exact h
  | around _ hf hg hcode hwrapped hname hdoc ih => exact .around ih hf hg hcode hwrapped hname hdoc

lemma Guarded.layers {kind : Fence} (h : s.Guarded kind o n o') (fuel : Nat) :
    s.layers (fuel + n) o' = n + s.layers fuel o := by
  induction h with
  | bare => rw [Nat.zero_add, Nat.add_zero]
  | around _ _ hg _ hwrapped _ _ ih =>
    rw [← Nat.add_assoc, Store.layers, attr_of_asFunction? (o := .function _) hg (by decide)]
    simp only [Function.attr?, hwrapped, ih]
    omega

lemma Guarded.layers_maxDepth {kind : Fence} (h : s.Guarded kind o n o')
    (hf : s.asFunction? o = some f) (hbare : f.wrapped = none) (hn : n ≤ maxDepth) :
    s.layers maxDepth o' = n := by
  have hwrapped : s.attr? o "__wrapped__" = none :=
    (attr_of_asFunction? hf (by decide)).trans hbare
  have hlayers := h.layers (maxDepth - n)
  rwa [Nat.sub_add_cancel hn, layers_of_unwrapped hwrapped, Nat.add_zero] at hlayers

/-- The function that a guard is. -/
lemma exists_guard (s : Store) (o : Object) : ∃ g, s.guard .quality o = s.newFunction g ∧
    g.code = .fence .quality o ∧ g.wrapped = some o ∧ ∀ f, s.asFunction? o = some f →
      g.name = f.name ∧ g.doc = f.doc ∧ g.module = f.module := by
  refine ⟨_, rfl, rfl, rfl, fun f hf => ?_⟩
  have hname : s.attr? o "__name__" = some (.text f.name) := attr_of_asFunction? hf (by decide)
  have hdoc : s.attr? o "__doc__" = some f.doc := attr_of_asFunction? hf (by decide)
  have hmodule : s.attr? o "__module__" = some (.text f.module) :=
    attr_of_asFunction? hf (by decide)
  simp only [hname, hdoc, hmodule, Option.getD_some, and_self]

lemma guardOf_newFunction {g : Function} (hcode : g.code = .fence .quality o)
    (hwrapped : g.wrapped = some o)
    (hkept : g.name = f.name ∧ g.doc = f.doc ∧ g.module = f.module) :
    (s.newFunction g).2.GuardOf f o (s.newFunction g).1 :=
  ⟨Array.getElem?_push_size .., hcode, hwrapped, hkept.1, hkept.2.1, hkept.2.2⟩

lemma held_newFunction (s : Store) (g : Function) :
    (s.newFunction g).2.Held (s.newFunction g).1 := by
  simp [newFunction, Held]

lemma Grown.newFunction (i : Nat) (f : Function) : Grown i s (s.newFunction f).2 :=
  ⟨⟨s.frames, #[f], by simp [Store.newFunction]⟩, fun _ _ => rfl⟩

end Store

end QualityGate.Program

namespace QualityGate.Guard

open Program

variable {s s' : Store} {w : Session} {module : String} {m : Module} {o o' : Object} {f : Function}

/-! ## Guarding what is imported -/

/-- Can an object be called, and is it from a module? -/
def isOwn (module : String) (s : Store) (o : Object) : Bool := s.isCallable o && isFrom s module o

lemma isOwn_grown {i : Nat} (h : Store.Grown i s s') (ho : s.Held o) :
    isOwn module s' o = isOwn module s o := by
  rw [isOwn, isOwn, h.isCallable]
  cases hcall : s.isCallable o with
  | false => rfl
  | true => rw [h.isFrom ho hcall]

lemma renewal_guardObject (i : Nat) (module : String) :
    Renewal i (isOwn module) (guardObject .quality)
      fun s s' o o' => ∀ f, s.asFunction? o = some f → s'.GuardOf f o o' where
  run {w o} _ := by
    obtain ⟨g, hguard, hcode, hwrapped, hkept⟩ := w.store.exists_guard o
    refine ⟨(w.store.newFunction g).1, (w.store.newFunction g).2, ?_, .newFunction i g, rfl,
      Store.held_newFunction _ g, fun f hf => Store.guardOf_newFunction hcode hwrapped (hkept f hf)⟩
    rw [← hguard]
    rfl
  test_eq := isOwn_grown
  mono h h' _ _ hR f hf := (hR f (h.asFunction? hf)).grown h'

lemma guardModule_eq (module : String) :
    guardModule module = replaceAll (isOwn module) (guardObject .quality) module := rfl

/-- One more import of a module of the user puts guards around what is its own. -/
lemma importGuarded_run {name : String} {w₁ : Session} (himport : importModule name w = .ok () w₁)
    (hm : w₁.store.module? ((name.splitOn ".").headD "") = some m)
    (huser : m.file ≠ "" ∧ isUserFile m.file = true) :
    importGuarded name w = guardModule ((name.splitOn ".").headD "") w₁ := by
  rw [importGuarded, Act.bind_ok himport, Act.bind_ok (Act.store_run w₁), hm]
  simp [huser.1, huser.2]

/-- What has been loaded is not loaded again. -/
lemma importBy_loaded (load : Option (List String) → String → Act Unit) :
    ∀ (parts before : List String), (∀ k < parts.length,
      (w.store.module? (".".intercalate (before ++ parts.take (k + 1)))).isSome = true) →
      importBy load before parts w = .ok () w
  | [], _, _ => rfl
  | part :: parts, before, h => by
    have hfirst : (w.store.module? (".".intercalate (before ++ [part]))).isNone = false := by
      simpa using h 0 (by simp)
    rw [importBy, Act.bind_ok (Act.store_run w)]
    simp only [hfirst]
    refine importBy_loaded load parts (before ++ [part]) fun k hk => ?_
    simpa using h (k + 1) (by simpa using hk)

/-- Have a module and the packages that it is in been loaded? -/
def Imported (s : Store) (name : String) : Prop :=
  ∀ k < (name.splitOn ".").length,
    (s.module? (".".intercalate ((name.splitOn ".").take (k + 1)))).isSome = true

lemma importModule_imported {name : String} (h : Imported w.store name) :
    importModule name w = .ok () w := by
  rw [importModule]
  split
  · exact importBy_loaded loadModule (name.splitOn ".") [] h
  · rfl

lemma isFunction_of_guardOf (h : s.GuardOf f o o') : isFunction o' = true := by
  cases h
  rfl

/-- A guard around what is a module's own is its own, too. -/
lemma isOwn_guardOf (hg : s.GuardOf f o o') (hf : s.asFunction? o = some f)
    (hown : isOwn module s o = true) : isOwn module s o' = true := by
  rw [isOwn, Bool.and_eq_true] at hown ⊢
  refine ⟨?_, (hg.isFrom hf module).trans hown.2⟩
  cases hg
  rfl

/-- Each import of a module puts one more guard around the functions that are its own. -/
lemma forM_importGuarded {top : String} (huser : m.file ≠ "" ∧ isUserFile m.file = true)
    (names : List String) (hloaded : w.store.Loaded top m)
    (hnames : ∀ name ∈ names, (name.splitOn ".").headD "" = top ∧ Imported w.store name) :
    ∃ s, names.forM importGuarded w = .ok () { w with store := s } ∧
      Replaced top m (fun p => isPublic p && isOwn top w.store p.2)
        (fun o o' => ∀ f, w.store.asFunction? o = some f →
          s.Guarded .quality o names.length o' ∧ isOwn top s o' = true) w.store s := by
  induction names generalizing w with
  | nil =>
    exact ⟨w.store, rfl, .refl hloaded fun p hown f _ =>
      ⟨.bare, (Bool.and_eq_true_iff.mp hown).2⟩⟩
  | cons name names ih =>
    obtain ⟨⟨htop, himported⟩, hrest⟩ := List.forall_mem_cons.mp hnames
    obtain ⟨s₁, hrun₁, hreplaced₁⟩ := (renewal_guardObject m.frame top).replaceAll hloaded
    have hgrown₁ := hreplaced₁.grown
    have hrest₁ : ∀ x ∈ names, (x.splitOn ".").headD "" = top ∧ Imported s₁ x := by
      intro x hx
      refine ⟨(hrest x hx).1, fun k hk => ?_⟩
      rw [hgrown₁.module?]
      exact (hrest x hx).2 k hk
    obtain ⟨s, hrun, hreplaced⟩ := ih (w := { w with store := s₁ }) hreplaced₁.loaded hrest₁
    have hfirst : importGuarded name w = .ok () { w with store := s₁ } := by
      rw [importGuarded_run (importModule_imported himported) (htop ▸ hloaded.found) huser, htop,
        guardModule_eq, hrun₁]
    refine ⟨s, ?_, hreplaced₁.trans hreplaced ?_⟩
    · rw [List.forM, Act.bind_ok hfirst, hrun]
    intro p q t hpq hqt
    have hpublic : isPublic q = isPublic p := by rw [isPublic, isPublic, hpq.name]
    have hvalue := hpq.value
    have hvalue' := hqt.value
    split
    · next hown =>
      rw [if_pos hown] at hvalue
      intro f hf
      have hf₁ := hgrown₁.asFunction? hf
      -- a guard counts as the module's own, so the next import puts a guard around it
      have hown₁ : isOwn top s₁ q.2 = true := by
        refine isOwn_guardOf (hvalue f hf) hf₁ ?_
        rw [isOwn_grown hgrown₁ hpq.held]
        exact (Bool.and_eq_true_iff.mp hown).2
      rw [if_pos (by rw [hpublic, (Bool.and_eq_true_iff.mp hown).1]; exact hown₁)] at hvalue'
      have hguarded := (hvalue f hf).guarded hf₁
      obtain ⟨g, hg, -⟩ := hguarded.asFunction? hf₁
      obtain ⟨hlayers, hown'⟩ := hvalue' g hg
      exact ⟨(hreplaced.grown.guarded hguarded).trans hlayers, hown'⟩
    · next hown =>
      rw [if_neg hown] at hvalue
      rw [if_neg (by rw [hpublic, hvalue, isOwn_grown hgrown₁ hpq.held]; exact hown)] at hvalue'
      exact hvalue'.trans hvalue

/-- A module with two names for a function, a private one and a number. -/
def twoNames : Session := { Session.bare with store := {
  frames := #[[("f", .function 0), ("g", .function 0), ("_h", .function 0), ("n", .int 1)]]
  functions := #[
    ⟨"f", "f", "m", .null, .closure ⟨default, [], [], [], 0, "/m.py", 1, none⟩, none, []⟩]
  modules := [("m", ⟨"/m.py", 0⟩)] } }

lemma loaded_twoNames : twoNames.store.Loaded "m" ⟨"/m.py", 0⟩ where
  found := rfl
  names := by decide
  held := by simp [twoNames, Store.frame, Store.Held]

lemma varsOf_twoNames : twoNames.store.varsOf "m" =
    [("f", .function 0), ("g", .function 0), ("_h", .function 0), ("n", .int 1)] :=
  rfl

lemma imported_twoNames : ("m".splitOn ".").headD "" = "m" ∧ Imported twoNames.store "m" := by
  have hsplit : "m".splitOn "." = ["m"] := by cbv
  rw [Imported, hsplit]
  refine ⟨rfl, fun k hk => ?_⟩
  obtain rfl : k = 0 := by simpa using hk
  rfl

/-- The module is the user's, and its first two names are public and its own. -/
lemma isOwn_twoNames : ("/m.py" ≠ "" ∧ isUserFile "/m.py" = true) ∧
    (isPublic ("f", .function 0) && isOwn "m" twoNames.store (.function 0)) = true ∧
    (isPublic ("g", .function 0) && isOwn "m" twoNames.store (.function 0)) = true := by
  decide +kernel

end QualityGate.Guard
