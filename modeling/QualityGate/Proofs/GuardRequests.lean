/-
# Functions that are guarded once

The activator leaves out what is marked as guarded and marks what it guards, so that a function is
guarded once however often this is asked for, one by one or for a whole module.

* `Once`: what guarding makes of one object;
* `Request.run_spec`: what any requests make of each variable of a module;
* `guardRequests_once`: there is one guard.
-/
import Mathlib
import QualityGate.Proofs.ImportedGuards

namespace QualityGate.Guard

open Program

variable {s s' : Store} {w : Session} {module : String} {m : Module} {o o' : Object} {f : Function}

/-! ## Guards with a mark -/

lemma exists_function (hfun : isFunction o = true) (ho : s.Held o) :
    ∃ f, s.asFunction? o = some f := by
  cases o with
  | function id => exact ⟨_, Array.getElem?_eq_getElem ho⟩
  | _ => cases hfun

/-- Is an object marked as guarded? -/
def isMarked (s : Store) (o : Object) : Bool := (s.attr? o guardMark).isSome

lemma isMarked_grown {i : Nat} (h : Store.Grown i s s') (ho : s.Held o)
    (hfun : isFunction o = true) : isMarked s' o = isMarked s o := by
  cases o with
  | function id => simp only [isMarked, Store.attr?, h.function_eq ho]
  | _ => cases hfun

/-- What guarding an object once makes of it: one that is marked stays as it is, another one gets a
guard with a mark. -/
def Once (s s' : Store) (o o' : Object) : Prop :=
  if isMarked s o then o' = o
  else ∀ f, s.asFunction? o = some f → s'.GuardOf f o o' ∧ isMarked s' o' = true

lemma Once.mono {i : Nat} {s₀ s₁ : Store} (h : Store.Grown i s₀ s) (h' : Store.Grown i s' s₁)
    (ho : s₀.Held o) (hfun : isFunction o = true) (honce : Once s s' o o') : Once s₀ s₁ o o' := by
  rw [Once] at honce ⊢
  rw [isMarked_grown h ho hfun] at honce
  split
  · next hmarked => rwa [if_pos hmarked] at honce
  · next hmarked =>
    rw [if_neg hmarked] at honce
    intro f hf
    obtain ⟨hguard, hmark⟩ := honce f (h.asFunction? hf)
    refine ⟨hguard.grown h', ?_⟩
    obtain @⟨id, g, hg, -⟩ := hguard
    have hheld : s'.Held (.function id) := (Array.getElem?_eq_some_iff.mp hg).1
    rw [isMarked_grown h' hheld rfl, hmark]

lemma modify_push {α : Type} (xs : Array α) (x : α) (f : α → α) :
    (xs.push x).modify xs.size f = xs.push (f x) := by
  refine Array.ext (by simp) fun i h₁ h₂ => ?_
  rw [Array.getElem_modify, Array.getElem_push, Array.getElem_push]
  have hi : i < xs.size ∨ i = xs.size := by
    rw [Array.size_push] at h₂
    omega
  rcases hi with hi | rfl
  · simp [hi, (Nat.ne_of_lt hi).symm]
  · simp

lemma guardOnce_marked (h : isMarked w.store o = true) : guardOnce o w = .ok o w := by
  rw [isMarked] at h
  rw [guardOnce, Act.bind_ok (Act.store_run w), if_pos h]
  rfl

/-- The function with a mark. -/
def marked (g : Function) : Function :=
  { g with attributes := g.attributes.set guardMark (.bool true) }

lemma guardOnce_unmarked {g : Function} (h : isMarked w.store o = false)
    (hguard : w.store.guard .quality o = w.store.newFunction g) :
    guardOnce o w = .ok (w.store.newFunction (marked g)).1
      { w with store := (w.store.newFunction (marked g)).2 } := by
  have hobject : guardObject .quality o w = .ok (w.store.newFunction g).1
      { w with store := (w.store.newFunction g).2 } := by
    rw [← hguard]
    rfl
  have hmark : (w.store.newFunction (marked g)).2 = { (w.store.newFunction g).2 with
      functions := (w.store.functions.push g).modify w.store.functions.size marked } := by
    rw [modify_push]
    rfl
  rw [guardOnce, Act.bind_ok (Act.store_run w), if_neg (by simpa [isMarked] using h),
    Act.bind_ok hobject, hmark]
  rfl

lemma isMarked_newFunction (s : Store) (g : Function) :
    isMarked (s.newFunction (marked g)).2 (s.newFunction (marked g)).1 = true := by
  have hg : (s.newFunction (marked g)).2.asFunction? (s.newFunction (marked g)).1 =
      some (marked g) := Array.getElem?_push_size ..
  have hattr : (marked g).attr? guardMark = some (.bool true) :=
    Bindings.lookup_set_self guardMark (.bool true) g.attributes
  rw [isMarked, Store.attr_of_asFunction? hg (by decide), hattr]
  rfl

lemma renewal_guardOnce (i : Nat) {test : Store → Object → Bool}
    (htest : ∀ {s s' : Store} {o : Object}, Store.Grown i s s' → s.Held o → test s' o = test s o)
    (hfun : ∀ s o, test s o = true → isFunction o = true) : Renewal i test guardOnce Once where
  run {w o} ho := by
    cases hmarked : isMarked w.store o with
    | true => exact ⟨o, w.store, guardOnce_marked hmarked, .refl i _, rfl, ho,
      by rw [Once, if_pos hmarked]⟩
    | false =>
      obtain ⟨g, hguard, hcode, hwrapped, hkept⟩ := w.store.exists_guard o
      refine ⟨_, _, guardOnce_unmarked hmarked hguard, .newFunction i _, rfl,
        Store.held_newFunction _ _, ?_⟩
      rw [Once, if_neg (by simp [hmarked])]
      exact fun f hf => ⟨Store.guardOf_newFunction hcode hwrapped (hkept f hf),
        isMarked_newFunction _ g⟩
  test_eq := htest
  mono h h' ho ht honce := honce.mono h h' ho (hfun _ _ ht)

/-- Is an object a function of a module? -/
def isOwnFunction (module : String) (s : Store) (o : Object) : Bool :=
  isFunction o && isFrom s module o

lemma isOwnFunction_grown {i : Nat} (h : Store.Grown i s s') (ho : s.Held o) :
    isOwnFunction module s' o = isOwnFunction module s o := by
  cases o with
  | function id => rw [isOwnFunction, isOwnFunction, h.isFrom ho rfl]
  | _ => simp only [isOwnFunction, isFunction, Bool.false_and]

/-- The functions of a module that has been loaded are replaced by guards. -/
lemma guardFunctionsOf_eq {w' : Session} (hfound : w.store.module? module = some m)
    (hrun : replaceAll (isOwnFunction module) guardOnce module w = .ok () w') :
    guardFunctionsOf module w = .ok () w' := by
  refine Act.recover_ok ?_
  rw [Act.bind_ok (Act.store_run w)]
  simp only [hfound, Option.isNone_some, Bool.false_eq_true, if_false]
  exact hrun

/-- What can be asked for: guards around all functions of a module, or one around the function that
a variable holds, which is kept in the variable or not. -/
inductive Request where
  | all
  | one (name : String) (kept : Bool)

namespace Request

def perform (module : String) : Request → Act Unit
  | .all => guardFunctionsOf module
  | .one name kept => do
    match ((← Act.store).varsOf module).lookup name with
    | none => return ()
    | some o =>
      if isFunction o then
        let f ← guardOnce o
        if kept then setInModule module name f

/-- Does a request ask for a guard in the place of what a variable holds? -/
def covers (s : Store) (module : String) : Request → String × Object → Bool
  | .all, p => isPublic p && isOwnFunction module s p.2
  | .one name kept, p => kept && (p.1 = name && isFunction p.2)

lemma isFunction_of_covers {r : Request} {p : String × Object} (h : r.covers s module p = true) :
    isFunction p.2 = true := by
  cases r with
  | all =>
    simp only [covers, isOwnFunction, Bool.and_eq_true] at h
    exact h.2.1
  | one name kept =>
    simp only [covers, Bool.and_eq_true] at h
    exact h.2.2

/-- What a request for one variable makes of all. -/
lemma one_spec (name : String) (kept : Bool) (hloaded : w.store.Loaded module m) :
    ∃ s, (one name kept).perform module w = .ok () { w with store := s } ∧
      Replaced module m ((one name kept).covers w.store module) (Once w.store s) w.store s := by
  have hother : ∀ p : String × Object, p.1 ≠ name →
      (one name kept).covers w.store module p = false := by
    intro p hp
    simp [covers, hp]
  rw [perform, Act.bind_ok (Act.store_run w), hloaded.varsOf]
  cases hlookup : (w.store.frame m.frame).lookup name with
  | none =>
    refine ⟨w.store, rfl, .of_frame hloaded (.refl _ _)
      (Kept.unchanged (.refl m.frame _) hloaded.held fun p hp => ?_)⟩
    exact hother p (Ne.symm (by simpa using List.lookup_eq_none_iff.mp hlookup p hp))
  | some o =>
    obtain ⟨before, after, hsplit, -⟩ := List.lookup_eq_some_iff.mp hlookup
    have hnames := hloaded.names
    have hheld := hloaded.held
    rw [hsplit] at hnames
    rw [hsplit, List.forall_mem_append, List.forall_mem_cons] at hheld
    obtain ⟨hheldBefore, ho, hheldAfter⟩ := hheld
    obtain ⟨hbefore, hafter⟩ := Bindings.not_mem_of_nodup hnames
    -- the other variables stay, so that only this one counts
    have hrest : ∀ s o', Store.Grown m.frame w.store s → s.Held o' →
        s.frame m.frame = before ++ (name, o') :: after →
        (if (one name kept).covers w.store module (name, o) then Once w.store s o o'
          else o' = o) →
        Replaced module m ((one name kept).covers w.store module) (Once w.store s) w.store s := by
      intro s o' hgrown ho' hframe hvalue
      refine .of_frame hloaded hgrown ?_
      rw [hsplit, hframe]
      refine List.rel_append ?_ (.cons ⟨rfl, ho, ho', hvalue⟩ ?_)
      · exact Kept.unchanged hgrown hheldBefore fun p hp =>
          hother p (ne_of_mem_of_not_mem (List.mem_map_of_mem hp) hbefore)
      · exact Kept.unchanged hgrown hheldAfter fun p hp =>
          hother p (ne_of_mem_of_not_mem (List.mem_map_of_mem hp) hafter)
    have hrenewal : Renewal m.frame (fun _ o => isFunction o) guardOnce Once :=
      renewal_guardOnce m.frame (fun _ _ => rfl) fun _ _ h => h
    cases hfun : isFunction o with
    | false =>
      refine ⟨w.store, ?_, hrest w.store o (.refl _ _) ho hsplit (by simp [covers, hfun])⟩
      simp only [hfun, Bool.false_eq_true, if_false]
      rfl
    | true =>
      simp only [hfun, if_true]
      cases kept with
      | false =>
        obtain ⟨o', s, hrun, hgrown, hframe, -, -⟩ := hrenewal.run ho
        refine ⟨s, ?_, hrest s o hgrown (hgrown.held ho) (hframe.trans hsplit) (by simp [covers])⟩
        rw [Act.bind_ok hrun]
        rfl
      | true =>
        obtain ⟨o', s, s', hrun, hgrown, hframe, ho', hgrown', honce⟩ :=
          hrenewal.setInModule hloaded.found ho hsplit hbefore
        refine ⟨s, hrun, hrest s o' hgrown ho' hframe ?_⟩
        rw [if_pos (by simp [covers, hfun])]
        exact honce.mono (.refl m.frame _) hgrown' ho hfun

/-- What one request makes of each variable. -/
lemma perform_spec (r : Request) (hloaded : w.store.Loaded module m) :
    ∃ s, r.perform module w = .ok () { w with store := s } ∧
      Replaced module m (r.covers w.store module) (Once w.store s) w.store s := by
  cases r with
  | all =>
    obtain ⟨s, hrun, hreplaced⟩ := (renewal_guardOnce m.frame isOwnFunction_grown
      fun s o h => (Bool.and_eq_true_iff.mp h).1).replaceAll hloaded
    exact ⟨s, guardFunctionsOf_eq hloaded.found hrun, hreplaced⟩
  | one name kept => exact one_spec name kept hloaded

section Run

variable {chosen : String × Object → Bool} {p q : String × Object} {i : Nat}

/-- A variable holds what it held, or a guard with a mark around it. -/
lemma eq_or_guardOf (hfun : chosen p = true → isFunction p.2 = true)
    (h : Kept s s' chosen (Once s s') p q) :
    q.2 = p.2 ∨ chosen p = true ∧ isMarked s' q.2 = true ∧
      ∃ f, s.asFunction? p.2 = some f ∧ s'.GuardOf f p.2 q.2 := by
  have hvalue := h.value
  cases hchosen : chosen p with
  | false => exact .inl (by simpa [hchosen] using hvalue)
  | true =>
    rw [if_pos hchosen, Once] at hvalue
    split at hvalue
    · exact .inl hvalue
    · obtain ⟨f, hf⟩ := exists_function (hfun hchosen) h.held
      exact .inr ⟨rfl, (hvalue f hf).2, f, hf, (hvalue f hf).1⟩

/-- Requests cover the same variables afterwards. -/
lemma covers_kept (hgrown : Store.Grown i s s') (hfun : chosen p = true → isFunction p.2 = true)
    (h : Kept s s' chosen (Once s s') p q) (r : Request) :
    r.covers s' module q = r.covers s module p := by
  have hpublic : isPublic q = isPublic p := by rw [isPublic, isPublic, h.name]
  have hsame : isFunction q.2 = isFunction p.2 ∧
      isOwnFunction module s' q.2 = isOwnFunction module s p.2 := by
    rcases eq_or_guardOf hfun h with heq | ⟨hchosen, -, f, hf, hguard⟩
    · rw [heq]
      exact ⟨rfl, isOwnFunction_grown hgrown h.held⟩
    · have hcall : s.isCallable p.2 = true := by
        cases hobject : p.2 <;> simp_all [isFunction, Store.isCallable]
      rw [isOwnFunction, isOwnFunction, isFunction_of_guardOf hguard, hfun hchosen,
        hguard.isFrom (hgrown.asFunction? hf), hgrown.isFrom h.held hcall]
      exact ⟨rfl, rfl⟩
  cases r with
  | all => rw [covers, covers, hpublic, hsame.2]
  | one name kept => rw [covers, covers, h.name, hsame.1]

lemma isFunction_of_any {rs : List Request}
    (h : rs.any (·.covers s module p) = true) : isFunction p.2 = true := by
  obtain ⟨r, -, hr⟩ := List.any_eq_true.mp h
  exact isFunction_of_covers hr

/-- What any number of requests make of each variable is what one of them does. -/
lemma run_spec (rs : List Request) (hloaded : w.store.Loaded module m) :
    ∃ s, rs.forM (perform module) w = .ok () { w with store := s } ∧
      Replaced module m (fun p => rs.any (·.covers w.store module p)) (Once w.store s)
        w.store s := by
  induction rs generalizing w with
  | nil => exact ⟨w.store, rfl, .refl hloaded fun p hp => by cases hp⟩
  | cons r rs ih =>
    obtain ⟨s₁, hrun₁, hreplaced₁⟩ := r.perform_spec hloaded
    obtain ⟨s, hrun, hreplaced⟩ := ih (w := { w with store := s₁ }) hreplaced₁.loaded
    have hgrown₁ := hreplaced₁.grown
    have hgrown := hreplaced.grown
    refine ⟨s, ?_, hreplaced₁.trans hreplaced ?_⟩
    · rw [List.forM, Act.bind_ok hrun₁, hrun]
    · intro p q t hpq hqt
      have hfun : r.covers w.store module p = true → isFunction p.2 = true := isFunction_of_covers
      have hcovers : rs.any (·.covers s₁ module q) = rs.any (·.covers w.store module p) :=
        congrArg rs.any (funext fun r' => covers_kept hgrown₁ hfun hpq r')
      have hvalue := hpq.value
      have hvalue' := hqt.value
      -- what is done by the first request stays if the others leave it
      have hstay : r.covers w.store module p = true → t.2 = q.2 → Once w.store s p.2 t.2 := by
        intro hr ht
        rw [if_pos hr] at hvalue
        rw [ht]
        exact hvalue.mono (.refl m.frame _) hgrown hpq.held (hfun hr)
      rw [hcovers] at hvalue'
      rw [List.any_cons]
      rcases eq_or_guardOf hfun hpq with heq | ⟨hr, hmarked, -⟩
      · cases hany : rs.any (·.covers w.store module p) with
        | true =>
          rw [if_pos hany, heq] at hvalue'
          rw [Bool.or_true, if_pos rfl]
          exact hvalue'.mono hgrown₁ (.refl m.frame _) hpq.held (isFunction_of_any hany)
        | false =>
          rw [if_neg (by simp [hany])] at hvalue'
          rw [Bool.or_false]
          split
          · next hr => exact hstay hr hvalue'
          · exact hvalue'.trans heq
      · -- a mark keeps the others from adding a guard
        have ht : t.2 = q.2 := by
          split at hvalue'
          · rwa [Once, if_pos hmarked] at hvalue'
          · exact hvalue'
        rw [hr, Bool.true_or, if_pos rfl]
        exact hstay hr ht

end Run

end Request

/-- Once all functions of a module are marked, guarding them changes nothing. -/
lemma guardFunctionsOf_marked (hloaded : w.store.Loaded module m)
    (hmarked : ∀ p ∈ w.store.varsOf module, isPublic p && isOwnFunction module w.store p.2 →
      isMarked w.store p.2 = true) : guardFunctionsOf module w = .ok () w := by
  refine guardFunctionsOf_eq hloaded.found (replaceAll_self hloaded fun p hp hpublic hown => ?_)
  exact guardOnce_marked (hmarked p (hloaded.varsOf ▸ hp) (by rw [hpublic, hown]; rfl))

/-- **A function is guarded once, whatever is asked for.**  After any requests, each variable of a
module that one of them covers, and that held a function without a mark, holds one guard with a mark
around that function; all other variables, and those with a mark, hold what they held.  If the
guards were asked for all functions of the module, then to do so again changes nothing. -/
theorem guardRequests_once (hloaded : w.store.Loaded module m) (rs : List Request) :
    ∃ s, rs.forM (Request.perform module) w = .ok () { w with store := s } ∧
      (∀ id f, w.store.function? id = some f → s.function? id = some f) ∧
      List.Forall₂ (fun p q => q.1 = p.1 ∧
        if rs.any (·.covers w.store module p) && !isMarked w.store p.2 then
          s.Guarded .quality p.2 1 q.2 ∧ isMarked s q.2 = true ∧
            ∀ f, w.store.asFunction? p.2 = some f → f.wrapped = none → s.layers maxDepth q.2 = 1
        else q.2 = p.2) (w.store.varsOf module) (s.varsOf module) ∧
      (.all ∈ rs → guardFunctionsOf module { w with store := s } = .ok () { w with store := s }) := by
  obtain ⟨s, hrun, hgrown, hloaded', hall⟩ := Request.run_spec rs hloaded
  refine ⟨s, hrun, fun id f hf => hgrown.function? hf, ?_, fun hmem => ?_⟩
  · refine hall.imp fun p q hpq => ⟨hpq.name, ?_⟩
    have hvalue := hpq.value
    cases hany : rs.any (·.covers w.store module p) with
    | false => simpa [hany] using hvalue
    | true =>
      rw [if_pos hany, Once] at hvalue
      cases hmarked : isMarked w.store p.2 with
      | true => simpa [hmarked] using hvalue
      | false =>
        obtain ⟨f, hf⟩ := exists_function (Request.isFunction_of_any hany) hpq.held
        rw [if_neg (by simp [hmarked])] at hvalue
        obtain ⟨hguard, hmark⟩ := hvalue f hf
        have hguarded := hguard.guarded (hgrown.asFunction? hf)
        exact ⟨hguarded, hmark, fun f hf hbare =>
          hguarded.layers_maxDepth (hgrown.asFunction? hf) hbare (by decide)⟩
  · refine guardFunctionsOf_marked hloaded' (Kept.forall_right ?_ hall)
    intro p q hpq hq
    have hany : rs.any (·.covers w.store module p) = true := by
      refine List.any_eq_true.mpr ⟨.all, hmem, ?_⟩
      rw [← Request.covers_kept hgrown Request.isFunction_of_any hpq]
      exact hq
    have hvalue := hpq.value
    rw [if_pos hany, Once] at hvalue
    split at hvalue
    · next hmarked =>
      rw [hvalue, isMarked_grown hgrown hpq.held (Request.isFunction_of_any hany), hmarked]
    · obtain ⟨f, hf⟩ := exists_function (Request.isFunction_of_any hany) hpq.held
      exact (hvalue f hf).2

/-- The functions of `twoNames` are guarded one by one and all at once. -/
theorem guardRequests_once_twoNames :
    ∃ s, [Request.one "f" true, .all, .one "g" false, .all].forM (Request.perform "m") twoNames =
        .ok () { twoNames with store := s } ∧
      ((s.varsOf "m").take 2).map (fun q => (q.1, s.layers maxDepth q.2)) =
        [("f", 1), ("g", 1)] := by
  let rs := [Request.one "f" true, .all, .one "g" false, .all]
  obtain ⟨s, hrun, -, hall, -⟩ := guardRequests_once loaded_twoNames rs
  refine ⟨s, hrun, ?_⟩
  have hcovered : ∀ name, isPublic (name, .function 0) = true →
      (rs.any (·.covers twoNames.store "m" (name, .function 0)) &&
        !isMarked twoNames.store (.function 0)) = true := by
    intro name hname
    have hown : isOwnFunction "m" twoNames.store (.function 0) = true := by decide
    have hmarked : isMarked twoNames.store (.function 0) = false := by decide
    simp [rs, Request.covers, hname, hown, hmarked]
  rw [varsOf_twoNames, List.forall₂_cons_left_iff] at hall
  obtain ⟨p, _, ⟨hp, hguards⟩, hall, hs⟩ := hall
  obtain ⟨q, _, ⟨hq, hguards'⟩, -, rfl⟩ := List.forall₂_cons_left_iff.mp hall
  rw [if_pos (hcovered "f" (Bool.and_eq_true_iff.mp isOwn_twoNames.2.1).1)] at hguards
  rw [if_pos (hcovered "g" (Bool.and_eq_true_iff.mp isOwn_twoNames.2.2).1)] at hguards'
  simp [hs, hp, hq, hguards.2.2 _ rfl rfl, hguards'.2.2 _ rfl rfl]

/-- A function that carries the mark of its own accord. -/
def markedName : Session := { Session.bare with store := {
  frames := #[[("f", .function 0)]]
  functions := #[⟨"f", "f", "m", .null, .closure ⟨default, [], [], [], 0, "/m.py", 1, none⟩, none,
    [(guardMark, .bool true)]⟩]
  modules := [("m", ⟨"/m.py", 0⟩)] } }

/-- A public function of the module is not guarded if it has the mark. -/
theorem guardRequests_marked :
    Request.covers markedName.store "m" .all ("f", .function 0) = true ∧
      guardFunctionsOf "m" markedName = .ok () markedName ∧
      markedName.store.varsOf "m" = [("f", .function 0)] ∧
      markedName.store.layers maxDepth (.function 0) = 0 := by
  have hloaded : markedName.store.Loaded "m" ⟨"/m.py", 0⟩ :=
    ⟨rfl, by decide, by simp [markedName, Store.frame, Store.Held]⟩
  have hmarked : isMarked markedName.store (.function 0) = true := by decide
  have hpublic : isPublic ("f", .function 0) = true :=
    (Bool.and_eq_true_iff.mp isOwn_twoNames.2.1).1
  refine ⟨by rw [Request.covers, hpublic]; decide, guardFunctionsOf_marked hloaded ?_, rfl, ?_⟩
  · rintro p hp -
    obtain rfl : p = ("f", .function 0) := List.mem_singleton.mp hp
    exact hmarked
  · exact Store.layers_of_unwrapped rfl maxDepth

end QualityGate.Guard
