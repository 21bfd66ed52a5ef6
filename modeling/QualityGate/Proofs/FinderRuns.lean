/-
# The list of finders along a run

Finders of ours are put in front of the list and taken away again, files are written and removed in
between, and somebody else may put further finders of ours at the end.  One step keeps the other
finders and their order (`others_apply`); without finders from outside it also keeps the list in one
of two shapes, that of the beginning or the same with one of ours in front (`shape_apply`).  What
holds along every run follows by induction (`finders_run`).
-/
import Mathlib
import QualityGate.Imports.Finder

namespace QualityGate.Imports

/-! ## Events and runs -/

/-- What can happen to the list of finders. -/
inductive Event where
  | install
  | uninstall
  /-- Files are written or removed, which leaves these. -/
  | rewrite (d : Disk)
  /-- Somebody else puts one of ours at the end. -/
  | append (id : Nat) (settings : Settings)

/-- Does it come from outside? -/
def Event.isOutside : Event → Bool
  | append .. => true
  | _ => false

/-- The list of finders and the session after an attempt to change the list.  One that fails leaves
the list as it was. -/
def afterAttempt (all : List Finder) :
    EStateM.Result Failure Session (List Finder) → List Finder × Session
  | .ok fs w => (fs, w)
  | .error _ w => (all, w)

/-- What an event does to the list of finders and to the session. -/
def Event.apply (s : List Finder × Session) : Event → List Finder × Session
  | install => afterAttempt s.1 (Imports.install s.1 s.2)
  | uninstall => (Imports.uninstall s.1, s.2)
  | rewrite d => (s.1, { s.2 with disk := d })
  | append id settings => (s.1 ++ [.ours id settings], s.2)

/-- What several events do, one after the other. -/
def run (s : List Finder × Session) (events : List Event) : List Finder × Session :=
  events.foldl Event.apply s

/-- What every event keeps, a run keeps. -/
lemma run_induction {P : List Finder × Session → Prop} {events : List Event}
    (hstep : ∀ e ∈ events, ∀ s, P s → P (e.apply s)) {s : List Finder × Session} (hs : P s) :
    P (run s events) := by
  induction events generalizing s with
  | nil => exact hs
  | cons e events ih =>
    exact ih (fun e' he' => hstep e' (List.mem_cons_of_mem e he')) (hstep e (by simp) s hs)

/-! ## Installing -/

variable {all others : List Finder} {w : Session}

lemma install_error {f : Failure} (h : Settings.current w.disk w.places = .error f) :
    install all w = .error f w := by
  have hread : currentSettings w = .error f w := by
    show Act.ofExcept (Settings.current w.disk w.places) w = _
    rw [h]
    rfl
  show EStateM.bind currentSettings _ w = _
  rw [EStateM.bind, hread]

lemma install_ok {c : Settings} (h : Settings.current w.disk w.places = .ok c) :
    install all w = .ok (if !isOn c "enable_import_hook" || all.any Finder.isOurs then all
      else .ours (freshId all) c :: all) w := by
  have hread : currentSettings w = .ok c w := by
    show Act.ofExcept (Settings.current w.disk w.places) w = _
    rw [h]
    rfl
  show EStateM.bind currentSettings _ w = _
  rw [EStateM.bind, hread]
  simp only
  split <;> rfl

/-- An installation leaves the list alone, or puts one of ours in front of a list that has none. -/
lemma apply_install (s : List Finder × Session) :
    Event.install.apply s = s ∨ (∀ f ∈ s.1, f.isOurs = false) ∧
      ∃ c, Settings.current s.2.disk s.2.places = .ok c ∧ isOn c "enable_import_hook" = true ∧
        Event.install.apply s = (.ours (freshId s.1) c :: s.1, s.2) := by
  cases h : Settings.current s.2.disk s.2.places with
  | error f => exact .inl (by rw [Event.apply, install_error h, afterAttempt])
  | ok c =>
    by_cases hkeep : (!isOn c "enable_import_hook" || s.1.any Finder.isOurs) = true
    · exact .inl (by rw [Event.apply, install_ok h, if_pos hkeep, afterAttempt])
    · have hput : Event.install.apply s = (.ours (freshId s.1) c :: s.1, s.2) := by
        rw [Event.apply, install_ok h, if_neg hkeep, afterAttempt]
      simp only [Bool.or_eq_true, Bool.not_eq_true', List.any_eq_true, not_or, not_exists, not_and,
        Bool.not_eq_false, Bool.not_eq_true] at hkeep
      exact .inr ⟨hkeep.2, c, rfl, hkeep.1, hput⟩

/-! ## Taking away -/

lemma uninstall_of_none (h : ∀ f ∈ all, f.isOurs = false) : uninstall all = all := by
  induction all with
  | nil => rfl
  | cons f fs ih =>
    rw [uninstall, if_neg (by simp [h f]), ih fun g hg => h g (List.mem_cons_of_mem f hg)]

/-- The first one of ours is taken away. -/
lemma uninstall_first {before after : List Finder} {f : Finder}
    (hbefore : ∀ g ∈ before, g.isOurs = false) (hf : f.isOurs = true) :
    uninstall (before ++ f :: after) = before ++ after := by
  induction before with
  | nil => rw [List.nil_append, uninstall, if_pos hf, List.nil_append]
  | cons g before ih =>
    rw [List.cons_append, uninstall, if_neg (by simp [hbefore g]),
      ih fun g' hg' => hbefore g' (List.mem_cons_of_mem g hg'), List.cons_append]

lemma filter_uninstall : (uninstall all).filter (!·.isOurs) = all.filter (!·.isOurs) := by
  induction all with
  | nil => rfl
  | cons f fs ih =>
    rw [uninstall]
    cases hf : f.isOurs <;> simp [hf, ih]

/-! ## Steps -/

/-- Every event keeps the other finders and their order. -/
lemma others_apply (e : Event) (s : List Finder × Session) :
    (e.apply s).1.filter (!·.isOurs) = s.1.filter (!·.isOurs) := by
  cases e with
  | install =>
    rcases apply_install s with h | ⟨-, c, -, -, h⟩
    · rw [h]
    · rw [h]
      rfl
  | uninstall => exact filter_uninstall
  | rewrite d => rfl
  | append id c => simp [Event.apply, Finder.isOurs]

/-- The list as it was, or with one of ours in front. -/
def Shape (others all : List Finder) : Prop :=
  all = others ∨ ∃ f : Finder, f.isOurs = true ∧ all = f :: others

/-- Every event that does not come from outside keeps the shape of the list. -/
lemma shape_apply (hothers : ∀ f ∈ others, f.isOurs = false) {e : Event} (he : e.isOutside = false)
    {s : List Finder × Session} (hs : Shape others s.1) : Shape others (e.apply s).1 := by
  cases e with
  | install =>
    rcases apply_install s with h | ⟨hnone, c, -, -, h⟩
    · rwa [h]
    · rw [h]
      rcases hs with hs | ⟨f, hf, hs⟩
      · exact .inr ⟨_, rfl, by rw [hs]⟩
      · simp [hnone f (by simp [hs])] at hf
  | uninstall =>
    rcases hs with hs | ⟨f, hf, hs⟩
    · exact .inl (by rw [Event.apply, hs, uninstall_of_none hothers])
    · exact .inl (by rw [Event.apply, hs, uninstall, if_pos hf])
  | rewrite d => exact hs
  | append id c => simp [Event.isOutside] at he

/-! ## Runs -/

lemma ourPlaces_of_none (h : ∀ f ∈ all, f.isOurs = false) : ourPlaces all = [] := by
  rw [ourPlaces, List.map_eq_nil_iff, List.filter_eq_nil_iff]
  rintro ⟨f, i⟩ hf
  simp [h f (List.fst_mem_of_mem_zipIdx hf)]

lemma ourPlaces_of_first {f : Finder} (hf : f.isOurs = true)
    (hothers : ∀ g ∈ others, g.isOurs = false) : ourPlaces (f :: others) = [0] := by
  rw [ourPlaces, List.zipIdx_cons, List.filter_cons_of_pos (by simpa using hf),
    List.filter_eq_nil_iff.mpr ?_]
  · rfl
  · rintro ⟨g, i⟩ hg
    simp [hothers g (List.fst_mem_of_mem_zipIdx hg)]

/-- **The list of finders along a run.**  At every point of a run the other finders are those of the
beginning, in their order.  As long as nothing came from outside there is at most one of ours, in
front, and none after one was taken away.  An installation changes nothing if the settings cannot be
loaded, if they do not want it, or if there is one of ours, and puts one in front otherwise; and
what is taken away is exactly the first one of ours. -/
theorem finders_run (hothers : ∀ f ∈ others, f.isOurs = false) (w : Session)
    (events : List Event) :
    let s := run (others, w) events
    s.1.filter (!·.isOurs) = others ∧
    ((∀ e ∈ events, e.isOutside = false) →
      (ourPlaces s.1 = [] ∨ ourPlaces s.1 = [0]) ∧
        ∀ f ∈ (Event.uninstall.apply s).1, f.isOurs = false) ∧
    (∀ f, Settings.current s.2.disk s.2.places = .error f → (Event.install.apply s).1 = s.1) ∧
    (∀ c, Settings.current s.2.disk s.2.places = .ok c → (Event.install.apply s).1 =
      if isOn c "enable_import_hook" = false ∨ ∃ f ∈ s.1, f.isOurs = true then s.1
      else .ours (freshId s.1) c :: s.1) ∧
    (∀ before f after, s.1 = before ++ f :: after → (∀ g ∈ before, g.isOurs = false) →
      f.isOurs = true → (Event.uninstall.apply s).1 = before ++ after) ∧
    ((∀ f ∈ s.1, f.isOurs = false) → (Event.uninstall.apply s).1 = s.1) := by
  intro s
  refine ⟨?_, fun hinside => ?_, fun f hf => ?_, fun c hc => ?_, ?_, uninstall_of_none⟩
  · have hfilter : others.filter (!·.isOurs) = others :=
      List.filter_eq_self.mpr fun f hf => by simp [hothers f hf]
    exact run_induction (P := fun t => t.1.filter (!·.isOurs) = others)
      (fun e _ t ht => (others_apply e t).trans ht) hfilter
  · have hshape : ∀ evs : List Event, (∀ e ∈ evs, e.isOutside = false) →
        Shape others (run (others, w) evs).1 := fun evs hevs =>
      run_induction (P := fun t => Shape others t.1)
        (fun e he t ht => shape_apply hothers (hevs e he) ht) (.inl rfl)
    have hnow := hshape events hinside
    constructor
    · rcases hnow with h | ⟨f, hf, h⟩
      · exact .inl (by rw [h, ourPlaces_of_none hothers])
      · exact .inr (by rw [h, ourPlaces_of_first hf hothers])
    · rcases hnow with h | ⟨f, hf, h⟩
      · rw [Event.apply, h, uninstall_of_none hothers]
        exact hothers
      · rw [Event.apply, h, uninstall, if_pos hf]
        exact hothers
  · rw [Event.apply, install_error hf, afterAttempt]
  · rw [Event.apply, install_ok hc, afterAttempt]
    simp
  · intro before f after hs hbefore hf
    rw [Event.apply, hs, uninstall_first hbefore hf]

/-- One of ours that came from outside is taken away from behind the finders of the language, and
whatever is installed and taken away inside leaves at most one of ours, in front. -/
theorem finders_run_from_language :
    let w : Session := { disk := {}, places := { here := [], home := [] } }
    let s := run (initialFinders, w) [.append 9 []]
    let t := run (initialFinders, w) [.install, .rewrite {}, .install, .uninstall, .install]
    (Event.uninstall.apply s).1 = initialFinders ∧
      t.1.filter (!·.isOurs) = initialFinders ∧ (ourPlaces t.1 = [] ∨ ourPlaces t.1 = [0]) := by
  intro w s t
  have hlanguage : ∀ f ∈ initialFinders, f.isOurs = false := by decide
  obtain ⟨-, -, -, -, hfirst, -⟩ := finders_run hlanguage w [.append 9 []]
  obtain ⟨hothers, hinside, -⟩ :=
    finders_run hlanguage w [.install, .rewrite {}, .install, .uninstall, .install]
  exact ⟨hfirst initialFinders (.ours 9 []) [] rfl hlanguage rfl, hothers,
    (hinside (by simp [Event.isOutside])).1⟩

end QualityGate.Imports
