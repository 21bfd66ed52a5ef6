/-
# Changes that wait

A change that comes in waits until the waiting time of its file is over.  A later change of the same
file takes its place, and a cleanup cancels all that wait.  Files are told apart by their resolved
paths, while a change is processed under the path that it came with.

A history is a list of events.  `Waits` says, of the history alone, that the change at a place of it
still waits: nothing behind that place puts an end to its waiting (`Event.ends`).  What is pending
in a watcher is just what waits in its history (`mem_pending_run`), because of what each event does
to it (`pending_apply`).

`waiting_run`: nothing but the last change of a file is pending, it is processed when its time is
over, and each change that came in ends in one way and once.
-/
import Mathlib
import QualityGate.Proofs.WatcherTables

namespace QualityGate.Watch

/-! ## Histories -/

/-- Does an event put an end to the waiting of a file? -/
def Event.ends (here file : Location) : Event → Bool
  | receive path _ => Path.resolve here path = file
  | expire f => f = file
  | cleanup => true
  | _ => false

/-- The change at place `n` of a history waits at its end: it is the change that is pending, and
nothing behind it put an end to the waiting of its file. -/
def Waits (here : Location) (history : List Event) (n : Nat) (p : Pending) : Prop :=
  p.file = Path.resolve here p.path ∧ ∃ before after,
    history = before ++ .receive p.path p.change :: after ∧ before.length = n ∧
      ∀ e ∈ after, e.ends here p.file = false

section

variable {here : Location} {history h h' : List Event} {e : Event} {n m : Nat} {p q : Pending}

/-- One more event: a change that waited goes on to wait unless the event ends that, and a change
that comes in begins to wait. -/
lemma waits_concat : Waits here (history ++ [e]) n p ↔
    (Waits here history n p ∧ e.ends here p.file = false) ∨
      (n = history.length ∧ e = .receive p.path p.change ∧ p.file = Path.resolve here p.path) := by
  constructor
  · rintro ⟨hfile, before, after, hsplit, hn, hafter⟩
    induction after using List.reverseRecOn with
    | nil =>
      obtain ⟨rfl, hlast⟩ := List.append_inj' hsplit rfl
      exact .inr ⟨hn.symm, by simpa using hlast, hfile⟩
    | append_singleton after e' _ =>
      rw [← List.cons_append, ← List.append_assoc] at hsplit
      obtain ⟨rfl, hlast⟩ := List.append_inj' hsplit rfl
      obtain rfl : e = e' := by simpa using hlast
      exact .inl ⟨⟨hfile, before, after, rfl, hn, fun x hx => hafter x (by simp [hx])⟩,
        hafter e (by simp)⟩
  · rintro (⟨⟨hfile, before, after, rfl, hn, hafter⟩, he⟩ | ⟨hn, rfl, hfile⟩)
    · refine ⟨hfile, before, after ++ [e], by simp, hn, fun x hx => ?_⟩
      rcases List.mem_append.mp hx with hx | hx
      · exact hafter x hx
      · rwa [List.mem_singleton.mp hx]
    · exact ⟨hfile, history, [], rfl, hn.symm, by simp⟩

/-- For each file at most one change waits. -/
lemma Waits.unique (hp : Waits here history n p) (hq : Waits here history m q)
    (hfile : p.file = q.file) : n = m ∧ p = q := by
  induction history using List.reverseRecOn with
  | nil =>
    obtain ⟨-, before, after, hsplit, -⟩ := hp
    simp at hsplit
  | append_singleton history e ih =>
    rcases waits_concat.mp hp with ⟨hp, hpe⟩ | ⟨hn, rfl, hpfile⟩
    · rcases waits_concat.mp hq with ⟨hq, -⟩ | ⟨-, rfl, hqfile⟩
      · exact ih hp hq
      · simp [Event.ends, hfile, hqfile] at hpe
    · rcases waits_concat.mp hq with ⟨-, hqe⟩ | ⟨hm, heq, hqfile⟩
      · simp [Event.ends, ← hfile, hpfile] at hqe
      · obtain ⟨hpath, hchange⟩ : p.path = q.path ∧ p.change = q.change := by simpa using heq
        obtain ⟨pfile, ppath, pchange⟩ := p
        obtain ⟨qfile, qpath, qchange⟩ := q
        simp_all

/-- How the waiting of the change at place `n` ended, and the history before that moment: its time
was over, a later change of the same file took its place, or it was cancelled. -/
inductive Ended (here : Location) (history : List Event) (n : Nat) (p : Pending) : List Event → Prop
  | processed {h : List Event} : Waits here h n p → h ++ [.expire p.file] <+: history →
    Ended here history n p h
  | superseded {h : List Event} {path : String} {change : Change} : Waits here h n p →
    Path.resolve here path = p.file → h ++ [.receive path change] <+: history →
    Ended here history n p h
  | cancelled {h : List Event} : Waits here h n p → h ++ [.cleanup] <+: history →
    Ended here history n p h

lemma ended_iff : Ended here history n p h ↔
    Waits here h n p ∧ ∃ e, h ++ [e] <+: history ∧ e.ends here p.file = true := by
  constructor
  · rintro (⟨hw, hpre⟩ | ⟨hw, hfile, hpre⟩ | ⟨hw, hpre⟩)
    · exact ⟨hw, _, hpre, by simp [Event.ends]⟩
    · exact ⟨hw, _, hpre, by simp [Event.ends, hfile]⟩
    · exact ⟨hw, _, hpre, rfl⟩
  · rintro ⟨hw, e, hpre, he⟩
    cases e with
    | receive path change => exact .superseded hw (by simpa [Event.ends] using he) hpre
    | expire f =>
      obtain rfl : f = p.file := by simpa [Event.ends] using he
      exact .processed hw hpre
    | cleanup => exact .cancelled hw hpre
    | _ => cases he

/-- While a change waits, no event ends its waiting. -/
lemma Waits.quiet (hw : Waits here history n q) (hp : Waits here h n p)
    (hpre : h ++ [e] <+: history) : e.ends here p.file = false := by
  obtain ⟨hqfile, before, after, rfl, hn, hafter⟩ := hw
  obtain ⟨hpfile, before', between, rfl, hn', -⟩ := hp
  obtain ⟨rest, hrest⟩ := hpre
  simp only [List.append_assoc, List.cons_append, List.nil_append] at hrest
  obtain ⟨rfl, htail⟩ := List.append_inj hrest (hn'.trans hn.symm)
  obtain ⟨hsame, rfl⟩ := List.cons.inj htail
  obtain ⟨hpath, -⟩ := Event.receive.inj hsame
  rw [hpfile, hpath, ← hqfile]
  exact hafter e (by simp)

/-- A change that still waits has not ended. -/
lemma Waits.not_ended (hw : Waits here history n q) : ¬ Ended here history n p h := by
  intro hended
  obtain ⟨hp, e, hpre, he⟩ := ended_iff.mp hended
  rw [hw.quiet hp hpre] at he
  cases he

/-- The waiting of a change ends once at most. -/
lemma Ended.unique (hh : Ended here history n p h) (hh' : Ended here history n p h') : h = h' := by
  obtain ⟨hp, e, hpre, he⟩ := ended_iff.mp hh
  obtain ⟨hp', e', hpre', he'⟩ := ended_iff.mp hh'
  have hh := (List.prefix_append h [e]).trans hpre
  have hh' := (List.prefix_append h' [e']).trans hpre'
  -- the earlier moment would have ended the waiting that goes on until the later one
  rcases lt_trichotomy h.length h'.length with hlt | heq | hgt
  · have hinside : h ++ [e] <+: h' :=
      List.prefix_of_prefix_length_le hpre hh' (by simpa using hlt)
    rw [hp'.quiet hp hinside] at he
    cases he
  · exact (List.prefix_of_prefix_length_le hh hh' heq.le).eq_of_length heq
  · have hinside : h' ++ [e'] <+: h :=
      List.prefix_of_prefix_length_le hpre' hh (by simpa using hgt)
    rw [hp.quiet hp' hinside] at he'
    cases he'

variable (here) in
/-- A change that came in still waits, or its waiting ended. -/
lemma waits_or_ended {path : String} {change : Change}
    (hn : history[n]? = some (.receive path change)) :
    Waits here history n ⟨Path.resolve here path, path, change⟩ ∨
      ∃ h, Ended here history n ⟨Path.resolve here path, path, change⟩ h := by
  induction history using List.reverseRecOn with
  | nil => simp at hn
  | append_singleton history e ih =>
    rcases lt_trichotomy n history.length with hlt | heq | hgt
    · rw [List.getElem?_append_left hlt] at hn
      rcases ih hn with hw | ⟨h, hended⟩
      · cases he : e.ends here (Path.resolve here path) with
        | true => exact .inr ⟨history, ended_iff.mpr ⟨hw, e, List.prefix_refl _, he⟩⟩
        | false => exact .inl (waits_concat.mpr (.inl ⟨hw, he⟩))
      · obtain ⟨hw, e', hpre, he'⟩ := ended_iff.mp hended
        exact .inr ⟨h, ended_iff.mpr ⟨hw, e', hpre.trans (List.prefix_append _ _), he'⟩⟩
    · subst heq
      obtain rfl : e = .receive path change := by simpa using hn
      exact .inl (waits_concat.mpr (.inr ⟨rfl, rfl, rfl⟩))
    · rw [List.getElem?_eq_none (by simp; omega)] at hn
      cases hn

end

/-! ## What is pending -/

namespace Watcher

lemma accept_frame (w : Watcher) (path : String) (vs : List Violation) :
    (w.accept path vs).pending = w.pending ∧ (w.accept path vs).here = w.here := by
  obtain ⟨v, ⟨console, notices, rfl⟩, ⟨-, h⟩ | ⟨d, -, h⟩⟩ := accept_cases w path vs
  · rw [h]
    exact ⟨rfl, rfl⟩
  · rw [h]
    exact ⟨rfl, rfl⟩

/-- A call leaves alone what is pending, and the current directory. -/
lemma process_frame (w : Watcher) (path : String) (change : Change) :
    (w.process path change).pending = w.pending ∧ (w.process path change).here = w.here := by
  obtain ⟨v, ⟨console, notices, rfl⟩, ⟨-, h⟩ | ⟨vs, -, -, h⟩ | ⟨f, -, -, h⟩⟩ :=
    process_cases w path change
  · rw [h]
    exact ⟨rfl, rfl⟩
  · rw [h]
    exact accept_frame _ path vs
  · rw [h]
    exact ⟨rfl, rfl⟩

/-- When the time of a file is over, the change that is pending for it is processed, or nothing
happens if there is none. -/
lemma expire_cases (w : Watcher) (file : Location) :
    (∃ p ∈ w.pending, p.file = file ∧ w.expire file =
      { w.process p.path p.change with pending := w.pending.filter fun q => q.file ≠ file }) ∨
    ((∀ p ∈ w.pending, p.file ≠ file) ∧ w.expire file = w) := by
  rw [expire]
  cases hfind : w.pending.find? fun p => p.file = file with
  | none => exact .inr ⟨by simpa using List.find?_eq_none.mp hfind, rfl⟩
  | some p =>
    exact .inl ⟨p, List.mem_of_find?_eq_some hfind, by simpa using List.find?_some hfind, rfl⟩

end Watcher

lemma here_apply (e : Event) (w : Watcher) : (e.apply w).here = w.here := by
  cases e with
  | expire file =>
    obtain ⟨p, -, -, h⟩ | ⟨-, h⟩ := w.expire_cases file
    · exact (congrArg Watcher.here h).trans (w.process_frame p.path p.change).2
    · exact congrArg Watcher.here h
  | process path change => exact (w.process_frame path change).2
  | accept path vs => exact (w.accept_frame path vs).2
  | fail path f =>
    obtain ⟨console, notices, h⟩ := w.tells_logFailure path f
    rw [Event.apply, h]
  | _ => rfl

/-- What an event does to what is pending, whatever else goes on. -/
lemma pending_apply (e : Event) (w : Watcher) : (e.apply w).pending =
    w.pending.filter (fun p => !e.ends w.here p.file) ++ match e with
      | .receive path change => [⟨Path.resolve w.here path, path, change⟩]
      | _ => [] := by
  have hkept : w.pending = w.pending.filter (fun _ => true) ++ [] := by simp
  cases e with
  | receive path change =>
    show w.pending.filter _ ++ _ = _
    congr 1
    refine List.filter_congr fun p _ => ?_
    simp [Event.ends, eq_comm (a := p.file)]
  | expire file =>
    rw [List.append_nil]
    obtain ⟨p, -, -, h⟩ | ⟨hnone, h⟩ := w.expire_cases file
    · refine (congrArg Watcher.pending h).trans (List.filter_congr fun q _ => ?_)
      simp [Event.ends, eq_comm (a := q.file)]
    · refine (congrArg Watcher.pending h).trans (List.filter_eq_self.mpr fun q hq => ?_).symm
      simp [Event.ends, Ne.symm (hnone q hq)]
  | cleanup => simp [Event.apply, Watcher.cleanup, Event.ends]
  | process path change => exact (w.process_frame path change).1.trans hkept
  | accept path vs => exact (w.accept_frame path vs).1.trans hkept
  | fail path f =>
    obtain ⟨console, notices, h⟩ := w.tells_logFailure path f
    exact (congrArg Watcher.pending h).trans hkept
  | rewrite d => exact hkept

lemma here_run (w : Watcher) (events : List Event) : (run w events).here = w.here := by
  induction events using List.reverseRecOn with
  | nil => rfl
  | append_singleton events e ih => rw [run_concat, here_apply, ih]

/-- What is pending is what waits in the history. -/
lemma mem_pending_run {w : Watcher} (hw : w.pending = []) (events : List Event) (p : Pending) :
    p ∈ (run w events).pending ↔ ∃ n, Waits w.here events n p := by
  induction events using List.reverseRecOn with
  | nil =>
    simp only [run_nil, hw, List.not_mem_nil, false_iff, not_exists]
    rintro n ⟨-, before, after, hsplit, -⟩
    simp at hsplit
  | append_singleton events e ih =>
    rw [run_concat, pending_apply, here_run, List.mem_append, List.mem_filter, ih]
    simp only [waits_concat, exists_or]
    refine or_congr ?_ ?_
    · simp
    · cases e with
      | receive path change =>
        obtain ⟨file, ppath, pchange⟩ := p
        simp only [List.mem_singleton, Pending.mk.injEq, exists_eq_left, Event.receive.injEq]
        constructor
        · rintro ⟨rfl, rfl, rfl⟩
          exact ⟨⟨rfl, rfl⟩, rfl⟩
        · rintro ⟨⟨rfl, rfl⟩, rfl⟩
          exact ⟨rfl, rfl, rfl⟩
      | _ => simp

/-- No file is pending twice. -/
lemma nodup_pending_run {w : Watcher} (hw : w.pending = []) (events : List Event) :
    ((run w events).pending.map Pending.file).Nodup := by
  induction events using List.reverseRecOn with
  | nil => simp [hw]
  | append_singleton events e ih =>
    rw [run_concat, pending_apply, List.map_append]
    have hkept : (((run w events).pending.filter fun p =>
        !e.ends (run w events).here p.file).map Pending.file).Nodup :=
      (List.filter_sublist.map Pending.file).nodup ih
    cases e with
    | receive path change =>
      refine hkept.append (List.nodup_singleton _) ?_
      -- those that stay are about other files than the one that comes in
      rw [List.map_singleton, List.disjoint_singleton]
      intro hmem
      obtain ⟨p, hp, hfile⟩ := List.mem_map.mp hmem
      simpa [Event.ends, hfile] using (List.mem_filter.mp hp).2
    | _ => simpa using hkept

/-- Without a change that comes in, nothing becomes pending. -/
lemma pending_run_eq_nil {w : Watcher} (hw : w.pending = []) {events : List Event}
    (hquiet : ∀ path change, .receive path change ∉ events) : (run w events).pending = [] := by
  rw [List.eq_nil_iff_forall_not_mem]
  intro p hp
  obtain ⟨n, -, before, after, rfl, -⟩ := (mem_pending_run hw events p).mp hp
  exact hquiet p.path p.change (by simp)

/-- When the time of a file is over, the change that waits for it is processed. -/
lemma expire_run {w : Watcher} (hw : w.pending = []) (events : List Event) (file : Location) :
    (∃ n p, Waits w.here events n p ∧ p.file = file ∧
      (run w events).expire file = { (run w events).process p.path p.change with
        pending := (run w events).pending.filter fun q => q.file ≠ file }) ∨
    ((∀ n p, Waits w.here events n p → p.file ≠ file) ∧
      (run w events).expire file = run w events) := by
  obtain ⟨p, hp, hfile, h⟩ | ⟨hnone, h⟩ := (run w events).expire_cases file
  · obtain ⟨n, hn⟩ := (mem_pending_run hw events p).mp hp
    exact .inl ⟨n, p, hn, hfile, h⟩
  · exact .inr ⟨fun n p hn => hnone p ((mem_pending_run hw events p).mpr ⟨n, hn⟩), h⟩

/-! ## The main result -/

/-- **Each change waits until its time is over, a later change takes its place, or it is
cancelled.**  Whatever happens to a watcher that was started: for each file the one change that
waits is pending, and nothing else; when the time of a file is over that change is processed, under
the path that it came with, and the other files go on waiting; a change that came in waits or has
ended, and has ended once; and after a cleanup nothing is left to process until another change comes
in. -/
theorem waiting_run {d : Disk} {here : Location} {options : Value} {w₀ : Watcher}
    (hstart : Watcher.start d here options = .ok w₀) (events : List Event) :
    let w := run w₀ events
    -- what is pending
    ((w.pending.map Pending.file).Nodup ∧
      (∀ p, p ∈ w.pending ↔ ∃ n, Waits w.here events n p) ∧
      ∀ n m p q, Waits w.here events n p → Waits w.here events m q → p.file = q.file →
        n = m ∧ p = q) ∧
    -- what the end of a waiting time does
    (∀ file,
      (∃ n p, Waits w.here events n p ∧ p.file = file ∧
        w.expire file = { w.process p.path p.change with
          pending := w.pending.filter fun q => q.file ≠ file }) ∨
      ((∀ n p, Waits w.here events n p → p.file ≠ file) ∧ w.expire file = w)) ∧
    -- what becomes of a change that came in
    (∀ n path change, events[n]? = some (.receive path change) →
      let p : Pending := ⟨Path.resolve w.here path, path, change⟩
      (Waits w.here events n p ∧ ∀ h, ¬ Ended w.here events n p h) ∨
        (¬ Waits w.here events n p ∧ ∃! h, Ended w.here events n p h)) ∧
    -- what a cleanup leaves
    ∀ before after, events = before ++ .cleanup :: after →
      (∀ path change, .receive path change ∉ after) →
        w.pending = [] ∧ ∀ file, w.expire file = w := by
  obtain ⟨-, -, hw⟩ := Watcher.start_eq hstart
  intro w
  have hhere : w.here = w₀.here := here_run w₀ events
  rw [hhere]
  refine ⟨⟨nodup_pending_run hw events, mem_pending_run hw events, ?_⟩, expire_run hw events,
    ?_, ?_⟩
  · intro n m p q hp hq hfile
    exact hp.unique hq hfile
  · intro n path change hn
    rcases waits_or_ended w₀.here hn with hwaits | ⟨h, hended⟩
    · exact .inl ⟨hwaits, fun _ => hwaits.not_ended⟩
    · exact .inr ⟨fun hwaits => hwaits.not_ended hended, h, hended, fun _ h' => h'.unique hended⟩
  · intro before after hevents hquiet
    have hrun : w = run (run w₀ before).cleanup after := by
      simp only [w, hevents, run, List.foldl_append, List.foldl_cons]
      rfl
    have hnil : w.pending = [] := by
      rw [hrun]
      exact pending_run_eq_nil rfl hquiet
    refine ⟨hnil, fun file => ?_⟩
    obtain ⟨p, hp, -⟩ | ⟨-, h⟩ := w.expire_cases file
    · rw [hnil] at hp
      cases hp
    · exact h

/-- Two spellings of one path, with a change of another file in between: the second spelling takes
the place of the first, and it is the one that is processed. -/
theorem waiting_run_two_spellings :
    let events : List Event :=
      [.receive "/a.py" .changed, .receive "/b.py" .added, .receive "/./a.py" .removed]
    ∃ w₀, Watcher.start {} [] (.object []) = .ok w₀ ∧
      let w := run w₀ events
      w.expire ["a.py"] = { w.process "/./a.py" .removed with
        pending := w.pending.filter fun q => q.file ≠ ["a.py"] } ∧
      ⟨["b.py"], "/b.py", .added⟩ ∈ w.pending ∧
      ∃! h, Ended w.here events 0 ⟨["a.py"], "/a.py", .changed⟩ h := by
  intro events
  obtain ⟨w₀, hstart⟩ : ∃ w, Watcher.start {} [] (.object []) = .ok w :=
    Watcher.exists_start {} [] (by simp) rfl
  obtain ⟨⟨-, hpending, hunique⟩, hexpire, hreceived, -⟩ := waiting_run hstart events
  have ha (here : Location) : Path.resolve here "/a.py" = ["a.py"] := by cbv
  have ha' (here : Location) : Path.resolve here "/./a.py" = ["a.py"] := by cbv
  have hb (here : Location) : Path.resolve here "/b.py" = ["b.py"] := by cbv
  have hlast : Waits (run w₀ events).here events 2 ⟨["a.py"], "/./a.py", .removed⟩ :=
    ⟨(ha' _).symm, [.receive "/a.py" .changed, .receive "/b.py" .added], [], rfl, rfl, by simp⟩
  refine ⟨w₀, hstart, ?_, (hpending _).mpr ⟨1, (hb _).symm, [.receive "/a.py" .changed],
    [.receive "/./a.py" .removed], rfl, rfl, by simp [Event.ends, ha']⟩, ?_⟩
  · rcases hexpire ["a.py"] with ⟨n, p, hwaits, hfile, h⟩ | ⟨hnone, -⟩
    · obtain ⟨-, rfl⟩ := hunique n 2 p _ hwaits hlast hfile
      exact h
    · exact absurd rfl (hnone _ _ hlast)
  · have hfirst := hreceived 0 "/a.py" .changed rfl
    simp only [ha] at hfirst
    rcases hfirst with ⟨hwaits, -⟩ | ⟨-, hended⟩
    · cases (hunique _ _ _ _ hwaits hlast rfl).1
    · exact hended

end QualityGate.Watch
