/-
# Is the status file up to date?

A watcher writes its report to the status file when an analysis has succeeded, and at no other time.
A removal takes the file out of the tables and leaves the status file as it is, so that other tools
read about a file that is gone until the next analysis succeeds.

`apply_cases` says what an event does to the tables and to the status file: it brings the outcome of
an analysis (`Event.outcome?`), it makes the watcher forget a file (`Event.forgotten?`), or it does
neither.  Once the status file is there it can be written again (`Disk.exists_write_of_read`), so
that along every run it is the report on the state after the last analysis that succeeded
(`exists_current`), and what was forgotten since then is all that it does not know
(`forgets_run`).

`statusFile_run` puts this together: the status file is up to date just as long as no file that it
lists has been forgotten.
-/
import Mathlib
import QualityGate.Proofs.DiskWrite
import QualityGate.Proofs.WatcherDelays

namespace QualityGate.Watch

open Table (keys)

/-! ## What an event is about -/

namespace Event

/-- The change that an event processes, if it is one that processes a change. -/
def processed? (w : Watcher) : Event → Option (String × Change)
  | process path change => some (path, change)
  | expire file => (w.pending.find? fun p => p.file = file).map fun p => (p.path, p.change)
  | _ => none

/-- The file whose analysis succeeds in an event, and the violations that it comes to. -/
def outcome? (w : Watcher) : Event → Option (String × List Violation)
  | accept path vs => some (path, vs)
  | e =>
    match e.processed? w with
    | none => none
    | some (path, change) =>
      if change = .removed then none
      else (analyze w.disk w.here w.quality path).toOption.map fun vs => (path, vs)

/-- The file that an event makes a watcher forget. -/
def forgotten? (w : Watcher) (e : Event) : Option String :=
  match e.processed? w with
  | some (path, .removed) => some path
  | _ => none

end Event

namespace Watcher

/-! ## What an event does -/

/-- The outcome of an analysis is taken over, and the report on the new state is written, unless
the system refuses that. -/
structure Takes (w v : Watcher) (path : String) (vs : List Violation) : Prop where
  here : v.here = w.here
  clock : v.clock = w.clock
  counts : v.counts = w.counts.set path vs.length
  last : v.last = w.last.set path vs
  written : w.disk.writeText w.here statusFile v.reportText = .ok v.disk ∨
    ∃ e, w.disk.writeText w.here statusFile v.reportText = .error e ∧ v.disk = w.disk

/-- A status file that is there becomes the report on the new state. -/
lemma Takes.read_of_read {w v : Watcher} {path : String} {vs : List Violation} {old : ByteArray}
    (h : Takes w v path vs) (hold : w.disk.read w.here statusFile = .ok old) :
    v.disk.read w.here statusFile = .ok v.reportText.toUTF8 := by
  obtain ⟨d, hwrite, hread⟩ := Disk.exists_write_of_read hold v.reportText.toUTF8
  rw [← Disk.writeText] at hwrite
  obtain hd | ⟨e, he, -⟩ := h.written
  · cases hwrite.symm.trans hd
    exact hread
  · cases hwrite.symm.trans he

/-- Files are forgotten and nothing else is changed in the tables. -/
structure Forgets (w v : Watcher) (gone : List String) : Prop where
  here : v.here = w.here
  clock : v.clock = w.clock
  counts : v.counts = gone.foldl Table.erase w.counts
  last : v.last = gone.foldl Table.erase w.last

lemma Forgets.trans {w v u : Watcher} {gone more : List String} (h : Forgets w v gone)
    (h' : Forgets v u more) : Forgets w u (gone ++ more) where
  here := h'.here.trans h.here
  clock := h'.clock.trans h.clock
  counts := by rw [List.foldl_append, ← h.counts, h'.counts]
  last := by rw [List.foldl_append, ← h.last, h'.last]

lemma takes_accept {w v : Watcher} (h : Tells w v) (path : String) (vs : List Violation) :
    Takes w (v.accept path vs) path vs := by
  obtain ⟨console, notices, rfl⟩ := h
  obtain ⟨u, ⟨console', notices', rfl⟩, ⟨⟨e, hwrite⟩, h⟩ | ⟨d, hwrite, h⟩⟩ := accept_cases _ path vs
  · rw [h]
    exact ⟨rfl, rfl, rfl, rfl, .inr ⟨e, hwrite, rfl⟩⟩
  · rw [h]
    exact ⟨rfl, rfl, rfl, rfl, .inl hwrite⟩

/-- What the processing of a change does. -/
lemma process_effect (w : Watcher) (path : String) (change : Change) :
    (∃ vs, (Event.process path change).outcome? w = some (path, vs) ∧
      Takes w (w.process path change) path vs) ∨
    ((Event.process path change).outcome? w = none ∧
      Forgets w (w.process path change) ((Event.process path change).forgotten? w).toList ∧
      (w.process path change).disk = w.disk) := by
  obtain ⟨v, htells, ⟨rfl, h⟩ | ⟨vs, hchange, hvs, h⟩ | ⟨f, hchange, hf, h⟩⟩ :=
    process_cases w path change
  · obtain ⟨console, notices, rfl⟩ := htells
    rw [h]
    exact .inr ⟨rfl, ⟨rfl, rfl, rfl, rfl⟩, rfl⟩
  · rw [h]
    refine .inl ⟨vs, ?_, takes_accept htells path vs⟩
    simp [Event.outcome?, Event.processed?, hchange, hvs, Except.toOption]
  · obtain ⟨console, notices, rfl⟩ := htells
    have hgone : (Event.process path change).forgotten? w = none := by
      cases change with
      | removed => exact absurd rfl hchange
      | _ => rfl
    rw [h, hgone]
    refine .inr ⟨?_, ⟨rfl, rfl, rfl, rfl⟩, rfl⟩
    simp [Event.outcome?, Event.processed?, hchange, hf, Except.toOption]

/-- What an event does to the tables and to the status file. -/
lemma apply_cases (w : Watcher) (e : Event) :
    (∃ path vs, e.outcome? w = some (path, vs) ∧ Takes w (e.apply w) path vs) ∨
    (e.outcome? w = none ∧ Forgets w (e.apply w) (e.forgotten? w).toList ∧
      ((e.apply w).disk = w.disk ∨ ∃ d, e = .rewrite d ∧ (e.apply w).disk = d)) := by
  cases e with
  | process path change =>
    obtain ⟨vs, hvs, h⟩ | ⟨hnone, h, hdisk⟩ := process_effect w path change
    · exact .inl ⟨path, vs, hvs, h⟩
    · exact .inr ⟨hnone, h, .inl hdisk⟩
  | accept path vs => exact .inl ⟨path, vs, rfl, takes_accept (.refl w) path vs⟩
  | expire file =>
    rw [Event.apply]
    cases hfind : w.pending.find? fun p => p.file = file with
    | none =>
      have hexpire : w.expire file = w := by
        rw [expire, hfind]
      rw [hexpire]
      refine .inr ⟨by simp [Event.outcome?, Event.processed?, hfind], ?_, .inl rfl⟩
      simp only [Event.forgotten?, Event.processed?, hfind]
      exact ⟨rfl, rfl, rfl, rfl⟩
    | some p =>
      have hexpire : w.expire file = { w.process p.path p.change with
          pending := w.pending.filter fun q => q.file ≠ file } := by
        rw [expire, hfind]
      have hprocessed : (Event.expire file).processed? w =
          (Event.process p.path p.change).processed? w := by
        simp [Event.processed?, hfind]
      have houtcome : (Event.expire file).outcome? w =
          (Event.process p.path p.change).outcome? w := by
        simp only [Event.outcome?, hprocessed]
      have hforgotten : (Event.expire file).forgotten? w =
          (Event.process p.path p.change).forgotten? w := by
        simp only [Event.forgotten?, hprocessed]
      rw [houtcome, hforgotten, hexpire]
      obtain ⟨vs, hvs, h⟩ | ⟨hnone, h, hdisk⟩ := process_effect w p.path p.change
      · exact .inl ⟨p.path, vs, hvs, ⟨h.here, h.clock, h.counts, h.last, h.written⟩⟩
      · exact .inr ⟨hnone, ⟨h.here, h.clock, h.counts, h.last⟩, .inl hdisk⟩
  | receive path change => exact .inr ⟨rfl, ⟨rfl, rfl, rfl, rfl⟩, .inl rfl⟩
  | cleanup => exact .inr ⟨rfl, ⟨rfl, rfl, rfl, rfl⟩, .inl rfl⟩
  | fail path f =>
    obtain ⟨console, notices, h⟩ := tells_logFailure w path f
    change _ ∨ _ ∧ Forgets w (w.logFailure path f) _ ∧ ((w.logFailure path f).disk = _ ∨ _)
    rw [h]
    exact .inr ⟨rfl, ⟨rfl, rfl, rfl, rfl⟩, .inl rfl⟩
  | rewrite d => exact .inr ⟨rfl, ⟨rfl, rfl, rfl, rfl⟩, .inr ⟨d, rfl, rfl⟩⟩

end Watcher

open Watcher (Forgets Takes statusFile)

/-! ## Runs without an outcome -/

/-- No analysis succeeds in a run. -/
def Quiet (w : Watcher) : List Event → Prop
  | [] => True
  | e :: es => e.outcome? w = none ∧ Quiet (e.apply w) es

/-- The files that are forgotten in a run. -/
def forgotten (w : Watcher) : List Event → List String
  | [] => []
  | e :: es => (e.forgotten? w).toList ++ forgotten (e.apply w) es

lemma run_append (w : Watcher) (events more : List Event) :
    run w (events ++ more) = run (run w events) more := by
  simp [run]

lemma quiet_concat {w : Watcher} {events : List Event} {e : Event} (h : Quiet w events)
    (he : e.outcome? (run w events) = none) : Quiet w (events ++ [e]) := by
  induction events generalizing w with
  | nil => exact ⟨he, trivial⟩
  | cons f events ih => exact ⟨h.1, ih h.2 he⟩

/-- As long as no analysis succeeds, the tables only lose what is forgotten. -/
lemma forgets_run {w : Watcher} {events : List Event} (h : Quiet w events) :
    Forgets w (run w events) (forgotten w events) := by
  induction events generalizing w with
  | nil => exact ⟨rfl, rfl, rfl, rfl⟩
  | cons e events ih =>
    obtain ⟨path, vs, hsome, -⟩ | ⟨-, hstep, -⟩ := w.apply_cases e
    · simp [h.1] at hsome
    · exact hstep.trans (ih h.2)

/-! ## The status file along a run -/

/-- What others do in a run leaves the status file alone, once it is there. -/
def Undisturbed (w : Watcher) (events : List Event) : Prop :=
  ∀ before d after, events = before ++ .rewrite d :: after → ∀ bytes,
    (run w before).disk.read w.here statusFile = .ok bytes → d.read w.here statusFile = .ok bytes

lemma Undisturbed.of_concat {w : Watcher} {events : List Event} {e : Event}
    (h : Undisturbed w (events ++ [e])) : Undisturbed w events := by
  rintro before d after rfl
  exact h before d (after ++ [e]) (by simp)

/-- Once an analysis has succeeded and the status file could be written, that file is the report on
the state after the last analysis that has succeeded. -/
lemma exists_current {w : Watcher} {events before after : List Event} {e : Event}
    (hquiet : Undisturbed w events) (hsplit : events = before ++ e :: after)
    (he : e.outcome? (run w before) ≠ none)
    (hwritten : (run w (before ++ [e])).disk.read w.here statusFile =
      .ok (run w (before ++ [e])).reportText.toUTF8) :
    ∃ earlier f later, events = earlier ++ f :: later ∧ f.outcome? (run w earlier) ≠ none ∧
      Quiet (run w (earlier ++ [f])) later ∧
      (run w events).disk.read w.here statusFile =
        .ok (run w (earlier ++ [f])).reportText.toUTF8 := by
  induction events using List.reverseRecOn generalizing after with
  | nil => simp at hsplit
  | append_singleton events g ih =>
    obtain rfl | ⟨after, g', rfl⟩ := List.eq_nil_or_concat' after
    · -- nothing has happened since
      rw [hsplit]
      exact ⟨before, e, [], rfl, he, trivial, hwritten⟩
    · rw [← List.cons_append, ← List.append_assoc] at hsplit
      obtain ⟨hevents, hg⟩ := List.append_inj' hsplit rfl
      obtain rfl : g = g' := by simpa using hg
      obtain ⟨earlier, f, later, hsplit', hf, hlater, hread⟩ := ih hquiet.of_concat hevents
      have hrun : run w events = run (run w (earlier ++ [f])) later := by
        rw [hsplit', ← run_append]
        simp
      obtain ⟨path, vs, hsome, hstep⟩ | ⟨hnone, hstep, hdisk⟩ := (run w events).apply_cases g
      · -- one more analysis succeeds, and its report takes the place of the old one
        refine ⟨events, g, [], rfl, by simp [hsome], trivial, ?_⟩
        rw [run_concat, ← here_run w events]
        exact hstep.read_of_read (by rw [here_run, hread])
      · refine ⟨earlier, f, later ++ [g], by simp [hsplit'], hf, quiet_concat hlater ?_, ?_⟩
        · rwa [← hrun]
        · rw [run_concat]
          obtain hdisk | ⟨d, rfl, hdisk⟩ := hdisk
          · rw [hdisk, hread]
          · rw [hdisk]
            exact hquiet events d [] rfl _ hread

/-! ## What the status file does not know -/

lemma foldl_erase {α : Type} (gone : List String) (t : Table α) :
    gone.foldl Table.erase t = t.filter fun x => x.1 ∉ gone := by
  induction gone generalizing t with
  | nil => simp
  | cons file gone ih =>
    rw [List.foldl_cons, ih, Table.erase, List.filter_filter]
    refine List.filter_congr fun x _ => ?_
    simp [Bool.and_comm]

/-- Nothing is lost when the files that are forgotten were not known. -/
lemma filter_keys_eq_self {α : Type} {t : Table α} {gone : List String} :
    (t.filter fun x => x.1 ∉ gone) = t ↔ ∀ file ∈ gone, file ∉ keys t := by
  rw [List.filter_eq_self]
  constructor
  · intro h file hfile hmem
    obtain ⟨x, hx, rfl⟩ := List.mem_map.mp hmem
    exact absurd hfile (by simpa using h x hx)
  · intro h x hx
    simpa using fun hgone => h x.1 hgone (List.mem_map_of_mem hx)

/-- The entries that are left add up to the same number just when the others are zero. -/
lemma foldr_filter_eq_iff (p : String × Nat → Bool) (t : Table Nat) :
    (t.filter p).foldr (fun c n => c.2 + n) 0 = t.foldr (fun c n => c.2 + n) 0 ↔
      ∀ x ∈ t, p x = false → x.2 = 0 := by
  have hle : ∀ t : Table Nat, (t.filter p).foldr (fun c n => c.2 + n) 0 ≤
      t.foldr (fun c n => c.2 + n) 0 := by
    intro t
    induction t with
    | nil => exact Nat.le_refl _
    | cons x t ih => by_cases hx : p x = true <;> simp [hx] <;> omega
  induction t with
  | nil => simp
  | cons x t ih =>
    have hle := hle t
    by_cases hx : p x = true
    · rw [List.filter_cons_of_pos hx]
      simpa [hx] using ih
    · rw [List.filter_cons_of_neg hx]
      simp only [List.foldr_cons, List.forall_mem_cons, ← ih]
      constructor
      · intro h
        exact ⟨fun _ => by omega, by omega⟩
      · rintro ⟨hzero, h⟩
        rw [h, hzero (by simpa using hx), Nat.zero_add]

namespace Watcher

variable {w v : Watcher} {gone : List String}

/-- A report is about the tables, and it is dated and tells paths from the current directory. -/
lemma reportText_eq (w : Watcher) : w.reportText = reportText {
    disk := {}, here := w.here, clock := w.clock, counts := w.counts, last := w.last } := rfl

/-- The report changes just when a file is forgotten that was known. -/
lemma Forgets.report_eq_iff (h : Forgets w v gone) (hw : Paired w) :
    w.report = v.report ↔ ∀ file ∈ gone, file ∉ keys w.last := by
  have hkeys : keys w.counts = keys w.last := by rw [hw.counts, Table.keys_mapEntries]
  have hcounts := h.counts
  have hlast := h.last
  rw [foldl_erase] at hcounts hlast
  constructor
  · intro heq
    have hlength : w.counts.length = v.counts.length := by
      simp only [report, Value.object.injEq, List.cons.injEq, Prod.mk.injEq, Value.int.injEq] at heq
      exact_mod_cast heq.2.1.2.1.2
    rw [← hkeys, ← filter_keys_eq_self]
    exact List.filter_sublist.eq_of_length (by rw [hlength, ← hcounts])
  · intro hgone
    rw [filter_keys_eq_self.mpr hgone] at hlast
    rw [filter_keys_eq_self.mpr (hkeys ▸ hgone)] at hcounts
    simp only [report, total, filesWithIssues, score, h.here, h.clock, hcounts, hlast]

/-- The status in short changes just when a file is forgotten that had violations. -/
lemma Forgets.status_eq_iff (h : Forgets w v gone) :
    w.status = v.status ↔ ∀ x ∈ w.counts, x.1 ∈ gone → x.2 = 0 := by
  have hcounts := h.counts
  rw [foldl_erase] at hcounts
  have htotal : v.total = w.total ↔ ∀ x ∈ w.counts, x.1 ∈ gone → x.2 = 0 := by
    rw [total, total, hcounts, foldr_filter_eq_iff]
    simp
  constructor
  · intro heq
    rw [← htotal]
    simp only [status, Value.object.injEq, List.cons.injEq, Prod.mk.injEq, Value.int.injEq] at heq
    exact_mod_cast heq.1.2.symm
  · intro hzero
    have hfiles : v.filesWithIssues = w.filesWithIssues := by
      rw [filesWithIssues, filesWithIssues, hcounts, List.countP_filter]
      refine List.countP_congr fun x hx => ?_
      simp only [Bool.and_eq_true, decide_eq_true_eq]
      exact ⟨And.left, fun hpos => ⟨hpos, fun hgone => hpos.ne' (hzero x hx hgone)⟩⟩
    simp only [status, score, htotal.mpr hzero, hfiles]

end Watcher

/-- **The status file is as old as the last analysis that succeeded.**  Let a watcher be in use, and
let others leave the status file alone once it is there.  As soon as an analysis has succeeded and
its report could be written, the status file is always the report on the state right after the last
analysis that has succeeded.  The tables are those of that state without the files that were
forgotten since.  So the status file agrees with them just as long as none of these files is listed
in it, and its totals with the status in short just as long as none of them had violations. -/
theorem statusFile_run {d : Disk} {here : Location} {options : Value} {w₀ : Watcher}
    (hstart : Watcher.start d here options = .ok w₀) {events before after : List Event} {e : Event}
    (hquiet : Undisturbed w₀ events) (hsplit : events = before ++ e :: after)
    (he : e.outcome? (run w₀ before) ≠ none)
    (hwritten : (run w₀ (before ++ [e])).disk.read w₀.here statusFile =
      .ok (run w₀ (before ++ [e])).reportText.toUTF8) :
    ∃ earlier f later, events = earlier ++ f :: later ∧ f.outcome? (run w₀ earlier) ≠ none ∧
      Quiet (run w₀ (earlier ++ [f])) later ∧
      let seen := run w₀ (earlier ++ [f])
      let w := run w₀ events
      let gone := forgotten seen later
      w.disk.read w₀.here statusFile = .ok seen.reportText.toUTF8 ∧
      w.counts = gone.foldl Table.erase seen.counts ∧ w.last = gone.foldl Table.erase seen.last ∧
      (seen.report = w.report ↔ ∀ file ∈ gone, file ∉ keys seen.last) ∧
      (seen.status = w.status ↔ ∀ x ∈ seen.counts, x.1 ∈ gone → x.2 = 0) := by
  obtain ⟨hcounts, hlast, -⟩ := Watcher.start_eq hstart
  obtain ⟨earlier, f, later, hevents, hf, hlater, hread⟩ :=
    exists_current hquiet hsplit he hwritten
  refine ⟨earlier, f, later, hevents, hf, hlater, ?_⟩
  intro seen w gone
  have hpaired : seen.Paired := Watcher.paired_run
    ⟨by rw [hcounts, hlast]; rfl, by rw [hlast]; exact List.nodup_nil⟩ (earlier ++ [f])
  have hrun : w = run seen later := by
    simp only [w, seen, ← run_append, hevents, List.append_assoc, List.singleton_append]
  have hforgets : Forgets seen w gone := by
    rw [hrun]
    exact forgets_run hlater
  exact ⟨hread, hforgets.counts, hforgets.last, hforgets.report_eq_iff hpaired,
    hforgets.status_eq_iff⟩

/-- A watcher that is started without options in a directory without rules. -/
lemma start_default {d : Disk} (h : d.get? ["quality-config.json"] = none) :
    ∃ w, Watcher.start d [] (.object []) = .ok w ∧ w.disk = d ∧ w.here = [] ∧
      w.clock = "1970-01-01T00:00:00.000Z" ∧ w.quality = defaultQuality := by
  have hfields : heldFields (Value.update defaultOptions (Watcher.optionFields (.object []))) =
      defaultOptions := rfl
  have hpath : defaultOptions.lookup "qualityConfigPath" = some (.text "quality-config.json") := rfl
  have hresolve : Path.resolve [] "quality-config.json" = ["quality-config.json"] := by
    decide +kernel
  have hmissing : d.pathExists [] (Location.path ["quality-config.json"]).text = false :=
    Disk.pathExists_of_missing (by decide) h
  have hquality : Watcher.readQuality { disk := d, here := [], options := defaultOptions } =
      .ok none := by
    rw [Watcher.readQuality, Watcher.option?, hpath]
    simp only [hresolve, hmissing]
    rfl
  unfold Watcher.start
  simp only [hfields, Watcher.loadQuality, hquality]
  exact ⟨_, rfl, rfl, rfl, rfl, rfl⟩

/-- An empty module is added in a directory that is empty otherwise: nothing is found in it, and the
report is written. -/
lemma run_added {w : Watcher} (hd : w.disk = ⟨[(["a.py"], .file "".toUTF8)]⟩) (hhere : w.here = [])
    (hquality : w.quality = defaultQuality) :
    let v := run w [.process "a.py" .added]
    (Event.process "a.py" .added).outcome? w = some ("a.py", []) ∧ Takes w v "a.py" [] ∧
      v.disk.read w.here statusFile = .ok v.reportText.toUTF8 := by
  intro v
  have hanalyze : analyze w.disk w.here w.quality "a.py" = .ok [] := by
    rw [hd, hhere, hquality]
    cbv
  have houtcome : (Event.process "a.py" .added).outcome? w = some ("a.py", []) := by
    simp [Event.outcome?, Event.processed?, hanalyze, Except.toOption]
  have haccept : Disk.Accepted statusFile :=
    (by decide)
  have hnames : Disk.namesToFollow statusFile = [statusFile] := by decide
  have hnone : w.disk.get? [statusFile] = none := by
    rw [hd]
    rfl
  have hwrite : w.disk.writeText w.here statusFile v.reportText =
      .ok (w.disk.set [statusFile] (.file v.reportText.toUTF8)) := by
    rw [hhere]
    exact Disk.write_in_root haccept hnames (by decide) hnone _
  obtain ⟨path, vs, hsome, htakes⟩ | ⟨hnone, -⟩ := w.apply_cases (.process "a.py" .added)
  · cases houtcome.symm.trans hsome
    refine ⟨houtcome, htakes, ?_⟩
    obtain hok | ⟨e, he, -⟩ := htakes.written
    · have hdisk : v.disk = w.disk.set [statusFile] (.file v.reportText.toUTF8) :=
        Except.ok.inj (hok.symm.trans hwrite)
      rw [hdisk, hhere]
      exact Disk.read_in_root haccept hnames (by decide) (Disk.get?_set_self _ (by simp))
    · cases hwrite.symm.trans he
  · simp [houtcome] at hnone

/-- A module is added and removed again: it stays in the status file, whose totals are right only
because there was nothing wrong with it. -/
theorem statusFile_run_removed :
    ∃ w₀, Watcher.start ⟨[(["a.py"], .file "".toUTF8)]⟩ [] (.object []) = .ok w₀ ∧
      let seen := run w₀ [.process "a.py" .added]
      let w := run w₀ [.process "a.py" .added, .process "a.py" .removed]
      w.disk.read w₀.here statusFile = .ok seen.reportText.toUTF8 ∧ keys seen.last = ["a.py"] ∧
        w.last = [] ∧ seen.report ≠ w.report ∧ seen.status = w.status := by
  obtain ⟨w₀, hstart, hd, hhere, -, hquality⟩ :=
    start_default (d := ⟨[(["a.py"], .file "".toUTF8)]⟩) rfl
  refine ⟨w₀, hstart, ?_⟩
  intro seen w
  obtain ⟨hcounts₀, hlast₀, -⟩ := Watcher.start_eq hstart
  obtain ⟨houtcome, htakes, hread⟩ := run_added hd hhere hquality
  have hquiet : Undisturbed w₀ [.process "a.py" .added, .process "a.py" .removed] := by
    intro before d after hsplit
    have hmem : Event.rewrite d ∈ [Event.process "a.py" .added, .process "a.py" .removed] := by
      rw [hsplit]
      simp
    simp at hmem
  obtain ⟨earlier, f, later, hsplit, hf, -, hstate⟩ :=
    statusFile_run hstart hquiet (List.nil_append _).symm (by rw [run_nil, houtcome]; simp) hread
  -- it is the first change whose analysis succeeds
  obtain ⟨rfl, rfl, rfl⟩ : earlier = [] ∧ f = .process "a.py" .added ∧
      later = [.process "a.py" .removed] := by
    cases earlier with
    | nil => simpa [eq_comm] using hsplit
    | cons g earlier =>
      cases earlier with
      | nil =>
        obtain ⟨-, rfl, -⟩ : _ ∧ Event.process "a.py" .removed = f ∧ _ := by simpa using hsplit
        exact absurd rfl hf
      | cons => simp at hsplit
  obtain ⟨hdisk, -, hlast, hreport, hstatus⟩ := hstate
  have hgone : forgotten seen [.process "a.py" .removed] = ["a.py"] := rfl
  have hseen : seen.last = [("a.py", [])] := by
    rw [htakes.last, hlast₀]
    rfl
  have hcounts : seen.counts = [("a.py", 0)] := by
    rw [htakes.counts, hcounts₀]
    rfl
  change w.last = (forgotten seen _).foldl Table.erase seen.last at hlast
  change seen.report = w.report ↔ ∀ file ∈ forgotten seen _, file ∉ keys seen.last at hreport
  change seen.status = w.status ↔ ∀ x ∈ seen.counts, x.1 ∈ forgotten seen _ → x.2 = 0 at hstatus
  rw [hgone, hseen] at hlast hreport
  rw [hcounts] at hstatus
  refine ⟨hdisk, by rw [hseen]; rfl, by simp [hlast, Table.erase], ?_, hstatus.mpr (by simp)⟩
  rw [Ne, hreport]
  simp [keys]

/-- The status file lists a file that was removed, although an analysis has succeeded. -/
theorem statusFile_stale :
    ∃ w₀, Watcher.start ⟨[(["a.py"], .file "".toUTF8)]⟩ [] (.object []) = .ok w₀ ∧
      (Event.process "a.py" .added).outcome? w₀ ≠ none ∧
      let w := run w₀ [.process "a.py" .added, .process "a.py" .removed]
      w.disk.read w₀.here statusFile ≠ .ok w.reportText.toUTF8 := by
  obtain ⟨w₀, hstart, hd, hhere, hclock, hquality⟩ :=
    start_default (d := ⟨[(["a.py"], .file "".toUTF8)]⟩) rfl
  obtain ⟨hcounts, hlast, -⟩ := Watcher.start_eq hstart
  obtain ⟨houtcome, htakes, hread⟩ := run_added hd hhere hquality
  refine ⟨w₀, hstart, by simp [houtcome], ?_⟩
  intro w
  obtain ⟨path, vs, hsome, -⟩ | ⟨-, hforgets, hdisk | ⟨d, hrewrite, -⟩⟩ :=
    (run w₀ [.process "a.py" .added]).apply_cases (.process "a.py" .removed)
  · cases hsome
  · have hw : w = (Event.process "a.py" .removed).apply (run w₀ [.process "a.py" .added]) := rfl
    have hseen : (run w₀ [.process "a.py" .added]).reportText = Watcher.reportText {
        disk := {}, here := [], counts := [("a.py", 0)], last := [("a.py", [])] } := by
      rw [Watcher.reportText_eq, htakes.here, htakes.clock, htakes.counts, htakes.last, hhere, hclock,
        hcounts, hlast]
      rfl
    have hnow : w.reportText = Watcher.reportText { disk := {}, here := [] } := by
      rw [hw, Watcher.reportText_eq, hforgets.here, hforgets.clock, hforgets.counts, hforgets.last,
        htakes.here, htakes.clock, htakes.counts, htakes.last, hhere, hclock, hcounts, hlast]
      rfl
    have hne : w.reportText ≠ (run w₀ [.process "a.py" .added]).reportText := by
      rw [hseen, hnow]
      decide
    rw [hw, hdisk, hread]
    intro hsame
    have hdecoded := congrArg Text.decodeUtf8 (Except.ok.inj hsame)
    rw [Disk.decodeUtf8_toUTF8, Disk.decodeUtf8_toUTF8] at hdecoded
    exact hne (Except.ok.inj hdecoded).symm
  · cases hrewrite

end QualityGate.Watch
