/-
# What a watcher keeps about files

A watcher keeps two tables, the numbers of violations and the violations themselves, and writes a
report whose totals come from the first table and whose list of files comes from the second.  The
tables belong together (`Paired`): this is kept when an analysis succeeds, when it fails and when a
file is removed, and so along every run (`paired_run`).  `accept_cases` and `process_cases` say what
one call can do; apart from the tables and the status file it only tells the user something
(`Tells`).

`tables_run`: in every state that is reached the two tables agree, a call changes no entry but that
of its own file, and the totals of the report are those of the files that it lists.
-/
import Mathlib
import QualityGate.Watch.Watcher

namespace QualityGate.Watch

/-! ## Tables -/

namespace Table

variable {α β : Type} {t : Table α} {file f : String} {a : α}

/-- The files of a table, in order. -/
def keys (t : Table α) : List String := t.map Prod.fst

lemma lookup_set_self (t : Table α) (file : String) (a : α) :
    (t.set file a).lookup file = some a := by
  induction t with
  | nil => simp [set]
  | cons x t ih =>
    obtain ⟨g, b⟩ := x
    rw [set]
    by_cases hg : g = file
    · simp [hg]
    · simpa [hg, List.lookup_cons, show (file == g) = false by simp [Ne.symm hg]] using ih

/-- A file that has an entry keeps its place, another one comes last. -/
lemma keys_set (t : Table α) (file : String) (a : α) :
    keys (t.set file a) = if file ∈ keys t then keys t else keys t ++ [file] := by
  induction t with
  | nil => simp [set, keys]
  | cons x t ih =>
    obtain ⟨g, b⟩ := x
    rw [set]
    by_cases hg : g = file
    · simp [hg, keys]
    · have hmem : file ∈ keys ((g, b) :: t) ↔ file ∈ keys t := by simp [keys, Ne.symm hg]
      rw [if_neg hg]
      simp only [hmem]
      change g :: keys (Table.set file a t) = _
      rw [ih]
      split <;> simp [keys]

lemma nodup_keys_set (h : (keys t).Nodup) : (keys (t.set file a)).Nodup := by
  rw [keys_set]
  split
  · exact h
  · next hfile => simpa [List.nodup_append] using ⟨h, fun g hg heq => hfile (heq ▸ hg)⟩

lemma nodup_keys_erase (h : (keys t).Nodup) : (keys (t.erase file)).Nodup :=
  (List.filter_sublist.map Prod.fst).nodup h

/-- Setting the entry of a file leaves the other files and their order alone. -/
lemma erase_set (t : Table α) (file : String) (a : α) :
    (t.set file a).erase file = t.erase file := by
  induction t with
  | nil => simp [set, erase]
  | cons x t ih =>
    obtain ⟨g, b⟩ := x
    rw [set]
    by_cases hg : g = file
    · simp [hg, erase]
    · simpa [hg, erase] using ih

lemma erase_erase (t : Table α) (file : String) : (t.erase file).erase file = t.erase file := by
  simp only [erase, List.filter_filter, Bool.and_self]

lemma lookup_erase_self (t : Table α) (file : String) : (t.erase file).lookup file = none := by
  rw [List.lookup_eq_none_iff]
  rintro ⟨g, b⟩ hmem
  have hne : g ≠ file := by simpa using (List.mem_filter.mp hmem).2
  simpa using hne.symm

/-- A table with its entries changed one by one. -/
def mapEntries (g : α → β) (t : Table α) : Table β := t.map fun x => (x.1, g x.2)

variable (g : α → β)

lemma keys_mapEntries (t : Table α) : keys (mapEntries g t) = keys t := by
  simp [keys, mapEntries]

lemma lookup_mapEntries (t : Table α) (file : String) :
    (mapEntries g t).lookup file = (t.lookup file).map g := by
  induction t with
  | nil => rfl
  | cons x t ih =>
    obtain ⟨f, b⟩ := x
    change List.lookup file ((f, g b) :: mapEntries g t) = _
    rw [List.lookup_cons, List.lookup_cons, ih]
    cases file == f <;> rfl

lemma mapEntries_set (t : Table α) (file : String) (a : α) :
    mapEntries g (t.set file a) = (mapEntries g t).set file (g a) := by
  induction t with
  | nil => rfl
  | cons x t ih =>
    obtain ⟨f, b⟩ := x
    change mapEntries g (set file a ((f, b) :: t)) = set file (g a) ((f, g b) :: mapEntries g t)
    rw [set, set]
    by_cases hf : f = file
    · simp [hf, mapEntries]
    · rw [if_neg hf, if_neg hf, ← ih]
      rfl

lemma mapEntries_erase (t : Table α) (file : String) :
    mapEntries g (t.erase file) = (mapEntries g t).erase file := by
  rw [erase, erase, mapEntries, mapEntries, List.filter_map]
  rfl

end Table

open Table (keys mapEntries)

/-! ## Events and runs -/

/-- What can happen to a watcher. -/
inductive Event where
  /-- A change of a file comes in. -/
  | receive (path : String) (change : Change)
  /-- The waiting time of a file is over. -/
  | expire (file : Location)
  /-- Nothing is to wait any longer. -/
  | cleanup
  /-- A change is processed from beginning to end. -/
  | process (path : String) (change : Change)
  /-- An analysis that is under way comes to these violations. -/
  | accept (path : String) (vs : List Violation)
  /-- An analysis that is under way fails. -/
  | fail (path : String) (f : Fault)
  /-- Somebody else writes or removes files, which leaves these. -/
  | rewrite (d : Disk)

/-- What an event does to a watcher. -/
def Event.apply (w : Watcher) : Event → Watcher
  | receive path change => w.receive path change
  | expire file => w.expire file
  | cleanup => w.cleanup
  | process path change => w.process path change
  | accept path vs => w.accept path vs
  | fail path f => w.logFailure path f
  | rewrite d => { w with disk := d }

/-- What several events do, one after the other. -/
def run (w : Watcher) (events : List Event) : Watcher := events.foldl Event.apply w

@[simp] lemma run_nil (w : Watcher) : run w [] = w := rfl

@[simp] lemma run_concat (w : Watcher) (events : List Event) (e : Event) :
    run w (events ++ [e]) = e.apply (run w events) := by
  simp [run]

namespace Watcher

/-! ## What is only told -/

/-- The watcher has told the user something and is otherwise the same. -/
def Tells (w v : Watcher) : Prop :=
  ∃ console notices, v = { w with console := console, notices := notices }

namespace Tells

variable {w v u : Watcher}

lemma refl (w : Watcher) : Tells w w := ⟨w.console, w.notices, rfl⟩

lemma trans (h : Tells w v) (h' : Tells v u) : Tells w u := by
  obtain ⟨console, notices, rfl⟩ := h
  obtain ⟨console', notices', rfl⟩ := h'
  exact ⟨console', notices', rfl⟩

end Tells

lemma tells_log (w : Watcher) (level message : String) : Tells w (w.log level message) := by
  rw [log]
  split
  · exact Tells.refl w
  · exact ⟨_, w.notices, rfl⟩

lemma tells_logFailure (w : Watcher) (path : String) (f : Fault) :
    Tells w (w.logFailure path f) := tells_log w _ _

lemma tells_logViolations (vs : List Violation) (w : Watcher) :
    Tells w (vs.foldl logViolation w) := by
  induction vs generalizing w with
  | nil => exact Tells.refl w
  | cons v vs ih => exact ((tells_log w _ _).trans (tells_log _ _ _)).trans (ih _)

lemma tells_tell (w : Watcher) (path : String) (previous : Nat) (vs : List Violation) :
    Tells w (w.tell path previous vs) := by
  rw [tell]
  obtain ⟨sign, words⟩ := verdict previous vs.length
  have hlog := tells_log w "info"
    s!"{sign} {Path.relative w.here (Path.resolve w.here path)}: {words}"
  simp only
  generalize w.log "info" _ = v at hlog
  have hverbose : Tells w (if v.isVerbose then vs.foldl logViolation v else v) := by
    split
    · exact hlog.trans (tells_logViolations vs v)
    · exact hlog
  generalize (if v.isVerbose then vs.foldl logViolation v else v) = u at hverbose
  split
  · exact hverbose.trans ⟨u.console, _, rfl⟩
  · exact hverbose

/-! ## What a call does -/

/-- The text of the report. -/
def reportText (w : Watcher) : String :=
  Json.render { indent := some 2, ascii := false } w.report

lemma writeReport_ok {w : Watcher} {d : Disk}
    (h : w.disk.writeText w.here statusFile w.reportText = .ok d) :
    w.writeReport = .ok { w with disk := d } := by
  rw [reportText] at h
  rw [writeReport]
  simp only [h]

lemma writeReport_error {w : Watcher} {e : FileError}
    (h : w.disk.writeText w.here statusFile w.reportText = .error e) :
    w.writeReport = .error (.system e.trouble "open" statusFile) := by
  rw [reportText] at h
  rw [writeReport]
  simp only [h]

/-- What becomes of a watcher that accepts violations: it keeps them and tells the user, and then
the report is written or cannot be written. -/
lemma accept_cases (w : Watcher) (path : String) (vs : List Violation) :
    ∃ v, Tells (w.keep path vs) v ∧
      ((∃ e, v.disk.writeText v.here statusFile v.reportText = .error e) ∧ w.accept path vs = v ∨
      ∃ d, v.disk.writeText v.here statusFile v.reportText = .ok d ∧
        w.accept path vs = { v with disk := d }) := by
  have htold := tells_tell (w.keep path vs) path ((w.counts.lookup path).getD 0) vs
  rw [accept]
  generalize (w.keep path vs).tell path ((w.counts.lookup path).getD 0) vs = v at htold
  cases hwrite : v.disk.writeText v.here statusFile v.reportText with
  | ok d => exact ⟨v, htold, .inr ⟨d, hwrite, by simp [writeReport_ok hwrite]⟩⟩
  | error e =>
    have hlog := tells_logFailure v path (.system e.trouble "open" statusFile)
    refine ⟨_, htold.trans hlog, .inl ⟨⟨e, ?_⟩, by simp [writeReport_error hwrite]⟩⟩
    obtain ⟨console, notices, h⟩ := hlog
    rw [h]
    exact hwrite

/-- What becomes of a watcher that processes a change: it has announced the change and then
forgets the file, accepts what its analysis comes to, or reports that the analysis fails. -/
lemma process_cases (w : Watcher) (path : String) (change : Change) : ∃ v, Tells w v ∧
    ((change = .removed ∧ w.process path change =
        { v with counts := v.counts.erase path, last := v.last.erase path }) ∨
      (∃ vs, change ≠ .removed ∧ analyze w.disk w.here w.quality path = .ok vs ∧
        w.process path change = v.accept path vs) ∨
      ∃ f, change ≠ .removed ∧ analyze w.disk w.here w.quality path = .error f ∧
        w.process path change = v) := by
  have hlog := tells_log w "info" s!"📝 {change.name}: {path}"
  rw [process]
  generalize w.log "info" s!"📝 {change.name}: {path}" = v at hlog
  by_cases hremoved : change = .removed
  · exact ⟨v, hlog, .inl ⟨hremoved, by simp [hremoved]⟩⟩
  · obtain ⟨console, notices, rfl⟩ := hlog
    simp only [if_neg hremoved]
    cases hanalyze : analyze w.disk w.here w.quality path with
    | ok vs => exact ⟨_, ⟨console, notices, rfl⟩, .inr (.inl ⟨vs, hremoved, rfl, rfl⟩)⟩
    | error f =>
      refine ⟨_, ?_, .inr (.inr ⟨f, hremoved, rfl, rfl⟩)⟩
      exact (show Tells w _ from ⟨console, notices, rfl⟩).trans (tells_logFailure _ path f)

/-- What a call for a file leaves alone: the entries of the other files and their order, and the
disk, unless the report on the new state is written. -/
structure Call (path : String) (w v : Watcher) : Prop where
  counts : v.counts.erase path = w.counts.erase path
  last : v.last.erase path = w.last.erase path
  report : v.disk = w.disk ∨ w.disk.writeText w.here statusFile v.reportText = .ok v.disk

lemma Call.of_tells {path : String} {w v u : Watcher} (h : Tells w v) (hv : Call path v u) :
    Call path w u := by
  obtain ⟨console, notices, rfl⟩ := h
  exact ⟨hv.counts, hv.last, hv.report⟩

lemma call_accept (w : Watcher) (path : String) (vs : List Violation) :
    Call path w (w.accept path vs) := by
  obtain ⟨v, ⟨console, notices, rfl⟩, ⟨-, haccept⟩ | ⟨d, hwrite, haccept⟩⟩ :=
    accept_cases w path vs
  · rw [haccept]
    exact ⟨Table.erase_set _ _ _, Table.erase_set _ _ _, .inl rfl⟩
  · rw [haccept]
    exact ⟨Table.erase_set _ _ _, Table.erase_set _ _ _, .inr hwrite⟩

lemma call_process (w : Watcher) (path : String) (change : Change) :
    Call path w (w.process path change) := by
  obtain ⟨v, hv, ⟨-, h⟩ | ⟨vs, -, -, h⟩ | ⟨f, -, -, h⟩⟩ := process_cases w path change
  · rw [h]
    exact .of_tells hv ⟨Table.erase_erase _ _, Table.erase_erase _ _, .inl rfl⟩
  · rw [h]
    exact .of_tells hv (call_accept v path vs)
  · rw [h]
    exact .of_tells hv ⟨rfl, rfl, .inl rfl⟩

/-- What is accepted is kept, whether or not the report can be written. -/
lemma last_accept (w : Watcher) (path : String) (vs : List Violation) :
    (w.accept path vs).last = w.last.set path vs := by
  obtain ⟨v, ⟨console, notices, rfl⟩, ⟨-, h⟩ | ⟨d, -, h⟩⟩ := accept_cases w path vs <;> rw [h] <;> rfl

/-! ## The tables belong together -/

/-- The numbers are those of the violations, file by file, and no file comes twice. -/
structure Paired (w : Watcher) : Prop where
  counts : w.counts = mapEntries List.length w.last
  nodup : (keys w.last).Nodup

namespace Paired

variable {w v : Watcher}

lemma of_tells (h : Paired w) (hv : Tells w v) : Paired v := by
  obtain ⟨console, notices, rfl⟩ := hv
  exact ⟨h.counts, h.nodup⟩

lemma keep (h : Paired w) (path : String) (vs : List Violation) : Paired (w.keep path vs) where
  counts := by
    change w.counts.set path vs.length = mapEntries List.length (w.last.set path vs)
    rw [Table.mapEntries_set, h.counts]
  nodup := Table.nodup_keys_set h.nodup

lemma accept (h : Paired w) (path : String) (vs : List Violation) : Paired (w.accept path vs) := by
  obtain ⟨v, htells, ⟨-, haccept⟩ | ⟨d, -, haccept⟩⟩ := accept_cases w path vs
  · rw [haccept]
    exact (h.keep path vs).of_tells htells
  · have hv := (h.keep path vs).of_tells htells
    rw [haccept]
    exact ⟨hv.counts, hv.nodup⟩

lemma process (h : Paired w) (path : String) (change : Change) :
    Paired (w.process path change) := by
  obtain ⟨v, htells, ⟨-, hp⟩ | ⟨vs, -, -, hp⟩ | ⟨f, -, -, hp⟩⟩ := process_cases w path change
  · have hv := h.of_tells htells
    rw [hp]
    refine ⟨?_, Table.nodup_keys_erase hv.nodup⟩
    change v.counts.erase path = mapEntries List.length (v.last.erase path)
    rw [Table.mapEntries_erase, hv.counts]
  · rw [hp]
    exact (h.of_tells htells).accept path vs
  · rw [hp]
    exact h.of_tells htells

lemma expire (h : Paired w) (file : Location) : Paired (w.expire file) := by
  rw [Watcher.expire]
  split
  · exact h
  · next p _ => exact ⟨(h.process p.path p.change).counts, (h.process p.path p.change).nodup⟩

lemma apply (h : Paired w) (e : Event) : Paired (e.apply w) := by
  cases e with
  | receive path change => exact ⟨h.counts, h.nodup⟩
  | expire file => exact h.expire file
  | cleanup => exact ⟨h.counts, h.nodup⟩
  | process path change => exact h.process path change
  | accept path vs => exact h.accept path vs
  | fail path f => exact h.of_tells (tells_logFailure w path f)
  | rewrite d => exact ⟨h.counts, h.nodup⟩

end Paired

lemma paired_run {w : Watcher} (h : Paired w) (events : List Event) : Paired (run w events) := by
  induction events using List.reverseRecOn with
  | nil => exact h
  | append_singleton events e ih =>
    rw [run_concat]
    exact ih.apply e

lemma loadQuality_eq (w : Watcher) :
    ∃ console quality, w.loadQuality = { w with console := console, quality := quality } := by
  rw [loadQuality]
  split
  · exact ⟨_, _, rfl⟩
  · exact ⟨_, _, rfl⟩
  · next reason _ =>
    rw [log]
    exact ⟨_, _, rfl⟩

/-- A watcher that has just been started knows no file and waits for nothing. -/
lemma start_eq {d : Disk} {here : Location} {options : Value} {w : Watcher}
    (h : start d here options = .ok w) : w.counts = [] ∧ w.last = [] ∧ w.pending = [] := by
  unfold start at h
  split at h
  · cases h
  · obtain ⟨console, quality, hload⟩ := loadQuality_eq {
      disk := d, here := here,
      options := heldFields (Value.update defaultOptions (optionFields options)) }
    simp only [hload] at h
    cases hwatched : watched _ with
    | error f => rw [hwatched] at h; cases h
    | ok paths =>
      rw [hwatched] at h
      cases h
      exact ⟨rfl, rfl, rfl⟩

/-- A watcher starts if it is given a list of paths to watch, or none. -/
lemma exists_start (d : Disk) (here : Location) {options : Value} {vs : List Value}
    (hnull : options ≠ .null)
    (hpaths : (heldFields (Value.update defaultOptions (optionFields options))).lookup
      "watchPaths" = some (.list vs)) : ∃ w, start d here options = .ok w := by
  obtain ⟨console, quality, hload⟩ := loadQuality_eq {
    disk := d, here := here,
    options := heldFields (Value.update defaultOptions (optionFields options)) }
  unfold start
  split
  · exact absurd rfl hnull
  · simp only [hload, watched, option?, print, hpaths]
    exact ⟨_, rfl⟩

/-! ## Reports -/

/-- The totals of a report are those of the numbers that it gives for its files, and a status in
short says the same. -/
structure Totals (report summary status : Value) (numbers : List Int) : Prop where
  inside : report.get? "summary" = some summary
  files : ∃ entries, report.get? "files" = some (.list entries) ∧
    entries.map (·.get? "violationCount") = numbers.map fun n => some (.int n)
  totalFiles : summary.get? "totalFiles" = some (.int numbers.length)
  totalViolations : summary.get? "totalViolations" = some (.int numbers.sum)
  filesWithViolations :
    summary.get? "filesWithViolations" = some (.int (numbers.countP fun n => 0 < n))
  score : summary.get? "qualityScore" = some (.int (max 0 (100 - 2 * numbers.sum)))
  bounds : 0 ≤ max 0 (100 - 2 * numbers.sum) ∧ max 0 (100 - 2 * numbers.sum) ≤ 100
  sameTotal : status.get? "totalViolations" = summary.get? "totalViolations"
  sameFiles : status.get? "filesWithIssues" = summary.get? "filesWithViolations"
  sameScore : status.get? "qualityScore" = summary.get? "qualityScore"

lemma Paired.total_eq {w : Watcher} (h : Paired w) :
    (w.total : Int) = (w.last.map fun x => (x.2.length : Int)).sum := by
  rw [total, h.counts, mapEntries]
  induction w.last with
  | nil => rfl
  | cons x t ih =>
    rw [List.map_cons, List.foldr_cons, List.map_cons, List.sum_cons, ← ih]
    push_cast
    rfl

lemma Paired.filesWithIssues_eq {w : Watcher} (h : Paired w) : w.filesWithIssues =
    (w.last.map fun x => (x.2.length : Int)).countP fun n => 0 < n := by
  rw [filesWithIssues, h.counts, mapEntries, List.countP_map, List.countP_map]
  refine List.countP_congr fun x _ => ?_
  simp

lemma Paired.totals {w : Watcher} (h : Paired w) : ∃ summary, Totals w.report summary w.status
    (w.last.map fun x => (x.2.length : Int)) := by
  have htotal := h.total_eq
  have hfiles := h.filesWithIssues_eq
  have hscore : (w.score : Int) =
      max 0 (100 - 2 * (w.last.map fun x => (x.2.length : Int)).sum) := by
    rw [score, ← htotal]
    omega
  have hlength : w.counts.length = w.last.length := by rw [h.counts, mapEntries, List.length_map]
  refine ⟨_, {
    inside := rfl
    files := ⟨_, rfl, ?_⟩
    totalFiles := ?_
    totalViolations := ?_
    filesWithViolations := ?_
    score := ?_
    bounds := ?_
    sameTotal := rfl
    sameFiles := rfl
    sameScore := rfl }⟩
  · rw [List.map_map, List.map_map]
    rfl
  · rw [List.length_map, ← hlength]
    rfl
  · rw [← htotal]
    rfl
  · rw [← hfiles]
    rfl
  · rw [← hscore]
    rfl
  · rw [← hscore, score]
    omega

end Watcher

open Watcher (Call Totals)

/-- **The tables of a watcher agree, and its reports add up.**  In every state that a watcher comes
to, whatever changes come in, wait and are processed, and whatever analyses come to or fail with,
the two tables have the same files in the same order, none twice, and each number is that of the
violations of its file.  A call for a file leaves the entries of all other files alone; it forgets
a file that was removed and keeps what an analysis came to, in the place of the file or else at the
end, and one whose analysis fails changes neither table.  If it writes to the disk at all, it writes
the report on the state that it leaves.  The totals of the report on every such state are those of
the numbers that it lists, the score is between 0 and 100, and the status in short says the same. -/
theorem tables_run {d : Disk} {here : Location} {options : Value} {w₀ : Watcher}
    (hstart : Watcher.start d here options = .ok w₀) (events : List Event) :
    let w := run w₀ events
    (keys w.counts = keys w.last ∧ (keys w.last).Nodup ∧
      ∀ file, w.counts.lookup file = (w.last.lookup file).map List.length) ∧
    (∀ path change, let v := w.process path change
      Call path w v ∧
      (change = .removed → v.counts.lookup path = none ∧ v.last.lookup path = none) ∧
      (change ≠ .removed → ∀ vs, analyze w.disk w.here w.quality path = .ok vs →
        v.last.lookup path = some vs) ∧
      (change ≠ .removed → ∀ f, analyze w.disk w.here w.quality path = .error f →
        v.counts = w.counts ∧ v.last = w.last)) ∧
    (∀ path vs, let v := w.accept path vs
      Call path w v ∧ v.last.lookup path = some vs ∧
      keys v.last = if path ∈ keys w.last then keys w.last else keys w.last ++ [path]) ∧
    (∀ path f, (w.logFailure path f).counts = w.counts ∧ (w.logFailure path f).last = w.last) ∧
    ∃ summary numbers, Totals w.report summary w.status numbers := by
  intro w
  obtain ⟨hcounts, hlast, -⟩ := Watcher.start_eq hstart
  have hpaired : w.Paired :=
    Watcher.paired_run ⟨by rw [hcounts, hlast]; rfl, by rw [hlast]; exact List.nodup_nil⟩ events
  refine ⟨⟨?_, hpaired.nodup, fun file => ?_⟩, fun path change => ?_, fun path vs => ?_,
    fun path f => ?_, ?_⟩
  · rw [hpaired.counts, Table.keys_mapEntries]
  · rw [hpaired.counts, Table.lookup_mapEntries]
  · intro v
    obtain ⟨u, ⟨console, notices, rfl⟩, hcases⟩ := Watcher.process_cases w path change
    refine ⟨Watcher.call_process w path change, fun hremoved => ?_, fun hchange vs hvs => ?_,
      fun hchange f hf => ?_⟩
    · obtain ⟨-, h⟩ | ⟨_, hne, -⟩ | ⟨_, hne, -⟩ := hcases
      · simp only [v, h]
        exact ⟨Table.lookup_erase_self _ _, Table.lookup_erase_self _ _⟩
      · exact absurd hremoved hne
      · exact absurd hremoved hne
    · obtain ⟨hremoved, -⟩ | ⟨vs', -, hvs', h⟩ | ⟨f, -, hf, -⟩ := hcases
      · exact absurd hremoved hchange
      · cases hvs.symm.trans hvs'
        simp only [v, h, Watcher.last_accept]
        exact Table.lookup_set_self _ _ _
      · cases hvs.symm.trans hf
    · obtain ⟨hremoved, -⟩ | ⟨vs, -, hvs, -⟩ | ⟨_, -, -, h⟩ := hcases
      · exact absurd hremoved hchange
      · cases hvs.symm.trans hf
      · simp [v, h]
  · simp only [Watcher.last_accept]
    exact ⟨Watcher.call_accept w path vs, Table.lookup_set_self _ _ _, Table.keys_set _ _ _⟩
  · obtain ⟨console, notices, h⟩ := Watcher.tells_logFailure w path f
    rw [h]
    exact ⟨rfl, rfl⟩
  · obtain ⟨summary, h⟩ := hpaired.totals
    exact ⟨summary, _, h⟩

/-- One file with a violation and another one with two; then the first is removed. -/
theorem tables_run_two_files :
    let v : Violation := ⟨0, .fileTooLarge 3 "2"⟩
    ∃ w₀, Watcher.start {} [] (.object []) = .ok w₀ ∧
      let w := run w₀ [.accept "a.py" [v], .accept "b.py" [v, v]]
      keys w.counts = keys w.last ∧ w.counts.lookup "b.py" = some 2 ∧
        (w.process "a.py" .removed).counts.lookup "a.py" = none ∧
        (w.process "a.py" .removed).counts.erase "a.py" = w.counts.erase "a.py" ∧
        ∃ summary numbers, Totals w.report summary w.status numbers := by
  intro v
  obtain ⟨w₀, hstart⟩ : ∃ w, Watcher.start {} [] (.object []) = .ok w :=
    Watcher.exists_start {} [] (by simp) rfl
  obtain ⟨-, -, haccept, -, -⟩ := tables_run hstart [.accept "a.py" [v]]
  obtain ⟨⟨hkeys, -, hlookup⟩, hprocess, -, -, htotals⟩ :=
    tables_run hstart [.accept "a.py" [v], .accept "b.py" [v, v]]
  obtain ⟨hcall, hremoved, -⟩ := hprocess "a.py" .removed
  refine ⟨w₀, hstart, hkeys, ?_, (hremoved rfl).1, hcall.counts, htotals⟩
  have hb := (haccept "b.py" [v, v]).2.1
  change (run w₀ [.accept "a.py" [v], .accept "b.py" [v, v]]).last.lookup "b.py" = _ at hb
  rw [hlookup, hb]
  rfl

end QualityGate.Watch
