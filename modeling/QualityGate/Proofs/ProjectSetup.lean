/-
# Setting up a project from outside

The set-up of a project goes to the directory of the project, installs the guard there and goes
back.  The installer was made for the directory before, though: if that one holds the files of the
guard, the installation goes to a subdirectory of it for samples.  And the way back is taken only
after a success.

Whatever the installation does, directories and links stay where they are and a failure is an error
that is reported (`Builds`), so that the set-up always gives an answer.

`setUp_returns`: after a success the current directory is the one before, and both files are in the
directory that received them; after a failure the current directory is the one before only if the
directory of the project could not be entered.
-/
import Mathlib
import QualityGate.Proofs.DirectoryListing
import QualityGate.Proofs.Sessions
import QualityGate.Proofs.WrittenFiles
import QualityGate.Scaffold.Install

namespace QualityGate.Disk

variable {d d' : Disk} {here loc : Location} {s : String} {P : String → Prop}

/-! ## Directories and links that stay -/

/-- Directories and links stay where they are. -/
def Keeps (d d' : Disk) : Prop :=
  ∀ l e, (∀ bytes, e ≠ .file bytes) → d.get? l = some e → d'.get? l = some e

namespace Keeps

lemma refl (d : Disk) : Keeps d d := fun _ _ _ => id

lemma trans {d₁ d₂ d₃ : Disk} (h : Keeps d₁ d₂) (h' : Keeps d₂ d₃) : Keeps d₁ d₃ :=
  fun l e he hl => h' l e he (h l e he hl)

lemma rooted (h : Keeps d d') (hl : Rooted d loc) : Rooted d' loc :=
  ⟨hl.names, fun l hpre => h l _ (by simp) (hl.dirs l hpre)⟩

lemma leads (h : Keeps d d') {links : Nat} {base : Location} {names : List String}
    (hl : Leads d links base names loc) (hdir : d.get? loc = some .dir) :
    Leads d' links base names loc := by
  induction hl with
  | stop => exact .stop _ _
  | dot _ ih => exact .dot (ih hdir)
  | dots _ ih => exact .dots (ih hdir)
  | dir hn hd _ ih => exact .dir hn (h _ _ (by simp) hd) (ih hdir)
  | last _ _ hd => exact absurd hdir hd
  | link hn hlink _ ih => exact .link hn (h _ _ (by simp) hlink) (ih hdir)

/-- A path that leads to a directory leads to it still. -/
lemma find_dir (h : Keeps d d') (hfind : d.find here s = .ok (loc, .dir)) :
    d'.find here s = .ok (loc, .dir) := by
  obtain ⟨hlocate, hdir⟩ := find_eq_ok_iff.mp hfind
  obtain ⟨haccept, hleads⟩ := locate_eq_ok_iff.mp hlocate
  exact find_eq_ok_iff.mpr ⟨locate_eq_ok_iff.mpr ⟨haccept, h.leads hleads hdir⟩, h _ _ (by simp) hdir⟩

end Keeps

lemma Extends.keeps (h : Extends d d') : Keeps d d' := fun l e _ => h l e

lemma Rooted.keeps_write {bytes : ByteArray} (hhere : Rooted d here)
    (h : d.write here s bytes = .ok d') : Keeps d d' := by
  have hwrites : Writes here (fun _ => True) d d' := .step .refl trivial (hhere.anchored s) h
  exact fun l e he hl => (hwrites.get?_iff he).mpr hl

/-- A file that can be read can be read after others were written. -/
lemma Writes.exists_read (h : Writes here P d d') {bytes : ByteArray}
    (hs : d.read here s = .ok bytes) : ∃ bytes', d'.read here s = .ok bytes' := by
  obtain ⟨loc, hfind⟩ := read_eq_ok_iff.mp hs
  obtain ⟨hloc, hget⟩ := find_eq_ok_iff.mp hfind
  have hfile : ∃ bytes', d'.get? loc = some (.file bytes') := by
    induction h with
    | refl => exact ⟨bytes, hget⟩
    | @step _ _ _ bytes' _ _ hs hwrite ih =>
      obtain ⟨m, -, hm, -, -, rfl⟩ := hs.set_of_write hwrite
      by_cases hlm : loc = m
      · subst hlm
        exact ⟨bytes', get?_set_self _ hm⟩
      · rwa [get?_set_of_ne _ hlm]
  obtain ⟨bytes', hfile⟩ := hfile
  exact ⟨bytes', read_eq_ok_iff.mpr ⟨loc, find_eq_ok_iff.mpr ⟨h.locate_iff.mpr hloc, hfile⟩⟩⟩

/-- From a directory, a path to a directory leads to one below directories. -/
lemma Rooted.of_find (hhere : Rooted d here) (hfind : d.find here s = .ok (loc, .dir)) :
    Rooted d loc := by
  obtain ⟨hlocate, hdir⟩ := find_eq_ok_iff.mp hfind
  have hfound := (locate_eq_ok_iff.mp hlocate).2.found (hhere.anchored s) fun n hn => mem_namesToFollow hn
  cases hfound with
  | dir hroot => exact hroot
  | leaf _ _ _ hd => exact absurd hdir hd

/-- A directory is where its own path leads, if anywhere. -/
lemma Rooted.eq_of_find {e : Entry} (hroot : Rooted d loc) {l : Location}
    (hfind : d.find here (Location.path loc).text = .ok (l, e)) : l = loc := by
  obtain ⟨hlocate, -⟩ := find_eq_ok_iff.mp hfind
  obtain ⟨haccept, -⟩ := locate_eq_ok_iff.mp hlocate
  have hself : d.locate here (Location.path loc).text = .ok loc := by
    refine locate_eq_ok_iff.mpr ⟨haccept, ?_⟩
    rw [if_pos (startsWith_text loc), namesToFollow_text hroot.names]
    split
    · next hnil =>
      subst hnil
      exact .dot (.stop _ _)
    · exact (Found.dir hroot).leads
  exact Except.ok.inj (hlocate.symm.trans hself)

/-- An absolute path leads to the same from everywhere. -/
lemma find_of_slash (hs : s.startsWith "/" = true) (here' : Location) :
    d.find here s = d.find here' s := by
  rw [find, find, locate, locate, if_pos hs, if_pos hs]

end QualityGate.Disk

namespace QualityGate

/-! ## Programs that build -/

/-- Files were written, directories made and lines printed. -/
structure Built (w w' : Session) : Prop where
  places : w'.places = w.places
  keeps : w.disk.Keeps w'.disk

lemma Built.refl (w : Session) : Built w w := ⟨rfl, .refl _⟩

lemma Built.trans {w₁ w₂ w₃ : Session} (h : Built w₁ w₂) (h' : Built w₂ w₃) : Built w₁ w₃ :=
  ⟨h'.places.trans h.places, h.keeps.trans h'.keeps⟩

lemma Built.rooted {w w' : Session} (h : Built w w') (hhere : w.disk.Rooted w.places.here) :
    w'.disk.Rooted w'.places.here := by
  rw [h.places]
  exact h.keeps.rooted hhere

/-- Directories and links are kept, and of the places only the current directory may be another. -/
structure Moved (w w' : Session) : Prop where
  keeps : w.disk.Keeps w'.disk
  places : w'.places = { w.places with here := w'.places.here }

lemma Built.moved {w w' : Session} (h : Built w w') : Moved w w' := ⟨h.keeps, by rw [h.places]⟩

/-- A program that builds in the current directory, and fails with errors only. -/
structure Builds {α : Type} (a : Act α) : Prop where
  ok : ∀ {w w' : Session} {x : α}, w.disk.Rooted w.places.here → a w = .ok x w' → Built w w'
  error : ∀ {w w' : Session} {f : Failure}, w.disk.Rooted w.places.here → a w = .error f w' →
    f.isError = true ∧ Built w w'

namespace Builds

variable {α β : Type} {a : Act α} {g : α → Act β}

lemma pure (x : α) : Builds (pure x) where
  ok _ h := by
    obtain ⟨-, rfl⟩ := EStateM.Result.ok.inj h
    exact .refl _
  error _ h := by cases h

lemma throw {f : Failure} (hf : f.isError = true) : Builds (throw f : Act α) where
  ok _ h := by cases h
  error _ h := by
    obtain ⟨rfl, rfl⟩ := EStateM.Result.error.inj h
    exact ⟨hf, .refl _⟩

lemma bind (ha : Builds a) (hg : ∀ x, Builds (g x)) : Builds (a >>= g) where
  ok hhere h := by
    obtain ⟨x, w₁, h₁, h₂⟩ := Act.bind_eq_ok_iff.mp h
    have hfirst := ha.ok hhere h₁
    exact hfirst.trans ((hg x).ok (hfirst.rooted hhere) h₂)
  error {w w' f} hhere h := by
    cases ha' : a w with
    | error f' w₁ =>
      rw [Act.bind_error ha'] at h
      obtain ⟨rfl, rfl⟩ := EStateM.Result.error.inj h
      exact ha.error hhere ha'
    | ok x w₁ =>
      rw [Act.bind_ok ha'] at h
      have hfirst := ha.ok hhere ha'
      obtain ⟨hf, hrest⟩ := (hg x).error (hfirst.rooted hhere) h
      exact ⟨hf, hfirst.trans hrest⟩

lemma recover (ha : Builds a) {h : Failure → Act α} (hh : ∀ f, Builds (h f)) :
    Builds (Act.recover a h) where
  ok {w w' x} hhere hrun := by
    cases ha' : a w with
    | ok y w₁ =>
      rw [Act.recover_ok ha'] at hrun
      obtain ⟨rfl, rfl⟩ := EStateM.Result.ok.inj hrun
      exact ha.ok hhere ha'
    | error f w₁ =>
      obtain ⟨hf, hfirst⟩ := ha.error hhere ha'
      rw [Act.recover_error ha' hf] at hrun
      exact hfirst.trans ((hh f).ok (hfirst.rooted hhere) hrun)
  error {w w' f} hhere hrun := by
    cases ha' : a w with
    | ok y w₁ =>
      rw [Act.recover_ok ha'] at hrun
      cases hrun
    | error f' w₁ =>
      obtain ⟨hf, hfirst⟩ := ha.error hhere ha'
      rw [Act.recover_error ha' hf] at hrun
      obtain ⟨hf', hrest⟩ := (hh f').error (hfirst.rooted hhere) hrun
      exact ⟨hf', hfirst.trans hrest⟩

/-- A program that only looks something up. -/
lemma look (h : ∀ w, ∃ x, a w = .ok x w) : Builds a where
  ok {w w' x} _ hrun := by
    obtain ⟨y, hy⟩ := h w
    obtain ⟨-, rfl⟩ := EStateM.Result.ok.inj (hy.symm.trans hrun)
    exact .refl _
  error {w w' f} _ hrun := by
    obtain ⟨y, hy⟩ := h w
    cases hy.symm.trans hrun

lemma prints {a : Act Unit} (h : Act.Prints a) : Builds a where
  ok {w w' x} _ hrun := by
    obtain ⟨out, err, hout⟩ := h w
    obtain ⟨-, rfl⟩ := EStateM.Result.ok.inj (hout.symm.trans hrun)
    exact ⟨rfl, .refl _⟩
  error {w w' f} _ hrun := by
    obtain ⟨out, err, hout⟩ := h w
    cases hout.symm.trans hrun

/-- A program that puts another disk in the place of one. -/
lemma change {a : Act Unit} {f : Session → Except FileError Disk}
    (ha : ∀ w, a w = Act.changeDisk (f w) w)
    (hf : ∀ {w d}, w.disk.Rooted w.places.here → f w = .ok d → w.disk.Keeps d) : Builds a where
  ok {w w' x} hhere hrun := by
    rw [ha] at hrun
    obtain ⟨d, hd, rfl⟩ := Act.changeDisk_iff.mp hrun
    exact ⟨rfl, hf hhere hd⟩
  error {w w' e} hhere hrun := by
    rw [ha] at hrun
    cases hd : f w with
    | ok d =>
      rw [hd] at hrun
      cases hrun
    | error t =>
      rw [hd] at hrun
      obtain ⟨rfl, rfl⟩ := EStateM.Result.error.inj hrun
      exact ⟨rfl, .refl _⟩

lemma writeText (s text : String) : Builds (Act.writeText s text) := by
  have hwrite : ∀ text : String,
      Builds (do Act.changeDisk ((← Act.disk).writeText (← Act.here) s text)) := fun text =>
    change (f := fun w => w.disk.write w.places.here s text.toUTF8) (fun _ => rfl)
      fun hhere => hhere.keeps_write
  rw [Act.writeText]
  cases Text.halfFault? text with
  | none => exact hwrite text
  | some f => exact (hwrite "").bind fun _ => throw rfl

lemma makeDir (s : String) : Builds (Act.makeDir s) where
  ok {w w' x} _ hrun := by
    rw [Act.makeDir_run] at hrun
    split at hrun
    · next hmake =>
      obtain ⟨-, rfl⟩ := EStateM.Result.ok.inj hrun
      exact ⟨rfl, (Disk.extends_makeDir hmake).keeps⟩
    · split at hrun
      · cases hrun
      · obtain ⟨-, rfl⟩ := EStateM.Result.ok.inj hrun
        exact .refl _
  error {w w' f} _ hrun := by
    rw [Act.makeDir_run] at hrun
    split at hrun
    · cases hrun
    · split at hrun
      · obtain ⟨rfl, rfl⟩ := EStateM.Result.error.inj hrun
        exact ⟨rfl, .refl _⟩
      · cases hrun

lemma copyFile (source target : Path) : Builds (Act.copyFile source target) := by
  have hdir : Builds (Act.isDir target.text) := look fun w => ⟨_, rfl⟩
  have hsame : ∀ path, Builds (Act.sameFile source.text path) := fun path => look fun w => by
    rw [Act.sameFile, Act.bind_ok (Act.disk_run w), Act.bind_ok (Act.here_run w),
      Act.bind_ok (Act.disk_run w), Act.bind_ok (Act.here_run w)]
    cases w.disk.find w.places.here source.text with
    | error t => exact ⟨_, rfl⟩
    | ok p => cases w.disk.find w.places.here path <;> exact ⟨_, rfl⟩
  refine hdir.bind fun inside => (hsame _).bind fun same => ?_
  cases same with
  | true => exact throw rfl
  | false =>
    -- reading and writing are one step, since both are about the disk as it is then
    refine change (f := fun w => w.disk.read w.places.here source.text >>= w.disk.write w.places.here
      (if inside then Path.joinName target.text source.name else target.text)) (fun w => ?_)
      fun {w d} hhere hd => ?_
    · simp only [Bool.false_eq_true, if_false]
      rw [Act.bind_ok (Act.disk_run w), Act.bind_ok (Act.here_run w)]
      cases w.disk.read w.places.here source.text <;> rfl
    · cases hread : w.disk.read w.places.here source.text with
      | error e =>
        rw [hread] at hd
        cases hd
      | ok bytes =>
        rw [hread] at hd
        exact hhere.keeps_write hd

end Builds

/-! ## Programs with a state of their own -/

namespace ActWith

variable {σ α β : Type} (s : σ)

lemma runFrom_lift (a : Act α) (g : α → ActWith σ β) :
    runFrom s (liftM a >>= g) = (a >>= fun x => runFrom s (g x)) := by
  funext w
  cases ha : a w with
  | ok x v =>
    have hbind : (liftM a >>= g : ActWith σ β) (s, w) = g x (s, v) := by
      show EStateM.bind (lift a) g (s, w) = _
      rw [EStateM.bind, lift, ha]
    rw [Act.bind_ok ha, runFrom, hbind, runFrom]
  | error f v =>
    have hbind : (liftM a >>= g : ActWith σ β) (s, w) = .error f (s, v) := by
      show EStateM.bind (lift a) g (s, w) = _
      rw [EStateM.bind, lift, ha]
    rw [Act.bind_error ha, runFrom, hbind]

lemma runFrom_state (g : σ → ActWith σ β) : runFrom s (state >>= g) = runFrom s (g s) :=
  funext fun _ => rfl

lemma runFrom_setState (s' : σ) (g : Unit → ActWith σ β) :
    runFrom s (setState s' >>= g) = runFrom s' (g ()) := funext fun _ => rfl

lemma runFrom_pure (x : α) : runFrom s (pure x) = pure x := funext fun _ => rfl

end ActWith

namespace Scaffold.Installer

/-! ## The installation -/

lemma prints_say : ∀ lines : List String, Act.Prints (say lines)
  | [] => .nothing
  | s :: rest => (Act.Prints.printLine s).seq (prints_say rest)

lemma builds_copyLocal (source root : Path) :
    ∀ files : List (String × String), Builds (copyLocal source root files)
  | [] => .pure ()
  | (name, path) :: rest => by
    have hprint (s : String) : Builds (Act.printLine s) := .prints (.printLine s)
    refine (Builds.look fun w => ⟨_, Act.pathExists_run _ w⟩).bind fun there => ?_
    have hrest := builds_copyLocal source root rest
    cases there with
    | true =>
      exact (Builds.recover ((Builds.copyFile _ _).bind fun _ => hprint _) fun f => hprint _).bind
        fun _ => hrest
    | false => exact (hprint _).bind fun _ => hrest

/-- What is done once the directory for the files is the current one. -/
def finish (source root : Path) : Act Bool := do
  Act.printLine "📂 Kopiowanie plików Quality Guard..."
  copyLocal source root localFiles
  makeActivator
  makeRunner
  say [
    "✅ Instalacja zakończona!",
    "\n📋 Użycie:",
    "python run_with_quality.py main.py",
    "# lub po ustawieniu aliasu:",
    "python main.py  # automatycznie z Quality Guard"]
  return true

lemma builds_finish (source root : Path) : Builds (finish source root) :=
  (Builds.prints (.printLine _)).bind fun _ => (builds_copyLocal source root localFiles).bind fun _ =>
    (Builds.writeText _ _).bind fun _ => (Builds.writeText _ _).bind fun _ =>
      (Builds.prints (prints_say _)).bind fun _ => .pure true

/-- Both files of an installation can be read in a directory. -/
def Installed (d : Disk) (top : Location) : Prop :=
  ∀ n ∈ ["quality_guard_activator.py", "run_with_quality.py"], ∃ bytes, d.read top n = .ok bytes

lemma installed_of_finish {source root : Path} {w w' : Session} {done : Bool}
    (hhere : w.disk.Rooted w.places.here) (h : finish source root w = .ok done w') :
    done = true ∧ Installed w'.disk w'.places.here := by
  obtain ⟨_, w₁, h₁, h⟩ := Act.bind_eq_ok_iff.mp h
  obtain ⟨_, w₂, h₂, h⟩ := Act.bind_eq_ok_iff.mp h
  obtain ⟨_, w₃, h₃, h⟩ := Act.bind_eq_ok_iff.mp h
  obtain ⟨_, w₄, h₄, h⟩ := Act.bind_eq_ok_iff.mp h
  obtain ⟨_, w₅, h₅, h⟩ := Act.bind_eq_ok_iff.mp h
  have hroot₁ := ((Builds.prints (.printLine _)).ok hhere h₁).rooted hhere
  have hroot₂ := ((builds_copyLocal source root localFiles).ok hroot₁ h₂).rooted hroot₁
  obtain ⟨-, d₃, hwrite, rfl⟩ := Act.writeText_iff.mp h₃
  have hroot₃ := (hroot₂.keeps_write hwrite).rooted hroot₂
  obtain ⟨-, d₄, hwrite', rfl⟩ := Act.writeText_iff.mp h₄
  obtain ⟨out, err, hsay⟩ := prints_say _ _
  obtain ⟨-, rfl⟩ := EStateM.Result.ok.inj (hsay.symm.trans h₅)
  obtain ⟨rfl, rfl⟩ := EStateM.Result.ok.inj h
  have hactivator := (hroot₂.anchored _).read_write hwrite
  have hrunner : Disk.Writes w₂.places.here (fun _ => True) d₃ d₄ :=
    .step .refl trivial (hroot₃.anchored _) hwrite'
  refine ⟨rfl, ?_⟩
  simp only [Installed, List.forall_mem_cons]
  exact ⟨hrunner.exists_read hactivator, ⟨_, (hroot₃.anchored _).read_write hwrite'⟩, by simp⟩

section

variable {i : Installer} {w w' : Session}

/-- The directory for samples. -/
def sampleDir (i : Installer) : String := (i.root.child "demo_project").text

/-- How far the installation gets before the directory for its files is the current one. -/
def openSamples (i : Installer) : Act Unit := do
  say ["📁 OPCJA 3: Instalacja lokalna w projekcie", line 50]
  if i.isSource then
    say [
      "ℹ️  Jesteś już w katalogu źródłowym Quality Guard",
      "🔄 Tworzenie kopii dla demonstracji..."]
    Act.makeDir (sampleDir i)

lemma runFrom_inProject_here (h : i.isSource = false) :
    ActWith.runFrom i inProject = (do
      openSamples i
      finish i.root i.root) := by
  unfold inProject openSamples finish
  simp only [ActWith.runFrom_state, ActWith.runFrom_lift, h, Bool.false_eq_true, if_false, bind_assoc,
    ActWith.runFrom_pure, pure_bind]

lemma runFrom_inProject_samples (h : i.isSource = true) :
    ActWith.runFrom i inProject = (do
      openSamples i
      let old ← Act.here
      Act.enter (sampleDir i)
      Act.printLine s!"📁 Praca w katalogu demo: {sampleDir i}"
      finish (Location.path old) (i.root.child "demo_project")) := by
  unfold inProject enterSamples openSamples finish sampleDir
  simp only [ActWith.runFrom_state, ActWith.runFrom_lift, h, if_true, bind_assoc,
    ActWith.runFrom_setState, ActWith.runFrom_pure, pure_bind]

lemma builds_openSamples (i : Installer) : Builds (openSamples i) := by
  refine (Builds.prints (prints_say _)).bind fun _ => ?_
  cases i.isSource with
  | true => exact (Builds.prints (prints_say _)).bind fun _ => .makeDir _
  | false => exact .pure ()

/-- The directory for the files is the current one. -/
def Reached (i : Installer) (w w' : Session) : Prop :=
  if i.isSource then w'.disk.find w.places.here (sampleDir i) = .ok (w'.places.here, .dir)
  else w'.places.here = w.places.here

/-- What happens once the directory for samples was entered. -/
lemma reached_of_samples (hsource : i.isSource = true) {w₁ : Session} {top : Location}
    (hbuilt : Built w w₁) (hfind : w₁.disk.find w₁.places.here (sampleDir i) = .ok (top, .dir))
    (hrest : Built { w₁ with places.here := top } w') : Moved w w' ∧ Reached i w w' := by
  have htop : w'.places.here = top := by rw [hrest.places]
  have hsample := hrest.keeps.find_dir hfind
  rw [hbuilt.places] at hsample
  refine ⟨⟨hbuilt.keeps.trans hrest.keeps, ?_⟩, ?_⟩
  · rw [hrest.places, hbuilt.places]
  · rw [Reached, if_pos hsource, htop]
    exact hsample

lemma of_inProject_ok (hhere : w.disk.Rooted w.places.here) {done : Bool}
    (h : ActWith.runFrom i inProject w = .ok done w') :
    done = true ∧ Installed w'.disk w'.places.here ∧ Moved w w' ∧ Reached i w w' := by
  cases hsource : i.isSource with
  | false =>
    rw [runFrom_inProject_here hsource] at h
    obtain ⟨_, w₁, hopen, hfinish⟩ := Act.bind_eq_ok_iff.mp h
    have hbuilt := (builds_openSamples i).ok hhere hopen
    obtain ⟨hdone, hinstalled⟩ := installed_of_finish (hbuilt.rooted hhere) hfinish
    have hall := hbuilt.trans ((builds_finish _ _).ok (hbuilt.rooted hhere) hfinish)
    refine ⟨hdone, hinstalled, hall.moved, ?_⟩
    rw [Reached, hsource, hall.places]
    rfl
  | true =>
    rw [runFrom_inProject_samples hsource] at h
    obtain ⟨_, w₁, hopen, h⟩ := Act.bind_eq_ok_iff.mp h
    obtain ⟨old, _, hold, h⟩ := Act.bind_eq_ok_iff.mp h
    obtain ⟨rfl, rfl⟩ := EStateM.Result.ok.inj hold
    obtain ⟨_, w₂, henter, h⟩ := Act.bind_eq_ok_iff.mp h
    obtain ⟨_, w₃, hprint, hfinish⟩ := Act.bind_eq_ok_iff.mp h
    obtain ⟨top, hfind, rfl⟩ := Act.enter_iff.mp henter
    have hbuilt := (builds_openSamples i).ok hhere hopen
    have htop := (hbuilt.rooted hhere).of_find hfind
    have hprinted := (Builds.prints (.printLine _)).ok htop hprint
    have hroot₃ := hprinted.rooted htop
    obtain ⟨hdone, hinstalled⟩ := installed_of_finish hroot₃ hfinish
    have hrest := hprinted.trans ((builds_finish _ _).ok hroot₃ hfinish)
    exact ⟨hdone, hinstalled, reached_of_samples hsource hbuilt hfind hrest⟩

lemma of_inProject_error (hhere : w.disk.Rooted w.places.here) {f : Failure}
    (h : ActWith.runFrom i inProject w = .error f w') :
    f.isError = true ∧ Moved w w' ∧ (w'.places.here = w.places.here ∨ Reached i w w') := by
  cases hsource : i.isSource with
  | false =>
    rw [runFrom_inProject_here hsource] at h
    obtain ⟨hf, hbuilt⟩ :=
      ((builds_openSamples i).bind fun _ => builds_finish i.root i.root).error hhere h
    exact ⟨hf, hbuilt.moved, .inl (by rw [hbuilt.places])⟩
  | true =>
    rw [runFrom_inProject_samples hsource] at h
    cases hopen : openSamples i w with
    | error f' w₁ =>
      rw [Act.bind_error hopen] at h
      obtain ⟨rfl, rfl⟩ := EStateM.Result.error.inj h
      obtain ⟨hf, hbuilt⟩ := (builds_openSamples i).error hhere hopen
      exact ⟨hf, hbuilt.moved, .inl (by rw [hbuilt.places])⟩
    | ok u w₁ =>
      have hbuilt := (builds_openSamples i).ok hhere hopen
      rw [Act.bind_ok hopen, Act.bind_ok (Act.here_run w₁)] at h
      cases henter : Act.enter (sampleDir i) w₁ with
      | error f' w₂ =>
        rw [Act.bind_error henter] at h
        obtain ⟨rfl, rfl⟩ := EStateM.Result.error.inj h
        obtain ⟨hf, rfl, -⟩ := Act.of_enter_error henter
        exact ⟨hf, hbuilt.moved, .inl (by rw [hbuilt.places])⟩
      | ok u w₂ =>
        rw [Act.bind_ok henter] at h
        obtain ⟨top, hfind, rfl⟩ := Act.enter_iff.mp henter
        have htop := (hbuilt.rooted hhere).of_find hfind
        obtain ⟨hf, hrest⟩ :=
          ((Builds.prints (.printLine _)).bind fun _ => builds_finish _ _).error htop h
        obtain ⟨hmoved, hreached⟩ := reached_of_samples hsource hbuilt hfind hrest
        exact ⟨hf, hmoved, .inr hreached⟩

/-! ## The set-up -/

/-- The installer for the current directory. -/
def current (w : Session) : Installer where
  root := Location.path w.places.here
  configFile := (Location.path w.places.here).child "quality-guard.json"
  isSource := isSourceDir w.disk w.places.here (Location.path w.places.here)

/-- The directory that receives the files of a project: the one that the path of the project leads
to, or the one for samples if the set-up starts among the files of the guard. -/
def Receives (w : Session) (path : String) (d : Disk) (top : Location) : Prop :=
  if (current w).isSource then
    d.find w.places.here (sampleDir (current w)) = .ok (top, .dir)
  else w.disk.find w.places.here path = .ok (top, .dir)

/-- How the set-up of a project ends: the directory of the project could not be entered, or it was
and an error came after it, or the files were installed. -/
inductive Ends (w : Session) (path : String) : Bool → Session → Prop
  | closed {w' : Session} :
    (∀ loc, w.disk.find w.places.here path ≠ .ok (loc, .dir)) →
    w'.places = w.places → w'.disk = w.disk → Ends w path false w'
  | stopped {w' : Session} {project : Location} :
    w.disk.find w.places.here path = .ok (project, .dir) → Moved w w' →
    w'.places.here = project ∨ Receives w path w'.disk w'.places.here → Ends w path false w'
  | done {w' : Session} {project top : Location} :
    w.disk.find w.places.here path = .ok (project, .dir) → Built w w' →
    Receives w path w'.disk top → Installed w'.disk top → Ends w path true w'

lemma startsWith_sampleDir (w : Session) : (sampleDir (current w)).startsWith "/" = true := by
  have hchild : (current w).root.child "demo_project" =
      Location.path (w.places.here ++ ["demo_project"]) := Path.child_eq _ (by decide)
  rw [sampleDir, hchild]
  exact Disk.startsWith_text _

/-- Once the directory of the project was entered, the files go to the one that receives them. -/
lemma receives_of_reached {path : String} {top : Location}
    (hfind : w.disk.find w.places.here path = .ok (top, .dir))
    (hreached : Reached (current w) { w with places.here := top } w') :
    Receives w path w'.disk w'.places.here := by
  rw [Reached] at hreached
  rw [Receives]
  split
  · next hsource =>
    rw [if_pos hsource] at hreached
    rw [Disk.find_of_slash (startsWith_sampleDir w) top]
    exact hreached
  · next hsource =>
    rw [if_neg hsource] at hreached
    rw [hreached]
    exact hfind

/-- The set-up before the report of an error. -/
def attempt (path : String) (i : Installer) (old : Location) : Act Bool := do
  Act.enter path
  let done ← ActWith.runFrom i inProject
  Act.enter (Location.path old).text
  return done

lemma setUp_of_ok {path : String} {done : Bool}
    (h : attempt path (current w) w.places.here w = .ok done w') : setUp path w = .ok done w' :=
  Act.recover_ok ((Act.bind_ok rfl).trans ((Act.bind_ok (Act.here_run w)).trans h))

/-- An error is reported. -/
lemma setUp_of_error {path : String} {f : Failure}
    (h : attempt path (current w) w.places.here w = .error f w') (hf : f.isError = true) :
    ∃ w'', setUp path w = .ok false w'' ∧ w''.places = w'.places ∧ w''.disk = w'.disk :=
  ⟨_, Act.recover_error ((Act.bind_ok rfl).trans ((Act.bind_ok (Act.here_run w)).trans h)) hf,
    rfl, rfl⟩

lemma attempt_eq {path : String} {i : Installer} {old project : Location}
    (hfind : w.disk.find w.places.here path = .ok (project, .dir)) :
    attempt path i old w = (do
      let done ← ActWith.runFrom i inProject
      Act.enter (Location.path old).text
      return done) { w with places.here := project } :=
  Act.bind_ok (Act.enter_iff.mpr ⟨project, hfind, rfl⟩)

lemma setUp_run (path : String) (hhere : w.disk.Rooted w.places.here) :
    ∃ done w', setUp path w = .ok done w' ∧ Ends w path done w' := by
  have herror : ∀ {f v}, attempt path (current w) w.places.here w = .error f v → f.isError = true →
      (∀ v' : Session, v'.places = v.places → v'.disk = v.disk → Ends w path false v') →
      ∃ done w', setUp path w = .ok done w' ∧ Ends w path done w' := by
    intro f v h hf hends
    obtain ⟨v', hrun, hplaces, hdisk⟩ := setUp_of_error h hf
    exact ⟨false, v', hrun, hends v' hplaces hdisk⟩
  cases henter : Act.enter path w with
  | error f v =>
    obtain ⟨hf, rfl, hclosed⟩ := Act.of_enter_error henter
    exact herror (Act.bind_error henter) hf fun v' => .closed hclosed
  | ok u w₁ =>
    obtain ⟨project, hfind, rfl⟩ := Act.enter_iff.mp henter
    have hproject := hhere.of_find hfind
    have hstopped : ∀ {v v'}, Moved { w with places.here := project } v →
        (v.places.here = project ∨ Reached (current w) { w with places.here := project } v) →
        v'.places = v.places → v'.disk = v.disk → Ends w path false v' := by
      intro v v' hmoved hat hplaces hdisk
      refine .stopped hfind ⟨?_, ?_⟩ ?_
      · rw [hdisk]
        exact hmoved.keeps
      · rw [hplaces, hmoved.places]
      · rw [hplaces, hdisk]
        exact hat.imp_right (receives_of_reached hfind)
    cases hrun : ActWith.runFrom (current w) inProject { w with places.here := project } with
    | error f v =>
      obtain ⟨hf, hmoved, hat⟩ := of_inProject_error hproject hrun
      exact herror ((attempt_eq hfind).trans (Act.bind_error hrun)) hf fun v' => hstopped hmoved hat
    | ok done w₂ =>
      obtain ⟨rfl, hinstalled, hmoved, hreached⟩ := of_inProject_ok hproject hrun
      have hattempt : attempt path (current w) w.places.here w = (do
          Act.enter (Location.path w.places.here).text
          return true) w₂ := (attempt_eq hfind).trans (Act.bind_ok hrun)
      cases hback : Act.enter (Location.path w.places.here).text w₂ with
      | error f v =>
        obtain ⟨hf, rfl, -⟩ := Act.of_enter_error hback
        exact herror (hattempt.trans (Act.bind_error hback)) hf fun v' =>
          hstopped hmoved (.inr hreached)
      | ok u v =>
        obtain ⟨loc, hfind', rfl⟩ := Act.enter_iff.mp hback
        obtain rfl := (hmoved.keeps.rooted hhere).eq_of_find hfind'
        refine ⟨true, _, setUp_of_ok (hattempt.trans (Act.bind_ok hback)), ?_⟩
        have hreceives := receives_of_reached hfind hreached
        refine .done hfind ⟨?_, hmoved.keeps⟩ hreceives hinstalled
        rw [hmoved.places]

end

/-! ## A directory in the way -/

/-- A project with a directory that has the name of one of the files. -/
def blocked : Session :=
  { Session.bare with
    disk := ⟨[(["p"], .dir), (["p", "quality_guard_activator.py"], .dir)]⟩ }

lemma find_blocked : blocked.disk.find blocked.places.here "p" = .ok (["p"], .dir) :=
  Disk.find_name_of_dir (by decide) (by decide) rfl

lemma isSource_blocked : (current blocked).isSource = false := by
  have hfirst : ∀ mark ∈ sourceMarks, ∃ n ∈ ["quality_guard_exceptions.py", "setup_quality_guard.py",
      "core", "wrappers", "config"], Disk.Plain n ∧ blocked.disk.get? [n] = none ∧
      (Disk.namesToFollow ((Location.path []).child mark).text).head? = some n := by decide
  refine List.any_eq_false.mpr fun mark hmark => ?_
  obtain ⟨n, -, hplain, hmissing, hhead⟩ := hfirst mark hmark
  obtain ⟨ns, hnames⟩ := List.head?_eq_some_iff.mp hhead
  have hget : blocked.disk.get? ((if ((Location.path []).child mark).text.startsWith "/" then []
      else []) ++ [n]) = none := by
    rw [ite_self]
    exact hmissing
  exact Bool.not_eq_true _ ▸ Disk.pathExists_of_first_missing hnames hplain hget

/-- The project itself is to receive the files. -/
lemma eq_of_receives_blocked {d : Disk} {top : Location} (h : Receives blocked "p" d top) :
    top = ["p"] := by
  rw [Receives, isSource_blocked, if_neg (by simp), find_blocked] at h
  exact (Prod.mk.inj (Except.ok.inj h)).1.symm

/-- The directory stays, so that no file can have its name. -/
lemma not_installed_blocked {d : Disk} (h : blocked.disk.Keeps d) : ¬ Installed d ["p"] := by
  intro hinstalled
  obtain ⟨bytes, hread⟩ := hinstalled "quality_guard_activator.py" (by simp)
  obtain ⟨loc, hfile⟩ := Disk.read_eq_ok_iff.mp hread
  have hdir : d.find ["p"] "quality_guard_activator.py" = .ok (_, .dir) :=
    h.find_dir (Disk.find_name_of_dir (by decide) (by decide) rfl)
  cases hfile.symm.trans hdir

/-- The set-up ends in the directory of the project. -/
lemma setUp_blocked : ∃ w', setUp "p" blocked = .ok false w' ∧ w'.places.here = ["p"] := by
  obtain ⟨done, w', hrun, hends⟩ := setUp_run "p" (w := blocked) (Disk.Rooted.nil _)
  cases hends with
  | closed hclosed => exact absurd find_blocked (hclosed _)
  | stopped hfind hmoved hat =>
    refine ⟨w', hrun, hat.elim (fun hproject => ?_) eq_of_receives_blocked⟩
    rw [hproject]
    exact (Prod.mk.inj (Except.ok.inj (hfind.symm.trans find_blocked))).1
  | done hfind hbuilt hreceives hinstalled =>
    obtain rfl := eq_of_receives_blocked hreceives
    exact absurd hinstalled (not_installed_blocked hbuilt.keeps)

end Scaffold.Installer

end QualityGate
