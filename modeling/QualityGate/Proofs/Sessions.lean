/-
# Programs run step by step

Lemmas that take a program of a session apart: what a sequence does once its first step is known,
what becomes of a failure, programs that do nothing but print, and loops that only add something to
the session.
-/
import Mathlib
import QualityGate.Session

namespace QualityGate

/-- A session without any files. -/
def Session.bare : Session where
  disk := {}
  places := { here := [], home := [] }

namespace Act

variable {α β : Type} {a : Act α} {g : α → Act β} {h : Failure → Act α} {w w' : Session} {x : α}
  {f : Failure}

lemma bind_ok (ha : a w = .ok x w') : (a >>= g) w = g x w' := by
  show EStateM.bind a g w = _
  rw [EStateM.bind, ha]

lemma bind_error (ha : a w = .error f w') : (a >>= g) w = .error f w' := by
  show EStateM.bind a g w = _
  rw [EStateM.bind, ha]

lemma bind_eq_ok_iff {v : Session} {y : β} :
    (a >>= g) w = .ok y v ↔ ∃ x w', a w = .ok x w' ∧ g x w' = .ok y v := by
  cases ha : a w with
  | ok x w' => simp [bind_ok ha]
  | error f w' => simp [bind_error ha]

lemma bind_congr {b : Act α} {v : Session} (hab : a w = b v) : (a >>= g) w = (b >>= g) v := by
  show EStateM.bind a g w = EStateM.bind b g v
  rw [EStateM.bind, EStateM.bind, hab]

lemma recover_ok (ha : a w = .ok x w') : recover a h w = .ok x w' := by
  show EStateM.tryCatch a _ w = _
  rw [EStateM.tryCatch, ha]

lemma recover_error (ha : a w = .error f w') (hf : f.isError = true) :
    recover a h w = h f w' := by
  show EStateM.tryCatch a _ w = _
  rw [EStateM.tryCatch, ha]
  simp only [hf, if_true]
  rfl

lemma recover_final (ha : a w = .error f w') (hf : f.isError = false) :
    recover a h w = .error f w' := by
  show EStateM.tryCatch a _ w = _
  rw [EStateM.tryCatch, ha]
  simp only [hf, Bool.false_eq_true, if_false]
  rfl

lemma recover_congr {b : Act α} (hab : a w = b w) : recover a h w = recover b h w := by
  show EStateM.tryCatch a _ w = EStateM.tryCatch b _ w
  rw [EStateM.tryCatch, EStateM.tryCatch, hab]

lemma get_run (w : Session) : (get : Act Session) w = .ok w w := rfl

lemma store_run (w : Session) : store w = .ok w.store w := rfl

lemma disk_run (w : Session) : disk w = .ok w.disk w := rfl

lemma here_run (w : Session) : here w = .ok w.places.here w := rfl

lemma ofExcept_ok {r : Except Failure α} (h : r = .ok x) : ofExcept r w = .ok x w := by
  rw [h]
  rfl

lemma ofExcept_error {r : Except Failure α} (h : r = .error f) : ofExcept r w = .error f w := by
  rw [h]
  rfl

/-- A look at a path finds what the disk says. -/
lemma lookAt_eq (s : String) (w : Session) :
    lookAt s w = ofExcept ((w.disk.lookAt w.places.here s).mapError Failure.file) w := by
  rw [lookAt, bind_ok (disk_run w), bind_ok (here_run w)]
  cases w.disk.lookAt w.places.here s <;> rfl

lemma isThere_of_pathExists {s : String} (hs : w.disk.pathExists w.places.here s = true) :
    isThere s w = .ok true w := by
  rw [Disk.pathExists] at hs
  cases hfind : w.disk.find w.places.here s with
  | error t => simp [hfind] at hs
  | ok p =>
    have hsome : lookAt s w = .ok (some p.2) w := by
      rw [lookAt_eq, Disk.lookAt, hfind]
      rfl
    show (lookAt s >>= fun e => pure e.isSome) w = _
    rw [bind_ok hsome]
    rfl

/-! ## Files -/

lemma isThere_iff {s : String} {there : Bool} : isThere s w = .ok there w' ↔
    ∃ e, w.disk.lookAt w.places.here s = .ok e ∧ there = e.isSome ∧ w' = w := by
  show (lookAt s >>= fun e => pure e.isSome) w = _ ↔ _
  cases he : w.disk.lookAt w.places.here s with
  | error t =>
    have hlook : lookAt s w = .error (.file t) w := by
      rw [lookAt_eq, he]
      rfl
    rw [bind_error hlook]
    simp
  | ok e =>
    have hlook : lookAt s w = .ok e w := by
      rw [lookAt_eq, he]
      rfl
    rw [bind_ok hlook]
    simp [pure, EStateM.pure, eq_comm]

lemma changeDisk_iff {r : Except FileError Disk} :
    changeDisk r w = .ok () w' ↔ ∃ d, r = .ok d ∧ w' = { w with disk := d } := by
  cases r with
  | error e => simp [changeDisk, throw, throwThe, MonadExceptOf.throw, EStateM.throw]
  | ok d =>
    simp [changeDisk, modify, modifyGet, MonadStateOf.modifyGet, EStateM.modifyGet, eq_comm]

/-- A program that writes a text as a whole, or gives up after it wrote nothing of it. -/
lemma whole_iff {a : Act Unit} {text : String} {p : Disk → ByteArray → Except FileError Disk}
    (h : a w = (match Text.halfFault? text with
      | none => changeDisk (p w.disk text.toUTF8)
      | some f => do
        changeDisk (p w.disk "".toUTF8)
        throw (Failure.unwritable f)) w) :
    a w = .ok () w' ↔ Text.halfFault? text = none ∧
      ∃ d, p w.disk text.toUTF8 = .ok d ∧ w' = { w with disk := d } := by
  rw [h]
  cases Text.halfFault? text with
  | none => simpa using changeDisk_iff
  | some f =>
    refine iff_of_false (fun hok => ?_) (by simp)
    cases hempty : p w.disk "".toUTF8 with
    | error e => rw [hempty] at hok; cases hok
    | ok d => rw [hempty] at hok; cases hok

lemma writeText_iff {s text : String} : writeText s text w = .ok () w' ↔
    Text.halfFault? text = none ∧
      ∃ d, w.disk.write w.places.here s text.toUTF8 = .ok d ∧ w' = { w with disk := d } := by
  refine whole_iff (p := fun d => d.write w.places.here s) ?_
  rw [writeText]
  cases Text.halfFault? text <;> rfl

lemma appendText_iff {s text : String} : appendText s text w = .ok () w' ↔
    Text.halfFault? text = none ∧
      ∃ d, w.disk.append w.places.here s text.toUTF8 = .ok d ∧ w' = { w with disk := d } := by
  refine whole_iff (p := fun d => d.append w.places.here s) ?_
  rw [appendText]
  cases Text.halfFault? text <;> rfl

/-- A text without halves of characters is written, or the failure is that of the disk. -/
lemma writeText_run {s text : String} (h : Text.halfFault? text = none) (w : Session) :
    writeText s text w = match w.disk.write w.places.here s text.toUTF8 with
      | .ok d => .ok () { w with disk := d }
      | .error e => .error (.file e) w := by
  rw [writeText, h]
  show changeDisk (w.disk.write w.places.here s text.toUTF8) w = _
  cases w.disk.write w.places.here s text.toUTF8 <;> rfl

lemma makeDirsNamed_run (s : String) (w : Session) : makeDirsNamed s w =
    match w.disk.makeNamed w.places.here s with
    | (d, none) => .ok () { w with disk := d }
    | (d, some e) => .error (.file e) { w with disk := d } := by
  rw [makeDirsNamed, bind_ok (disk_run w), bind_ok (here_run w)]
  obtain ⟨d, refused⟩ := w.disk.makeNamed w.places.here s
  cases refused <;> rfl

lemma makeDir_run (s : String) (w : Session) : makeDir s w =
    match w.disk.makeDir w.places.here s with
    | .ok d => .ok () { w with disk := d }
    | .error e => if e.trouble = .missing || !w.disk.isDir w.places.here s then .error (.file e) w
      else .ok () w := by
  rw [makeDir, bind_ok (disk_run w), bind_ok (here_run w)]
  cases w.disk.makeDir w.places.here s with
  | ok d => rfl
  | error e =>
    have hdir : isDir s w = .ok (w.disk.isDir w.places.here s) w := rfl
    show (isDir s >>= _) w = _
    rw [bind_ok hdir]
    dsimp only
    split <;> rfl

lemma enter_iff {s : String} : enter s w = .ok () w' ↔
    ∃ loc, w.disk.find w.places.here s = .ok (loc, .dir) ∧
      w' = { w with places.here := loc } := by
  rw [enter, bind_ok (disk_run w), bind_ok (here_run w)]
  cases w.disk.find w.places.here s with
  | error t => exact iff_of_false (by rintro ⟨⟩) (by simp)
  | ok p =>
    obtain ⟨loc, e⟩ := p
    cases e with
    | dir => simp [modify, modifyGet, MonadStateOf.modifyGet, EStateM.modifyGet, eq_comm]
    | _ => exact iff_of_false (by rintro ⟨⟩) (by simp)

/-- What is no directory is not entered. -/
lemma of_enter_error {s : String} (h : enter s w = .error f w') :
    f.isError = true ∧ w' = w ∧ ∀ loc, w.disk.find w.places.here s ≠ .ok (loc, .dir) := by
  have hnot : ∀ loc, w.disk.find w.places.here s ≠ .ok (loc, .dir) := by
    intro loc hfind
    have hok := enter_iff.mpr ⟨loc, hfind, rfl⟩
    cases hok.symm.trans h
  rw [enter, bind_ok (disk_run w), bind_ok (here_run w)] at h
  cases hfind : w.disk.find w.places.here s with
  | error t =>
    rw [hfind] at h
    obtain ⟨rfl, rfl⟩ := EStateM.Result.error.inj h
    exact ⟨rfl, rfl, by simp⟩
  | ok p =>
    obtain ⟨loc, e⟩ := p
    rw [hfind] at h hnot
    cases e with
    | dir => exact absurd rfl (hnot loc)
    | _ =>
      obtain ⟨rfl, rfl⟩ := EStateM.Result.error.inj h
      exact ⟨rfl, rfl, hnot⟩

lemma pathExists_run (s : String) (w : Session) :
    pathExists s w = .ok (w.disk.pathExists w.places.here s) w := by
  rw [pathExists, bind_ok (disk_run w), bind_ok (here_run w)]
  rfl

lemma readText_iff {s text : String} : readText s w = .ok text w' ↔
    w.disk.readText w.places.here s = .ok text ∧ w' = w := by
  rw [readText, bind_ok (disk_run w), bind_ok (here_run w)]
  cases hread : w.disk.readText w.places.here s with
  | error f =>
    rw [ofExcept_error rfl]
    simp
  | ok t =>
    rw [ofExcept_ok rfl]
    simp [eq_comm]

/-! ## Printing -/

lemma printLine_run (s : String) (w : Session) :
    printLine s w = .ok () { w with out := w.out ++ (s ++ "\n") } := rfl

lemma errorLine_run (s : String) (w : Session) :
    errorLine s w = .ok () { w with err := w.err ++ (s ++ "\n") } := rfl

/-- A program that does nothing but print. -/
def Prints (a : Act Unit) : Prop :=
  ∀ w : Session, ∃ out err, a w = .ok () { w with out := out, err := err }

namespace Prints

lemma nothing : Prints (pure ()) := fun w => ⟨w.out, w.err, rfl⟩

lemma printLine (s : String) : Prints (Act.printLine s) := fun _ => ⟨_, _, rfl⟩

lemma errorLine (s : String) : Prints (Act.errorLine s) := fun _ => ⟨_, _, rfl⟩

lemma seq {a b : Act Unit} (ha : Prints a) (hb : Prints b) : Prints (do a; b) := by
  intro w
  obtain ⟨out, err, h⟩ := ha w
  obtain ⟨out', err', h'⟩ := hb { w with out := out, err := err }
  exact ⟨out', err', (bind_ok h).trans h'⟩

/-- A loop over steps that print. -/
lemma loop {ι : Type} {step : ι → Act Unit} (hstep : ∀ i, Prints (step i)) :
    ∀ is : List ι, Prints (forIn is PUnit.unit fun i _ => do
      step i
      pure (ForInStep.yield PUnit.unit))
  | [] => nothing
  | i :: is => by
    intro w
    obtain ⟨out, err, h⟩ := hstep i w
    obtain ⟨out', err', h'⟩ := loop hstep is { w with out := out, err := err }
    refine ⟨out', err', ?_⟩
    rw [List.forIn_cons, bind_assoc, bind_ok h]
    exact h'

end Prints

/-! ## Loops -/

/-- A loop that adds something to the session in each turn. -/
lemma forIn_put {ι κ : Type} (put : List κ → Session → Session) (hnil : ∀ w, put [] w = w)
    (hcons : ∀ x xs w, put xs (put [x] w) = put (x :: xs) w) {line : ι → κ}
    {step : ι → PUnit → Act (ForInStep PUnit)}
    (hstep : ∀ i u w, step i u w = .ok (.yield PUnit.unit) (put [line i] w)) (is : List ι) :
    ∀ w : Session, (forIn is PUnit.unit step) w = .ok PUnit.unit (put (is.map line) w) := by
  induction is with
  | nil =>
    intro w
    rw [List.map_nil, hnil]
    rfl
  | cons i is ih =>
    intro w
    rw [List.forIn_cons, bind_ok (hstep i _ w), List.map_cons]
    exact (ih _).trans (congrArg _ (hcons _ _ _))

/-- A program that prints and then gives up with a failure. -/
def GivesUp (f : Failure) (a : Act α) : Prop :=
  ∀ w : Session, ∃ out err, a w = .error f { w with out := out, err := err }

lemma GivesUp.throw (f : Failure) : GivesUp f (throw f : Act α) := fun w => ⟨w.out, w.err, rfl⟩

lemma Prints.givesUp {a : Act Unit} {b : Act α} (ha : Prints a) (hb : GivesUp f b) :
    GivesUp f (do a; b) := by
  intro w
  obtain ⟨out, err, h⟩ := ha w
  obtain ⟨out', err', h'⟩ := hb { w with out := out, err := err }
  exact ⟨out', err', (bind_ok h).trans h'⟩

end Act

end QualityGate
