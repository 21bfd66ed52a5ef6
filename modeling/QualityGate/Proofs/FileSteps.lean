/-
# Programs that write files step by step

What a program does to the files is a relation between disks (`Performs`), and the relation of a
program is put together from those of its parts.  A file that is written, made if it is missing, or
copied is a step that need not be done twice (`settles_write`, `settles_make`, `settles_copy`).
-/
import Mathlib
import QualityGate.Proofs.Sessions
import QualityGate.Proofs.SourceChecks
import QualityGate.Proofs.Utf8Reading
import QualityGate.Proofs.WrittenFiles

namespace QualityGate

open Disk

/-! ## Programs that change files -/

/-- A program that does to the files what a relation says, prints, and changes nothing else. -/
structure Performs (here : Location) (a : Act Unit) (R : Disk → Disk → Prop) : Prop where
  sound : ∀ {w w' : Session}, w.places.here = here → a w = .ok () w' →
    ∃ d out, R w.disk d ∧ w' = { w with disk := d, out := out }
  complete : ∀ {w : Session} {d : Disk}, w.places.here = here → R w.disk d →
    ∃ out, a w = .ok () { w with disk := d, out := out }

namespace Performs

variable {here : Location} {a b : Act Unit} {R S : Disk → Disk → Prop} {s text : String}

lemma printLine (s : String) : Performs here (Act.printLine s) Eq where
  sound := by
    rintro w w' - h
    obtain ⟨-, rfl⟩ := EStateM.Result.ok.inj h
    exact ⟨w.disk, _, rfl, rfl⟩
  complete := by
    rintro w d - rfl
    exact ⟨_, rfl⟩

lemma nothing : Performs here (pure ()) Eq where
  sound := by
    rintro w w' - h
    obtain ⟨-, rfl⟩ := EStateM.Result.ok.inj h
    exact ⟨w.disk, w.out, rfl, rfl⟩
  complete := by
    rintro w d - rfl
    exact ⟨w.out, rfl⟩

lemma seq (ha : Performs here a R) (hb : Performs here b S) :
    Performs here (do a; b) (Relation.Comp R S) where
  sound := by
    intro w w' hw h
    obtain ⟨_, w₁, h₁, h₂⟩ := Act.bind_eq_ok_iff.mp h
    obtain ⟨d, out, hR, rfl⟩ := ha.sound hw h₁
    obtain ⟨d', out', hS, rfl⟩ := hb.sound (w := { w with disk := d, out := out }) hw h₂
    exact ⟨d', out', ⟨d, hR, hS⟩, rfl⟩
  complete := by
    rintro w d' hw ⟨d, hR, hS⟩
    obtain ⟨out, h₁⟩ := ha.complete hw hR
    obtain ⟨out', h₂⟩ := hb.complete (w := { w with disk := d, out := out }) hw hS
    exact ⟨out', (Act.bind_ok h₁).trans h₂⟩

lemma congr (ha : Performs here a R) (h : ∀ d d', S d d' ↔ R d d') : Performs here a S where
  sound hw hrun := by simpa only [h] using ha.sound hw hrun
  complete hw hS := ha.complete hw ((h _ _).mp hS)

/-- What a program prints before or behind another one does not matter. -/
lemma thenPrints (ha : Performs here a R) (hb : Performs here b Eq) : Performs here (do a; b) R :=
  (ha.seq hb).congr fun d d' => by rw [Relation.comp_eq]

lemma afterPrint (s : String) (ha : Performs here a R) :
    Performs here (do Act.printLine s; a) R :=
  ((printLine s).seq ha).congr fun d d' => by rw [Relation.eq_comp]

/-- A program that looks up a value is followed by one that depends on the value. -/
lemma after {α : Type} {x : Act α} {v : α} {f : α → Act Unit}
    (hx : ∀ w : Session, w.places.here = here → x w = .ok v w) (hf : Performs here (f v) R) :
    Performs here (x >>= f) R where
  sound hw h := hf.sound hw (by rwa [Act.bind_ok (hx _ hw)] at h)
  complete hw hR := by
    rw [Act.bind_ok (hx _ hw)]
    exact hf.complete hw hR

/-- A look at a path decides between two programs. -/
lemma look (ha : Performs here a R) (hb : Performs here b S) :
    Performs here (do if ← Act.isThere s then a else b) fun d d' =>
      (∃ e, d.lookAt here s = .ok (some e)) ∧ R d d' ∨ d.lookAt here s = .ok none ∧ S d d' where
  sound := by
    intro w w' hw h
    obtain ⟨there, w₁, hthere, hrest⟩ := Act.bind_eq_ok_iff.mp h
    obtain ⟨e, he, rfl, rfl⟩ := Act.isThere_iff.mp hthere
    rw [hw] at he
    cases e with
    | none =>
      obtain ⟨d, out, hS, rfl⟩ := hb.sound hw hrest
      exact ⟨d, out, .inr ⟨he, hS⟩, rfl⟩
    | some e =>
      obtain ⟨d, out, hR, rfl⟩ := ha.sound hw hrest
      exact ⟨d, out, .inl ⟨⟨e, he⟩, hR⟩, rfl⟩
  complete := by
    rintro w d hw (⟨⟨e, he⟩, hR⟩ | ⟨he, hS⟩)
    · obtain ⟨out, h⟩ := ha.complete hw hR
      exact ⟨out, (Act.bind_ok (Act.isThere_iff.mpr ⟨some e, hw ▸ he, rfl, rfl⟩)).trans h⟩
    · obtain ⟨out, h⟩ := hb.complete hw hS
      exact ⟨out, (Act.bind_ok (Act.isThere_iff.mpr ⟨none, hw ▸ he, rfl, rfl⟩)).trans h⟩

/-- A text is read before a program that depends on it. -/
lemma read {a : String → Act Unit} {R : String → Disk → Disk → Prop}
    (ha : ∀ text, Performs here (a text) (R text)) :
    Performs here (do a (← Act.readText s)) fun d d' =>
      ∃ text, d.readText here s = .ok text ∧ R text d d' where
  sound := by
    intro w w' hw h
    obtain ⟨text, w₁, hread, hrest⟩ := Act.bind_eq_ok_iff.mp h
    obtain ⟨hread, rfl⟩ := Act.readText_iff.mp hread
    obtain ⟨d, out, hR, rfl⟩ := (ha text).sound hw hrest
    exact ⟨d, out, ⟨text, hw ▸ hread, hR⟩, rfl⟩
  complete := by
    rintro w d hw ⟨text, hread, hR⟩
    obtain ⟨out, h⟩ := (ha text).complete hw hR
    exact ⟨out, (Act.bind_ok (Act.readText_iff.mpr ⟨hw ▸ hread, rfl⟩)).trans h⟩

/-- A program that puts one disk in the place of another. -/
lemma change {f : Disk → Except FileError Disk}
    (ha : ∀ w : Session, w.places.here = here → a w = Act.changeDisk (f w.disk) w) :
    Performs here a fun d d' => f d = .ok d' where
  sound := by
    intro w w' hw h
    rw [ha w hw] at h
    obtain ⟨d, hd, rfl⟩ := Act.changeDisk_iff.mp h
    exact ⟨d, w.out, hd, rfl⟩
  complete := by
    intro w d hw hd
    exact ⟨w.out, (ha w hw).trans (Act.changeDisk_iff.mpr ⟨d, hd, rfl⟩)⟩

end Performs

end QualityGate

namespace QualityGate.Disk

/-! ## Files that are written or made -/

section

variable {d d' : Disk} {here loc : Location} {s n text : String}

/-- A text was written. -/
def Wrote (here : Location) (s text : String) (d d' : Disk) : Prop :=
  Text.halfFault? text = none ∧ d.write here s text.toUTF8 = .ok d'

/-- A file is there with a text. -/
def Stores (here : Location) (s text : String) (d : Disk) : Prop :=
  Text.halfFault? text = none ∧ d.read here s = .ok text.toUTF8

/-- To write to a file what it holds changes nothing. -/
lemma write_of_read {bytes : ByteArray} (h : d.read here s = .ok bytes) :
    d.write here s bytes = .ok d := by
  obtain ⟨loc, hfind⟩ := read_eq_ok_iff.mp h
  obtain ⟨hlocate, hget⟩ := find_eq_ok_iff.mp hfind
  have hne : loc ≠ [] := by
    rintro rfl
    cases hget
  exact write_eq_ok_iff.mpr ⟨loc, hlocate, by simp [hget], (set_of_get? hne hget).symm⟩

/-- What is read at a path does not change when files with other names are written. -/
lemma Writes.read_iff {P : String → Prop} {bytes : ByteArray} (h : Writes here P d d')
    (hs : ∀ t, P t → ¬ SamePlace d here s t) :
    d'.read here s = .ok bytes ↔ d.read here s = .ok bytes := by
  simp only [read_eq_ok_iff, h.find_iff hs]

lemma lookAt_of_read {bytes : ByteArray} (h : d.read here s = .ok bytes) :
    d.lookAt here s = .ok (some (.file bytes)) :=
  lookAt_eq_some_iff.mpr (read_eq_ok_iff.mp h)

/-- What is read as text is what the file holds, with all line ends made the same. -/
lemma readText_eq_ok_iff : d.readText here s = .ok text ↔
    ∃ raw : String, d.read here s = .ok raw.toUTF8 ∧ text = Text.unified raw := by
  rw [readText]
  cases hread : d.read here s with
  | error e => simp
  | ok bytes =>
    cases hdecode : Text.decodeUtf8 bytes with
    | error f =>
      simp only [hdecode, reduceCtorEq, false_iff, not_exists, not_and, Except.ok.injEq]
      rintro raw rfl -
      rw [decodeUtf8_toUTF8] at hdecode
      cases hdecode
    | ok raw =>
      obtain rfl := Text.decodeUtf8_eq_ok_iff.mp hdecode
      simp only [hdecode, Except.ok.injEq]
      constructor
      · rintro rfl
        exact ⟨raw, rfl, rfl⟩
      · rintro ⟨raw', hraw, rfl⟩
        have hsame := decodeUtf8_toUTF8 raw'
        rw [← hraw, decodeUtf8_toUTF8] at hsame
        rw [Except.ok.inj hsame]
        rfl

lemma Writes.readText_iff {P : String → Prop} (h : Writes here P d d')
    (hs : ∀ t, P t → ¬ SamePlace d here s t) :
    d'.readText here s = .ok text ↔ d.readText here s = .ok text := by
  simp only [readText_eq_ok_iff, h.read_iff hs]

lemma lookAt_of_readText (h : d.readText here s = .ok text) :
    ∃ e, d.lookAt here s = .ok (some e) := by
  obtain ⟨raw, hread, -⟩ := readText_eq_ok_iff.mp h
  exact ⟨_, lookAt_of_read hread⟩

lemma settles_write (hs : Named n s) :
    Settles here [n] (fun _ t => t = s) (Wrote here s text) (Stores here s text) where
  named := by
    rintro d t rfl
    exact ⟨n, List.mem_singleton_self n, hs⟩
  writes _ h := .single rfl hs.starts h.2
  done_of_run _ h := ⟨h.1, read_write hs.starts h.2⟩
  run_of_done h := ⟨h.1, write_of_read h.2⟩
  paths_of _ _ _ _ := id
  stays htidy hdisj hwrites h :=
    ⟨h.1, (hwrites.read_iff (htidy.apart hdisj (List.mem_singleton_self n) hs)).mpr h.2⟩

/-- A file was written unless something was there already. -/
def Makes (here : Location) (s text : String) (d d' : Disk) : Prop :=
  (∃ e, d.lookAt here s = .ok (some e)) ∧ d' = d ∨
    d.lookAt here s = .ok none ∧ Wrote here s text d d'

lemma settles_make (hs : Named n s) :
    Settles here [n] (fun d t => t = s ∧ d.lookAt here s = .ok none) (Makes here s text)
      fun d => ∃ e, d.lookAt here s = .ok (some e) where
  named := by
    rintro d t ⟨rfl, -⟩
    exact ⟨n, List.mem_singleton_self n, hs⟩
  writes := by
    rintro d d' - (⟨-, rfl⟩ | ⟨hnone, hwrote⟩)
    · exact .refl
    · exact .single ⟨rfl, hnone⟩ hs.starts hwrote.2
  done_of_run := by
    rintro d d' - (⟨hthere, rfl⟩ | ⟨-, hwrote⟩)
    · exact hthere
    · exact ⟨_, lookAt_of_read (read_write hs.starts hwrote.2)⟩
  run_of_done h := .inl ⟨h, rfl⟩
  paths_of htidy hdisj hwrites t ht := by
    rwa [← hwrites.lookAt_eq (htidy.apart hdisj (List.mem_singleton_self n) hs)]
  stays htidy hdisj hwrites h := by
    rwa [hwrites.lookAt_eq (htidy.apart hdisj (List.mem_singleton_self n) hs)]

end

/-! ## Files that are copied -/

/-- Where a file is copied to under a name: below a directory that has this name already. -/
def copyTarget (d : Disk) (here : Location) (target name : String) : String :=
  if d.isDir here target then Path.joinName target name else target

/-- A file was copied if it was there. -/
def Copies (here : Location) (source target name : String) (d d' : Disk) : Prop :=
  d.lookAt here source = .ok none ∧ d' = d ∨
    ∃ bytes, d.read here source = .ok bytes ∧
      ¬ SamePlace d here source (copyTarget d here target name) ∧
      d.write here (copyTarget d here target name) bytes = .ok d'

/-- A file that was there has been copied. -/
def Copied (here : Location) (source target name : String) (d : Disk) : Prop :=
  d.lookAt here source = .ok none ∨
    ∃ bytes, d.read here source = .ok bytes ∧
      ¬ SamePlace d here source (copyTarget d here target name) ∧
      d.read here (copyTarget d here target name) = .ok bytes

section

variable {d d' : Disk} {here loc : Location} {n source target : String} {P : String → Prop}

lemma Writes.copyTarget_eq (h : Writes here P d d') :
    d'.copyTarget here target n = d.copyTarget here target n := by
  rw [copyTarget, copyTarget, h.isDir_eq]

lemma Named.copyTarget (h : Named n target) : Named n (d.copyTarget here target n) := by
  rw [Disk.copyTarget]
  split
  · exact h.joinName n
  · exact h

lemma settles_copy (hsource : Named n source) (htarget : Named n target) :
    Settles here [n]
      (fun d t => t = d.copyTarget here target n ∧ ∃ bytes, d.read here source = .ok bytes)
      (Copies here source target n) (Copied here source target n) where
  named := by
    rintro d t ⟨rfl, -⟩
    exact ⟨n, List.mem_singleton_self n, htarget.copyTarget⟩
  writes := by
    rintro d d' - (⟨-, rfl⟩ | ⟨bytes, hread, -, hwrite⟩)
    · exact .refl
    · exact .single ⟨rfl, bytes, hread⟩ htarget.copyTarget.starts hwrite
  done_of_run := by
    rintro d d' - (⟨hnone, rfl⟩ | ⟨bytes, hread, hother, hwrite⟩)
    · exact .inl hnone
    · have hstart : (d.copyTarget here target n).startsWith "/" = true := htarget.copyTarget.starts
      have hwrites : Writes here (· = d.copyTarget here target n) d d' := .single rfl hstart hwrite
      refine .inr ⟨bytes, (hwrites.read_iff ?_).mpr hread, ?_, ?_⟩
      · rintro t rfl
        exact hother
      · rwa [hwrites.copyTarget_eq, hwrites.samePlace_iff]
      · rw [hwrites.copyTarget_eq]
        exact read_write hstart hwrite
  run_of_done := by
    rintro d (hnone | ⟨bytes, hread, hother, hdone⟩)
    · exact .inl ⟨hnone, rfl⟩
    · exact .inr ⟨bytes, hread, hother, write_of_read hdone⟩
  paths_of := by
    rintro d d' others htidy hdisj hwrites t ⟨rfl, bytes, hread⟩
    refine ⟨hwrites.copyTarget_eq, bytes, (hwrites.read_iff ?_).mp hread⟩
    exact htidy.apart hdisj (List.mem_singleton_self n) hsource
  stays := by
    rintro d d' others htidy hdisj hwrites (hnone | ⟨bytes, hread, hother, hdone⟩)
    · left
      rwa [hwrites.lookAt_eq (htidy.apart hdisj (List.mem_singleton_self n) hsource)]
    · have hsource' : ∀ t, NamedIn others t → ¬ SamePlace d here source t :=
        htidy.apart hdisj (List.mem_singleton_self n) hsource
      have htarget' : ∀ t, NamedIn others t → ¬ SamePlace d here (d.copyTarget here target n) t :=
        htidy.apart hdisj (List.mem_singleton_self n) htarget.copyTarget
      refine .inr ⟨bytes, (hwrites.read_iff hsource').mpr hread, ?_, ?_⟩
      · rwa [hwrites.copyTarget_eq, hwrites.samePlace_iff]
      · rw [hwrites.copyTarget_eq]
        exact (hwrites.read_iff htarget').mpr hdone

end

end QualityGate.Disk

namespace QualityGate

open Disk

lemma performs_writeText (here : Location) (s text : String) :
    Performs here (Act.writeText s text) (Wrote here s text) where
  sound := by
    rintro w w' rfl h
    obtain ⟨hhalf, d, hd, rfl⟩ := Act.writeText_iff.mp h
    exact ⟨d, w.out, ⟨hhalf, hd⟩, rfl⟩
  complete := by
    rintro w d rfl ⟨hhalf, hd⟩
    exact ⟨w.out, Act.writeText_iff.mpr ⟨hhalf, d, hd, rfl⟩⟩

lemma sameFile_run (s t : String) (w : Session) : ∃ same, Act.sameFile s t w = .ok same w ∧
    (same = true ↔ ∃ loc e e', w.disk.find w.places.here s = .ok (loc, e) ∧
      w.disk.find w.places.here t = .ok (loc, e')) := by
  rw [Act.sameFile, Act.bind_ok (Act.disk_run w), Act.bind_ok (Act.here_run w),
    Act.bind_ok (Act.disk_run w), Act.bind_ok (Act.here_run w)]
  cases hs : w.disk.find w.places.here s with
  | error r => exact ⟨false, rfl, by simp⟩
  | ok p =>
    cases ht : w.disk.find w.places.here t with
    | error r => exact ⟨false, rfl, by simp⟩
    | ok q => exact ⟨decide (p.1 = q.1), rfl, by simp [Prod.ext_iff, eq_comm]⟩

/-- A file that can be read is copied, unless it would be copied to itself. -/
lemma copyFile_iff {source target : Path} {w w' : Session} :
    Act.copyFile source target w = .ok () w' ↔ ∃ bytes d,
      w.disk.read w.places.here source.text = .ok bytes ∧
      ¬ SamePlace w.disk w.places.here source.text
        (w.disk.copyTarget w.places.here target.text source.name) ∧
      w.disk.write w.places.here (w.disk.copyTarget w.places.here target.text source.name) bytes =
        .ok d ∧
      w' = { w with disk := d } := by
  set path := w.disk.copyTarget w.places.here target.text source.name with hpath
  obtain ⟨same, hrun, hsame⟩ := sameFile_run source.text path w
  have hinside : Act.isDir target.text w = .ok (w.disk.isDir w.places.here target.text) w := rfl
  rw [Act.copyFile, Act.bind_ok hinside]
  simp only
  rw [← copyTarget, ← hpath, Act.bind_ok hrun]
  cases hread : w.disk.read w.places.here source.text with
  | error e =>
    refine iff_of_false (fun h => ?_) (by simp)
    cases same with
    | true => cases h
    | false =>
      simp only [Bool.false_eq_true, if_false] at h
      rw [Act.bind_ok (Act.disk_run w), Act.bind_ok (Act.here_run w), hread] at h
      cases h
  | ok bytes =>
    have hplace : SamePlace w.disk w.places.here source.text path ↔ same = true := by
      obtain ⟨loc, hfind⟩ := read_eq_ok_iff.mp hread
      rw [hsame]
      constructor
      · rintro ⟨l, hl, hl'⟩
        obtain ⟨hloc, hget⟩ := find_eq_ok_iff.mp hfind
        obtain rfl : loc = l := Except.ok.inj (hloc.symm.trans hl)
        exact ⟨loc, _, _, hfind, find_eq_ok_iff.mpr ⟨hl', hget⟩⟩
      · rintro ⟨l, e, e', hl, hl'⟩
        exact ⟨l, (find_eq_ok_iff.mp hl).1, (find_eq_ok_iff.mp hl').1⟩
    rw [hplace]
    cases same with
    | true =>
      refine iff_of_false (fun h => ?_) (by simp)
      cases h
    | false =>
      simp only [Bool.false_eq_true, if_false]
      rw [Act.bind_ok (Act.disk_run w), Act.bind_ok (Act.here_run w), hread]
      show Act.changeDisk (w.disk.write w.places.here path bytes) w = _ ↔ _
      rw [Act.changeDisk_iff]
      simp

end QualityGate
