/-
# The files of the guard that are made in a project

All files of the guard are written, whether they are missing or not: a file that was there before has
the text of the guard afterwards.  Everything else stays as it was, and directories are only added.

* `Supplied`: what writing some files and making directories does to a disk;
* `makeGuardFiles_replaces`: this, for the files of the guard.
-/
import Mathlib
import QualityGate.Proofs.FileSteps
import QualityGate.Scaffold.Complete

namespace QualityGate.Text

/-! ## Texts without halves of characters -/

/-- No byte of a text is the first one of a character of the last plane, where the halves are. -/
def lowBytes (s : String) : Bool := s.toByteArray.data.toList.all fun b => b.toNat < 0xf4

lemma half?_of_utf8EncodeChar {c : Char} (h : ∀ b ∈ String.utf8EncodeChar c, b.toNat < 0xf4) :
    half? c = none := by
  rw [half?, if_neg]
  intro hc
  rw [Bool.and_eq_true, decide_eq_true_iff, decide_eq_true_iff] at hc
  have hc' : 0x10A000 ≤ c.val.toNat ∧ c.val.toNat < 0x10A000 + 0x800 := hc
  have hlead : c.val.toNat / 262144 % 8 + 240 = 0xf4 := by omega
  have hmem : UInt8.ofNat 0xf4 ∈ String.utf8EncodeChar c := by
    simp only [String.utf8EncodeChar]
    rw [if_neg (by omega), if_neg (by omega), if_neg (by omega), hlead]
    exact List.mem_cons_self
  exact absurd (h _ hmem) (by decide)

lemma halfFault?_of_lowBytes {s : String} (h : lowBytes s = true) : halfFault? s = none := by
  rw [halfFault?, halfFaultFrom_eq_none_iff]
  intro c hc
  refine half?_of_utf8EncodeChar fun b hb => ?_
  have hbytes : b ∈ s.toByteArray.data.toList := by
    rw [← String.utf8Encode_toList, List.utf8Encode, List.data_toByteArray]
    exact List.mem_flatMap.mpr ⟨c, hc, hb⟩
  simpa using List.all_eq_true.mp h b hbytes

lemma halfFault?_ofLines {lines : List String} (h : lines.all lowBytes = true) :
    halfFault? (ofLines lines) = none := by
  rw [ofLines, halfFault?_join]
  simp only [List.forall_mem_map, halfFault?_append]
  exact fun l hl => ⟨halfFault?_of_lowBytes (List.all_eq_true.mp h l hl), by decide⟩

end QualityGate.Text

namespace QualityGate.Disk

/-! ## Files that were written -/

/-- The files at some paths were written with their texts, and directories were made.  Two paths may
lead to one file, which holds the text of one of them then. -/
structure Supplied (here : Location) (files : List (String × String)) (d d' : Disk) : Prop where
  holds : ∀ f ∈ files, ∃ l, ∃ g ∈ files, d'.locate here f.1 = .ok l ∧ d'.locate here g.1 = .ok l ∧
    d'.get? l = some (.file g.2.toUTF8)
  keeps : ∀ l e, d.get? l = some e →
    d'.get? l = some e ∨ (∃ old, e = .file old) ∧ ∃ f ∈ files, d'.locate here f.1 = .ok l

namespace Supplied

variable {here : Location} {files : List (String × String)} {d d₁ d₂ : Disk}

lemma refl (here : Location) (d : Disk) : Supplied here [] d d := ⟨by simp, fun _ _ h => .inl h⟩

lemma rooted (h : Supplied here files d d₁) {loc : Location} (hl : Rooted d loc) : Rooted d₁ loc where
  names := hl.names
  dirs l hpre := by
    rcases h.keeps l _ (hl.dirs l hpre) with h | ⟨⟨old, hold⟩, -⟩
    · exact h
    · cases hold

lemma read (h : Supplied here files d d₁) {f : String × String} (hf : f ∈ files) :
    ∃ g ∈ files, SamePlace d₁ here f.1 g.1 ∧ d₁.read here f.1 = .ok g.2.toUTF8 := by
  obtain ⟨l, g, hg, hfl, hgl, hget⟩ := h.holds f hf
  exact ⟨g, hg, ⟨l, hfl, hgl⟩, read_eq_ok_iff.mpr ⟨l, find_eq_ok_iff.mpr ⟨hfl, hget⟩⟩⟩

/-- New directories change nothing of this. -/
lemma extend (h : Supplied here files d d₁) (hext : Extends d₁ d₂) : Supplied here files d d₂ := by
  have hlocate : ∀ {f : String × String} {l : Location}, f ∈ files → d₁.locate here f.1 = .ok l →
      d₂.locate here f.1 = .ok l := by
    intro f l hf hl
    obtain ⟨l', g, -, hl', -, hget⟩ := h.holds f hf
    obtain rfl := Except.ok.inj (hl.symm.trans hl')
    exact (find_eq_ok_iff.mp (hext.find (find_eq_ok_iff.mpr ⟨hl, hget⟩))).1
  refine ⟨fun f hf => ?_, fun l e he => ?_⟩
  · obtain ⟨l, g, hg, hfl, hgl, hget⟩ := h.holds f hf
    exact ⟨l, g, hg, hlocate hf hfl, hlocate hg hgl, hext _ _ hget⟩
  · rcases h.keeps l e he with hsame | ⟨hfile, f, hf, hfl⟩
    · exact .inl (hext l e hsame)
    · exact .inr ⟨hfile, f, hf, hlocate hf hfl⟩

lemma write (h : Supplied here files d d₁) (hhere : Rooted d here) {s text : String}
    (hwrite : d₁.write here s text.toUTF8 = .ok d₂) : Supplied here (files ++ [(s, text)]) d d₂ := by
  obtain ⟨m, hm, hne, hdir, hlink, rfl⟩ := ((h.rooted hhere).anchored s).set_of_write hwrite
  have hlocate {t : String} {l : Location} (hl : d₁.locate here t = .ok l) :
      (d₁.set m (.file text.toUTF8)).locate here t = .ok l := locate_set hl hdir hlink _
  have hlast : (s, text) ∈ files ++ [(s, text)] := by simp
  refine ⟨fun f hf => ?_, fun l e he => ?_⟩
  · rcases List.mem_append.mp hf with hf | hf
    · obtain ⟨l, g, hg, hfl, hgl, hget⟩ := h.holds f hf
      by_cases hlm : l = m
      · subst hlm
        exact ⟨l, _, hlast, hlocate hfl, hlocate hm, get?_set_self _ hne⟩
      · refine ⟨l, g, List.mem_append_left _ hg, hlocate hfl, hlocate hgl, ?_⟩
        rwa [get?_set_of_ne _ hlm]
    · obtain rfl := List.mem_singleton.mp hf
      exact ⟨m, _, hlast, hlocate hm, hlocate hm, get?_set_self _ hne⟩
  · rcases h.keeps l e he with hsame | ⟨hfile, f, hf, hfl⟩
    · by_cases hlm : l = m
      · subst hlm
        refine .inr ⟨?_, _, hlast, hlocate hm⟩
        cases e with
        | dir => exact absurd hsame hdir
        | link target => exact absurd hsame (hlink target)
        | file old => exact ⟨old, rfl⟩
      · exact .inl (by rwa [get?_set_of_ne _ hlm])
    · exact .inr ⟨hfile, f, List.mem_append_left _ hf, hlocate hfl⟩

end Supplied

end QualityGate.Disk

namespace QualityGate.Scaffold

open Disk

/-! ## The run -/

/-- The files of the guard with their texts. -/
def guardFiles : List (String × String) := [
  ("core/__init__.py", coreModule),
  ("setup.py", fullPackageScript),
  ("requirements.txt", requirementNotes),
  ("pyproject.toml", fullPackageProject),
  ("config/quality-config.json", Json.render Settings.fileStyle completeRules)]

/-- A directory was made, or was there. -/
def Made (here : Location) (s : String) (d d' : Disk) : Prop := d.makeNamed here s = (d', none)

variable {here : Location}

lemma performs_makeDirsNamed (s : String) : Performs here (Act.makeDirsNamed s) (Made here s) where
  sound := by
    rintro w w' rfl h
    rw [Act.makeDirsNamed_run] at h
    rcases hmade : w.disk.makeNamed w.places.here s with ⟨d, _ | e⟩
    · rw [hmade] at h
      obtain ⟨-, rfl⟩ := EStateM.Result.ok.inj h
      exact ⟨d, w.out, hmade, rfl⟩
    · rw [hmade] at h
      cases h
  complete := by
    rintro w d rfl hmade
    exact ⟨w.out, by rw [Act.makeDirsNamed_run, hmade]⟩

lemma performs_writeShown (s text : String) :
    Performs here (writeShown s text) (Wrote here s text) :=
  (performs_writeText here s text).thenPrints (.printLine _)

open Relation in
lemma performs_makePackageFiles : Performs here makePackageFiles (Comp (Made here "core")
    (Comp (Wrote here "core/__init__.py" coreModule) (Comp (Wrote here "setup.py" fullPackageScript)
    (Comp (Wrote here "requirements.txt" requirementNotes)
    (Comp (Wrote here "pyproject.toml" fullPackageProject) (Made here "config")))))) :=
  .afterPrint _ <| (performs_makeDirsNamed _).seq <| (performs_writeShown _ _).seq <|
    (performs_writeShown _ _).seq <| (performs_writeShown _ _).seq <| (performs_writeShown _ _).seq <|
    performs_makeDirsNamed _

/-- The last file is refused only if the answer is no. -/
lemma recoverFile_eq_ok_true {a : Act Bool} {s : FileError → String} {w w' : Session} :
    recoverFile a (fun e => do Act.errorLine (s e); return false) w = .ok true w' ↔
      a w = .ok true w' := by
  show EStateM.tryCatch a _ w = _ ↔ _
  rw [EStateM.tryCatch]
  cases a w with
  | ok x v => rfl
  | error f v => cases f <;> exact iff_of_false (fun h => by cases h) (fun h => by cases h)

/-- Make all files of the guard, without an answer. -/
def writeGuardFiles : Act Unit := do
  makePackageFiles
  writeShown "config/quality-config.json" (Json.render Settings.fileStyle completeRules)

lemma makeGuardFiles_eq_ok_true {w w' : Session} :
    makeGuardFiles w = .ok true w' ↔ writeGuardFiles w = .ok () w' := by
  rw [makeGuardFiles, writeGuardFiles, Act.bind_eq_ok_iff, Act.bind_eq_ok_iff]
  simp only [recoverFile_eq_ok_true, Act.bind_eq_ok_iff]
  constructor
  · rintro ⟨x, w₁, h₁, _, w₂, h₂, h⟩
    obtain ⟨-, rfl⟩ := EStateM.Result.ok.inj h
    exact ⟨x, w₁, h₁, h₂⟩
  · rintro ⟨x, w₁, h₁, h₂⟩
    exact ⟨x, w₁, h₁, (), w', h₂, rfl⟩

lemma supplied_of_makeGuardFiles {w w' : Session} (hhere : w.disk.Rooted w.places.here)
    (h : makeGuardFiles w = .ok true w') :
    Supplied w.places.here guardFiles w.disk w'.disk ∧
      w' = { w with disk := w'.disk, out := w'.out } := by
  obtain ⟨d', out, ⟨d, ⟨d₁, hcore, d₂, hmodule, d₃, hscript, d₄, hnotes, d₅, hproject, hconfig⟩,
    hrules⟩, rfl⟩ := (performs_makePackageFiles.seq (performs_writeShown _ _)).sound rfl
      (makeGuardFiles_eq_ok_true.mp h)
  have hmade {s : String} {d d' : Disk} (h : Made w.places.here s d d') : Extends d d' := by
    have hext := @extends_makeNamed d w.places.here s
    rwa [h] at hext
  have hfirst := ((Supplied.refl w.places.here w.disk).extend (hmade hcore)).write hhere hmodule.2
  have hpackage := ((hfirst.write hhere hscript.2).write hhere hnotes.2).write hhere hproject.2
  exact ⟨(hpackage.extend (hmade hconfig)).write hhere hrules.2, rfl⟩

/-- If all files are reported as made, then each of their paths leads to a text of the guard, whatever
was there before: its own one, or that of another path to the same place.  What stood elsewhere is
kept, directories and links everywhere, and only the files and the output are others. -/
theorem makeGuardFiles_replaces {w w' : Session} (hhere : w.disk.Rooted w.places.here)
    (h : makeGuardFiles w = .ok true w') :
    (∀ f ∈ guardFiles, ∃ g ∈ guardFiles, SamePlace w'.disk w.places.here f.1 g.1 ∧
      w'.disk.read w.places.here f.1 = .ok g.2.toUTF8) ∧
    (∀ l e, w.disk.get? l = some e → w'.disk.get? l = some e ∨
      (∃ old, e = .file old) ∧ ∃ f ∈ guardFiles, w'.disk.locate w.places.here f.1 = .ok l) ∧
    w' = { w with disk := w'.disk, out := w'.out } := by
  obtain ⟨hsupplied, hsame⟩ := supplied_of_makeGuardFiles hhere h
  exact ⟨fun f hf => hsupplied.read hf, hsupplied.keeps, hsame⟩

/-! ## A project with a script of its own -/

def ownScript : Session := { Session.bare with disk := ⟨[(["setup.py"], .file ⟨#[0xff]⟩)]⟩ }

lemma halfFault?_texts :
    Text.halfFault? coreModule = none ∧ Text.halfFault? fullPackageScript = none ∧
    Text.halfFault? requirementNotes = none ∧ Text.halfFault? fullPackageProject = none ∧
    Text.halfFault? (Json.render Settings.fileStyle completeRules) = none :=
  ⟨Text.halfFault?_ofLines (by decide +kernel), Text.halfFault?_ofLines (by decide +kernel),
    Text.halfFault?_ofLines (by decide +kernel), Text.halfFault?_ofLines (by decide +kernel),
    Text.halfFault?_of_lowBytes (by decide +kernel)⟩

/-- A text is written where nothing or a file is. -/
lemma wrote_of_names {s text n : String} {d : Disk} {base : Location}
    (htext : Text.halfFault? text = none) (hs : Accepted s) (hnames : namesToFollow s = base ++ [n])
    (hbase : Rooted d base) (hn : Writable [n])
    (hget : d.get? (base ++ [n]) = none ∨ ∃ old, d.get? (base ++ [n]) = some (.file old)) :
    Wrote [] s text d (d.set (base ++ [n]) (.file text.toUTF8)) := by
  obtain ⟨hplain, hname⟩ := hn n (by simp)
  have hdir : d.get? (base ++ [n]) ≠ some .dir := by
    rcases hget with h | ⟨old, h⟩ <;> simp [h]
  have hlink : ∀ target, d.get? (base ++ [n]) ≠ some (.link target) := by
    rcases hget with h | ⟨old, h⟩ <;> simp [h]
  refine ⟨htext, write_eq_ok_iff.mpr ⟨_, locate_eq_ok_iff.mpr ⟨hs, ?_⟩, hdir, rfl⟩⟩
  rw [hnames, ite_self]
  exact (Found.leaf hbase hplain hname hdir hlink).leads

lemma made_of_missing {n : String} {d : Disk} (hs : Accepted n) (hn : Writable [n])
    (hsplit : splitNamed n = ("", n)) (h : d.get? [n] = none) : Made [] n d (d.set [n] .dir) := by
  rw [Made, makeNamed_name hs hn hsplit, List.nil_append, if_pos h]

lemma rooted_set {n : String} {d : Disk} (hn : Writable [n]) : Rooted (d.set [n] .dir) [n] := by
  obtain ⟨hplain, hname⟩ := hn n (by simp)
  exact (Rooted.nil _).concat hplain hname (get?_set_self _ (by simp))

lemma makeGuardFiles_ownScript : ∃ w', makeGuardFiles ownScript = .ok true w' := by
  obtain ⟨htext₁, htext₂, htext₃, htext₄, htext₅⟩ := halfFault?_texts
  obtain ⟨out, hrun⟩ := (performs_makePackageFiles.seq (performs_writeShown
    "config/quality-config.json" _)).complete (w := ownScript) rfl
    ⟨_, ⟨_, made_of_missing (by decide) (by decide) (by decide) rfl,
      _, wrote_of_names (n := "__init__.py") htext₁ (by decide) (by decide)
        (rooted_set (by decide)) (by decide) (.inl rfl),
      _, wrote_of_names (n := "setup.py") htext₂ (by decide) (by decide) (.nil _) (by decide)
        (.inr ⟨_, rfl⟩),
      _, wrote_of_names (n := "requirements.txt") htext₃ (by decide) (by decide) (.nil _) (by decide)
        (.inl rfl),
      _, wrote_of_names (n := "pyproject.toml") htext₄ (by decide) (by decide) (.nil _) (by decide)
        (.inl rfl),
      made_of_missing (by decide) (by decide) (by decide) rfl⟩,
      wrote_of_names (n := "quality-config.json") htext₅ (by decide) (by decide)
        (rooted_set (by decide)) (by decide) (.inl rfl)⟩
  exact ⟨_, makeGuardFiles_eq_ok_true.mpr hrun⟩

/-- The script is replaced by that of the guard, which the guard reports as made. -/
theorem makeGuardFiles_replaces_ownScript :
    ownScript.disk.Rooted ownScript.places.here ∧
    ∃ w', makeGuardFiles ownScript = .ok true w' ∧
      ∃ g ∈ guardFiles, w'.disk.read [] "setup.py" = .ok g.2.toUTF8 := by
  obtain ⟨w', h⟩ := makeGuardFiles_ownScript
  obtain ⟨hread, -, -⟩ := makeGuardFiles_replaces (Rooted.nil _) h
  obtain ⟨g, hg, -, hread⟩ := hread ("setup.py", fullPackageScript) (by simp [guardFiles])
  exact ⟨Rooted.nil _, w', h, g, hg, hread⟩

/-- A file that was there is not the same any more, although all files are reported as made. -/
theorem makeGuardFiles_not_kept : ∃ w', makeGuardFiles ownScript = .ok true w' ∧
    ownScript.disk.get? ["setup.py"] = some (.file ⟨#[0xff]⟩) ∧
    w'.disk.read [] "setup.py" ≠ .ok ⟨#[0xff]⟩ := by
  obtain ⟨w', h⟩ := makeGuardFiles_ownScript
  obtain ⟨g, -, -, hread⟩ := (supplied_of_makeGuardFiles (Rooted.nil _) h).1.read
    (f := ("setup.py", fullPackageScript)) (by simp [guardFiles])
  refine ⟨w', h, rfl, fun hsame => ?_⟩
  -- what is read now is a text
  have htext := fromUTF8?_toUTF8 g.2
  have hbyte : String.fromUTF8? ⟨#[0xff]⟩ = none := by decide
  rw [Except.ok.inj (hread.symm.trans hsame), hbyte] at htext
  cases htext

end QualityGate.Scaffold
