/-
# The start file of a user

The set-up for a user empties the file that Python reads at its start and only then fills in the
text for it.  The template of that text has a field that nothing fills (`fill_startupTemplate`), so
that the set-up fails after the old text is gone.

`setUpUser_fails`: the set-up ends with the code 1 in every session.  What was there before is kept,
except for the start file, which is left empty if the directory for it is there or can be made.
-/
import Mathlib
import QualityGate.Proofs.Sessions
import QualityGate.Proofs.WrittenFiles
import QualityGate.Scaffold.Startup

namespace QualityGate.Scaffold

/-- The directory of the user's own packages, as a text. -/
def startDir (w : Session) : String := (Location.path w.interpreter.userSite).text

/-- The file that Python reads at its start. -/
def startFile (w : Session) : String := Path.joinName (startDir w) "sitecustomize.py"

/-- The disk once the directory for the start file was asked for, and why it was refused. -/
def withStartDir (w : Session) : Disk × Option FileError :=
  w.disk.makeNamed w.places.here (startDir w)

lemma startsWith_startFile (w : Session) : (startFile w).startsWith "/" = true :=
  Disk.startsWith_joinName (Disk.startsWith_text _) _

lemma toList_ofLines (ls : List String) :
    (Text.ofLines ls).toList = ls.flatMap (·.toList ++ ['\n']) := by
  simp [Text.ofLines, List.flatMap_def, Function.comp_def]

/-- A brace of the template is taken for the start of a field. -/
lemma fill_startupTemplate :
    Text.fill [("sys_version", languageVersion)] startupTemplate = .error "e" := by
  rw [Text.fill, ← String.length_toList, startupTemplate, toList_ofLines]
  decide +kernel

/-- What becomes of the disk when the start file is made: it is emptied if it can be written. -/
inductive Opened (w : Session) : Disk → Prop
  | refused : ((withStartDir w).2 = none →
      ∀ d, (withStartDir w).1.write w.places.here (startFile w) "".toUTF8 ≠ .ok d) →
    Opened w (withStartDir w).1
  | emptied {d : Disk} :
    (withStartDir w).1.write w.places.here (startFile w) "".toUTF8 = .ok d → Opened w d

/-- To make the start file fails, at the latest when its text is filled in. -/
lemma makeStartup_run (w : Session) :
    ∃ f d, makeStartup w = .error f { w with disk := d } ∧ f.isError = true ∧ Opened w d := by
  have hmake := Act.makeDirsNamed_run (startDir w) w
  have hrun : makeStartup w =
      (Act.makeDirsNamed (startDir w) >>= fun _ => Act.writeText (startFile w) "" >>= fun _ =>
        (throw (.missingKey (.text "e")) : Act String)) w := by
    unfold makeStartup
    rw [Act.bind_ok (Act.get_run w), fill_startupTemplate]
    rfl
  rw [hrun]
  cases hdir : withStartDir w with
  | mk d refused =>
    rw [show w.disk.makeNamed w.places.here (startDir w) = _ from hdir] at hmake
    cases refused with
    | some e =>
      refine ⟨_, d, Act.bind_error hmake, rfl, ?_⟩
      have hopened : Opened w (withStartDir w).1 := .refused fun hnone => by simp [hdir] at hnone
      rwa [hdir] at hopened
    | none =>
      rw [Act.bind_ok hmake]
      have hempty : Act.writeText (startFile w) "" { w with disk := d } = _ :=
        Act.writeText_run rfl _
      cases hwrite : d.write w.places.here (startFile w) "".toUTF8 with
      | error e =>
        rw [hwrite] at hempty
        refine ⟨_, d, Act.bind_error hempty, rfl, ?_⟩
        have hopened : Opened w (withStartDir w).1 := .refused fun _ d' => by
          rw [hdir, hwrite]
          nofun
        rwa [hdir] at hopened
      | ok d' =>
        rw [hwrite] at hempty
        exact ⟨_, d', Act.bind_ok hempty, rfl, .emptied (by rw [hdir, hwrite])⟩

section

variable {w : Session} {d : Disk}

/-- What was there is kept, except for the start file, which was a file and is empty. -/
lemma Opened.kept (h : Opened w d) {l : Location} {e : Entry} (he : w.disk.get? l = some e) :
    d.get? l = some e ∨ d.locate w.places.here (startFile w) = .ok l ∧ (∃ bytes, e = .file bytes) ∧
      d.get? l = some (.file "".toUTF8) := by
  have hmade : (withStartDir w).1.get? l = some e := Disk.extends_makeNamed l e he
  cases h with
  | refused => exact .inl hmade
  | emptied hwrite =>
    obtain ⟨loc, hloc, hne, hdir, hlink, rfl⟩ := Disk.set_of_write (startsWith_startFile w) hwrite
    by_cases hl : l = loc
    · subst hl
      refine .inr ⟨Disk.locate_set hloc hdir hlink _, ?_, Disk.get?_set_self _ hne⟩
      rw [hmade] at hdir hlink
      cases e with
      | file bytes => exact ⟨bytes, rfl⟩
      | dir => exact absurd rfl hdir
      | link target => exact absurd rfl (hlink target)
    · rw [Disk.get?_set_of_ne _ hl]
      exact .inl hmade

/-- A start file that could be read is empty, once the directory is there. -/
lemma Opened.read_eq (h : Opened w d) (hdir : (withStartDir w).2 = none) {bytes : ByteArray}
    (hread : w.disk.read w.places.here (startFile w) = .ok bytes) :
    d.read w.places.here (startFile w) = .ok "".toUTF8 := by
  cases h with
  | refused hrefused =>
    obtain ⟨loc, hfind⟩ := Disk.read_eq_ok_iff.mp hread
    have hmade : (withStartDir w).1.read w.places.here (startFile w) = .ok bytes :=
      Disk.read_eq_ok_iff.mpr ⟨loc, Disk.extends_makeNamed.find hfind⟩
    obtain ⟨d', hwrite, -⟩ := Disk.exists_write_of_read hmade "".toUTF8
    exact absurd hwrite (hrefused hdir d')
  | emptied hwrite => exact Disk.read_write (startsWith_startFile w) hwrite

end

lemma setUpUser_run (w : Session) :
    ∃ d err, setUpUser w = .ok 1 { w with disk := d, err := err } ∧ Opened w d := by
  obtain ⟨f, d, hmake, herror, hopened⟩ := makeStartup_run w
  have hrun : setUpUser w = _ := Act.recover_error (Act.bind_error hmake) herror
  exact ⟨d, _, hrun, hopened⟩

/-- The set-up for a user ends with the code 1 in every session.  Of the session only the disk and
the errors that were printed change, and of what was on the disk only the start file: it is left
empty, always if it could be read and the directory for it is there or could be made. -/
theorem setUpUser_fails (w : Session) :
    ∃ w', setUpUser w = .ok 1 w' ∧ w' = { w with disk := w'.disk, err := w'.err } ∧
      (∀ l e, w.disk.get? l = some e → w'.disk.get? l = some e ∨
        w'.disk.locate w.places.here (startFile w) = .ok l ∧ (∃ bytes, e = .file bytes) ∧
          w'.disk.get? l = some (.file "".toUTF8)) ∧
      ((withStartDir w).2 = none → ∀ bytes, w.disk.read w.places.here (startFile w) = .ok bytes →
        w'.disk.read w.places.here (startFile w) = .ok "".toUTF8) := by
  obtain ⟨d, err, hrun, hopened⟩ := setUpUser_run w
  exact ⟨_, hrun, rfl, fun l e => hopened.kept, fun hdir bytes => hopened.read_eq hdir⟩

/-! ## A start file that is lost -/

/-- A user with a start file. -/
def customized : Session :=
  { Session.bare with
    disk := ⟨[(["u"], .dir), (["u", "sitecustomize.py"], .file "x".toUTF8)]⟩
    interpreter := { userSite := ["u"] } }

lemma rooted_customized : customized.disk.Rooted ["u"] :=
  (Disk.Rooted.nil _).concat (by decide) (by decide) rfl

lemma withStartDir_customized : (withStartDir customized).2 = none := by
  have hdir : startDir customized = "/u" := by decide
  have hsplit : Disk.splitNamed "/u" = ("/", "u") := by decide
  have hhead : customized.disk.find [] "/" = .ok ([], .dir) := Disk.find_root
  have hfind : customized.disk.find [] "/u" = .ok (["u"], .dir) :=
    Disk.find_of_found (by decide) (by decide) (.dir rooted_customized) rfl
  rw [withStartDir, hdir]
  refine Disk.makeNamed_of_isDir (Disk.isDir_iff.mpr ⟨_, hfind⟩) ?_
  rw [hsplit]
  show customized.disk.pathExists [] "/" = true
  rw [Disk.pathExists, hhead]

lemma read_customized :
    customized.disk.read customized.places.here (startFile customized) = .ok "x".toUTF8 := by
  have hget : customized.disk.get? (["u"] ++ ["sitecustomize.py"]) = some (.file "x".toUTF8) := rfl
  have hfound : customized.disk.Found (["u"] ++ ["sitecustomize.py"]) :=
    .leaf rooted_customized (by decide) (by decide) (by rw [hget]; nofun) (by rw [hget]; nofun)
  have hfind : customized.disk.find [] (startFile customized) = _ :=
    Disk.find_of_found (by decide +kernel) (by decide +kernel) hfound hget
  exact Disk.read_eq_ok_iff.mpr ⟨_, hfind⟩

/-- The set-up for a user fails, and the text of the start file is lost. -/
theorem startFile_lost : ∃ w', setUpUser customized = .ok 1 w' ∧
    customized.disk.read customized.places.here "/u/sitecustomize.py" = .ok "x".toUTF8 ∧
    w'.disk.read w'.places.here "/u/sitecustomize.py" = .ok "".toUTF8 := by
  obtain ⟨d, err, hrun, hopened⟩ := setUpUser_run customized
  have hfile : startFile customized = "/u/sitecustomize.py" := by decide +kernel
  have hempty := hopened.read_eq withStartDir_customized read_customized
  rw [hfile] at hempty
  exact ⟨_, hrun, hfile ▸ read_customized, hempty⟩

end QualityGate.Scaffold
