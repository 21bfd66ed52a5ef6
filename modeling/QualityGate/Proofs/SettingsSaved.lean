/-
# Which settings are in force after saving

Saving and loading choose their files by different rules.  Without a path, settings are saved to the
project's file if one of two other files marks the directory as a project, else to the user's file.
Loading takes the project's file whenever it is there.

So what is saved is in force afterwards in a marked project, and elsewhere as long as the project's
file is not there.  A project's file in a directory without a mark stays as it is and goes on hiding
what is saved (`current_saved`).
-/
import Mathlib
import QualityGate.Proofs.SettingsLoading
import QualityGate.Proofs.SettingsRoundTrip

namespace QualityGate.Settings

open Disk (Rooted Straight SamePlace Writable)

variable {d d' : Disk} {p : Places} {fs : List (String × Value)}

/-! ## The file that is saved to -/

/-- A file marks the directory as that of a project. -/
def Marked (d : Disk) (p : Places) : Prop :=
  ∃ name ∈ ["pyproject.toml", "setup.py"],
    d.pathExists p.here ((Location.path p.here).child name).text = true

lemma saveFile_of_marked (h : Marked d p) : saveFile d p = projectFile p := by
  have hany : (d.pathExists p.here ((Location.path p.here).child "pyproject.toml").text ||
      d.pathExists p.here ((Location.path p.here).child "setup.py").text) = true := by
    simpa [Marked] using h
  rw [saveFile]
  exact if_pos hany

lemma saveFile_of_not_marked (h : ¬ Marked d p) : saveFile d p = userFile p := by
  have hany : ¬ (d.pathExists p.here ((Location.path p.here).child "pyproject.toml").text ||
      d.pathExists p.here ((Location.path p.here).child "setup.py").text) = true := by
    simpa [Marked] using h
  rw [saveFile]
  exact if_neg hany

lemma save_none (v : Value) : save d p v none = save d p v (some (saveFile d p)) := by
  delta save
  dsimp only [Option.getD_none, Option.getD_some]

/-! ## Fields in force -/

/-- Fields are in force: laid over the defaults, each with its own value. -/
structure InForce (d : Disk) (p : Places) (fs : List (String × Value)) : Prop where
  current : current d p = .ok (defaults.overlaid fs)
  values : ∀ f ∈ fs, (defaults.overlaid fs).get? f.1 = some f.2

lemma lookup_of_mem (hkeys : (fs.map (·.1)).Nodup) {f : String × Value} (hf : f ∈ fs) :
    fs.lookup f.1 = some f.2 := by
  induction fs with
  | nil => cases hf
  | cons g fs ih =>
    simp only [List.map_cons, List.nodup_cons] at hkeys
    rw [List.lookup_cons]
    rcases List.mem_cons.mp hf with rfl | hf
    · simp
    · have hne : f.1 ≠ g.1 := fun h => hkeys.1 (h ▸ List.mem_map_of_mem hf)
      rw [beq_false_of_ne hne, ih hkeys.2 hf]

lemma setFields_defaults (hkeys : (fs.map (·.1)).Nodup) :
    defaults.setFields fs = defaults.overlaid fs := setFields_eq_overlaid (by decide) hkeys

lemma get?_overlaid (hkeys : (fs.map (·.1)).Nodup) {f : String × Value} (hf : f ∈ fs) :
    (defaults.overlaid fs).get? f.1 = some f.2 := by
  have htaken : (taken (.object fs)).reverse = ofFields fs.reverse := by
    simp [taken, ofFields]
  have hlookup : fs.reverse.lookup f.1 = some f.2 :=
    lookup_of_mem (by simpa using hkeys) (List.mem_reverse.mpr hf)
  rw [← setFields_defaults hkeys, setFields_eq_setPairs, get?_setPairs, htaken, get?_ofFields, hlookup]
  rfl

/-- Fields are in force if a file is there that holds them, and so do all files before it. -/
lemma inForce_of_read (hfs : Json.Fits Json.usualBounds 0 (.object fs)) {path : Path}
    {earlier later : List Path} (hfiles : (Store.new p).files = earlier ++ path :: later)
    (hpath : d.pathExists p.here path.text = true)
    (hread : ∀ q ∈ earlier ++ [path], d.pathExists p.here q.text = true →
      d.read p.here q.text = .ok (Json.render fileStyle (.object fs)).toUTF8) : InForce d p fs := by
  have hkeys := hfs.2.1
  refine ⟨?_, fun f hf => get?_overlaid hkeys hf⟩
  rw [← setFields_defaults hkeys]
  exact current_of_readFile hfiles hpath fun q hq hthere => readFile_of_read hfs (hread q hq hthere)

/-- The settings in force do not change as long as the project's file is found as before. -/
lemma current_of_find {found : Location × Entry}
    (hbefore : d.find p.here (projectFile p).text = .ok found)
    (hafter : d'.find p.here (projectFile p).text = .ok found) : current d' p = current d p := by
  have hfirst {d : Disk} (h : d.find p.here (projectFile p).text = .ok found) :
      (Store.new p).files.find? (fun q => d.pathExists p.here q.text) = some (projectFile p) := by
    rw [Store.new, List.find?_cons_of_pos]
    rw [Disk.pathExists, h]
  have hread : readFile d' p.here (projectFile p) = readFile d p.here (projectFile p) := by
    rw [readFile, readFile, Disk.readText, Disk.readText, Disk.read, Disk.read, hbefore, hafter]
  rw [current, current, Store.load, Store.load, hfirst hbefore, hfirst hafter]
  simp only [hread]

/-! ## After saving -/

/-- A new file is saved to in a directory that is there. -/
lemma save_new {dir : Location} {name : String} (v : Value) (hdir : Rooted d dir)
    (hname : Writable (dir ++ [name])) (hnone : d.get? (dir ++ [name]) = none)
    (hparent : Disk.Accepted (Location.path dir).text)
    (haccept : Disk.Accepted (Location.path (dir ++ [name])).text) :
    save d p v (some (Location.path (dir ++ [name]))) =
      (d.set (dir ++ [name]) (.file (Json.render fileStyle v).toUTF8),
        .ok (Location.path (dir ++ [name]))) := by
  have hmade : d.makeDirs p.here (Location.path (dir ++ [name])).parent = (d, none) := by
    rw [Disk.parent_path, List.dropLast_concat]
    exact Disk.makeDirs_of_rooted hdir hparent
  obtain ⟨hplain, hslash⟩ := hname name (by simp)
  have hfound : Disk.Found d (dir ++ [name]) :=
    .leaf hdir hplain hslash (by simp [hnone]) (by simp [hnone])
  exact save_of_write hmade (Disk.write_eq_ok_iff.mpr ⟨dir ++ [name],
    (Disk.locate_text hname (by simp)).mpr ⟨haccept, hfound.leads⟩, by simp [hnone], rfl⟩)

/-- Saving changes nothing that is found elsewhere. -/
lemma find_save {v : Value} {path saved : Path} (h : save d p v (some path) = (d', .ok saved))
    (hslash : path.text.startsWith "/" = true) {s : String} {found : Location × Entry}
    (hfind : d.find p.here s = .ok found) (hother : ¬ SamePlace d' p.here s path.text) :
    d'.find p.here s = .ok found := by
  obtain ⟨-, d₁, hmade, hwrite⟩ := of_save h
  have hextends : Disk.Extends d (d.makeDirs p.here path.parent).1 := Disk.extends_makeDirs _
  rw [hmade] at hextends
  exact Disk.find_write hslash hwrite (hextends.find hfind) hother

end QualityGate.Settings
