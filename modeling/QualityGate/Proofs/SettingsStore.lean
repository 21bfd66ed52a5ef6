/-
# Settings from files

What can go wrong when settings are loaded is always an error, never an end of the program
(`isError_of_current`), and where no settings file is there the defaults count
(`current_of_missing`).
-/
import Mathlib
import QualityGate.Proofs.DiskWalk
import QualityGate.Settings.Store

namespace QualityGate.Settings

/-! ## Places -/

lemma projectFile_eq (p : Places) : projectFile p = Location.path (p.here ++ ["spyq.json"]) := by
  have hname : Path.ofText "spyq.json" = ⟨0, ["spyq.json"]⟩ := by cbv
  rw [projectFile, Path.child, hname]
  rfl

lemma userFile_eq (p : Places) :
    userFile p = Location.path (p.home ++ [".config", "spyq", "config.json"]) := by
  have hname : Path.ofText ".config/spyq/config.json" = ⟨0, [".config", "spyq", "config.json"]⟩ := by
    cbv
  rw [userFile, Path.child, hname]
  rfl

lemma legacyFile_eq (p : Places) :
    legacyFile p = Location.path (p.home ++ [".spyq", "config.json"]) := by
  have hname : Path.ofText ".spyq/config.json" = ⟨0, [".spyq", "config.json"]⟩ := by cbv
  rw [legacyFile, Path.child, hname]
  rfl

/-! ## Loading -/

lemma isError_of_readFile {d : Disk} {here : Location} {path : Path} {f : Failure}
    (h : readFile d here path = .error f) : f.isError = true := by
  rw [readFile, Disk.readText] at h
  cases hread : d.read here path.text with
  | error e => simp only [hread] at h; cases h; rfl
  | ok bytes =>
    simp only [hread] at h
    cases htext : Text.decodeUtf8 bytes with
    | error u => simp only [htext] at h; cases h; rfl
    | ok t =>
      simp only [htext] at h
      split at h
      · cases h
        split <;> rfl
      · cases h

lemma isError_of_takePairs {s : Settings} {i : Nat} {vs : List Value} {f : Failure}
    (h : (s.takePairs i vs).2 = some f) : f.isError = true := by
  fun_induction takePairs s i vs with
  | case1 => cases h
  | case2 => cases h; rfl
  | case3 s i v vs k w _ key _ ih => exact ih h
  | case4 => cases h; rfl
  | case5 => cases h; rfl

lemma isError_of_update {s : Settings} {v : Value} {f : Failure} (h : (s.update v).2 = some f) :
    f.isError = true := by
  cases v with
  | object fs => cases h
  | list vs => exact isError_of_takePairs h
  | text t => exact isError_of_takePairs h
  | _ => cases h; rfl

lemma isError_of_current {d : Disk} {p : Places} {f : Failure}
    (h : current d p = .error f) : f.isError = true := by
  rw [current, Store.load] at h
  split at h
  · cases h
  · next e hload =>
    cases h
    split at hload
    · cases hload
    · next path _ =>
      cases hv : readFile d p.here path with
      | error f' =>
        rw [hv] at hload
        cases hload
        exact isError_of_readFile hv
      | ok v =>
        rw [hv] at hload
        exact isError_of_update (congrArg Prod.snd hload)

/-- Where no settings file is there, the defaults are in force. -/
lemma current_of_missing {d : Disk} {p : Places}
    (h : ∀ path ∈ (Store.new p).files, d.pathExists p.here path.text = false) :
    current d p = .ok defaults := by
  have hnone : (Store.new p).files.find? (fun path => d.pathExists p.here path.text) = none := by
    rw [List.find?_eq_none]
    intro path hpath
    simp [h path hpath]
  rw [current, Store.load, hnone]
  rfl

/-- From the root, settings are looked for under three names only. -/
lemma current_of_bare_root {d : Disk}
    (h : ∀ n ∈ ["spyq.json", ".config", ".spyq"], d.get? [n] = none) :
    current d { here := [], home := [] } = .ok defaults := by
  refine current_of_missing fun path hfile => ?_
  simp only [Store.new, projectFile_eq, userFile_eq, legacyFile_eq, List.mem_cons,
    List.not_mem_nil, or_false] at hfile
  rcases hfile with rfl | rfl | rfl
  · exact Disk.pathExists_of_missing (by decide) (h _ (by simp))
  · exact Disk.pathExists_of_missing (by decide) (h _ (by simp))
  · exact Disk.pathExists_of_missing (by decide) (h _ (by simp))

end QualityGate.Settings
