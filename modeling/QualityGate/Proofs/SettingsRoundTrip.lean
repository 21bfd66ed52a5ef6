/-
# Settings saved and loaded again

Settings that are saved to one of the three files are in force afterwards, laid over the defaults,
as long as no file before that one is there (`current_save`).

Saving writes the file and perhaps makes the directories above it.  Neither brings a missing file
of the other two places into being, if nothing on the way to it is a link (`appears_save`): the
directories that are made have other names.
-/
import Mathlib
import QualityGate.Proofs.DiskWrite
import QualityGate.Proofs.JsonRoundTrip
import QualityGate.Proofs.SettingsStore

namespace QualityGate.Settings

open Disk (Rooted Straight Writable)

/-! ## Fields laid over settings -/

/-- Settings with fields laid over them: each key stays where it is, with the new value if there is
one, and the keys that are new follow in their order. -/
def overlaid (base : Settings) (fs : List (String × Value)) : Settings :=
  base.map (fun (k, v) => (k, (fs.lookup k.fileName).getD v)) ++
    ofFields (fs.filter fun f => (base.get? f.1).isNone)

section

variable (key : String) (v : Value) {base fs : List (String × Value)}

lemma same_text (s t : String) : (Key.text s).same (.text t) = (s == t) := rfl

lemma get?_ofFields (fs : List (String × Value)) : (ofFields fs).get? key = fs.lookup key := by
  induction fs with
  | nil => rfl
  | cons f fs ih =>
    obtain ⟨k, w⟩ := f
    show find? (.text key) ((.text k, w) :: ofFields fs) = _
    rw [find?, same_text, List.lookup_cons, ← ih]
    by_cases hk : key = k
    · simp [hk]
    · rw [beq_false_of_ne hk, beq_false_of_ne (Ne.symm hk)]
      rfl

lemma set_ofFields (fs : List (String × Value)) :
    set (.text key) v (ofFields fs) = ofFields (Value.setField key v fs) := by
  induction fs with
  | nil => rfl
  | cons f fs ih =>
    obtain ⟨k, w⟩ := f
    show set (.text key) v ((.text k, w) :: ofFields fs) = _
    rw [set, same_text, Value.setField, ih]
    by_cases hk : k = key <;> simp [hk, ofFields]

variable {key}

lemma lookup_eq_none (h : key ∉ fs.map (·.1)) : fs.lookup key = none := by
  rw [List.lookup_eq_none_iff]
  intro f hf
  exact bne_iff_ne.mpr fun hkey => h (hkey ▸ List.mem_map_of_mem hf)

lemma isNone_lookup : (base.lookup key).isNone = decide (key ∉ base.map (·.1)) := by
  by_cases h : key ∈ base.map (·.1)
  · obtain ⟨f, hf, rfl⟩ := List.mem_map.mp h
    have : base.lookup f.1 ≠ none := by
      rw [Ne, List.lookup_eq_none_iff]
      intro hnone
      simpa using hnone f hf
    rw [decide_eq_false (by simpa using h)]
    simpa [Option.isNone_eq_false_iff, Option.isSome_iff_ne_none] using this
  · rw [lookup_eq_none h, decide_eq_true h]
    rfl

lemma setField_of_mem (h : key ∈ base.map (·.1)) (hbase : (base.map (·.1)).Nodup) :
    Value.setField key v base = base.map fun f => (f.1, if f.1 = key then v else f.2) := by
  induction base with
  | nil => simp at h
  | cons f base ih =>
    obtain ⟨k, w⟩ := f
    simp only [List.map_cons, List.nodup_cons] at hbase
    rw [Value.setField]
    by_cases hk : k = key
    · subst hk
      have hrest : ∀ f ∈ base, (f.1, if f.1 = k then v else f.2) = f := by
        intro f hf
        have hne : f.1 ≠ k := fun hfk => hbase.1 (hfk ▸ List.mem_map_of_mem hf)
        rw [if_neg hne]
      rw [if_pos rfl, List.map_cons, if_pos rfl, List.map_congr_left hrest, List.map_id']
    · have hmem : key ∈ base.map (·.1) := by simpa [Ne.symm hk] using h
      rw [if_neg hk, ih hmem hbase.2, List.map_cons, if_neg hk]

end

lemma overlaid_ofFields (base fs : List (String × Value)) : overlaid (ofFields base) fs =
    ofFields (base.map (fun f => (f.1, (fs.lookup f.1).getD f.2)) ++
      fs.filter fun f => f.1 ∉ base.map (·.1)) := by
  have hkeys : (fun f : String × Value => ((ofFields base).get? f.1).isNone) =
      fun f => decide (f.1 ∉ base.map (·.1)) := by
    funext f
    rw [get?_ofFields, isNone_lookup]
  rw [overlaid, hkeys]
  simp only [ofFields, List.map_append, List.map_map]
  rfl

/-- Setting fields one after the other lays them over the settings. -/
lemma setFields_eq_overlaid {base fs : List (String × Value)} (hbase : (base.map (·.1)).Nodup)
    (hfs : (fs.map (·.1)).Nodup) : (ofFields base).setFields fs = (ofFields base).overlaid fs := by
  induction fs generalizing base with
  | nil => simp [overlaid_ofFields, setFields]
  | cons f fs ih =>
    obtain ⟨key, v⟩ := f
    simp only [List.map_cons, List.nodup_cons] at hfs
    have hnone := lookup_eq_none hfs.1
    have hstep : (ofFields base).setFields ((key, v) :: fs) =
        (ofFields (Value.setField key v base)).setFields fs := by
      rw [← set_ofFields]
      rfl
    rw [hstep]
    by_cases hkey : key ∈ base.map (·.1)
    · have hset := setField_of_mem v hkey hbase
      have hkeys : (Value.setField key v base).map (·.1) = base.map (·.1) := by
        simp [hset]
      rw [ih (by rwa [hkeys]) hfs.2, overlaid_ofFields, overlaid_ofFields, hkeys,
        List.filter_cons_of_neg (by simpa using hkey), hset, List.map_map]
      congr 2
      refine List.map_congr_left fun f _ => ?_
      by_cases hf : f.1 = key
      · simp [hf, hnone]
      · have hbeq : (f.1 == key) = false := beq_false_of_ne hf
        simp [hf, List.lookup_cons, hbeq]
    · have hset := Json.setField_of_not_mem (v := v) hkey
      have hkeys : ((base ++ [(key, v)]).map (·.1)).Nodup := by
        rw [List.map_append, List.nodup_append]
        refine ⟨hbase, List.nodup_singleton _, fun k hk k' hk' heq => ?_⟩
        rw [List.map_singleton, List.mem_singleton] at hk'
        rw [heq, hk'] at hk
        exact hkey hk
      have hmap : base.map (fun f => (f.1, (fs.lookup f.1).getD f.2)) =
          base.map fun f => (f.1, (((key, v) :: fs).lookup f.1).getD f.2) := by
        refine List.map_congr_left fun f hf => ?_
        have hne : f.1 ≠ key := fun h => hkey (h ▸ List.mem_map_of_mem hf)
        rw [List.lookup_cons, beq_false_of_ne hne]
      have hfilter : fs.filter (fun f => f.1 ∉ (base ++ [(key, v)]).map (·.1)) =
          fs.filter fun f => f.1 ∉ base.map (·.1) := by
        refine List.filter_congr fun f hf => ?_
        have hne : f.1 ≠ key := fun h => hfs.1 (h ▸ List.mem_map_of_mem hf)
        simp [hne]
      rw [hset, ih hkeys hfs.2, overlaid_ofFields, overlaid_ofFields,
        List.filter_cons_of_pos (by simpa using hkey), hfilter, List.map_append, hmap]
      simp [hnone]

/-! ## Loading -/

/-- If a file is there, and it and all files before it that are there hold the same fields, then
these are laid over the defaults. -/
lemma current_of_readFile {d : Disk} {p : Places} {path : Path} {earlier later : List Path}
    {fs : List (String × Value)} (hfiles : (Store.new p).files = earlier ++ path :: later)
    (hpath : d.pathExists p.here path.text = true)
    (hread : ∀ q ∈ earlier ++ [path], d.pathExists p.here q.text = true →
      readFile d p.here q = .ok (.object fs)) :
    current d p = .ok (defaults.setFields fs) := by
  obtain ⟨q, hq, hfound⟩ : ∃ q, readFile d p.here q = .ok (.object fs) ∧
      (Store.new p).files.find? (fun f => d.pathExists p.here f.text) = some q := by
    rw [hfiles, List.find?_append]
    cases he : earlier.find? (fun f => d.pathExists p.here f.text) with
    | some q =>
      have hthere : d.pathExists p.here q.text = true := by simpa using List.find?_some he
      exact ⟨q, hread q (by simp [List.mem_of_find?_eq_some he]) hthere, rfl⟩
    | none => exact ⟨path, hread path (by simp) hpath, by simp [hpath]⟩
  rw [current, Store.load, hfound]
  simp only [hq]
  rfl

/-- What is read from a file that holds the text of fitting fields. -/
lemma readFile_of_read {d : Disk} {here : Location} {path : Path} {v : Value}
    (hv : Json.Fits Json.usualBounds 0 v)
    (h : d.read here path.text = .ok (Json.render fileStyle v).toUTF8) :
    readFile d here path = .ok v := by
  have hcr : '\r' ∉ (Json.render fileStyle v).toList := by
    rw [Json.render]
    exact Json.not_mem_renderAt fileStyle v 0
  have hparse : Json.parse (Json.render fileStyle v) = .ok v := by
    rw [Json.parse]
    exact Json.parseWithin_render fileStyle hv
  rw [readFile, Disk.readText_of_read hcr h]
  simp only [hparse]

/-! ## Saving -/

lemma save_of_write {d d₁ d' : Disk} {p : Places} {v : Value} {path : Path}
    (hmade : d.makeDirs p.here path.parent = (d₁, none))
    (hwrite : d₁.write p.here path.text (Json.render fileStyle v).toUTF8 = .ok d') :
    save d p v (some path) = (d', .ok path) := by
  rw [← Disk.writeText] at hwrite
  delta save
  dsimp only [Option.getD_some]
  rw [hmade]
  dsimp only
  rw [hwrite]

/-- What is saved is written below directories that were made. -/
lemma of_save {d d' : Disk} {p : Places} {v : Value} {path saved : Path}
    (h : save d p v (some path) = (d', .ok saved)) :
    saved = path ∧ ∃ d₁, d.makeDirs p.here path.parent = (d₁, none) ∧
      d₁.write p.here path.text (Json.render fileStyle v).toUTF8 = .ok d' := by
  delta save at h
  dsimp only [Option.getD_some] at h
  generalize d.makeDirs p.here path.parent = made at h
  obtain ⟨d₁, refused⟩ := made
  cases refused with
  | some e => cases congrArg Prod.snd h
  | none =>
    dsimp only at h
    cases hwritten : d₁.writeText p.here path.text (Json.render fileStyle v) with
    | error e =>
      rw [hwritten] at h
      cases congrArg Prod.snd h
    | ok d₂ =>
      rw [hwritten] at h
      obtain ⟨rfl, hsaved⟩ := Prod.mk.inj h
      exact ⟨(Except.ok.inj hsaved).symm, d₁, rfl, hwritten⟩

/-- Saving below the user's directory does not make a missing file appear whose name and
directories have other names, if there is no link on the way to it: if it appears, then as the file
that was written. -/
lemma read_save {d d' : Disk} {p : Places} {v : Value} {saved : Path} {base : Location}
    {names more : List String} {last : String}
    (h : save d p v (some (Location.path (p.home ++ more ++ [last]))) = (d', .ok saved))
    (hhome : Rooted d p.home) (hmore : Writable more) (hbase : Rooted d base)
    (hnames : Writable names) (hne : names ≠ []) (hdisj : ∀ n ∈ names, n ∉ more)
    (hstraight : Straight d (base ++ names))
    (hmissing : d.pathExists p.here (Location.path (base ++ names)).text = false)
    (hthere : d'.pathExists p.here (Location.path (base ++ names)).text = true) :
    d'.read p.here (Location.path (base ++ names)).text =
      .ok (Json.render fileStyle v).toUTF8 := by
  obtain ⟨-, d₁, hdirs, hwrite⟩ := of_save h
  have hw : Writable (base ++ names) := fun n hn =>
    (List.mem_append.mp hn).elim (hbase.names n) (hnames n)
  have hwdir : Writable (p.home ++ more) := fun n hn =>
    (List.mem_append.mp hn).elim (hhome.names n) (hmore n)
  have hadds : Disk.Adds d (d.makeDirs p.here (Location.path (p.home ++ more))).1 (p.home ++ more) :=
    Disk.adds_makeDirs hwdir
  rw [Disk.parent_path, List.dropLast_concat] at hdirs
  rw [hdirs] at hadds
  have hget : ∀ l, l <+: base ++ names → d₁.get? l = d.get? l :=
    fun l hl => hadds.kept_of_disjoint hbase hhome hdisj hl
  have hmissing₁ : d₁.pathExists p.here (Location.path (base ++ names)).text = false := by
    rw [Disk.pathExists_congr hw (by simp [hne]) hstraight hget, hmissing]
  exact Disk.pathExists_write hw (by simp [hne]) (hstraight.congr hget) hmissing₁ hwrite hthere

/-- A missing file before the one that is saved to appears only as the file that was written. -/
lemma read_earlier {d d' : Disk} {p : Places} {v : Value} {path saved q : Path}
    {earlier later : List Path} (hfiles : (Store.new p).files = earlier ++ path :: later)
    (hsave : save d p v (some path) = (d', .ok saved)) (hhere : Rooted d p.here)
    (hhome : Rooted d p.home) (hq : q ∈ earlier)
    (hmissing : d.pathExists p.here q.text = false) (hstraight : Straight d q.names)
    (hthere : d'.pathExists p.here q.text = true) :
    d'.read p.here q.text = .ok (Json.render fileStyle v).toUTF8 := by
  have hpaths : [Location.path (p.here ++ ["spyq.json"]),
      Location.path (p.home ++ [".config", "spyq", "config.json"]),
      Location.path (p.home ++ [".spyq", "config.json"])] = earlier ++ path :: later := by
    rw [← hfiles, Store.new, projectFile_eq, userFile_eq, legacyFile_eq]
  have huser : p.home ++ [".config", "spyq", "config.json"] =
      p.home ++ [".config", "spyq"] ++ ["config.json"] := by simp
  have hlegacy : p.home ++ [".spyq", "config.json"] = p.home ++ [".spyq"] ++ ["config.json"] := by
    simp
  -- none, one or two files come before the one that is saved
  rcases earlier with _ | ⟨_, _ | ⟨_, _ | ⟨_, _⟩⟩⟩
  · cases hq
  · simp only [List.cons_append, List.nil_append, List.cons.injEq] at hpaths
    obtain ⟨rfl, rfl, -⟩ := hpaths
    obtain rfl := List.mem_singleton.mp hq
    rw [huser] at hsave
    exact read_save hsave hhome (by decide) hhere (by decide) (by decide) (by decide) hstraight
      hmissing hthere
  · simp only [List.cons_append, List.nil_append, List.cons.injEq] at hpaths
    obtain ⟨rfl, rfl, rfl, -⟩ := hpaths
    rw [hlegacy] at hsave
    rcases List.mem_pair.mp hq with rfl | rfl
    · exact read_save hsave hhome (by decide) hhere (by decide) (by decide) (by decide) hstraight
        hmissing hthere
    · exact read_save hsave hhome (by decide) hhome (by decide) (by decide) (by decide) hstraight
        hmissing hthere
  · simp at hpaths

lemma startsWith_file {p : Places} {path : Path} {earlier later : List Path}
    (hfiles : (Store.new p).files = earlier ++ path :: later) :
    path.text.startsWith "/" = true := by
  have hmem : path ∈ (Store.new p).files := by simp [hfiles]
  simp only [Store.new, projectFile_eq, userFile_eq, legacyFile_eq, List.mem_cons,
    List.not_mem_nil, or_false] at hmem
  rcases hmem with rfl | rfl | rfl <;> exact Disk.startsWith_text _

end QualityGate.Settings
