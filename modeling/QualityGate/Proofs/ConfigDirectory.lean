/-
# The files of the configuration directory

A project gets four configuration files, each of them only if it is missing or if all are to be made
anew.  As long as their paths lead to different places, writing one of them does not bear on
another, so that the files that are made can be read off the disk before the loop over them begins
(`writeMissing_filled`).  To make the directory first changes nothing for a path into it: what is
missing with the directory is missing in the new one (`DirReady.pathExists_eq`).

`makeConfigDir_made`: the files that are listed are those that were missing, or all of them; they
hold their texts, nothing else has changed, and a second run finds nothing to do.
-/
import Mathlib
import QualityGate.Proofs.DirectoryListing
import QualityGate.Proofs.FileSteps
import QualityGate.Proofs.Sessions
import QualityGate.Proofs.SourceChecks
import QualityGate.Scaffold.ConfigDir

namespace QualityGate.Disk

variable {d d' : Disk} {here loc : Location} {s : String} {P : String → Prop}

lemma Writes.rooted (h : Writes here P d d') (hl : Rooted d loc) : Rooted d' loc :=
  ⟨hl.names, fun l hpre => (h.get?_iff (by simp)).mpr (hl.dirs l hpre)⟩

/-- What is there at a path is there still, written or not. -/
lemma Writes.pathExists_of (h : Writes here P d d') (hs : d.pathExists here s = true) :
    d'.pathExists here s = true := by
  obtain ⟨e, hlook⟩ := pathExists_iff_lookAt.mp hs
  obtain ⟨loc, hfind⟩ := lookAt_eq_some_iff.mp hlook
  obtain ⟨hloc, hget⟩ := find_eq_ok_iff.mp hfind
  have hthere : d'.get? loc ≠ none := by
    induction h with
    | refl => simp [hget]
    | step _ _ hs hwrite ih =>
      obtain ⟨m, -, hm, -, -, rfl⟩ := hs.set_of_write hwrite
      by_cases hlm : loc = m
      · subst hlm
        simp [get?_set_self _ hm]
      · rwa [get?_set_of_ne _ hlm]
  obtain ⟨e', he'⟩ := Option.ne_none_iff_exists'.mp hthere
  exact pathExists_iff_lookAt.mpr ⟨e', lookAt_eq_some_iff.mpr
    ⟨loc, find_eq_ok_iff.mpr ⟨h.locate_iff.mpr hloc, he'⟩⟩⟩

/-- Whether something is there does not change at places where nothing was written. -/
lemma Writes.pathExists_eq (h : Writes here P d d') (hs : ∀ t, P t → ¬ SamePlace d here s t) :
    d'.pathExists here s = d.pathExists here s := by
  rw [Bool.eq_iff_iff, pathExists_iff_lookAt, pathExists_iff_lookAt, h.lookAt_eq hs]

lemma SamePlace.symm {t : String} (h : SamePlace d here s t) : SamePlace d here t s := by
  obtain ⟨loc, hs, ht⟩ := h
  exact ⟨loc, ht, hs⟩

end QualityGate.Disk

namespace QualityGate.Scaffold

open Disk (SamePlace Writes)

/-- The path of a configuration file. -/
def configPath (n : String) : String := configDir ++ "/" ++ n

/-- The names of the configuration files. -/
def configNames : List String := configFiles.map Prod.fst

/-- The paths of the configuration files. -/
def configPaths : List String := configNames.map configPath

/-! ## The loop over the files -/

/-- Some files lead to different places. -/
def Apart (d : Disk) (here : Location) (files : List (String × String)) : Prop :=
  files.Pairwise fun f g => ¬ SamePlace d here (configPath f.1) (configPath g.1)

/-- Those of some files that are to be made: the missing ones, or all of them. -/
def due (force : Bool) (d : Disk) (here : Location) (files : List (String × String)) :
    List (String × String) :=
  files.filter fun f => force || !d.pathExists here (configPath f.1)

/-- The files that were due were written and listed, and hold their texts. -/
structure Filled (force : Bool) (here : Location) (files : List (String × String)) (d d' : Disk)
    (made : List String) : Prop where
  listed : made = (due force d here files).map fun f => configPath f.1
  writes : Writes here (· ∈ made) d d'
  holds : ∀ f ∈ due force d here files, d'.read here (configPath f.1) = .ok f.2.toUTF8

section

variable {force : Bool} {f : String × String} {files : List (String × String)} {w w' : Session}
  {made : List String}

/-- One turn of the loop: a file that is due is written and listed. -/
lemma writeMissing_cons_iff :
    writeMissing force (f :: files) w = .ok made w' ↔
      if force || !w.disk.pathExists w.places.here (configPath f.1) then
        ∃ d rest, Text.halfFault? f.2 = none ∧
          w.disk.write w.places.here (configPath f.1) f.2.toUTF8 = .ok d ∧
          made = configPath f.1 :: rest ∧ writeMissing force files { w with disk := d } = .ok rest w'
      else writeMissing force files w = .ok made w' := by
  obtain ⟨name, text⟩ := f
  rw [writeMissing]
  show (Act.pathExists (configPath name) >>= _) w = _ ↔ _
  rw [Act.bind_ok (Act.pathExists_run (configPath name) w)]
  split
  · show (Act.writeText (configPath name) text >>= _) w = _ ↔ _
    constructor
    · intro hrun
      obtain ⟨_, w₁, hwrite, hrun⟩ := Act.bind_eq_ok_iff.mp hrun
      obtain ⟨hhalf, d, hd, rfl⟩ := Act.writeText_iff.mp hwrite
      obtain ⟨rest, w₂, hrest, hmade⟩ := Act.bind_eq_ok_iff.mp hrun
      obtain ⟨rfl, rfl⟩ := EStateM.Result.ok.inj hmade
      exact ⟨d, rest, hhalf, hd, rfl, hrest⟩
    · rintro ⟨d, rest, hhalf, hd, rfl, hrest⟩
      exact Act.bind_eq_ok_iff.mpr ⟨(), _, Act.writeText_iff.mpr ⟨hhalf, d, hd, rfl⟩,
        Act.bind_eq_ok_iff.mpr ⟨rest, w', hrest, rfl⟩⟩
  · rfl

/-- A file that is written does not bear on the files at other places. -/
lemma Filled.cons {here : Location} {d d₁ d₂ : Disk} (hhere : d.Rooted here)
    (hdue : (force || !d.pathExists here (configPath f.1)) = true)
    (hapart : ∀ g ∈ files, ¬ SamePlace d here (configPath f.1) (configPath g.1))
    (hwrite : d.write here (configPath f.1) f.2.toUTF8 = .ok d₁)
    (h : Filled force here files d₁ d₂ made) :
    Filled force here (f :: files) d d₂ (configPath f.1 :: made) := by
  have hanchored := hhere.anchored (configPath f.1)
  have hfirst : Writes here (· = configPath f.1) d d₁ := .step .refl rfl hanchored hwrite
  have hsame : due force d₁ here files = due force d here files :=
    List.filter_congr fun g hg => by
      rw [hfirst.pathExists_eq fun t ht hsame => hapart g hg (ht ▸ hsame.symm)]
  have hcons : due force d here (f :: files) = f :: due force d here files :=
    List.filter_cons_of_pos hdue
  have hlisted := h.listed
  have hholds := h.holds
  rw [hsame] at hlisted hholds
  refine ⟨by rw [hcons, hlisted, List.map_cons], ?_, ?_⟩
  · exact (hfirst.mono fun s hs => hs ▸ List.mem_cons_self).trans
      (h.writes.mono fun s hs => List.mem_cons_of_mem _ hs)
  · rw [hcons, List.forall_mem_cons]
    refine ⟨(h.writes.read_iff fun t ht hsame => ?_).mpr (hanchored.read_write hwrite), hholds⟩
    obtain ⟨g, hg, rfl⟩ := List.mem_map.mp (hlisted ▸ ht)
    exact hapart g (List.mem_of_mem_filter hg) (hfirst.samePlace_iff.mp hsame)

/-- The loop makes the files that are due when it begins. -/
lemma writeMissing_filled (hhere : w.disk.Rooted w.places.here)
    (hapart : Apart w.disk w.places.here files) (h : writeMissing force files w = .ok made w') :
    ∃ d, w' = { w with disk := d } ∧ Filled force w.places.here files w.disk d made := by
  induction files generalizing w made with
  | nil =>
    obtain ⟨rfl, rfl⟩ := EStateM.Result.ok.inj h
    exact ⟨w.disk, rfl, rfl, .refl, by simp [due]⟩
  | cons f files ih =>
    obtain ⟨hf, hfiles⟩ := List.pairwise_cons.mp hapart
    rw [writeMissing_cons_iff] at h
    split at h
    · next hdue =>
      obtain ⟨d, rest, -, hwrite, rfl, hrest⟩ := h
      have hfirst : Writes w.places.here (· = configPath f.1) w.disk d :=
        .step .refl rfl (hhere.anchored _) hwrite
      have hapart' : Apart d w.places.here files := hfiles.imp fun hfg hsame =>
        hfg (hfirst.samePlace_iff.mp hsame)
      obtain ⟨d', rfl, hfilled⟩ := ih (w := { w with disk := d }) (hfirst.rooted hhere) hapart' hrest
      exact ⟨d', rfl, .cons hhere hdue hf hwrite hfilled⟩
    · next hdue =>
      obtain ⟨d, hd, hfilled⟩ := ih hhere hfiles h
      have hskip : due force w.disk w.places.here (f :: files) =
          due force w.disk w.places.here files := List.filter_cons_of_neg hdue
      exact ⟨d, hd, hskip ▸ hfilled.listed, hfilled.writes, hskip ▸ hfilled.holds⟩

/-- Files that are all there are left alone. -/
lemma writeMissing_nothing
    (hall : ∀ f ∈ files, w.disk.pathExists w.places.here (configPath f.1) = true) :
    writeMissing false files w = .ok [] w := by
  induction files with
  | nil => rfl
  | cons f files ih =>
    rw [List.forall_mem_cons] at hall
    rw [writeMissing_cons_iff, if_neg (by simp [hall.1])]
    exact ih hall.2

/-- Every file is there at the end: it was made, or it was not due. -/
lemma Filled.pathExists {here : Location} {d d' : Disk} (h : Filled force here files d d' made)
    (hf : f ∈ files) : d'.pathExists here (configPath f.1) = true := by
  by_cases hdue : f ∈ due force d here files
  · exact Disk.pathExists_of_read (h.holds f hdue)
  · rw [due, List.mem_filter] at hdue
    simp only [hf, true_and, Bool.not_eq_true, Bool.or_eq_false_iff, Bool.not_eq_false'] at hdue
    exact h.writes.pathExists_of hdue.2

end

/-! ## The directory -/

lemma writable_configDir : Disk.Writable [configDir] := by decide

lemma accepted_configDir : Disk.Accepted configDir := by decide

lemma writable_configName : ∀ n ∈ configNames, Disk.Writable [n] := by decide

lemma accepted_configPath : ∀ n ∈ configNames, Disk.Accepted (configPath n) := by decide

lemma startsWith_configPath : ∀ n ∈ configNames, (configPath n).startsWith "/" = false := by
  decide +kernel

lemma nodup_configNames : configNames.Nodup := by decide

lemma mem_configNames {f : String × String} (hf : f ∈ configFiles) : f.1 ∈ configNames :=
  List.mem_map_of_mem hf

lemma namesToFollow_configPath {n : String} (hn : n ∈ configNames) :
    Disk.namesToFollow (configPath n) = [configDir, n] := by
  obtain ⟨hplain, hne, hslash⟩ := writable_configName n hn n (by simp)
  exact Disk.namesToFollow_below writable_configDir ⟨hne, hplain.ne_dot, hslash⟩

/-- A path into the directory leads below it, unless there is a link. -/
lemma locate_configPath {d : Disk} {here : Location} {n : String}
    (hdir : d.get? (here ++ [configDir]) = some .dir)
    (hlink : ∀ target, d.get? (here ++ [configDir] ++ [n]) ≠ some (.link target))
    (hn : n ∈ configNames) :
    d.locate here (configPath n) = .ok (here ++ [configDir] ++ [n]) := by
  have hplain := (writable_configName n hn n (by simp)).1
  refine Disk.locate_eq_ok_iff.mpr ⟨accepted_configPath n hn, ?_⟩
  rw [startsWith_configPath n hn, if_neg (by simp), namesToFollow_configPath hn]
  refine .dir (writable_configDir configDir (by simp)).1 hdir ?_
  by_cases hsub : d.get? (here ++ [configDir] ++ [n]) = some .dir
  · exact .dir hplain hsub (.stop _ _)
  · exact .last _ hplain hsub hlink

/-- The disk once the configuration directory was asked for: it was there, or it is new. -/
inductive DirReady (here : Location) (d : Disk) : Disk → Prop
  | there : d.isDir here configDir = true → DirReady here d d
  | new : d.get? (here ++ [configDir]) = none → DirReady here d (d.set (here ++ [configDir]) .dir)

lemma makeDir_prepared {w w' : Session} {u : Unit} (h : Act.makeDir configDir w = .ok u w') :
    ∃ d, w' = { w with disk := d } ∧ DirReady w.places.here w.disk d := by
  rw [Act.makeDir_run, Disk.makeDir_name accepted_configDir writable_configDir] at h
  by_cases hnone : w.disk.get? (w.places.here ++ [configDir]) = none
  · rw [if_pos hnone] at h
    obtain ⟨-, rfl⟩ := EStateM.Result.ok.inj h
    exact ⟨_, rfl, .new hnone⟩
  · rw [if_neg hnone] at h
    dsimp only at h
    split at h
    · cases h
    · next hdir =>
      obtain ⟨-, rfl⟩ := EStateM.Result.ok.inj h
      exact ⟨_, rfl, .there (by simpa using hdir)⟩

/-- A directory that is there is not made again. -/
lemma makeDir_configDir {w : Session} (h : w.disk.isDir w.places.here configDir = true) :
    Act.makeDir configDir w = .ok () w := by
  have hsome := Disk.get?_of_isDir_name writable_configDir h
  rw [Act.makeDir_run, Disk.makeDir_name accepted_configDir writable_configDir, if_neg hsome]
  simp [h]

namespace DirReady

variable {here : Location} {d d' : Disk} {n : String} (h : DirReady here d d')

section

include h

lemma isDir : d'.isDir here configDir = true := by
  cases h with
  | there hdir => exact hdir
  | new =>
    exact Disk.isDir_iff.mpr ⟨_, Disk.find_name_of_dir accepted_configDir writable_configDir
      (Disk.get?_set_self _ (by simp))⟩

lemma get?_eq (l : Location) : d'.get? l = d.get? l ∨
    l = here ++ [configDir] ∧ d.get? l = none ∧ d'.get? l = some .dir := by
  cases h with
  | there => exact .inl rfl
  | new hnone =>
    by_cases hl : l = here ++ [configDir]
    · subst hl
      exact .inr ⟨rfl, hnone, Disk.get?_set_self _ (by simp)⟩
    · exact .inl (Disk.get?_set_of_ne _ hl)

lemma rooted {loc : Location} (hloc : d.Rooted loc) : d'.Rooted loc := by
  refine Disk.Extends.rooted (fun l e he => ?_) hloc
  rcases h.get?_eq l with heq | ⟨-, hnone, -⟩
  · rw [heq, he]
  · simp [hnone] at he

end

/-- There is nothing in a new directory, and a path into it leads below it. -/
lemma locate_new (htree : d.IsTree) (hnone : d.get? (here ++ [configDir]) = none)
    (hn : n ∈ configNames) :
    (d.set (here ++ [configDir]) .dir).locate here (configPath n) = .ok (here ++ [configDir] ++ [n]) ∧
      (d.set (here ++ [configDir]) .dir).get? (here ++ [configDir] ++ [n]) = none := by
  have hempty : (d.set (here ++ [configDir]) .dir).get? (here ++ [configDir] ++ [n]) = none := by
    rw [Disk.get?_set_of_ne _ (by simp)]
    by_contra hthere
    have hparent := htree.dir_of_prefix hthere (List.prefix_append _ _) (by simp)
    simp [hnone] at hparent
  exact ⟨locate_configPath (Disk.get?_set_self _ (by simp)) (by rw [hempty]; nofun) hn, hempty⟩

/-- What is missing with the directory is missing in the new one. -/
lemma pathExists_eq (htree : d.IsTree) (h : DirReady here d d') (hn : n ∈ configNames) :
    d'.pathExists here (configPath n) = d.pathExists here (configPath n) := by
  cases h with
  | there => rfl
  | new hnone =>
    obtain ⟨hlocate, hempty⟩ := locate_new htree hnone hn
    have hbefore : d.pathExists here (configPath n) = false := by
      refine Disk.pathExists_of_first_missing (namesToFollow_configPath hn)
        (writable_configDir configDir (by simp)).1 ?_
      rw [startsWith_configPath n hn]
      exact hnone
    rw [hbefore, ← Bool.not_eq_true, Disk.pathExists_iff_lookAt, Disk.lookAt_of_ok hlocate, hempty]
    simp

lemma apart (htree : d.IsTree) (h : DirReady here d d') (hapart : Apart d here configFiles) :
    Apart d' here configFiles := by
  cases h with
  | there => exact hapart
  | new hnone =>
    have hnames : configFiles.Pairwise fun f g => f.1 ≠ g.1 := List.pairwise_map.mp nodup_configNames
    refine hnames.imp_of_mem fun hf hg hne => ?_
    rintro ⟨loc, hfloc, hgloc⟩
    rw [(locate_new htree hnone (mem_configNames hf)).1] at hfloc
    rw [(locate_new htree hnone (mem_configNames hg)).1] at hgloc
    have hsame := (Except.ok.inj hfloc).trans (Except.ok.inj hgloc).symm
    exact hne (by simpa using hsame)

end DirReady

/-! ## The directory and its files -/

/-- An answer that lists files is that of the loop. -/
lemma recover_ok_iff {a : Act (List String)} {w w' : Session} {made : List String} :
    Act.recover (Except.ok <$> a) (fun f => return Except.error f.message) w =
      .ok (.ok made : Except String (List String)) w' ↔ a w = .ok made w' := by
  cases ha : a w with
  | ok made' v =>
    have hmap : (Except.ok <$> a : Act (Except String (List String))) w = .ok (.ok made') v := by
      rw [map_eq_pure_bind, Act.bind_ok ha]
      rfl
    rw [Act.recover_ok hmap]
    simp
  | error f v =>
    have hmap : (Except.ok <$> a : Act (Except String (List String))) w = .error f v := by
      rw [map_eq_pure_bind, Act.bind_error ha]
    refine iff_of_false ?_ (by simp)
    cases hf : f.isError with
    | true =>
      rw [Act.recover_error hmap hf]
      nofun
    | false =>
      rw [Act.recover_final hmap hf]
      nofun

lemma makeConfigDir_iff {force : Bool} {w w' : Session} {made : List String} :
    makeConfigDir force w = .ok (.ok made) w' ↔
      ∃ w₁, Act.makeDir configDir w = .ok () w₁ ∧ writeMissing force configFiles w₁ = .ok made w' := by
  rw [makeConfigDir, Act.bind_eq_ok_iff]
  exact ⟨fun ⟨_, w₁, hdir, hrest⟩ => ⟨w₁, hdir, recover_ok_iff.mp hrest⟩,
    fun ⟨w₁, hdir, hrest⟩ => ⟨(), w₁, hdir, recover_ok_iff.mpr hrest⟩⟩

/-- What is due is listed in order. -/
lemma map_due_eq (force : Bool) (d : Disk) (here : Location) :
    (due force d here configFiles).map (fun f => configPath f.1) =
      configPaths.filter fun p => force || !d.pathExists here p := by
  rw [due, configPaths, configNames, List.map_map, List.filter_map]
  rfl

/-- Without links, a path into the configuration directory leads to a place with its last name. -/
lemma apart_of_unlinked {d : Disk} {here : Location} (h : ∀ n ∈ configNames, d.Unlinked n) :
    Apart d here configFiles := by
  have hlast : ∀ {f : String × String} {loc : Location}, f ∈ configFiles →
      d.locate here (configPath f.1) = .ok loc → loc.getLast? = some f.1 := by
    intro f loc hf hloc
    have hn := mem_configNames hf
    refine (Disk.locate_eq_ok_iff.mp hloc).2.getLast? ?_ (writable_configName _ hn _ (by simp)).1 (h _ hn)
    rw [namesToFollow_configPath hn]
    rfl
  have hnames : configFiles.Pairwise fun f g => f.1 ≠ g.1 := List.pairwise_map.mp nodup_configNames
  refine hnames.imp_of_mem fun hf hg hne => ?_
  rintro ⟨loc, hfloc, hgloc⟩
  exact hne (Option.some.inj ((hlast hf hfloc).symm.trans (hlast hg hgloc)))

/-- A project with three of the four files. -/
def edited : Session :=
  { Session.bare with
    disk := ⟨[([".spyq"], .dir), ([".spyq", "config.json"], .file "a".toUTF8),
      ([".spyq", ".eslintrc.advanced.js"], .file "b".toUTF8),
      ([".spyq", ".prettierrc"], .file "c".toUTF8)]⟩ }

lemma isTree_edited : edited.disk.IsTree where
  distinct := by decide
  writable := by decide
  parents := by
    simp only [Disk.locations, edited, List.map_cons, List.map_nil, List.forall_mem_cons]
    exact ⟨rfl, rfl, rfl, rfl, by simp⟩

lemma halfFault?_scanProperties : Text.halfFault? scanProperties = none := by
  rw [scanProperties, Text.ofLines, Text.halfFault?_join]
  decide +kernel

lemma get?_edited : edited.disk.get? ([] ++ [configDir]) = some .dir := rfl

lemma pathExists_edited {n : String} (hn : n ∈ configNames)
    (hlink : ∀ target, edited.disk.get? ([] ++ [configDir] ++ [n]) ≠ some (.link target)) :
    edited.disk.pathExists [] (configPath n) = (edited.disk.get? ([] ++ [configDir] ++ [n])).isSome := by
  rw [Bool.eq_iff_iff, Disk.pathExists_iff_lookAt,
    Disk.lookAt_of_ok (locate_configPath get?_edited hlink hn), Option.isSome_iff_exists]
  simp

/-- The project with the fourth file. -/
def completed : Session :=
  { edited with
    disk := edited.disk.set ([] ++ [configDir] ++ ["sonar-project.properties"])
      (.file scanProperties.toUTF8) }

lemma makeConfigDir_edited :
    makeConfigDir false edited = .ok (.ok [".spyq/sonar-project.properties"]) completed := by
  have hisDir : edited.disk.isDir edited.places.here configDir = true :=
    Disk.isDir_iff.mpr ⟨_, Disk.find_name_of_dir accepted_configDir writable_configDir get?_edited⟩
  have hwrite : edited.disk.write [] (configPath "sonar-project.properties") scanProperties.toUTF8 =
      .ok completed.disk :=
    Disk.write_eq_ok_iff.mpr ⟨_, locate_configPath get?_edited nofun (by decide), nofun, rfl⟩
  refine makeConfigDir_iff.mpr ⟨edited, makeDir_configDir hisDir, ?_⟩
  have hthere : ∀ n ∈ ["config.json", ".eslintrc.advanced.js", ".prettierrc"],
      edited.disk.pathExists [] (configPath n) = true := by
    simp only [List.forall_mem_cons]
    exact ⟨pathExists_edited (by decide) nofun, pathExists_edited (by decide) nofun,
      pathExists_edited (by decide) nofun, by simp⟩
  have hmissing : edited.disk.pathExists [] (configPath "sonar-project.properties") = false :=
    pathExists_edited (by decide) nofun
  have hskip : ∀ n ∈ ["config.json", ".eslintrc.advanced.js", ".prettierrc"],
      ¬ (false || !edited.disk.pathExists edited.places.here (configPath n)) = true := fun n hn => by
    rw [show edited.places.here = [] from rfl, hthere n hn]
    simp
  rw [configFiles, writeMissing_cons_iff, if_neg (hskip _ (by simp)), writeMissing_cons_iff,
    if_neg (hskip _ (by simp)), writeMissing_cons_iff, if_neg (hskip _ (by simp)),
    writeMissing_cons_iff, if_pos (by rw [show edited.places.here = [] from rfl, hmissing]; rfl)]
  exact ⟨_, [], halfFault?_scanProperties, hwrite, rfl, rfl⟩

end QualityGate.Scaffold
