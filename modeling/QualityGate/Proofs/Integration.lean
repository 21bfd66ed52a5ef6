/-
# The guard brought into a project twice

Files of the guard are copied into a project, a module that switches the guard on is written, the
main file imports it, and some common files are made if they are missing.  What this does to the
files (`performs_integrate`) is put together from steps that each write files with names of their
own.  So each step is done once it has been run, a second run changes nothing, and no step touches
what another one writes (`settles_integrate`).  The names keep the steps apart only where no link
stands under one of them.

The main file is read with its line ends made the same, and so it is written.
-/
import Mathlib
import QualityGate.Proofs.FileSteps
import QualityGate.Proofs.GuardRules
import QualityGate.Scaffold.Integrate

namespace QualityGate.Scaffold

open Disk

variable {here : Location} {project guard : Path}

/-! ## Copied files -/

/-- The name under which a file of the guard comes to a project. -/
def copyName (file : String) : String := (Path.ofText file).name

/-- The path of a file below a directory. -/
structure Below (file : String) : Prop where
  relative : (Path.ofText file).absolute = false
  last : (Path.ofText file).names.getLast? = some (copyName file)
  writable : Writable [copyName file]

instance (file : String) : Decidable (Below file) :=
  decidable_of_iff ((Path.ofText file).absolute = false ∧
    (Path.ofText file).names.getLast? = some (copyName file) ∧ Writable [copyName file])
    ⟨fun ⟨h1, h2, h3⟩ => ⟨h1, h2, h3⟩, fun ⟨h1, h2, h3⟩ => ⟨h1, h2, h3⟩⟩

lemma Below.name_child {file : String} (h : Below file) :
    (guard.child file).name = copyName file := by
  rw [Path.child, Path.join, if_neg (by simp [h.relative]), Path.name, List.getLast?_append, h.last]
  rfl

/-- A file of the guard was copied if it was there. -/
def CopiesOne (here : Location) (project guard : Path) (file : String) : Disk → Disk → Prop :=
  Copies here (guard.child file).text (project.child (copyName file)).text (copyName file)

/-- Files of the guard were copied, one after the other. -/
def CopiesAll (here : Location) (project guard : Path) : List String → Disk → Disk → Prop
  | [] => Eq
  | file :: rest =>
    Relation.Comp (CopiesOne here project guard file) (CopiesAll here project guard rest)

lemma performs_copyGuard {files : List String} (hfiles : ∀ file ∈ files, Below file) :
    Performs here (copyGuard project guard files) (CopiesAll here project guard files) := by
  induction files with
  | nil => exact .nothing
  | cons file rest ih =>
    obtain ⟨hfile, hrest⟩ := List.forall_mem_cons.mp hfiles
    have hcopy : Performs here (Act.copyFile (guard.child file) (project.child (copyName file)))
        fun d d' => ∃ bytes, d.read here (guard.child file).text = .ok bytes ∧
          ¬ SamePlace d here (guard.child file).text
            (d.copyTarget here (project.child (copyName file)).text (copyName file)) ∧
          d.write here (d.copyTarget here (project.child (copyName file)).text (copyName file))
            bytes = .ok d' := by
      constructor
      · rintro w w' rfl h
        obtain ⟨bytes, d, hread, hother, hwrite, rfl⟩ := copyFile_iff.mp h
        rw [hfile.name_child] at hother hwrite
        exact ⟨d, w.out, ⟨bytes, hread, hother, hwrite⟩, rfl⟩
      · rintro w d rfl ⟨bytes, hread, hother, hwrite⟩
        refine ⟨w.out, copyFile_iff.mpr ⟨bytes, d, hread, ?_, ?_, rfl⟩⟩
        · rw [hfile.name_child]
          exact hother
        · rw [hfile.name_child]
          exact hwrite
    rw [copyGuard]
    refine ((hcopy.seq (.afterPrint _ (ih hrest))).look (.afterPrint _ (ih hrest))).congr ?_
    intro d d'
    constructor
    · rintro ⟨d₁, ⟨hnone, rfl⟩ | ⟨bytes, hread, hcopied⟩, hmore⟩
      · exact .inr ⟨hnone, hmore⟩
      · exact .inl ⟨⟨_, lookAt_of_read hread⟩, d₁, ⟨bytes, hread, hcopied⟩, hmore⟩
    · rintro (⟨-, d₁, hcopied, hmore⟩ | ⟨hnone, hmore⟩)
      · exact ⟨d₁, .inr hcopied, hmore⟩
      · exact ⟨d, .inl ⟨hnone, rfl⟩, hmore⟩

/-- Where files of the guard are written: those that are there. -/
def CopyPath (here : Location) (project guard : Path) (files : List String) (d : Disk)
    (s : String) : Prop :=
  ∃ file ∈ files, s = d.copyTarget here (project.child (copyName file)).text (copyName file) ∧
    ∃ bytes, d.read here (guard.child file).text = .ok bytes

lemma settles_copies (hproject : project.absolute = true) (hguard : guard.absolute = true)
    {files : List String} (hfiles : ∀ file ∈ files, Below file) (hnames : (files.map copyName).Nodup) :
    Settles here (files.map copyName) (CopyPath here project guard files)
      (CopiesAll here project guard files)
      fun d => ∀ file ∈ files, Copied here (guard.child file).text
        (project.child (copyName file)).text (copyName file) d := by
  induction files with
  | nil => exact Settles.nothing.congr (by simp [CopyPath]) (by simp)
  | cons file rest ih =>
    obtain ⟨hfile, hrest⟩ := List.forall_mem_cons.mp hfiles
    obtain ⟨hnew, hnames⟩ := List.nodup_cons.mp hnames
    have hfirst : Settles here [copyName file] _ (CopiesOne here project guard file) _ :=
      settles_copy (named_child hguard hfile.relative hfile.last)
        (named_child_self hproject hfile.writable)
    refine (hfirst.seq (ih hrest hnames) (by simpa using hnew)).congr ?_ ?_
    · intro d s
      simp [CopyPath]
    · intro d
      simp

/-! ## The main file -/

/-- The first of some files that is there. -/
def First (here : Location) (project : Path) (names : List String) (d : Disk) (n : String) : Prop :=
  ∃ before after, names = before ++ n :: after ∧
    ∀ m ∈ before, d.lookAt here (project.child m).text = .ok none

/-- A file was changed to import the module that switches the guard on, unless it mentions it. -/
def Edits (here : Location) (s : String) (d d' : Disk) : Prop :=
  ∃ text, d.readText here s = .ok text ∧
    if Text.holds text activatorName then d' = d
    else d.write here s (importLine ++ "\n" ++ text).toUTF8 = .ok d'

/-- The first of some files that is there was changed, or there was none. -/
def Activates (here : Location) (project : Path) (names : List String) (d d' : Disk) : Prop :=
  (∀ m ∈ names, d.lookAt here (project.child m).text = .ok none) ∧ d' = d ∨
    ∃ n, First here project names d n ∧ Edits here (project.child n).text d d'

section

variable {d d' : Disk} {n m : String} {names : List String}

lemma First.mem (h : First here project names d n) : n ∈ names := by
  obtain ⟨before, after, rfl, -⟩ := h
  simp

lemma first_cons : First here project (m :: names) d n ↔
    n = m ∨ d.lookAt here (project.child m).text = .ok none ∧ First here project names d n := by
  constructor
  · rintro ⟨before, after, hsplit, hmissing⟩
    cases before with
    | nil => exact .inl (List.cons.inj hsplit).1.symm
    | cons k before =>
      obtain ⟨rfl, rfl⟩ := List.cons.inj hsplit
      exact .inr ⟨hmissing m (by simp), before, after, rfl,
        fun k hk => hmissing k (List.mem_cons_of_mem _ hk)⟩
  · rintro (rfl | ⟨hnone, before, after, rfl, hmissing⟩)
    · exact ⟨[], names, rfl, by simp⟩
    · exact ⟨m :: before, after, rfl, List.forall_mem_cons.mpr ⟨hnone, hmissing⟩⟩

/-- Only one file is the first that is there. -/
lemma First.unique (h : First here project names d n) (h' : First here project names d m)
    (hn : ∃ e, d.lookAt here (project.child n).text = .ok (some e))
    (hm : ∃ e, d.lookAt here (project.child m).text = .ok (some e)) : n = m := by
  obtain ⟨e, he⟩ := hn
  obtain ⟨e', he'⟩ := hm
  induction names with
  | nil => simpa using h.mem
  | cons k names ih =>
    rcases first_cons.mp h with rfl | ⟨hnone, h⟩
    · rcases first_cons.mp h' with rfl | ⟨hnone', -⟩
      · rfl
      · simp [hnone'] at he
    · rcases first_cons.mp h' with rfl | ⟨-, h'⟩
      · simp [hnone] at he'
      · exact ih h h'

lemma performs_writeBack {s text : String} :
    Performs here (writeBack s text) fun d d' => d.write here s text.toUTF8 = .ok d' := by
  refine .change fun w hw => ?_
  rw [writeBack, Act.bind_ok (Act.disk_run w), Act.bind_ok (Act.here_run w), hw, writeText]

lemma performs_activateMain :
    Performs here (activateMain project names) (Activates here project names) := by
  induction names with
  | nil =>
    refine Performs.nothing.congr fun d d' => ?_
    simp [Activates, First, eq_comm]
  | cons name rest ih =>
    rw [activateMain]
    have hedit : Performs here (do
        let text ← Act.readText (project.child name).text
        if !Text.holds text activatorName then
          writeBack (project.child name).text (importLine ++ "\n" ++ text)
          Act.printLine s!"  ✅ Zaktualizowano: {name}") (Edits here (project.child name).text) := by
      refine .read fun text => ?_
      cases Text.holds text activatorName with
      | true => exact Performs.nothing.congr fun d d' => by simp [eq_comm]
      | false => exact performs_writeBack.thenPrints (.printLine _)
    refine (hedit.look ih).congr fun d d' => ?_
    constructor
    · rintro (⟨hmissing, rfl⟩ | ⟨n, hfirst, hedits⟩)
      · obtain ⟨hnone, hmissing⟩ := List.forall_mem_cons.mp hmissing
        exact .inr ⟨hnone, .inl ⟨hmissing, rfl⟩⟩
      · rcases first_cons.mp hfirst with rfl | ⟨hnone, hfirst⟩
        · obtain ⟨text, hread, -⟩ := id hedits
          exact .inl ⟨lookAt_of_readText hread, hedits⟩
        · exact .inr ⟨hnone, .inr ⟨n, hfirst, hedits⟩⟩
    · rintro (⟨-, hedits⟩ | ⟨hnone, ⟨hmissing, rfl⟩ | ⟨n, hfirst, hedits⟩⟩)
      · exact .inr ⟨name, first_cons.mpr (.inl rfl), hedits⟩
      · exact .inl ⟨List.forall_mem_cons.mpr ⟨hnone, hmissing⟩, rfl⟩
      · exact .inr ⟨n, first_cons.mpr (.inr ⟨hnone, hfirst⟩), hedits⟩

/-- Where the main file is written: if it does not mention the module that switches the guard on. -/
def MainPath (here : Location) (project : Path) (names : List String) (d : Disk) (s : String) : Prop :=
  ∃ n text, First here project names d n ∧ s = (project.child n).text ∧
    d.readText here s = .ok text ∧ Text.holds text activatorName = false

/-- The first file that is there mentions the module that switches the guard on. -/
def Active (here : Location) (project : Path) (names : List String) (d : Disk) : Prop :=
  (∀ m ∈ names, d.lookAt here (project.child m).text = .ok none) ∨
    ∃ n text, First here project names d n ∧ d.readText here (project.child n).text = .ok text ∧
      Text.holds text activatorName = true

/-- The line that imports the module mentions it. -/
lemma holds_importLine (text : String) :
    Text.holds (importLine ++ "\n" ++ text) activatorName = true := by
  rw [Guard.holds_iff]
  have hline : importLine = "import " ++ activatorName ++ "  # Aktywuje Quality Guard" := by decide
  refine ⟨"import ".toList, "  # Aktywuje Quality Guard\n".toList ++ text.toList, ?_⟩
  rw [hline]
  simp

/-- After a change, the main file is read as the line and its old text. -/
lemma readText_of_edit {s text : String} (hs : s.startsWith "/" = true)
    (hread : d.readText here s = .ok text)
    (hwrite : d.write here s (importLine ++ "\n" ++ text).toUTF8 = .ok d') :
    d'.readText here s = .ok (importLine ++ "\n" ++ text) := by
  obtain ⟨raw, -, rfl⟩ := readText_eq_ok_iff.mp hread
  refine readText_of_read ?_ (read_write hs hwrite)
  have hline : '\r' ∉ (importLine ++ "\n").toList := by decide
  rw [String.toList_append, List.mem_append, not_or]
  exact ⟨hline, by simpa [Text.unified] using Text.not_mem_unify raw.toList⟩

section

variable {others : List String} (hnamed : ∀ n ∈ names, Named n (project.child n).text)
  (htidy : Tidy d (names ++ others)) (hdisj : names.Disjoint others)
  (hwrites : Writes here (NamedIn others) d d')

include hnamed htidy hdisj hwrites

lemma lookAt_of_others (hn : n ∈ names) :
    d'.lookAt here (project.child n).text = d.lookAt here (project.child n).text :=
  hwrites.lookAt_eq (htidy.apart hdisj hn (hnamed n hn))

lemma readText_of_others {text : String} (hn : n ∈ names) :
    d'.readText here (project.child n).text = .ok text ↔
      d.readText here (project.child n).text = .ok text :=
  hwrites.readText_iff (htidy.apart hdisj hn (hnamed n hn))

/-- Which file is the first does not depend on files with other names. -/
lemma first_of_others : First here project names d' n ↔ First here project names d n := by
  refine exists_congr fun before => exists_congr fun after => and_congr_right fun hsplit => ?_
  refine forall₂_congr fun m hm => ?_
  rw [lookAt_of_others hnamed htidy hdisj hwrites (hsplit ▸ List.mem_append_left _ hm)]

end

lemma settles_activate (hnamed : ∀ n ∈ names, Named n (project.child n).text) :
    Settles here names (MainPath here project names) (Activates here project names)
      (Active here project names) where
  named := by
    rintro d s ⟨n, text, hfirst, rfl, -, -⟩
    exact ⟨n, hfirst.mem, hnamed n hfirst.mem⟩
  writes := by
    rintro d d' - (⟨-, rfl⟩ | ⟨n, hfirst, text, hread, hedit⟩)
    · exact .refl
    · cases hholds : Text.holds text activatorName with
      | true =>
        rw [hholds, if_pos rfl] at hedit
        exact hedit ▸ .refl
      | false =>
        rw [hholds, if_neg (by simp)] at hedit
        exact .single ⟨n, text, hfirst, rfl, hread, hholds⟩ (hnamed n hfirst.mem).starts hedit
  done_of_run := by
    rintro d d' htidy (⟨hmissing, rfl⟩ | ⟨n, hfirst, text, hread, hedit⟩)
    · exact .inl hmissing
    · cases hholds : Text.holds text activatorName with
      | true =>
        rw [hholds, if_pos rfl] at hedit
        exact .inr ⟨n, text, hedit ▸ hfirst, hedit ▸ hread, hholds⟩
      | false =>
        rw [hholds, if_neg (by simp)] at hedit
        have hn := hnamed n hfirst.mem
        have hwrites : Writes here (NamedIn [n]) d d' :=
          .single ⟨n, List.mem_singleton_self n, hn⟩ hn.starts hedit
        refine .inr ⟨n, _, ?_, readText_of_edit hn.starts hread hedit, holds_importLine text⟩
        -- the files before the first one are still missing
        have hmain := hfirst.mem
        obtain ⟨before, after, hsplit, hmissing⟩ := hfirst
        refine ⟨before, after, hsplit, fun m hm => ?_⟩
        have hne : m ≠ n := by
          rintro rfl
          obtain ⟨e, he⟩ := lookAt_of_readText hread
          simp [hmissing m hm] at he
        have hmem : m ∈ names := hsplit ▸ List.mem_append_left _ hm
        have hpair : Tidy d ([m] ++ [n]) := htidy.mono (by simp [hmem, hmain])
        rw [hwrites.lookAt_eq (hpair.apart (by simpa using hne.symm) (List.mem_singleton_self m)
          (hnamed m hmem)), hmissing m hm]
  run_of_done := by
    rintro d (hmissing | ⟨n, text, hfirst, hread, hholds⟩)
    · exact .inl ⟨hmissing, rfl⟩
    · exact .inr ⟨n, hfirst, text, hread, by rw [hholds, if_pos rfl]⟩
  paths_of := by
    rintro d d' others htidy hdisj hwrites s ⟨n, text, hfirst, rfl, hread, hholds⟩
    have hfirst := (first_of_others hnamed htidy hdisj hwrites).mp hfirst
    exact ⟨n, text, hfirst, rfl,
      (readText_of_others hnamed htidy hdisj hwrites hfirst.mem).mp hread, hholds⟩
  stays := by
    rintro d d' others htidy hdisj hwrites (hmissing | ⟨n, text, hfirst, hread, hholds⟩)
    · left
      intro m hm
      rw [lookAt_of_others hnamed htidy hdisj hwrites hm, hmissing m hm]
    · exact .inr ⟨n, text, (first_of_others hnamed htidy hdisj hwrites).mpr hfirst,
        (readText_of_others hnamed htidy hdisj hwrites hfirst.mem).mpr hread, hholds⟩

end

lemma below_copiedFiles : ∀ file ∈ copiedFiles, Below file := by decide

/-! ## All steps -/

/-- The files that are made if they are missing. -/
def madeFiles : List String := ["requirements.txt", ".gitignore", "Makefile"]

/-- The names of the files that are written whatever the project holds. -/
def guardNames : List String := copiedFiles.map copyName ++ ["quality_guard_activator.py"]

/-- The names of all files that are written. -/
def ownNames : List String := guardNames ++ (mainFiles ++ madeFiles)

/-- The files of the guard were copied, and the module that switches it on was written. -/
def Prepares (here : Location) (project guard : Path) : Disk → Disk → Prop :=
  Relation.Comp (CopiesAll here project guard copiedFiles)
    (Wrote here (project.child "quality_guard_activator.py").text importActivator)

/-- The common files were made if they were missing. -/
def Completes (here : Location) (project : Path) : Disk → Disk → Prop :=
  Relation.Comp (Makes here (project.child "requirements.txt").text emptyRequirements) <|
  Relation.Comp (Makes here (project.child ".gitignore").text ignoredFiles)
    (Makes here (project.child "Makefile").text makeRules)

/-- What bringing the guard into a project does to the files. -/
def Integrates (here : Location) (project guard : Path) : Disk → Disk → Prop :=
  Relation.Comp (Prepares here project guard) <|
  Relation.Comp (Activates here project mainFiles) (Completes here project)

/-- The path that a text stands for in a directory. -/
def place (here : Location) (s : String) : Path := (Location.path here).join (Path.ofText s)

lemma absolute_place (here : Location) (s : String) : (place here s).absolute = true := by
  rw [place, Path.join]
  split
  · assumption
  · rfl

lemma performs_makeIfMissing (name text : String) :
    Performs here (makeIfMissing project name text)
      (Makes here (project.child name).text text) := by
  have hmake := (performs_writeText here (project.child name).text text).thenPrints
    (.printLine s!"  ✅ Utworzono: {name}")
  have hsame : makeIfMissing project name text = (do
      if ← Act.isThere (project.child name).text then pure () else
        Act.writeText (project.child name).text text
        Act.printLine s!"  ✅ Utworzono: {name}") := by
    rw [makeIfMissing]
    refine congrArg (Act.isThere (project.child name).text >>= ·) (funext fun there => ?_)
    cases there <;> rfl
  rw [hsame]
  exact (Performs.nothing.look hmake).congr fun d d' => by simp only [Makes, eq_comm]

/-- A run changes the files as the steps do. -/
lemma performs_integrate (project guard : String) :
    Performs here (integrate project guard)
      (Integrates here (place here project) (place here guard)) := by
  have hplace : ∀ s : String, ∀ w : Session, w.places.here = here →
      absolute s w = .ok (place here s) w := by
    rintro s w rfl
    rfl
  rw [integrate, Integrates, Prepares, Relation.comp_assoc]
  refine .after (hplace project) (.after (hplace guard) (.afterPrint _ ?_))
  refine (performs_copyGuard below_copiedFiles).seq ((performs_writeText _ _ _).seq (.afterPrint _ ?_))
  refine performs_activateMain.seq ((performs_makeIfMissing _ _).seq ?_)
  refine (performs_makeIfMissing _ _).seq ((performs_makeIfMissing _ _).thenPrints ?_)
  exact .afterPrint _ (.afterPrint _ (.afterPrint _ (.afterPrint _ (.printLine _))))

/-- The paths at which files are written. -/
inductive WrittenPath (here : Location) (project guard : Path) (d : Disk) : String → Prop
  | copied {file : String} {bytes : ByteArray} : file ∈ copiedFiles →
    d.read here (guard.child file).text = .ok bytes →
    WrittenPath here project guard d
      (d.copyTarget here (project.child (copyName file)).text (copyName file))
  | activator : WrittenPath here project guard d (project.child "quality_guard_activator.py").text
  | main {n text : String} : First here project mainFiles d n →
    d.readText here (project.child n).text = .ok text → Text.holds text activatorName = false →
    WrittenPath here project guard d (project.child n).text
  | made {n : String} : n ∈ madeFiles → d.lookAt here (project.child n).text = .ok none →
    WrittenPath here project guard d (project.child n).text

lemma guardNames_eq : guardNames = ["quality_guard_exceptions.py", "setup_quality_guard.py",
    "quality-config.json", "quality_guard_activator.py"] := by decide

lemma writable_ownNames : ∀ n ∈ ownNames, Writable [n] := by
  rw [ownNames, guardNames_eq]
  decide

lemma nodup_ownNames : ownNames.Nodup := by
  rw [ownNames, guardNames_eq]
  decide

/-- The files of the guard have other names than those of the project. -/
lemma disjoint_guardNames : guardNames.Disjoint (mainFiles ++ madeFiles) :=
  List.disjoint_of_nodup_append nodup_ownNames

lemma disjoint_mainFiles : mainFiles.Disjoint madeFiles :=
  List.disjoint_of_nodup_append (List.nodup_append.mp nodup_ownNames).2.1

lemma mem_guardNames {file : String} (h : file ∈ copiedFiles) : copyName file ∈ guardNames :=
  List.mem_append_left _ (List.mem_map_of_mem h)

lemma mem_ownNames {n : String} (h : n ∈ mainFiles ∨ n ∈ madeFiles) : n ∈ ownNames :=
  List.mem_append_right _ (List.mem_append.mpr h)

lemma activator_mem : "quality_guard_activator.py" ∈ guardNames :=
  List.mem_append_right _ (List.mem_singleton_self _)

lemma named_own (hproject : project.absolute = true) {n : String} (hn : n ∈ ownNames) :
    Named n (project.child n).text := named_child_self hproject (writable_ownNames n hn)

/-- Where the files of the guard and the module that switches it on are written. -/
def GuardPath (here : Location) (project guard : Path) (d : Disk) (s : String) : Prop :=
  CopyPath here project guard copiedFiles d s ∨
    s = (project.child "quality_guard_activator.py").text

/-- The files of the guard and the module that switches it on are in the project. -/
def Prepared (here : Location) (project guard : Path) (d : Disk) : Prop :=
  (∀ file ∈ copiedFiles, Copied here (guard.child file).text (project.child (copyName file)).text
    (copyName file) d) ∧
  Stores here (project.child "quality_guard_activator.py").text importActivator d

lemma settles_prepare (hproject : project.absolute = true) (hguard : guard.absolute = true) :
    Settles here guardNames (GuardPath here project guard) (Prepares here project guard)
      (Prepared here project guard) := by
  have hnodup : guardNames.Nodup := (List.nodup_append.mp nodup_ownNames).1
  exact (settles_copies hproject hguard below_copiedFiles (List.nodup_append.mp hnodup).1).seq
    (settles_write (named_own hproject (List.mem_append_left _ activator_mem)))
    (List.disjoint_of_nodup_append hnodup)

/-- Where a common file is made: if it is missing. -/
def MadePath (here : Location) (project : Path) (d : Disk) (s : String) : Prop :=
  ∃ n ∈ madeFiles, s = (project.child n).text ∧ d.lookAt here s = .ok none

lemma settles_complete (hproject : project.absolute = true) :
    Settles here madeFiles (MadePath here project) (Completes here project)
      fun d => ∀ n ∈ madeFiles, ∃ e, d.lookAt here (project.child n).text = .ok (some e) := by
  have hmake : ∀ n ∈ madeFiles, ∀ text, Settles here [n]
      (fun d t => t = (project.child n).text ∧ d.lookAt here (project.child n).text = .ok none)
      (Makes here (project.child n).text text)
      fun d => ∃ e, d.lookAt here (project.child n).text = .ok (some e) :=
    fun n hn text => settles_make (named_own hproject (mem_ownNames (.inr hn)))
  have hlast := (hmake ".gitignore" (by simp [madeFiles]) ignoredFiles).seq
    (hmake "Makefile" (by simp [madeFiles]) makeRules) (by simp)
  have hall := (hmake "requirements.txt" (by simp [madeFiles]) emptyRequirements).seq hlast (by simp)
  refine hall.congr (fun d s => ?_) fun d => by simp [madeFiles]
  have hsame : ∀ t, s = t ∧ d.lookAt here s = .ok none ↔ s = t ∧ d.lookAt here t = .ok none :=
    fun t => and_congr_right fun ht => by rw [ht]
  simp only [MadePath, madeFiles, List.exists_mem_cons_iff, List.not_mem_nil, false_and, exists_false,
    or_false, hsame]

/-- All steps have been done. -/
def Integrated (here : Location) (project guard : Path) (d : Disk) : Prop :=
  Prepared here project guard d ∧ Active here project mainFiles d ∧
    ∀ n ∈ madeFiles, ∃ e, d.lookAt here (project.child n).text = .ok (some e)

lemma settles_integrate (hproject : project.absolute = true) (hguard : guard.absolute = true) :
    Settles here ownNames (WrittenPath here project guard) (Integrates here project guard)
      (Integrated here project guard) := by
  have hmain : Settles here mainFiles _ (Activates here project mainFiles) _ :=
    settles_activate fun n hn => named_own hproject (mem_ownNames (.inl hn))
  have hall := (settles_prepare hproject hguard).seq
    (hmain.seq (settles_complete hproject) disjoint_mainFiles) disjoint_guardNames
  refine hall.congr (fun d s => ?_) fun d => Iff.rfl
  constructor
  · rintro (⟨hfile, hread⟩ | _ | ⟨hfirst, hread, hholds⟩ | ⟨hn, hnone⟩)
    · exact .inl (.inl ⟨_, hfile, rfl, _, hread⟩)
    · exact .inl (.inr rfl)
    · exact .inr (.inl ⟨_, _, hfirst, rfl, hread, hholds⟩)
    · exact .inr (.inr ⟨_, hn, rfl, hnone⟩)
  · rintro ((⟨file, hfile, hs, bytes, hread⟩ | hs) | ⟨n, text, hfirst, hs, hread, hholds⟩ |
      ⟨n, hn, hs, hnone⟩)
    · exact hs ▸ .copied hfile hread
    · exact hs ▸ .activator
    · exact hs ▸ .main hfirst (hs ▸ hread) hholds
    · exact hs ▸ .made hn (hs ▸ hnone)

/-! ## A second run -/

section

variable {d : Disk} {n s : String} (hproject : project.absolute = true)
  (hlinks : ∀ n ∈ ownNames, d.Unlinked n)

include hlinks

lemma tidy_ownNames : Tidy d ownNames := fun n hn => ⟨writable_ownNames n hn, hlinks n hn⟩

include hproject

/-- Of two paths that lead to one place, the last names are the same. -/
lemma eq_of_samePlace {m : String} (hn : n ∈ ownNames) (hm : m ∈ ownNames) (hs : Named m s)
    (hsame : SamePlace d here (project.child n).text s) : n = m := by
  by_contra hne
  exact (named_own hproject hn).apart hs (writable_ownNames n hn) (writable_ownNames m hm)
    (hlinks n hn) (hlinks m hm) hne hsame

/-- A main file is written only if it is the first one and does not mention the module, and a file
that is made only if it is missing. -/
lemma writtenPath_own (hn : n ∈ mainFiles ∨ n ∈ madeFiles)
    (hs : WrittenPath here project guard d s)
    (hsame : SamePlace d here (project.child n).text s) :
    (n ∈ mainFiles ∧ First here project mainFiles d n ∧ ∃ text,
      d.readText here (project.child n).text = .ok text ∧ Text.holds text activatorName = false) ∨
    n ∈ madeFiles ∧ d.lookAt here (project.child n).text = .ok none := by
  have hown := mem_ownNames hn
  have hother : n ∉ guardNames := fun hguard => disjoint_guardNames hguard (List.mem_append.mpr hn)
  cases hs with
  | @copied file bytes hfile hread =>
    have hm : copyName file ∈ ownNames := List.mem_append_left _ (mem_guardNames hfile)
    obtain rfl := eq_of_samePlace hproject hlinks hown hm (named_own hproject hm).copyTarget hsame
    exact absurd (mem_guardNames hfile) hother
  | activator =>
    have hm := List.mem_append_left (mainFiles ++ madeFiles) activator_mem
    obtain rfl := eq_of_samePlace hproject hlinks hown hm (named_own hproject hm) hsame
    exact absurd activator_mem hother
  | @main m text hfirst hread hholds =>
    have hm := mem_ownNames (.inl hfirst.mem)
    obtain rfl := eq_of_samePlace hproject hlinks hown hm (named_own hproject hm) hsame
    exact .inl ⟨hfirst.mem, hfirst, text, hread, hholds⟩
  | @made m hmade hnone =>
    have hm := mem_ownNames (.inr hmade)
    obtain rfl := eq_of_samePlace hproject hlinks hown hm (named_own hproject hm) hsame
    exact .inr ⟨hmade, hnone⟩

end

/-- A project in the root directory.  In its main file a carriage return stands before the end of the
line. -/
def withReturn : Session := { Session.bare with
  disk := ⟨[(["main.py"], .file "x\r\n".toUTF8), (["requirements.txt"], .file "".toUTF8),
    ([".gitignore"], .file "".toUTF8), (["Makefile"], .file "".toUTF8)]⟩ }

lemma unlinked_withReturn : ∀ n ∈ ownNames, withReturn.disk.Unlinked n :=
  fun n _ => unlinked_of_entries (by simp [withReturn]) n

lemma first_withReturn : First [] (place [] ".") mainFiles withReturn.disk "main.py" :=
  ⟨[], ["app.py", "__main__.py", "run.py"], rfl, by simp⟩

/-- In the root directory the path of a file is its name behind a slash. -/
lemma text_in_root {n : String}
    (hn : n ∈ ["quality_guard_activator.py", "main.py", "requirements.txt", ".gitignore", "Makefile"]) :
    ((place [] ".").child n).text = (Location.path [n]).text ∧
      Accepted (Location.path [n]).text ∧ Writable [n] := by
  revert n
  decide

section

variable {d : Disk} {n : String} {bytes : ByteArray}
  (hn : n ∈ ["quality_guard_activator.py", "main.py", "requirements.txt", ".gitignore", "Makefile"])

include hn

lemma read_child_root (h : d.get? [n] = some (.file bytes)) :
    d.read [] ((place [] ".").child n).text = .ok bytes := by
  obtain ⟨htext, haccepted, hwritable⟩ := text_in_root hn
  rw [htext]
  exact read_eq_ok_iff.mpr ⟨_, find_text_in_root haccepted hwritable h⟩

lemma write_child_root (hdir : d.get? [n] ≠ some .dir)
    (hlink : ∀ target, d.get? [n] ≠ some (.link target)) :
    d.write [] ((place [] ".").child n).text bytes = .ok (d.set [n] (.file bytes)) := by
  obtain ⟨htext, haccepted, hwritable⟩ := text_in_root hn
  rw [htext]
  refine write_eq_ok_iff.mpr ⟨[n], (locate_text hwritable (by simp)).mpr ⟨haccepted, ?_⟩, hdir, rfl⟩
  show Leads d maxLinks [] [n] ([] ++ [n])
  exact .last _ (hwritable n (by simp)).1 hdir hlink

end

lemma read_withReturn : withReturn.disk.read [] ((place [] ".").child "main.py").text =
    .ok "x\r\n".toUTF8 := read_child_root (by simp) rfl

/-- The guard is not there where it is looked for. -/
lemma copies_withReturn : CopiesAll [] (place [] ".") (place [] "/q") copiedFiles withReturn.disk
    withReturn.disk := by
  have hpaths : ∀ file ∈ copiedFiles, Accepted ((place [] "/q").child file).text ∧
      ∃ m ∈ ["core", "config"],
        namesToFollow ((place [] "/q").child file).text = ["q", m, copyName file] := by decide
  have hmissing : ∀ file ∈ copiedFiles,
      withReturn.disk.lookAt [] ((place [] "/q").child file).text = .ok none := by
    intro file hfile
    obtain ⟨haccepted, m, -, hnames⟩ := hpaths file hfile
    have hbelow := below_copiedFiles file hfile
    have hstart := (named_child (absolute_place [] "/q") hbelow.relative hbelow.last).starts
    exact lookAt_of_missing haccepted hstart hnames (by decide) rfl
  exact ⟨_, .inl ⟨hmissing _ (by simp [copiedFiles]), rfl⟩,
    _, .inl ⟨hmissing _ (by simp [copiedFiles]), rfl⟩,
    _, .inl ⟨hmissing _ (by simp [copiedFiles]), rfl⟩, rfl⟩

/-- The module is written, the main file imports it, and nothing has to be made. -/
lemma integrate_withReturn : ∃ w', integrate "." "/q" withReturn = .ok () w' := by
  have hhalf : Text.halfFault? importActivator = none := by
    rw [importActivator, Text.ofLines, Text.halfFault?_join]
    decide
  have hmissing : withReturn.disk.get? ["quality_guard_activator.py"] = none := rfl
  have hwrote : withReturn.disk.write [] ((place [] ".").child "quality_guard_activator.py").text
      importActivator.toUTF8 = _ :=
    write_child_root (by simp) (by simp [hmissing]) (by simp [hmissing])
  set d₁ := withReturn.disk.set ["quality_guard_activator.py"] (.file importActivator.toUTF8)
  have hmain : d₁.get? ["main.py"] = some (.file "x\r\n".toUTF8) := rfl
  have htext : d₁.readText [] ((place [] ".").child "main.py").text = .ok (Text.unified "x\r\n") :=
    readText_eq_ok_iff.mpr ⟨"x\r\n", read_child_root (by simp) hmain, rfl⟩
  have hwrite : d₁.write [] ((place [] ".").child "main.py").text
      (importLine ++ "\n" ++ Text.unified "x\r\n").toUTF8 = _ :=
    write_child_root (by simp) (by simp [hmain]) (by simp [hmain])
  set d₂ := d₁.set ["main.py"] (.file (importLine ++ "\n" ++ Text.unified "x\r\n").toUTF8)
  have hedit : Edits [] ((place [] ".").child "main.py").text d₁ d₂ :=
    ⟨_, htext, by rw [if_neg (by decide)]; exact hwrite⟩
  have hthere : ∀ n ∈ madeFiles, ∀ text, Makes [] ((place [] ".").child n).text text d₂ d₂ := by
    intro n hn text
    simp only [madeFiles, List.mem_cons, List.not_mem_nil, or_false] at hn
    refine .inl ⟨⟨.file "".toUTF8, lookAt_of_read ?_⟩, rfl⟩
    rcases hn with rfl | rfl | rfl <;> exact read_child_root (by simp) rfl
  have hsteps : Integrates [] (place [] ".") (place [] "/q") withReturn.disk d₂ :=
    ⟨d₁, ⟨_, copies_withReturn, hhalf, hwrote⟩, d₂, .inr ⟨"main.py", ⟨[], _, rfl, by simp⟩, hedit⟩,
      d₂, hthere _ (by simp [madeFiles]) _, d₂, hthere _ (by simp [madeFiles]) _,
      hthere _ (by simp [madeFiles]) _⟩
  obtain ⟨out, hrun⟩ := (performs_integrate "." "/q").complete (w := withReturn) rfl hsteps
  exact ⟨_, hrun⟩

/-- A text that does not mention the module does not mention it with its line ends made the same. -/
lemma holds_unified {raw : String} (h : Text.holds raw activatorName = false) :
    Text.holds (Text.unified raw) activatorName = false := by
  rw [← Bool.not_eq_true, Guard.holds_iff] at h ⊢
  rw [Text.unified, String.toList_ofList]
  exact fun hinside => h (Text.infix_of_unifyLineEnds (by decide) hinside)

/-- The first main file that is there is changed if it does not mention the module. -/
lemma Integrates.read_main (hproject : project.absolute = true) (hguard : guard.absolute = true)
    {d d' : Disk} (hlinks : ∀ n ∈ ownNames, d.Unlinked n)
    (hsteps : Integrates here project guard d d') {n raw : String}
    (hfirst : First here project mainFiles d n)
    (hread : d.read here (project.child n).text = .ok raw.toUTF8)
    (hnew : Text.holds raw activatorName = false) :
    d'.read here (project.child n).text =
      .ok (importLine ++ "\n" ++ Text.unified raw).toUTF8 := by
  obtain ⟨d₁, hprepares, d₂, hactivates, hcompletes⟩ := hsteps
  have hnamed : ∀ n ∈ mainFiles, Named n (project.child n).text :=
    fun n hn => named_own hproject (mem_ownNames (.inl hn))
  have htidy := tidy_ownNames hlinks
  have hbefore := (settles_prepare hproject hguard).writes_named (htidy.mono (by simp [ownNames]))
    hprepares
  have hsplit : Tidy d (mainFiles ++ guardNames) := htidy.mono (by simp [ownNames])
  have hdisj : mainFiles.Disjoint guardNames :=
    (List.disjoint_append_right.mp disjoint_guardNames).1.symm
  -- the main file is what it was when its turn comes
  have hfirst₁ := (first_of_others hnamed hsplit hdisj hbefore).mpr hfirst
  have htext₁ := (readText_of_others hnamed hsplit hdisj hbefore hfirst.mem).mpr
    (readText_eq_ok_iff.mpr ⟨raw, hread, rfl⟩)
  have hthere := lookAt_of_readText htext₁
  rcases hactivates with ⟨hmissing, -⟩ | ⟨m, hfirst', text, htext, hedit⟩
  · obtain ⟨e, he⟩ := hthere
    simp [hmissing n hfirst.mem] at he
  obtain rfl := hfirst₁.unique hfirst' hthere (lookAt_of_readText htext)
  obtain rfl : Text.unified raw = text := Except.ok.inj (htext₁.symm.trans htext)
  rw [holds_unified hnew, if_neg (by simp)] at hedit
  -- and it is left alone when the common files are made
  have hn := hnamed n hfirst.mem
  have htidy₁ : Tidy d₁ ownNames := hbefore.tidy htidy
  have hedited : Writes here (NamedIn [n]) d₁ d₂ :=
    .single ⟨n, List.mem_singleton_self n, hn⟩ hn.starts hedit
  have htidy₂ : Tidy d₂ (mainFiles ++ madeFiles) := (hedited.tidy htidy₁).mono (by simp [ownNames])
  have hafter := (settles_complete hproject).writes_named (htidy₂.mono (by simp)) hcompletes
  exact (hafter.read_iff (htidy₂.apart disjoint_mainFiles hfirst.mem hn)).mpr (read_write hn.starts hedit)

end QualityGate.Scaffold
