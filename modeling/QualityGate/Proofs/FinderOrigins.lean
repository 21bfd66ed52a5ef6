/-
# Where a module is found

One of our finders passes a question on to the others and answers with the first source file that
they know (`askOurs_eq`).  That also holds if there is another one of ours among them, which passes
the question on in turn.  Whether the answer is the one that the other finders give by themselves is
another matter: an answer that is no source file is passed over.

`find_origin`: what one of ours finds is at the place that the others alone find just when the first
answer of the others is a source file.  A module of the interpreter beside a file of the same name
shows the difference (`find_origin_shadowed`).
-/
import Mathlib
import QualityGate.Imports.Finder
import QualityGate.Proofs.Sessions
import QualityGate.Proofs.SettingsStore

namespace QualityGate.Imports

/-! ## Source files -/

/-- The first source file that the finders in a list know, those of ours apart, or the failure of
one that is asked before. -/
def sourceAmong (q : Question) (w : Session) : List Finder → Except Failure (Option String)
  | [] => .ok none
  | .ours .. :: fs => sourceAmong q w fs
  | .other find :: fs =>
    match find q w with
    | .error f => .error f
    | .ok found =>
      match found.bind Located.source? with
      | some path => .ok (some path)
      | none => sourceAmong q w fs

/-- What one of ours makes of a source file. -/
def withLoader (r : Except Failure (Option String)) : Act (Option Located) := do
  match ← Act.ofExcept r with
  | some path => return some ⟨some path, some ⟨path, ← currentSettings⟩⟩
  | none => return none

section

variable {q : Question} {w : Session} {fs all : List Finder}

lemma sourceAmong_filter : sourceAmong q w (fs.filter (!·.isOurs)) = sourceAmong q w fs := by
  induction fs with
  | nil => rfl
  | cons f fs ih =>
    cases f with
    | ours id settings => exact ih
    | other find => rw [List.filter_cons_of_pos rfl, sourceAmong, sourceAmong, ih]

lemma source?_eq_some_iff {l : Located} {path : String} :
    l.source? = some path ↔ l.origin = some path ∧ path.endsWith ".py" = true := by
  rw [Located.source?, Option.filter_eq_some_iff]

/-- The finder that knows the first source file, and those that are asked before. -/
lemma exists_of_sourceAmong {path : String} (h : sourceAmong q w fs = .ok (some path)) :
    ∃ before find after found, fs = before ++ .other find :: after ∧
      find q w = .ok (some found) ∧ found.source? = some path ∧
      ∀ g, .other g ∈ before → ∃ r, g q w = .ok r ∧ r.bind Located.source? = none := by
  induction fs with
  | nil => cases h
  | cons f fs ih =>
    cases f with
    | ours id settings =>
      obtain ⟨before, find, after, found, rfl, hfound, hsource, hbefore⟩ := ih h
      exact ⟨.ours id settings :: before, find, after, found, rfl, hfound, hsource,
        fun g hg => hbefore g (by simpa using hg)⟩
    | other find =>
      rw [sourceAmong] at h
      cases hfind : find q w with
      | error e => simp [hfind] at h
      | ok r =>
        cases hr : r.bind Located.source? with
        | some p =>
          obtain rfl : p = path := by simpa [hfind, hr] using h
          obtain ⟨found, rfl, hsource⟩ := Option.bind_eq_some_iff.mp hr
          exact ⟨[], find, fs, found, rfl, hfind, hsource, by simp⟩
        | none =>
          simp only [hfind, hr] at h
          obtain ⟨before, find', after, found, rfl, hfound, hsource, hbefore⟩ := ih h
          refine ⟨.other find :: before, find', after, found, rfl, hfound, hsource, fun g hg => ?_⟩
          rcases List.mem_cons.mp hg with hg | hg
          · cases hg
            exact ⟨r, hfind, hr⟩
          · exact hbefore g hg

/-! ## Asking -/

variable {ask : Nat → Settings → Act (Option Located)} {self : Option Nat} {settings : Settings}

lemma answer_ok {find : Question → Session → Except Failure (Option Located)} {r : Option Located}
    (h : find q w = .ok r) : (Finder.other find).answer ask q w = .ok r w := by
  change Act.ofExcept (find q w) w = _
  rw [h]
  rfl

lemma answer_error {find : Question → Session → Except Failure (Option Located)} {e : Failure}
    (h : find q w = .error e) : (Finder.other find).answer ask q w = .error e w := by
  change Act.ofExcept (find q w) w = _
  rw [h]
  rfl

/-- One of ours goes by the answer of the first finder, or else by those of the others. -/
lemma askOthers_cons {f : Finder} {found : Option Located} (h : f.answer ask q w = .ok found w) :
    askOthers ask q (f :: fs) w =
      match found.bind Located.source? with
      | some path => withLoader (.ok (some path)) w
      | none => askOthers ask q fs w := by
  rw [askOthers, Act.bind_ok h]
  cases found.bind Located.source? <;> rfl

lemma askOthers_error {f : Finder} {e : Failure} (h : f.answer ask q w = .error e w) :
    askOthers ask q (f :: fs) w = .error e w := by
  rw [askOthers, Act.bind_error h]

lemma currentSettings_ok (h : Settings.current w.disk w.places = .ok settings) :
    currentSettings w = .ok settings w := by
  change Act.ofExcept (Settings.current w.disk w.places) w = _
  rw [h]
  rfl

lemma withLoader_ok (h : Settings.current w.disk w.places = .ok settings) (path : String) :
    withLoader (.ok (some path)) w = .ok (some ⟨some path, some ⟨path, settings⟩⟩) w := by
  change (do return some ⟨some path, some ⟨path, ← currentSettings⟩⟩ : Act (Option Located)) w = _
  rw [Act.bind_ok (currentSettings_ok h)]
  rfl

/-- What one of ours makes of a source file is a failure, or that source file again. -/
lemma withLoader_cases (w : Session) (path : String) :
    (∃ e, withLoader (.ok (some path)) w = .error e w) ∨
      ∃ loader, withLoader (.ok (some path)) w = .ok (some ⟨some path, loader⟩) w := by
  cases hcurrent : Settings.current w.disk w.places with
  | error e =>
    have hread : currentSettings w = .error e w := by
      change Act.ofExcept (Settings.current w.disk w.places) w = _
      rw [hcurrent]
      rfl
    have hrun : withLoader (.ok (some path)) w =
        (do return some ⟨some path, some ⟨path, ← currentSettings⟩⟩ : Act (Option Located)) w := rfl
    exact .inl ⟨e, by rw [hrun, Act.bind_error hread]⟩
  | ok settings => exact .inr ⟨_, withLoader_ok hcurrent path⟩

/-- Let each one of ours in a list know nothing, or what the others in the list know.  Then the
first source file of the others is found. -/
lemma askOthers_eq (hours : ∀ id s, .ours id s ∈ fs →
      ask id s w = .ok none w ∨ ask id s w = withLoader (sourceAmong q w fs) w) :
    askOthers ask q fs w = withLoader (sourceAmong q w fs) w := by
  induction fs with
  | nil => rfl
  | cons f fs ih =>
    cases f with
    | other find =>
      rw [sourceAmong] at hours ⊢
      cases hfind : find q w with
      | error e => exact askOthers_error (answer_error hfind)
      | ok found =>
        rw [askOthers_cons (answer_ok hfind)]
        cases hsource : found.bind Located.source? with
        | some path => simp only [hsource]
        | none =>
          simp only [hfind, hsource] at hours ⊢
          exact ih fun id s hmem => hours id s (List.mem_cons_of_mem _ hmem)
    | ours id s =>
      have hrest : askOthers ask q fs w = withLoader (sourceAmong q w fs) w :=
        ih fun id' s' hmem => hours id' s' (List.mem_cons_of_mem _ hmem)
      have hanswer : Finder.answer ask q (.ours id s) w = ask id s w := rfl
      rw [sourceAmong] at hours ⊢
      rcases hours id s (by simp) with hask | hask
      · rw [askOthers_cons (hanswer.trans hask)]
        exact hrest
      · -- it answers what the list comes to anyway
        rw [hask] at hanswer
        cases hamong : sourceAmong q w fs with
        | error e =>
          rw [hamong] at hanswer
          exact askOthers_error hanswer
        | ok r =>
          rw [hamong] at hanswer hrest
          cases r with
          | none =>
            rw [askOthers_cons hanswer]
            exact hrest
          | some path =>
            obtain ⟨-, -, -, found, -, -, hsource, -⟩ := exists_of_sourceAmong hamong
            rcases withLoader_cases w path with ⟨e, he⟩ | ⟨loader, hl⟩
            · rw [he, askOthers_error (hanswer.trans he)]
            · rw [askOthers_cons (hanswer.trans hl), Option.bind_some,
                source?_eq_some_iff.mpr ⟨rfl, (source?_eq_some_iff.mp hsource).2⟩]

/-- One of ours among others finds their first source file, unless it is switched off. -/
lemma askOurs_alone (fuel : Nat) (hself : ∀ id s, .ours id s ∈ all → some id = self) :
    askOurs (fuel + 1) all self settings q w =
      if isOn settings "enable_import_hook" then withLoader (sourceAmong q w all) w
      else .ok none w := by
  rw [askOurs]
  cases isOn settings "enable_import_hook" with
  | false => rfl
  | true =>
    refine askOthers_eq fun id s hmem => .inl ?_
    simp only [hself id s hmem, if_true]
    rfl

/-- That also holds if there is one more of ours. -/
lemma askOurs_eq (hone : (all.filter Finder.isOurs).length ≤ 1) (fuel : Nat) :
    askOurs (fuel + 2) all self settings q w =
      if isOn settings "enable_import_hook" then withLoader (sourceAmong q w all) w
      else .ok none w := by
  rw [askOurs]
  cases isOn settings "enable_import_hook" with
  | false => rfl
  | true =>
    refine askOthers_eq fun id s hmem => ?_
    by_cases hid : some id = self
    · exact .inl (by simp only [hid, if_true]; rfl)
    · simp only [if_neg hid]
      -- the other one is alone, so that it does not ask any of ours in turn
      have halone : ∀ id' s', .ours id' s' ∈ all → some id' = some id := by
        intro id' s' hmem'
        have hours : .ours id s ∈ all.filter Finder.isOurs := List.mem_filter.mpr ⟨hmem, rfl⟩
        have hours' : .ours id' s' ∈ all.filter Finder.isOurs := List.mem_filter.mpr ⟨hmem', rfl⟩
        obtain ⟨f, hf⟩ :=
          List.length_eq_one_iff.mp (le_antisymm hone (List.length_pos_of_mem hours))
        rw [hf, List.mem_singleton] at hours hours'
        cases hours'.trans hours.symm
        rfl
      rw [askOurs_alone fuel halone]
      cases isOn s "enable_import_hook" with
      | true => exact .inr rfl
      | false => exact .inl rfl

/-- If one of ours finds something, it is the first source file that the others know. -/
lemma exists_of_askOurs (hone : (all.filter Finder.isOurs).length ≤ 1) {l : Located} {w' : Session}
    (h : askOurs maxAsks all self settings q w = .ok (some l) w') :
    ∃ path, sourceAmong q w all = .ok (some path) ∧ w' = w ∧ l.origin = some path := by
  rw [maxAsks, askOurs_eq hone 998] at h
  split at h
  · cases hamong : sourceAmong q w all with
    | error e =>
      rw [hamong] at h
      cases h
    | ok r =>
      rw [hamong] at h
      cases r with
      | none => cases h
      | some path =>
        rcases withLoader_cases w path with ⟨e, he⟩ | ⟨loader, hl⟩
        · cases he.symm.trans h
        · cases hl.symm.trans h
          exact ⟨path, rfl, rfl, rfl⟩
  · cases h

/-! ## The first answer -/

section

variable {find : Question → Session → Except Failure (Option Located)}

lemma findFirst_of_none (h : find q w = .ok none) :
    findFirst all q (.other find :: fs) w = findFirst all q fs w := by
  rw [findFirst, Act.bind_ok (answer_ok h)]

lemma findFirst_of_some {l : Located} (h : find q w = .ok (some l)) :
    findFirst all q (.other find :: fs) w = .ok (some l) w := by
  rw [findFirst, Act.bind_ok (answer_ok h)]
  rfl

end

/-- If a finder knows a source file and none before it does, the first answer is that one, or no
source file. -/
lemma findFirst_of_source (all after : List Finder) {before : List Finder} {found : Located}
    {find : Question → Session → Except Failure (Option Located)}
    (hbefore : ∀ f ∈ before, f.isOurs = false)
    (hnone : ∀ g, .other g ∈ before → ∃ r, g q w = .ok r ∧ r.bind Located.source? = none)
    (hfound : find q w = .ok (some found)) :
    ∃ first, findFirst all q (before ++ .other find :: after) w = .ok (some first) w ∧
      (first = found ∨ first.source? = none) := by
  induction before with
  | nil => exact ⟨found, findFirst_of_some hfound, .inl rfl⟩
  | cons f before ih =>
    obtain ⟨first, hfirst, hcases⟩ := ih (fun g hg => hbefore g (List.mem_cons_of_mem f hg))
      fun g hg => hnone g (List.mem_cons_of_mem f hg)
    cases f with
    | ours id s => cases hbefore (.ours id s) (by simp)
    | other g =>
      obtain ⟨r, hr, hsource⟩ := hnone g (by simp)
      cases r with
      | none => exact ⟨first, (findFirst_of_none hr).trans hfirst, hcases⟩
      | some l => exact ⟨l, findFirst_of_some hr, .inr hsource⟩

/-- **One of ours finds what the others find, if that is a source file.**  Take any list of finders
with at most one of ours, whatever the others answer to a question.  What one of ours finds is the
first source file that the others know: those that are asked before it know nothing or something
else.  Without ours the list has a first answer too, and both are at one place just when that first
answer is a source file. -/
theorem find_origin (hone : (all.filter Finder.isOurs).length ≤ 1) {l : Located} {w' : Session}
    (h : askOurs maxAsks all self settings q w = .ok (some l) w') :
    let others := all.filter (!·.isOurs)
    w' = w ∧
    (∃ before find after found, others = before ++ .other find :: after ∧
      find q w = .ok (some found) ∧ found.source? ≠ none ∧ l.origin = found.origin ∧
      ∀ g, .other g ∈ before → ∃ r, g q w = .ok r ∧ r.bind Located.source? = none) ∧
    ∃ first, findFirst others q others w = .ok (some first) w ∧
      (l.origin = first.origin ↔ first.source? ≠ none) := by
  intro others
  obtain ⟨path, hpath, rfl, horigin⟩ : ∃ path, sourceAmong q w all = .ok (some path) ∧ w' = w ∧
      l.origin = some path := exists_of_askOurs hone h
  rw [← sourceAmong_filter] at hpath
  obtain ⟨before, find, after, found, hsplit, hfound, hsource, hnone⟩ :=
    exists_of_sourceAmong hpath
  have hothers : ∀ f ∈ others, f.isOurs = false := fun f hf => by
    simpa using (List.mem_filter.mp hf).2
  change others = _ at hsplit
  obtain ⟨first, hfirst, hcases⟩ := findFirst_of_source others after
    (fun f hf => hothers f (by rw [hsplit]; simp [hf])) hnone hfound
  obtain ⟨hplace, hpy⟩ := source?_eq_some_iff.mp hsource
  refine ⟨rfl, ⟨before, find, after, found, hsplit, hfound, by simp [hsource],
    horigin.trans hplace.symm, hnone⟩, first, by rw [← hfirst, ← hsplit], ?_⟩
  constructor
  · intro hsame
    rw [source?_eq_some_iff.mpr ⟨hsame.symm.trans horigin, hpy⟩]
    simp
  · intro hfile
    rcases hcases with rfl | hfile'
    · exact horigin.trans hplace.symm
    · exact absurd hfile' hfile

end

/-! ## A module of the interpreter and a file -/

section

variable {q : Question} {w : Session} {fs : List Finder}

lemma sourceAmong_findNamed {names : List String} {origin : String}
    (h : origin.endsWith ".py" = false) :
    sourceAmong q w (findNamed names origin :: fs) = sourceAmong q w fs := by
  rw [findNamed, sourceAmong]
  cases names.contains q.name <;> simp [Located.source?, Option.filter, h]

lemma sourceAmong_findFile {path : String} {b : Bool}
    (h : Program.findAmong w.disk w.places.here (q.dirs.getD w.searchPath)
      (Program.lastName q.name) = some (.file path b)) (hpath : path.endsWith ".py" = true) :
    sourceAmong q w (findFile :: fs) = .ok (some path) := by
  rw [findFile, sourceAmong, h, fileAnswer]
  simp [Located.source?, Option.filter, hpath]

end

/-- An empty file that is named like a module of the interpreter. -/
def shadowed : Session where
  disk := ⟨[(["time.py"], .file "".toUTF8)]⟩
  places := { here := [], home := [] }
  searchPath := ["/"]

lemma isFile_shadowed : shadowed.disk.isFile [] "/time.py" = true ∧
    shadowed.disk.isFile [] "/time/__init__.py" = false := by
  constructor
  · have hfound : Disk.Found shadowed.disk ([] ++ ["time.py"]) :=
      .leaf (Disk.Rooted.nil _) (by decide) (by decide) (by simp [shadowed, Disk.get?])
        (by simp [shadowed, Disk.get?])
    have hnames : Disk.namesToFollow "/time.py" = ["time.py"] := by decide
    rw [Disk.isFile, Disk.find_of_found (by decide) hnames hfound
      rfl]
  · have htext : (Location.path ["time", "__init__.py"]).text = "/time/__init__.py" := by
      decide
    have hmissing : shadowed.disk.pathExists [] (Location.path ["time", "__init__.py"]).text =
        false := Disk.pathExists_of_missing (by decide) (by simp [shadowed, Disk.get?])
    rw [htext, Disk.pathExists] at hmissing
    rw [Disk.isFile]
    cases hfind : shadowed.disk.find [] "/time/__init__.py" with
    | error t => rfl
    | ok x => simp [hfind] at hmissing

/-- The finder of files knows the file. -/
lemma sourceAmong_shadowed :
    sourceAmong { name := "time" } shadowed initialFinders = .ok (some "/time.py") := by
  have hbase : Path.joinName "/" "time" = "/time" := by decide +kernel
  have hlast : Program.lastName "time" = "time" := by cbv
  have hin : Program.findIn shadowed.disk [] "/" "time" = some (.file "/time.py" false) := by
    rw [Program.findIn, hbase]
    simp [isFile_shadowed]
  have hdirs : ["/"].filterMap (fun dir => Program.findIn shadowed.disk [] dir "time") =
      [.file "/time.py" false] := by
    rw [List.filterMap_cons, hin]
    rfl
  have hfile : Program.findAmong shadowed.disk shadowed.places.here shadowed.searchPath
      (Program.lastName "time") = some (.file "/time.py" false) := by
    change Program.findAmong shadowed.disk [] ["/"] (Program.lastName "time") = _
    rw [hlast, Program.findAmong, hdirs]
    rfl
  rw [initialFinders, sourceAmong_findNamed (by decide),
    sourceAmong_findNamed (by decide +kernel), sourceAmong_findNamed (by decide +kernel)]
  exact sourceAmong_findFile hfile (by decide +kernel)

/-- The interpreter knows the module first. -/
lemma findFirst_shadowed : findFirst initialFinders { name := "time" } initialFinders shadowed =
    .ok (some { origin := "built-in" }) shadowed := by
  have hbuiltIn : Program.libraryBuiltIn.contains "time" = true := by decide
  rw [initialFinders, findNamed, findFirst_of_none rfl, findNamed, findFirst_of_some]
  simp only [hbuiltIn, if_true]

lemma current_shadowed : Settings.current shadowed.disk shadowed.places = .ok Settings.defaults :=
  Settings.current_of_bare_root (by simp [shadowed, Disk.get?])

/-- One of ours in front of the finders of the language: it finds the file, while the first answer
of the others is no source file. -/
theorem find_origin_hooked :
    let all : List Finder := .ours 0 [] :: initialFinders
    ∃ l first, askOurs maxAsks all (some 0) [] { name := "time" } shadowed =
        .ok (some l) shadowed ∧ l.origin = some "/time.py" ∧
      findFirst initialFinders { name := "time" } initialFinders shadowed =
        .ok (some first) shadowed ∧ (l.origin = first.origin ↔ first.source? ≠ none) := by
  intro all
  have hone : (all.filter Finder.isOurs).length ≤ 1 := by decide
  have hon : isOn [] "enable_import_hook" = true := rfl
  have hall : sourceAmong { name := "time" } shadowed all = .ok (some "/time.py") :=
    sourceAmong_shadowed
  have hrun : askOurs maxAsks all (some 0) [] { name := "time" } shadowed =
      .ok (some ⟨some "/time.py", some ⟨"/time.py", Settings.defaults⟩⟩) shadowed := by
    rw [maxAsks, askOurs_eq hone 998, if_pos hon, hall, withLoader_ok current_shadowed]
  obtain ⟨-, -, first, hfirst, hsame⟩ := find_origin hone hrun
  exact ⟨_, first, hrun, rfl, hfirst, hsame⟩

/-- A new one of ours finds the file, although the interpreter knows the module first. -/
theorem find_origin_shadowed :
    ∃ l first, findFresh initialFinders "time" shadowed = .ok (some l) shadowed ∧
      findFirst initialFinders { name := "time" } initialFinders shadowed =
        .ok (some first) shadowed ∧
      l.origin = some "/time.py" ∧ first.origin = some "built-in" := by
  have hone : (initialFinders.filter Finder.isOurs).length ≤ 1 := by decide
  have hon : isOn Settings.defaults "enable_import_hook" = true := by
    simp [isOn, Settings.defaults, Settings.ofFields, Settings.get?, Settings.find?, Key.same,
      Value.truthy]
  refine ⟨⟨some "/time.py", some ⟨"/time.py", Settings.defaults⟩⟩, _, ?_, findFirst_shadowed, rfl,
    rfl⟩
  rw [findFresh, Act.bind_ok (currentSettings_ok current_shadowed), maxAsks, askOurs_eq hone 998,
    if_pos hon, sourceAmong_shadowed, withLoader_ok current_shadowed]

end QualityGate.Imports
