/-
# What writing changes

A file that is written is found at its path again (`Anchored.read_write`, and `read_write` for an
absolute path).

Making directories adds directories where nothing stood, each under a name of the path that was
asked for (`adds_makeDirs`).  A path without links on its way leads somewhere just when there are
directories all the way down to something (`pathExists_iff_of_straight`), so that a missing file of
this kind can only appear when a directory is added on its way or when it is the file that is
written (`pathExists_write`).

What is found at a path is found there still after directories were made (`Extends.find`) and after
a file was written, unless it is that file (`find_write`).
-/
import Mathlib
import QualityGate.Proofs.DiskWalk

namespace QualityGate.Disk

variable {d d' : Disk} {here loc : Location} {s : String}

/-! ## Reading what was written -/

/-- Where a walk ends there is no link. -/
lemma Found.not_link (h : Found d loc) (target : String) : d.get? loc ≠ some (.link target) := by
  cases h with
  | dir hroot => rw [hroot.dirs loc (List.prefix_refl loc)]; simp
  | leaf _ _ _ _ hlink => exact hlink target

lemma write_eq_ok_iff {bytes : ByteArray} : d.write here s bytes = .ok d' ↔
    ∃ loc, d.locate here s = .ok loc ∧ d.get? loc ≠ some .dir ∧ d' = d.set loc (.file bytes) := by
  rw [write]
  cases d.locate here s with
  | error t => simp
  | ok loc =>
    cases he : d.get? loc with
    | none => simp [he, eq_comm]
    | some e => cases e <;> simp [he, eq_comm]

/-- The directory from which a path is followed is one, and so is everything above it. -/
def Anchored (d : Disk) (here : Location) (s : String) : Prop :=
  Rooted d (if s.startsWith "/" then [] else here)

lemma anchored_of_slash (hs : s.startsWith "/" = true) : Anchored d here s := by
  rw [Anchored, if_pos hs]
  exact Rooted.nil d

lemma Rooted.anchored (h : Rooted d here) (s : String) : Anchored d here s := by
  rw [Anchored]
  split
  · exact Rooted.nil d
  · exact h

/-- What is written is put where there was neither a directory nor a link. -/
lemma Anchored.set_of_write {bytes : ByteArray} (hs : Anchored d here s)
    (h : d.write here s bytes = .ok d') : ∃ loc, d.locate here s = .ok loc ∧ loc ≠ [] ∧
      d.get? loc ≠ some .dir ∧ (∀ target, d.get? loc ≠ some (.link target)) ∧
      d' = d.set loc (.file bytes) := by
  obtain ⟨loc, hloc, hdir, rfl⟩ := write_eq_ok_iff.mp h
  have hleads := (locate_eq_ok_iff.mp hloc).2
  have hlink := (hleads.found hs fun n hn => mem_namesToFollow hn).not_link
  refine ⟨loc, hloc, ?_, hdir, hlink, rfl⟩
  rintro rfl
  exact hdir rfl

lemma set_of_write {bytes : ByteArray} (hs : s.startsWith "/" = true)
    (h : d.write here s bytes = .ok d') : ∃ loc, d.locate here s = .ok loc ∧ loc ≠ [] ∧
      d.get? loc ≠ some .dir ∧ (∀ target, d.get? loc ≠ some (.link target)) ∧
      d' = d.set loc (.file bytes) :=
  (anchored_of_slash hs).set_of_write h

/-- A file that is put where no directory and no link was does not change where a path leads. -/
lemma locate_set {l : Location} (h : d.locate here s = .ok loc) (hdir : d.get? l ≠ some .dir)
    (hlink : ∀ target, d.get? l ≠ some (.link target)) (bytes : ByteArray) :
    (d.set l (.file bytes)).locate here s = .ok loc := by
  obtain ⟨haccept, hleads⟩ := locate_eq_ok_iff.mp h
  exact locate_eq_ok_iff.mpr ⟨haccept, hleads.put hdir hlink bytes⟩

/-- What is written is read there. -/
lemma Anchored.read_write {bytes : ByteArray} (hs : Anchored d here s)
    (h : d.write here s bytes = .ok d') : d'.read here s = .ok bytes := by
  obtain ⟨loc, hloc, hne, hdir, hlink, rfl⟩ := hs.set_of_write h
  have hfind : (d.set loc (.file bytes)).find here s = .ok (loc, .file bytes) :=
    find_eq_ok_iff.mpr ⟨locate_set hloc hdir hlink bytes, get?_set_self _ hne⟩
  rw [read, hfind]

lemma read_write {bytes : ByteArray} (hs : s.startsWith "/" = true)
    (h : d.write here s bytes = .ok d') : d'.read here s = .ok bytes :=
  (anchored_of_slash hs).read_write h

/-- A file that can be read can be written, and then it is read as what was written. -/
lemma exists_write_of_read {old : ByteArray} (h : d.read here s = .ok old) (bytes : ByteArray) :
    ∃ d', d.write here s bytes = .ok d' ∧ d'.read here s = .ok bytes := by
  rw [read] at h
  split at h
  · next loc old' hfind =>
    obtain ⟨hlocate, hget⟩ := find_eq_ok_iff.mp hfind
    have hne : loc ≠ [] := by
      rintro rfl
      simp at hget
    have hfound : (d.set loc (.file bytes)).find here s = .ok (loc, .file bytes) :=
      find_eq_ok_iff.mpr
        ⟨locate_set hlocate (by simp [hget]) (by simp [hget]) bytes, get?_set_self _ hne⟩
    refine ⟨d.set loc (.file bytes), write_eq_ok_iff.mpr ⟨loc, hlocate, by simp [hget], rfl⟩, ?_⟩
    rw [read, hfound]
  · cases h
  · cases h

/-- A new file in the root directory is written by its name. -/
lemma write_in_root {n : String} (hs : Accepted n) (hnames : namesToFollow n = [n])
    (hn : Plain n) (h : d.get? [n] = none) (bytes : ByteArray) :
    d.write [] n bytes = .ok (d.set [n] (.file bytes)) := by
  refine write_eq_ok_iff.mpr ⟨[n], locate_eq_ok_iff.mpr ⟨hs, ?_⟩, by simp [h], rfl⟩
  rw [hnames, ite_self]
  show Leads d maxLinks [] [n] ([] ++ [n])
  exact .last _ hn (by simp [h]) (by simp [h])

/-- What can be read is there. -/
lemma pathExists_of_read {bytes : ByteArray} (h : d.read here s = .ok bytes) :
    d.pathExists here s = true := by
  rw [read] at h
  rw [pathExists]
  cases hf : d.find here s with
  | error t => simp [hf] at h
  | ok p => rfl

lemma fromUTF8?_toUTF8 (text : String) : String.fromUTF8? text.toUTF8 = some text := by
  simp only [String.fromUTF8?, String.toUTF8_eq_toByteArray, dif_pos text.isValidUTF8]
  rfl

lemma decodeUtf8_toUTF8 (text : String) : Text.decodeUtf8 text.toUTF8 = .ok text := by
  rw [Text.decodeUtf8, fromUTF8?_toUTF8]

lemma decodeAny_toUTF8 (text : String) : Text.decodeAny text.toUTF8 = text := by
  rw [Text.decodeAny, fromUTF8?_toUTF8]

lemma unifyLineEnds_of_not_mem :
    ∀ {cs : List Char}, '\r' ∉ cs → Text.unifyLineEnds cs = cs
  | [], _ => rfl
  | c :: cs, h => by
    simp only [List.mem_cons, not_or] at h
    rw [Text.unifyLineEnds, unifyLineEnds_of_not_mem h.2]
    · rintro _ rfl
      exact absurd rfl h.1
    · rintro rfl
      exact absurd rfl h.1

/-- A file that holds a text without carriage returns is read as that text. -/
lemma readText_of_read {text : String} (ht : '\r' ∉ text.toList)
    (h : d.read here s = .ok text.toUTF8) : d.readText here s = .ok text := by
  rw [readText, h]
  simp only [decodeUtf8_toUTF8, unifyLineEnds_of_not_mem ht, String.ofList_toList]

/-! ## Paths without links on their way -/

/-- No link stands at a location or above it. -/
def Straight (d : Disk) (loc : Location) : Prop :=
  ∀ l, l <+: loc → ∀ target, d.get? l ≠ some (.link target)

/-- Names without links on their way lead to the location that they name. -/
lemma Leads.eq_append {links : Nat} {base l : Location} {names : List String}
    (h : Leads d links base names l) (hnames : ∀ n ∈ names, Plain n)
    (hs : Straight d (base ++ names)) : l = base ++ names := by
  induction h with
  | stop => simp
  | dot => exact absurd rfl (hnames "." (by simp)).ne_dot
  | dots => exact absurd rfl (hnames ".." (by simp)).ne_dots
  | @dir _ base _ n rest _ _ _ ih =>
    have hassoc : base ++ n :: rest = base ++ [n] ++ rest := by simp
    rw [hassoc] at hs ⊢
    exact ih (fun m hm => hnames m (List.mem_cons_of_mem n hm)) hs
  | last => rfl
  | @link _ base _ n target rest _ hlink _ _ =>
    have hpre : base ++ [n] <+: base ++ n :: rest := ⟨rest, by simp⟩
    exact absurd hlink (hs _ hpre target)

lemma Writable.plain (hw : Writable loc) : ∀ n ∈ loc, Plain n := fun n hn => (hw n hn).1

lemma locate_text (hw : Writable loc) (hne : loc ≠ []) {l : Location} :
    d.locate here (Location.path loc).text = .ok l ↔
      Accepted (Location.path loc).text ∧ Leads d maxLinks [] loc l := by
  rw [locate_eq_ok_iff, if_pos (startsWith_text loc), namesToFollow_text hw, if_neg hne]

/-- Below directories, and where there is no link, a location is found by its text. -/
lemma find_of_straight (hw : Writable loc) (hne : loc ≠ []) (hs : Straight d loc)
    (haccept : Accepted (Location.path loc).text) (hroot : Rooted d loc.dropLast) {e : Entry}
    (he : d.get? loc = some e) : d.find here (Location.path loc).text = .ok (loc, e) := by
  obtain ⟨base, n, rfl⟩ : ∃ base n, loc = base ++ [n] :=
    ⟨loc.dropLast, loc.getLast hne, (List.dropLast_append_getLast hne).symm⟩
  rw [List.dropLast_concat] at hroot
  have hn := hw n (by simp)
  have hfound : Found d (base ++ [n]) := by
    by_cases hdir : d.get? (base ++ [n]) = some .dir
    · exact .dir (hroot.concat hn.1 hn.2 hdir)
    · exact .leaf hroot hn.1 hn.2 hdir (hs _ (List.prefix_refl _))
  exact find_eq_ok_iff.mpr ⟨(locate_text hw hne).mpr ⟨haccept, hfound.leads⟩, he⟩

/-- Where there is no link on the way, something is there just when there are directories above
it. -/
lemma pathExists_iff_of_straight (hw : Writable loc) (hne : loc ≠ []) (hs : Straight d loc) :
    d.pathExists here (Location.path loc).text = true ↔
      Accepted (Location.path loc).text ∧ Rooted d loc.dropLast ∧ d.get? loc ≠ none := by
  rw [pathExists]
  constructor
  · intro h
    cases hf : d.find here (Location.path loc).text with
    | error t => simp [hf] at h
    | ok p =>
      obtain ⟨l, e⟩ := p
      obtain ⟨hl, he⟩ := find_eq_ok_iff.mp hf
      obtain ⟨haccept, hleads⟩ := (locate_text hw hne).mp hl
      have hfound := hleads.found (Rooted.nil d) fun n hn => (hw n hn).2
      obtain rfl : l = loc := hleads.eq_append hw.plain hs
      refine ⟨haccept, ?_, by simp [he]⟩
      cases hfound with
      | dir hroot => exact hroot.dropLast
      | leaf hroot _ _ _ _ => simpa using hroot
  · rintro ⟨haccept, hroot, hget⟩
    obtain ⟨e, he⟩ := Option.ne_none_iff_exists'.mp hget
    rw [find_of_straight hw hne hs haccept hroot he]

lemma Straight.congr (hs : Straight d loc) (hget : ∀ l, l <+: loc → d'.get? l = d.get? l) :
    Straight d' loc := by
  intro l hl target
  rw [hget l hl]
  exact hs l hl target

/-- Whether something is there depends only on the entries on the way, if none is a link. -/
lemma pathExists_congr (hw : Writable loc) (hne : loc ≠ []) (hs : Straight d loc)
    (hget : ∀ l, l <+: loc → d'.get? l = d.get? l) :
    d'.pathExists here (Location.path loc).text = d.pathExists here (Location.path loc).text := by
  have hroot : Rooted d' loc.dropLast ↔ Rooted d loc.dropLast := by
    have hdirs : ∀ l, l <+: loc.dropLast → d'.get? l = d.get? l :=
      fun l hl => hget l (hl.trans (List.dropLast_prefix loc))
    exact ⟨fun h => ⟨h.names, fun l hl => by rw [← hdirs l hl, h.dirs l hl]⟩,
      fun h => ⟨h.names, fun l hl => by rw [hdirs l hl, h.dirs l hl]⟩⟩
  rw [Bool.eq_iff_iff, pathExists_iff_of_straight hw hne hs,
    pathExists_iff_of_straight hw hne (hs.congr hget), hroot, hget loc (List.prefix_refl loc)]

/-- A file that is written elsewhere does not make a missing one appear: if that appears, it is the
one that was written. -/
lemma pathExists_write {bytes : ByteArray} (hw : Writable loc) (hne : loc ≠ [])
    (hs : Straight d loc) (hmissing : d.pathExists here (Location.path loc).text = false)
    (h : d.write here s bytes = .ok d') (hthere : d'.pathExists here (Location.path loc).text = true) :
    d'.read here (Location.path loc).text = .ok bytes := by
  obtain ⟨l, -, hdir, rfl⟩ := write_eq_ok_iff.mp h
  have hl : l ≠ [] := by
    rintro rfl
    exact hdir rfl
  have hs' : Straight (d.set l (.file bytes)) loc := by
    intro m hm target
    by_cases hml : m = l
    · rw [hml, get?_set_self _ hl]
      simp
    · rw [get?_set_of_ne _ hml]
      exact hs m hm target
  obtain ⟨haccept, hroot, hget⟩ := (pathExists_iff_of_straight hw hne hs').mp hthere
  by_cases hloc : loc = l
  · have he : (d.set l (.file bytes)).get? loc = some (.file bytes) := by
      rw [hloc, get?_set_self _ hl]
    rw [read, find_of_straight hw hne hs' haccept hroot he]
  · -- otherwise the directories above it were there before, and so was the file
    have hroot' : Rooted d loc.dropLast := by
      refine ⟨hroot.names, fun m hm => ?_⟩
      have hm' := hroot.dirs m hm
      by_cases hml : m = l
      · rw [hml, get?_set_self _ hl] at hm'
        simp at hm'
      · rwa [get?_set_of_ne _ hml] at hm'
    rw [get?_set_of_ne _ hloc] at hget
    have hbefore : d.pathExists here (Location.path loc).text = true :=
      (pathExists_iff_of_straight hw hne hs).mpr ⟨haccept, hroot', hget⟩
    simp [hmissing] at hbefore

/-! ## Making directories -/

/-- A location that is a directory, and everything above it too, is where its names lead. -/
lemma walk_append {final : Bool} {links : Nat} {base : Location} {more rest : List String}
    (h : Rooted d (base ++ more)) :
    walk d final links base (more ++ rest) = walk d final links (base ++ more) rest := by
  induction more generalizing base with
  | nil => simp
  | cons n more ih =>
    have hassoc : base ++ n :: more = base ++ [n] ++ more := by simp
    rw [hassoc] at h ⊢
    have hn := (h.names n (by simp)).1
    rw [List.cons_append, walk, if_neg hn.ne_dot, if_neg hn.ne_dots,
      if_neg (Nat.not_lt.mpr hn.short)]
    simp only [h.dirs _ (List.prefix_append (base ++ [n]) more)]
    exact ih h

/-- A walk that does not follow a final link ends at the last name. -/
lemma getLast?_of_walk {links : Nat} {base l : Location} {names : List String} {n : String}
    (h : walk d false links base names = .ok l) (hlast : names.getLast? = some n) (hn : Plain n) :
    l.getLast? = some n := by
  fun_induction walk d false links base names with
  | case1 => simp at hlast
  | case2 links base rest ih =>
    cases rest with
    | nil => exact absurd (by simpa using hlast.symm) hn.ne_dot
    | cons m rest => exact ih h (by simpa using hlast)
  | case3 links base rest _ ih =>
    cases rest with
    | nil => exact absurd (by simpa using hlast.symm) hn.ne_dots
    | cons m rest => exact ih h (by simpa using hlast)
  | case4 => cases h
  | case5 links base m rest _ _ _ loc _ hrest =>
    obtain rfl := List.isEmpty_iff.mp hrest
    rw [← Except.ok.inj h]
    simpa [loc] using hlast
  | case6 => cases h
  | case7 links base m rest _ _ _ loc _ ih =>
    cases rest with
    | nil =>
      rw [walk] at h
      rw [← Except.ok.inj h]
      simpa [loc] using hlast
    | cons k rest => exact ih h (by simpa using hlast)
  | case8 links base m rest _ _ _ loc bytes _ hrest =>
    obtain rfl := List.isEmpty_iff.mp hrest
    rw [← Except.ok.inj h]
    simpa [loc] using hlast
  | case9 => cases h
  | case10 links base m rest _ _ _ loc target _ hrest =>
    simp only [Bool.not_false, Bool.and_true, List.isEmpty_iff] at hrest
    subst hrest
    rw [← Except.ok.inj h]
    simpa [loc] using hlast
  | case11 => cases h
  | case12 base m rest _ _ _ loc target _ hrest links p ih =>
    cases rest with
    | nil => simp at hrest
    | cons k rest => exact ih h (by simpa using hlast)

lemma prefix_append_cases {base l : Location} {more : List String} (h : l <+: base ++ more) :
    l <+: base ∨ ∃ m, m ≠ [] ∧ m <+: more ∧ l = base ++ m := by
  rcases List.prefix_or_prefix_of_prefix h (List.prefix_append base more) with hl | ⟨m, rfl⟩
  · exact .inl hl
  · by_cases hm : m = []
    · exact .inl (by simp [hm])
    · exact .inr ⟨m, hm, (List.prefix_append_right_inj base).mp h, rfl⟩

/-- Directories were added where nothing stood, each under the last name of a part of a path that
did not lead to a directory before. -/
def Adds (d d' : Disk) (loc : Location) : Prop :=
  ∀ l, d'.get? l = d.get? l ∨ d.get? l = none ∧ d'.get? l = some .dir ∧
    ∃ q, q <+: loc ∧ ¬ Rooted d q ∧ l.getLast? = q.getLast?

namespace Adds

lemma refl (d : Disk) (loc : Location) : Adds d d loc := fun _ => .inl rfl

lemma kept (h : Adds d d' loc) {l : Location} (hl : d.get? l ≠ none) : d'.get? l = d.get? l := by
  rcases h l with h | ⟨hnone, -⟩
  · exact h
  · exact absurd hnone hl

lemma rooted (h : Adds d d' loc) {l : Location} (hl : Rooted d l) : Rooted d' l where
  names := hl.names
  dirs p hp := by rw [h.kept (by simp [hl.dirs p hp]), hl.dirs p hp]

lemma trans {d₁ d₂ d₃ : Disk} {l : Location} (h : Adds d₁ d₂ l) (h' : Adds d₂ d₃ loc)
    (hl : l <+: loc) : Adds d₁ d₃ loc := by
  intro m
  rcases h m with h₁ | ⟨hnone, hdir, q, hq, hroot, hlast⟩
  · rcases h' m with h₂ | ⟨hnone, hdir, q, hq, hroot, hlast⟩
    · exact .inl (h₂.trans h₁)
    · exact .inr ⟨h₁ ▸ hnone, hdir, q, hq, fun hq' => hroot (h.rooted hq'), hlast⟩
  · refine .inr ⟨hnone, ?_, q, hq.trans hl, hroot, hlast⟩
    rw [h'.kept (by simp [hdir]), hdir]

/-- Below a directory, nothing is added under other names than those asked for. -/
lemma kept_of_disjoint {base home : Location} {more names : List String}
    (h : Adds d d' (home ++ more)) (hbase : Rooted d base) (hhome : Rooted d home)
    (hdisj : ∀ n ∈ names, n ∉ more) {l : Location} (hl : l <+: base ++ names) :
    d'.get? l = d.get? l := by
  rcases h l with h | ⟨hnone, -, q, hq, hroot, hlast⟩
  · exact h
  exfalso
  rcases prefix_append_cases hl with hl | ⟨m, hm, hmn, rfl⟩
  · simp [hbase.dirs l hl] at hnone
  rcases prefix_append_cases hq with hq | ⟨k, hk, hkm, rfl⟩
  · exact hroot ⟨fun n hn => hhome.names n (hq.subset hn), fun r hr => hhome.dirs r (hr.trans hq)⟩
  rw [List.getLast?_append_of_ne_nil _ hm, List.getLast?_append_of_ne_nil _ hk,
    List.getLast?_eq_some_getLast hk] at hlast
  exact hdisj _ (hmn.subset (List.mem_of_getLast? hlast)) (hkm.subset (List.getLast_mem hk))

end Adds

lemma withoutEndSlash_text (hw : Writable loc) :
    withoutEndSlash (Location.path loc).text = (Location.path loc).text := by
  by_cases hloc : loc = []
  · subst hloc
    decide
  · -- with a slash at its end, the text would ask for a directory
    have hend : (Location.path loc).text.toList.getLast? ≠ some '/' := by
      intro hslash
      have hfollow := namesToFollow_text hw
      rw [namesToFollow, names_ofText_text hw, if_pos hslash, if_neg hloc] at hfollow
      simp at hfollow
    have hkeep : (Location.path loc).text.toList.reverse.dropWhile (· = '/') =
        (Location.path loc).text.toList.reverse := by
      cases hcs : (Location.path loc).text.toList.reverse with
      | nil => rfl
      | cons c cs =>
        rw [← List.head?_reverse, hcs] at hend
        rw [List.dropWhile_cons_of_neg (by simpa using hend)]
    rw [withoutEndSlash, hkeep, List.reverse_reverse, String.ofList_toList]
    split <;> rfl

/-- A directory is made where nothing was. -/
lemma makeDir_eq_ok_iff : d.makeDir here s = .ok d' ↔
    ∃ loc, d.locate here (withoutEndSlash s) false = .ok loc ∧ d.get? loc = none ∧
      d' = d.set loc .dir := by
  rw [makeDir]
  cases d.locate here (withoutEndSlash s) false with
  | error t => simp
  | ok l => cases he : d.get? l <;> simp [he, eq_comm]

lemma adds_makeDir (hw : Writable loc) (h : d.makeDir here (Location.path loc).text = .ok d') :
    Adds d d' loc := by
  obtain ⟨l, hl, he, rfl⟩ := makeDir_eq_ok_iff.mp h
  have hne : l ≠ [] := by
    rintro rfl
    simp at he
  rw [withoutEndSlash_text hw] at hl
  obtain ⟨-, hwalk⟩ := locate_iff_walk.mp hl
  rw [if_pos (startsWith_text loc), namesToFollow_text hw] at hwalk
  intro m
  by_cases hm : m = l
  · subst hm
    refine .inr ⟨he, get?_set_self _ hne, loc, List.prefix_refl loc, ?_, ?_⟩
    · intro hroot
      have hloc : loc ≠ [] := by
        rintro rfl
        rw [if_pos rfl, walk, if_pos rfl, walk] at hwalk
        exact hne (Except.ok.inj hwalk).symm
      rw [if_neg hloc, ← List.append_nil loc, walk_append (by simpa using hroot), walk,
        List.nil_append] at hwalk
      cases hwalk
      simp [hroot.dirs _ (List.prefix_refl _)] at he
    · by_cases hloc : loc = []
      · rw [hloc, if_pos rfl, walk, if_pos rfl, walk] at hwalk
        exact absurd (Except.ok.inj hwalk).symm hne
      · rw [if_neg hloc] at hwalk
        have hlast := List.getLast?_eq_some_getLast hloc
        rw [hlast]
        exact getLast?_of_walk hwalk hlast (hw.plain _ (List.getLast_mem hloc))
  · exact .inl (get?_set_of_ne _ hm)

lemma adds_ensureDir (hw : Writable loc) :
    Adds d (d.ensureDir here (Location.path loc).text).1 loc := by
  rw [ensureDir]
  cases h : d.makeDir here (Location.path loc).text with
  | ok d' => exact adds_makeDir hw h
  | error e => exact Adds.refl d loc

lemma Writable.dropLast (hw : Writable loc) : Writable loc.dropLast :=
  fun n hn => hw n (List.mem_of_mem_dropLast hn)

lemma makeDirsFrom_zero (p : Path) : makeDirsFrom 0 d here p = d.ensureDir here p.text := rfl

lemma makeDirsFrom_succ (fuel : Nat) (p : Path) : makeDirsFrom (fuel + 1) d here p =
    match d.ensureDir here p.text with
    | (d, none) => (d, none)
    | (d, some e) =>
      if e.trouble = .missing && !p.names.isEmpty then
        match makeDirsFrom fuel d here p.parent with
        | (d, some e) => (d, some e)
        | (d, none) => d.ensureDir here p.text
      else (d, some e) := by
  rfl

lemma parent_path (loc : Location) : (Location.path loc).parent = Location.path loc.dropLast := rfl

lemma adds_makeDirsFrom (fuel : Nat) (hw : Writable loc) :
    Adds d (makeDirsFrom fuel d here (Location.path loc)).1 loc := by
  induction fuel generalizing d loc with
  | zero =>
    rw [makeDirsFrom_zero]
    exact adds_ensureDir hw
  | succ fuel ih =>
    have hfirst : Adds d (d.ensureDir here (Location.path loc).text).1 loc := adds_ensureDir hw
    rw [makeDirsFrom_succ, parent_path]
    cases hd : d.ensureDir here (Location.path loc).text with
    | mk d₁ refused =>
      rw [hd] at hfirst
      cases refused with
      | none => exact hfirst
      | some e =>
        simp only
        split
        · -- the parents first, then the directory itself
          have hparents := ih (d := d₁) hw.dropLast
          have hboth := hfirst.trans (hparents.trans (Adds.refl _ loc) (List.dropLast_prefix loc))
            (List.prefix_refl loc)
          cases hp : makeDirsFrom fuel d₁ here (Location.path loc.dropLast) with
          | mk d₂ refused =>
            rw [hp] at hboth
            cases refused with
            | some e' => exact hboth
            | none => exact hboth.trans (adds_ensureDir hw) (List.prefix_refl loc)
        · exact hfirst

/-- Making directories adds nothing else. -/
lemma adds_makeDirs (hw : Writable loc) : Adds d (d.makeDirs here (Location.path loc)).1 loc :=
  adds_makeDirsFrom _ hw

/-- Nothing is made where directories are there already. -/
lemma makeDirs_of_rooted (h : Rooted d loc) (haccept : Accepted (Location.path loc).text) :
    d.makeDirs here (Location.path loc) = (d, none) := by
  have hwalk : ∀ final, d.locate here (Location.path loc).text final = .ok loc := by
    intro final
    refine locate_iff_walk.mpr ⟨haccept, ?_⟩
    rw [if_pos (startsWith_text loc), namesToFollow_text h.names]
    split
    · next hloc => rw [walk, if_pos rfl, walk, hloc]
    · have hroot : Rooted d ([] ++ loc) := h
      rw [← List.append_nil loc, walk_append (by simpa using hroot), walk]
      simp
  have hdir := h.dirs loc (List.prefix_refl loc)
  have hmake : d.makeDir here (Location.path loc).text =
      .error ⟨.alreadyThere, (Location.path loc).text⟩ := by
    rw [makeDir, withoutEndSlash_text h.names, hwalk false]
    simp only [hdir]
  have hisDir : d.isDir here (Location.path loc).text = true := by
    rw [isDir, find_eq_ok_iff.mpr ⟨hwalk true, hdir⟩]
  have hensure : d.ensureDir here (Location.path loc).text = (d, none) := by
    rw [ensureDir, hmake]
    simp [hisDir]
  rw [makeDirs, makeDirsFrom_succ, hensure]

/-! ## Names in the current directory -/

section

variable {n : String}

lemma names_ofText_name (hn : Writable [n]) : (Path.ofText n).names = [n] := by
  obtain ⟨hplain, hne, hslash⟩ := hn n (by simp)
  have hparts : Path.parts n = [n] := by
    rw [Path.parts, List.splitOn_eq_singleton hslash]
    simp
  simp [Path.ofText, hparts, hne, hplain.ne_dot]

lemma namesToFollow_name (hn : Writable [n]) : namesToFollow n = [n] := by
  have hend : n.toList.getLast? ≠ some '/' :=
    fun h => (hn n (by simp)).2.2 (List.mem_of_getLast? h)
  rw [namesToFollow, if_neg hend, names_ofText_name hn]

lemma startsWith_name (hn : Writable [n]) : n.startsWith "/" = false := by
  rw [← Bool.not_eq_true, String.startsWith_string_iff]
  exact fun h => (hn n (by simp)).2.2 (h.subset (by simp))

lemma withoutEndSlash_name (hn : Writable [n]) : withoutEndSlash n = n := by
  have hkeep : n.toList.reverse.dropWhile (· = '/') = n.toList.reverse := by
    cases hcs : n.toList.reverse with
    | nil => rfl
    | cons c cs =>
      have hc : c ∈ n.toList := List.mem_reverse.mp (by simp [hcs])
      rw [List.dropWhile_cons_of_neg]
      simpa using fun h : c = '/' => (hn n (by simp)).2.2 (h ▸ hc)
  rw [withoutEndSlash, hkeep, List.reverse_reverse, String.ofList_toList]
  split <;> rfl

/-- A name is located in the current directory, whatever stands there. -/
lemma locate_name (hs : Accepted n) (hn : Writable [n]) :
    d.locate here n false = .ok (here ++ [n]) := by
  obtain ⟨hplain, -⟩ := hn n (by simp)
  refine locate_iff_walk.mpr ⟨hs, ?_⟩
  rw [startsWith_name hn, if_neg (by simp), namesToFollow_name hn, walk, if_neg hplain.ne_dot,
    if_neg hplain.ne_dots, if_neg (Nat.not_lt.mpr hplain.short)]
  cases hget : d.get? (here ++ [n]) with
  | none => simp [hget]
  | some e => cases e <;> simp [hget, walk]

/-- If one name leads to something, then something stands under it: that, or a link. -/
lemma Leads.single {links : Nat} {base : Location} (h : Leads d links base [n] loc)
    (hn : n ≠ "." ∧ n ≠ "..") (hloc : d.get? loc ≠ none) : d.get? (base ++ [n]) ≠ none := by
  cases h with
  | dot => exact absurd rfl hn.1
  | dots => exact absurd rfl hn.2
  | dir _ hdir _ => simp [hdir]
  | last => exact hloc
  | link _ hlink _ => simp [hlink]

/-- Something stands under the name of a directory: that, or a link. -/
lemma get?_of_isDir_name (hn : Writable [n]) (h : d.isDir here n = true) :
    d.get? (here ++ [n]) ≠ none := by
  obtain ⟨top, hfind⟩ := isDir_iff.mp h
  obtain ⟨hlocate, hdir⟩ := find_eq_ok_iff.mp hfind
  have hleads := (locate_eq_ok_iff.mp hlocate).2
  rw [startsWith_name hn, if_neg (by simp), namesToFollow_name hn] at hleads
  obtain ⟨hplain, -⟩ := hn n (by simp)
  exact hleads.single ⟨hplain.ne_dot, hplain.ne_dots⟩ (by simp [hdir])

/-- The names in the text of a name below another one. -/
lemma namesToFollow_below {dir : String} (hdir : Writable [dir])
    (hn : n ≠ "" ∧ n ≠ "." ∧ '/' ∉ n.toList) :
    namesToFollow (dir ++ "/" ++ n) = [dir, n] := by
  obtain ⟨hplain, hne, hslash⟩ := hdir dir (by simp)
  obtain ⟨hn0, hn1, hn2⟩ := hn
  have htext : (dir ++ "/" ++ n).toList = ['/'].intercalate [dir.toList, n.toList] := by
    simp [List.intercalate]
  have hparts : Path.parts (dir ++ "/" ++ n) = [dir, n] := by
    rw [Path.parts, htext, List.splitOn_intercalate '/' (by simp [hslash, hn2]) (by simp)]
    simp
  have hlast : (dir ++ "/" ++ n).toList.getLast? ≠ some '/' := by
    have hn' : n.toList ≠ [] := by simpa using hn0
    rw [String.toList_append, List.getLast?_append_of_ne_nil _ hn']
    exact fun h => hn2 (List.mem_of_getLast? h)
  rw [namesToFollow, if_neg hlast, Path.ofText, hparts]
  simp [hne, hplain.ne_dot, hn0, hn1]

/-- A directory under a name is made if nothing stands there. -/
lemma makeDir_name (hs : Accepted n) (hn : Writable [n]) : d.makeDir here n =
    if d.get? (here ++ [n]) = none then .ok (d.set (here ++ [n]) .dir)
    else .error ⟨.alreadyThere, n⟩ := by
  simp only [makeDir, withoutEndSlash_name hn, locate_name hs hn]
  cases d.get? (here ++ [n]) <;> simp

/-- A directory in the current one is found by its name. -/
lemma find_name_of_dir (hs : Accepted n) (hn : Writable [n]) (h : d.get? (here ++ [n]) = some .dir) :
    d.find here n = .ok (here ++ [n], .dir) := by
  refine find_eq_ok_iff.mpr ⟨locate_eq_ok_iff.mpr ⟨hs, ?_⟩, h⟩
  rw [startsWith_name hn, if_neg (by simp), namesToFollow_name hn]
  exact .dir (hn n (by simp)).1 h (.stop _ _)

end

/-! ## What was there before -/

/-- What is there on one disk is there on another. -/
def Extends (d d' : Disk) : Prop := ∀ loc e, d.get? loc = some e → d'.get? loc = some e

namespace Extends

lemma refl (d : Disk) : Extends d d := fun _ _ h => h

lemma trans {d₁ d₂ d₃ : Disk} (h : Extends d₁ d₂) (h' : Extends d₂ d₃) : Extends d₁ d₃ :=
  fun loc e he => h' loc e (h loc e he)

/-- Names that lead to something lead to it still. -/
lemma leads (h : Extends d d') {links : Nat} {base : Location} {names : List String} {e : Entry}
    (hl : Leads d links base names loc) (he : d.get? loc = some e) : Leads d' links base names loc := by
  induction hl with
  | stop => exact .stop _ _
  | dot _ ih => exact .dot (ih he)
  | dots _ ih => exact .dots (ih he)
  | dir hn hdir _ ih => exact .dir hn (h _ _ hdir) (ih he)
  | last links hn hdir hlink =>
    have hkept := h _ _ he
    refine .last links hn ?_ fun target => ?_
    · rwa [hkept, ← he]
    · rw [hkept, ← he]
      exact hlink target
  | link hn hlink _ ih => exact .link hn (h _ _ hlink) (ih he)

lemma find (h : Extends d d') {e : Entry} (hfind : d.find here s = .ok (loc, e)) :
    d'.find here s = .ok (loc, e) := by
  obtain ⟨hlocate, he⟩ := find_eq_ok_iff.mp hfind
  obtain ⟨haccept, hleads⟩ := locate_eq_ok_iff.mp hlocate
  exact find_eq_ok_iff.mpr ⟨locate_eq_ok_iff.mpr ⟨haccept, h.leads hleads he⟩, h _ _ he⟩

end Extends

lemma Extends.rooted (h : Extends d d') (hl : Rooted d loc) : Rooted d' loc :=
  ⟨hl.names, fun l hpre => h l _ (hl.dirs l hpre)⟩

lemma extends_makeDir (h : d.makeDir here s = .ok d') : Extends d d' := by
  obtain ⟨l, -, hnone, rfl⟩ := makeDir_eq_ok_iff.mp h
  intro loc e hloc
  rw [get?_set_of_ne, hloc]
  rintro rfl
  simp [hnone] at hloc

lemma extends_ensureDir : Extends d (d.ensureDir here s).1 := by
  rw [ensureDir]
  cases h : d.makeDir here s with
  | error e => exact .refl d
  | ok d' => exact extends_makeDir h

lemma extends_makeDirsFrom (fuel : Nat) (p : Path) : Extends d (makeDirsFrom fuel d here p).1 := by
  induction fuel generalizing d p with
  | zero => exact extends_ensureDir
  | succ fuel ih =>
    have hfirst : Extends d (d.ensureDir here p.text).1 := extends_ensureDir
    rw [makeDirsFrom_succ]
    generalize d.ensureDir here p.text = made at hfirst
    obtain ⟨d₁, _ | e⟩ := made
    · exact hfirst
    · dsimp only
      split
      · have hparents := hfirst.trans (ih (d := d₁) p.parent)
        generalize makeDirsFrom fuel d₁ here p.parent = made at hparents
        obtain ⟨d₂, _ | e'⟩ := made
        · exact hparents.trans extends_ensureDir
        · exact hparents
      · exact hfirst

/-- Making directories takes nothing away. -/
lemma extends_makeDirs (p : Path) : Extends d (d.makeDirs here p).1 := extends_makeDirsFrom _ p

lemma extends_makeNamedHere : Extends d (d.makeNamedHere here s).1 := by
  rw [makeNamedHere]
  cases h : d.makeDir here s with
  | error e => exact .refl d
  | ok d' => exact extends_makeDir h

lemma extends_makeNamedFrom (fuel : Nat) (s : String) :
    Extends d (makeNamedFrom fuel d here s).1 := by
  induction fuel generalizing d s with
  | zero => exact .refl d
  | succ fuel ih =>
    rw [makeNamedFrom]
    obtain ⟨head, last⟩ := splitNamed s
    dsimp only
    split
    · exact extends_makeNamedHere
    · -- those above it first, then the directory itself
      have habove := ih (d := d) head
      generalize makeNamedFrom fuel d here head = made at habove
      obtain ⟨d₁, _ | e⟩ := made
      · exact habove.trans extends_makeNamedHere
      · dsimp only
        split
        · exact habove.trans extends_makeNamedHere
        · exact habove

/-- Neither does it when each path is taken as it is written. -/
lemma extends_makeNamed : Extends d (d.makeNamed here s).1 := extends_makeNamedFrom _ s

/-- A directory that is there is not refused. -/
lemma makeNamed_of_isDir (h : d.isDir here s = true)
    (hhead : d.pathExists here (splitNamed s).1 = true) : (d.makeNamed here s).2 = none := by
  have hself : d.makeNamed here s = d.makeNamedHere here s := by
    rw [makeNamed, makeNamedFrom]
    simp [hhead]
  rw [hself, makeNamedHere]
  cases d.makeDir here s <;> simp [h]

/-- A directory in the current one is made if nothing is there, and it does not matter if it is there. -/
lemma makeNamed_name {n : String} (hs : Accepted n) (hn : Writable [n])
    (hsplit : splitNamed n = ("", n)) : d.makeNamed here n =
      if d.get? (here ++ [n]) = none then (d.set (here ++ [n]) .dir, none)
      else (d, if d.isDir here n then none else some ⟨.alreadyThere, n⟩) := by
  have hname : d.makeNamed here n = d.makeNamedHere here n := by
    rw [makeNamed, makeNamedFrom, hsplit]
    rfl
  rw [hname, makeNamedHere, makeDir_name hs hn]
  by_cases hnone : d.get? (here ++ [n]) = none
  · rw [if_pos hnone, if_pos hnone]
  · rw [if_neg hnone, if_neg hnone]

/-- Two paths lead to the same location. -/
def SamePlace (d : Disk) (here : Location) (s t : String) : Prop :=
  ∃ loc, d.locate here s = .ok loc ∧ d.locate here t = .ok loc

lemma SamePlace.read {bytes : ByteArray} {t : String} (h : SamePlace d here s t)
    (hread : d.read here t = .ok bytes) : d.read here s = .ok bytes := by
  obtain ⟨loc, hs, ht⟩ := h
  rw [Disk.read] at hread
  split at hread
  · next loc' bytes' hfind =>
    obtain ⟨ht', hget⟩ := find_eq_ok_iff.mp hfind
    obtain rfl : loc = loc' := Except.ok.inj (ht.symm.trans ht')
    rw [Disk.read, find_eq_ok_iff.mpr ⟨hs, hget⟩]
    exact hread
  · cases hread
  · cases hread

/-- Writing a file leaves alone what is found at another place. -/
lemma find_write {bytes : ByteArray} {t : String} {e : Entry} (ht : t.startsWith "/" = true)
    (hwrite : d.write here t bytes = .ok d') (hfind : d.find here s = .ok (loc, e))
    (hother : ¬ SamePlace d' here s t) : d'.find here s = .ok (loc, e) := by
  obtain ⟨l, hl, -, hdir, hlink, rfl⟩ := set_of_write ht hwrite
  obtain ⟨hlocate, hget⟩ := find_eq_ok_iff.mp hfind
  have hs := locate_set hlocate hdir hlink bytes
  have hne : loc ≠ l := by
    rintro rfl
    exact hother ⟨loc, hs, locate_set hl hdir hlink bytes⟩
  exact find_eq_ok_iff.mpr ⟨hs, by rw [get?_set_of_ne _ hne, hget]⟩

end QualityGate.Disk
