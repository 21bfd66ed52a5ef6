/-
# Files written one after the other

A program that writes files only where no directory is changes neither directories nor links, so
every path leads to the same location before and after (`Writes.locate_iff`), and what stands at a
location is what stood there unless one of the paths that were written leads to it (`Writes.get?_eq`).
A look at a path that leads elsewhere finds the same (`Writes.lookAt_eq`).

Names on a disk without links under them keep paths apart: a path leads to a location with the same
last name (`getLast?_of_locate`).
-/
import Mathlib
import QualityGate.Proofs.DiskWrite

namespace QualityGate.Disk

variable {d d' d₁ d₂ : Disk} {here loc l : Location} {s t : String} {P Q : String → Prop}

/-- To put what stands at a location there again changes nothing. -/
lemma set_of_get? {e : Entry} (hloc : loc ≠ []) (h : d.get? loc = some e) : d.set loc e = d := by
  have hput : ∀ es : List (Location × Entry), es.lookup loc = some e → put loc e es = es := by
    intro es hes
    induction es with
    | nil => cases hes
    | cons p es ih =>
      obtain ⟨l, f⟩ := p
      rw [put]
      by_cases hl : l = loc
      · subst hl
        rw [List.lookup_cons_self] at hes
        rw [if_pos rfl, Option.some.inj hes]
      · rw [if_neg hl, ih]
        rwa [List.lookup_cons, beq_eq_false_iff_ne.mpr (Ne.symm hl)] at hes
  rw [get?_of_ne_nil hloc] at h
  rw [set, hput d.entries h]

/-! ## Where paths lead -/

/-- An answer to where a path leads, and a later one: they may differ in why it leads nowhere. -/
def Agrees (r r' : Except Trouble Location) : Prop :=
  r' = r ∨ r = .error .missing ∧ r' = .error .notDirectory

lemma Agrees.trans {r r' r'' : Except Trouble Location} (h : Agrees r r') (h' : Agrees r' r'') :
    Agrees r r'' := by
  rcases h with rfl | ⟨rfl, rfl⟩
  · exact h'
  · rcases h' with rfl | ⟨h', -⟩
    · exact .inr ⟨rfl, rfl⟩
    · cases h'

/-- A new file is no directory to walk through, and nothing else changes for a walk. -/
lemma agrees_walk_set (hdir : d.get? l ≠ some .dir) (hlink : ∀ target, d.get? l ≠ some (.link target))
    (bytes : ByteArray) (links : Nat) (base : Location) (names : List String) :
    Agrees (walk d true links base names) (walk (d.set l (.file bytes)) true links base names) := by
  have hroot : l ≠ [] := by
    rintro rfl
    exact hdir rfl
  have hkept : ∀ {m e}, d.get? m = some e → e = .dir ∨ (∃ target, e = .link target) →
      (d.set l (.file bytes)).get? m = some e := by
    rintro m e hm he
    rw [get?_set_of_ne, hm]
    rintro rfl
    rcases he with rfl | ⟨target, rfl⟩
    · exact hdir hm
    · exact hlink target hm
  have hfile : ∀ m, (d.set l (.file bytes)).get? m = d.get? m ∨
      (d.set l (.file bytes)).get? m = some (.file bytes) := by
    intro m
    by_cases hml : m = l
    · subst hml
      exact .inr (get?_set_self _ hroot)
    · exact .inl (get?_set_of_ne _ hml)
  -- the answers differ only in `case6`, where the file stands in place of a missing directory
  fun_induction walk d true links base names with
  | case1 => exact .inl (by rw [walk])
  | case2 links base rest ih => rwa [walk, if_pos rfl]
  | case3 links base rest hdot ih => rwa [walk, if_neg hdot, if_pos rfl]
  | case4 links base name rest h1 h2 h3 => exact .inl (by rw [walk, if_neg h1, if_neg h2, if_pos h3])
  | case5 links base name rest h1 h2 h3 m hm hrest =>
    have hn : Plain name := ⟨h1, h2, by omega⟩
    rcases hfile m with h | h
    · exact .inl (by rw [walk_missing hn (h.trans hm), if_pos hrest])
    · exact .inl (by rw [walk_file hn h, if_pos hrest])
  | case6 links base name rest h1 h2 h3 m hm hrest =>
    have hn : Plain name := ⟨h1, h2, by omega⟩
    rcases hfile m with h | h
    · exact .inl (by rw [walk_missing hn (h.trans hm), if_neg hrest])
    · exact .inr ⟨rfl, by rw [walk_file hn h, if_neg hrest]⟩
  | case7 links base name rest h1 h2 h3 m hm ih =>
    rwa [walk_dir ⟨h1, h2, by omega⟩ (hkept hm (.inl rfl))]
  | case8 links base name rest h1 h2 h3 m old hm hrest =>
    have hn : Plain name := ⟨h1, h2, by omega⟩
    rcases hfile m with h | h
    · exact .inl (by rw [walk_file hn (h.trans hm), if_pos hrest])
    · exact .inl (by rw [walk_file hn h, if_pos hrest])
  | case9 links base name rest h1 h2 h3 m old hm hrest =>
    have hn : Plain name := ⟨h1, h2, by omega⟩
    rcases hfile m with h | h
    · exact .inl (by rw [walk_file hn (h.trans hm), if_neg hrest])
    · exact .inl (by rw [walk_file hn h, if_neg hrest])
  | case10 links base name rest h1 h2 h3 m target hm hfinal => simp at hfinal
  | case11 base name rest h1 h2 h3 m target hm _ =>
    exact .inl (walk_link_zero ⟨h1, h2, by omega⟩ (hkept hm (.inr ⟨target, rfl⟩)))
  | case12 base name rest h1 h2 h3 m target hm _ links p ih =>
    rwa [walk_link_succ ⟨h1, h2, by omega⟩ (hkept hm (.inr ⟨target, rfl⟩))]

lemma locate_eq_walk (hs : Accepted s) : d.locate here s =
    walk d true maxLinks (if s.startsWith "/" then [] else here) (namesToFollow s) := by
  rw [locate, if_neg (by simp [hs.noFault]), if_neg (by rw [hs.noNull]; simp),
    if_neg (by simp [hs.nonempty]), if_neg (Nat.not_lt.mpr hs.short)]

lemma agrees_locate_set (hdir : d.get? l ≠ some .dir)
    (hlink : ∀ target, d.get? l ≠ some (.link target)) (bytes : ByteArray) :
    Agrees (d.locate here t) ((d.set l (.file bytes)).locate here t) := by
  rw [locate, locate]
  split
  · exact .inl rfl
  split
  · exact .inl rfl
  split
  · exact .inl rfl
  split
  · exact .inl rfl
  exact agrees_walk_set hdir hlink bytes _ _ _

/-! ## Looking at a path -/

lemma read_eq_ok_iff {bytes : ByteArray} :
    d.read here t = .ok bytes ↔ ∃ loc, d.find here t = .ok (loc, .file bytes) := by
  rw [read]
  split <;> simp_all

lemma lookAt_of_ok (h : d.locate here t = .ok loc) : d.lookAt here t = .ok (d.get? loc) := by
  rw [lookAt, find, h]
  cases he : d.get? loc <;> simp [bind, Except.bind, he]

lemma lookAt_of_error {r : Trouble} (h : d.locate here t = .error r) :
    d.lookAt here t = if r = .nameTooLong then .error ⟨.nameTooLong, t⟩ else .ok none := by
  rw [lookAt, find, h]
  cases r <;> rfl

lemma lookAt_eq_some_iff {e : Entry} :
    d.lookAt here t = .ok (some e) ↔ ∃ loc, d.find here t = .ok (loc, e) := by
  cases hd : d.locate here t with
  | ok loc =>
    rw [lookAt_of_ok hd]
    simp [find_eq_ok_iff, hd]
  | error r =>
    rw [lookAt_of_error hd]
    simp only [find_eq_ok_iff, hd]
    split <;> simp

/-- Nothing is found below a name in the root directory that is not there. -/
lemma lookAt_of_missing {n m : String} {ns : List String} (hs : Accepted s)
    (hstart : s.startsWith "/" = true) (hnames : namesToFollow s = n :: m :: ns) (hn : Plain n)
    (h : d.get? [n] = none) : d.lookAt here s = .ok none := by
  have hlocate : d.locate here s = .error .missing := by
    rw [locate_eq_walk hs, if_pos hstart, hnames, walk_missing hn h]
    rfl
  rw [lookAt_of_error hlocate, if_neg (by decide)]

lemma pathExists_iff_lookAt :
    d.pathExists here t = true ↔ ∃ e, d.lookAt here t = .ok (some e) := by
  simp only [lookAt_eq_some_iff, pathExists]
  cases d.find here t with
  | error r => simp
  | ok p => exact iff_of_true rfl ⟨p.2, p.1, rfl⟩

/-! ## What is written -/

/-- Files were written, one after the other, at paths with a property. -/
inductive Writes (here : Location) (P : String → Prop) (d : Disk) : Disk → Prop
  | refl : Writes here P d d
  | step {d₁ d₂ : Disk} {s : String} {bytes : ByteArray} : Writes here P d d₁ → P s →
    Anchored d₁ here s → d₁.write here s bytes = .ok d₂ → Writes here P d d₂

/-- One file was written, at an absolute path. -/
lemma Writes.single {bytes : ByteArray} (hP : P s) (hs : s.startsWith "/" = true)
    (h : d.write here s bytes = .ok d') : Writes here P d d' :=
  .step .refl hP (anchored_of_slash hs) h

lemma Writes.trans (h : Writes here P d d₁) (h' : Writes here P d₁ d₂) : Writes here P d d₂ := by
  induction h' with
  | refl => exact h
  | step _ hP hs hwrite ih => exact ih.step hP hs hwrite

lemma Writes.mono (h : Writes here P d d') (hPQ : ∀ s, P s → Q s) : Writes here Q d d' := by
  induction h with
  | refl => exact .refl
  | step _ hP hs hwrite ih => exact ih.step (hPQ _ hP) hs hwrite

namespace Writes

variable (h : Writes here P d d')

include h

lemma agrees : Agrees (d.locate here t) (d'.locate here t) := by
  induction h with
  | refl => exact .inl rfl
  | step _ _ hs hwrite ih =>
    obtain ⟨l, -, -, hdir, hlink, rfl⟩ := hs.set_of_write hwrite
    exact ih.trans (agrees_locate_set hdir hlink _)

/-- A path leads where it led before. -/
lemma locate_iff : d'.locate here t = .ok l ↔ d.locate here t = .ok l := by
  rcases h.agrees (t := t) with heq | ⟨hmissing, hfile⟩
  · rw [heq]
  · simp [hmissing, hfile]

/-- What stands at a location to which no path leads that was written is what stood there. -/
lemma get?_eq (hl : ∀ s, P s → d.locate here s ≠ .ok l) : d'.get? l = d.get? l := by
  induction h with
  | refl => rfl
  | step hbefore hP hs hwrite ih =>
    obtain ⟨m, hm, -, -, -, rfl⟩ := hs.set_of_write hwrite
    rw [get?_set_of_ne, ih]
    rintro rfl
    exact hl _ hP (hbefore.locate_iff.mp hm)

/-- Directories and links are neither made nor taken away. -/
lemma get?_iff {e : Entry} (he : ∀ bytes, e ≠ .file bytes) :
    d'.get? l = some e ↔ d.get? l = some e := by
  induction h with
  | refl => rfl
  | @step _ _ _ bytes _ _ hs hwrite ih =>
    obtain ⟨m, -, hm, hdir, hlink, rfl⟩ := hs.set_of_write hwrite
    rw [← ih]
    by_cases hlm : l = m
    · subst hlm
      rw [get?_set_self _ hm]
      refine iff_of_false (fun heq => he bytes (Option.some.inj heq).symm) fun heq => ?_
      cases e with
      | file bytes => exact he bytes rfl
      | dir => exact hdir heq
      | link target => exact hlink target heq
    · rw [get?_set_of_ne _ hlm]

lemma samePlace_iff {u : String} : SamePlace d' here t u ↔ SamePlace d here t u := by
  simp only [SamePlace, h.locate_iff]

lemma isDir_eq : d'.isDir here t = d.isDir here t := by
  rw [Bool.eq_iff_iff, isDir_iff, isDir_iff]
  simp only [find_eq_ok_iff, h.locate_iff, h.get?_iff (e := .dir) (by simp)]

/-- A path that leads where nothing was written leads to the same as before. -/
lemma find_iff {e : Entry} (ht : ∀ s, P s → ¬ SamePlace d here t s) :
    d'.find here t = .ok (loc, e) ↔ d.find here t = .ok (loc, e) := by
  rw [find_eq_ok_iff, find_eq_ok_iff, h.locate_iff]
  refine and_congr_right fun hloc => ?_
  rw [h.get?_eq fun s hs hsame => ht s hs ⟨loc, hloc, hsame⟩]

/-- A look at such a path finds the same as before. -/
lemma lookAt_eq (ht : ∀ s, P s → ¬ SamePlace d here t s) : d'.lookAt here t = d.lookAt here t := by
  rcases h.agrees (t := t) with heq | ⟨hmissing, hfile⟩
  · cases hd : d.locate here t with
    | ok loc =>
      rw [lookAt_of_ok (heq.trans hd), lookAt_of_ok hd,
        h.get?_eq fun s hs hsame => ht s hs ⟨loc, hd, hsame⟩]
    | error r => rw [lookAt_of_error (heq.trans hd), lookAt_of_error hd]
  · rw [lookAt_of_error hfile, lookAt_of_error hmissing, if_neg (by decide), if_neg (by decide)]

/-- Where something has changed, a path led that was written. -/
lemma exists_locate (hchanged : d'.get? l ≠ d.get? l) : ∃ s, P s ∧ d.locate here s = .ok l := by
  by_contra hnone
  push Not at hnone
  exact hchanged (h.get?_eq hnone)

/-- A path that leads to something else than before leads to where a file was written. -/
lemma exists_samePlace (hchanged : d'.lookAt here t ≠ d.lookAt here t) :
    ∃ s, P s ∧ SamePlace d here t s := by
  by_contra hnone
  push Not at hnone
  exact hchanged (h.lookAt_eq hnone)

end Writes

/-! ## Names at the end of paths -/

/-- An absolute path, as a text, with a last name. -/
structure Named (n s : String) : Prop where
  starts : s.startsWith "/" = true
  ends : ∃ cs, s.toList = cs ++ '/' :: n.toList

/-- No link stands under a name. -/
def Unlinked (d : Disk) (n : String) : Prop :=
  ∀ loc target, d.get? loc = some (.link target) → loc.getLast? ≠ some n

lemma unlinked_of_entries (h : ∀ p ∈ d.entries, ∀ target, p.2 ≠ .link target) (n : String) :
    Unlinked d n := by
  intro loc target hlink
  by_cases hloc : loc = []
  · subst hloc
    cases hlink
  · rw [get?_of_ne_nil hloc, List.lookup_eq_some_iff] at hlink
    obtain ⟨before, after, hsplit, -⟩ := hlink
    exact absurd rfl (h (loc, .link target) (by simp [hsplit]) target)

section

variable {n m : String}

lemma intercalate_concat {α : Type} (sep x : List α) {xs : List (List α)} (hxs : xs ≠ []) :
    sep.intercalate (xs ++ [x]) = sep.intercalate xs ++ (sep ++ x) := by
  induction xs with
  | nil => exact absurd rfl hxs
  | cons y ys ih =>
    by_cases hys : ys = []
    · subst hys
      simp [List.intercalate]
    · rw [List.cons_append, List.intercalate_cons_of_ne_nil (by simp), ih hys,
        List.intercalate_cons_of_ne_nil hys, List.append_assoc, List.append_assoc, List.append_assoc]

/-- The text of an absolute path ends with its last name. -/
lemma named_text {p : Path} (hp : p.absolute = true) (hlast : p.names.getLast? = some n) :
    Named n p.text := by
  obtain ⟨k, hk⟩ : ∃ k, p.slashes = k + 1 :=
    Nat.exists_eq_succ_of_ne_zero (by simpa [Path.absolute] using hp)
  obtain ⟨names, hnames⟩ : ∃ names, p.names = names ++ [n] :=
    List.getLast?_eq_some_iff.mp hlast
  have htext : p.text.toList = List.replicate (k + 1) '/' ++
      ['/'].intercalate (names.map String.toList ++ [n.toList]) := by
    rw [Path.text, if_pos hp, String.toList_append, String.toList_ofList, String.toList_intercalate,
      hk, hnames, List.map_append]
    rfl
  refine ⟨?_, ?_⟩
  · rw [String.startsWith_string_iff, htext, List.replicate_succ]
    exact ⟨_, rfl⟩
  · by_cases hnil : names = []
    · subst hnil
      refine ⟨List.replicate k '/', ?_⟩
      rw [htext, List.replicate_succ']
      simp [List.intercalate]
    · rw [htext, intercalate_concat _ _ (by simpa using hnil), ← List.append_assoc]
      exact ⟨_, rfl⟩

lemma named_child {p : Path} (hp : p.absolute = true) (hs : (Path.ofText s).absolute = false)
    (hlast : (Path.ofText s).names.getLast? = some n) : Named n (p.child s).text := by
  have hchild : p.child s = { p with names := p.names ++ (Path.ofText s).names } := by
    rw [Path.child, Path.join, hs]
    simp
  refine named_text (by rw [hchild]; exact hp) ?_
  rw [hchild, List.getLast?_append, hlast]
  rfl

/-- A name is the last one of the path of a file below a directory. -/
lemma named_child_self {p : Path} (hp : p.absolute = true) (hn : Writable [n]) :
    Named n (p.child n).text := by
  refine named_child hp ?_ ?_
  · rw [absolute_ofText, startsWith_name hn]
  · rw [names_ofText_name hn]
    rfl

/-- A name put behind an absolute path makes an absolute path. -/
lemma startsWith_joinName (hs : s.startsWith "/" = true) (m : String) :
    (Path.joinName s m).startsWith "/" = true := by
  have happend : ∀ t : String, (s ++ t).startsWith "/" = true := fun t => by
    rw [String.startsWith_string_iff] at hs ⊢
    rw [String.toList_append]
    exact hs.trans (List.prefix_append _ _)
  rw [Path.joinName]
  split
  · exact happend m
  · rw [String.append_assoc]
    exact happend _

/-- A name put behind a path is its last name. -/
lemma Named.joinName (hs : Named n s) (m : String) : Named m (Path.joinName s m) := by
  refine ⟨startsWith_joinName hs.starts m, ?_⟩
  obtain ⟨cs, hcs⟩ := hs.ends
  have hempty : s.isEmpty = false := by
    rw [← Bool.not_eq_true, String.isEmpty_iff]
    rintro rfl
    simp at hcs
  rw [Path.joinName, hempty, Bool.false_or]
  split
  · next hslash =>
    obtain ⟨cs', hcs'⟩ : "/".toList <:+ s.toList := by
      have hslice : s.toSlice.endsWith "/" = true := hslash
      rwa [String.Slice.endsWith_string_iff, String.copy_toSlice] at hslice
    refine ⟨cs', ?_⟩
    rw [String.toList_append, ← hcs']
    simp
  · exact ⟨s.toList, by simp⟩

lemma getLast?_namesToFollow (hs : Named n s) (hn : Writable [n]) :
    (namesToFollow s).getLast? = some n := by
  obtain ⟨cs, hcs⟩ := hs.ends
  obtain ⟨hplain, hne, hslash⟩ := hn n (by simp)
  have hparts : Path.parts s = (cs.splitOn '/').map String.ofList ++ [n] := by
    rw [Path.parts, hcs, List.splitOn_append_cons_self, List.map_append]
    simp [List.splitOn_eq_singleton hslash]
  have hend : s.toList.getLast? ≠ some '/' := by
    have hn' : n.toList ≠ [] := by simpa using hne
    rw [hcs, List.getLast?_append_of_ne_nil _ (by simp), List.getLast?_cons_of_ne_nil hn']
    exact fun h => hslash (List.mem_of_getLast? h)
  rw [namesToFollow, if_neg hend, Path.ofText, hparts, List.filter_append]
  simp [hne, hplain.ne_dot]

/-- Names lead to a location with their last name, unless that is the name of a link. -/
lemma Leads.getLast? {links : Nat} {base : Location} {names : List String}
    (h : Leads d links base names loc) (hlast : names.getLast? = some n) (hn : Plain n)
    (hfree : Unlinked d n) : loc.getLast? = some n := by
  induction h with
  | stop => simp at hlast
  | @dot _ _ _ rest _ ih =>
    cases rest with
    | nil => exact absurd (by simpa using hlast.symm) hn.ne_dot
    | cons => exact ih (by simpa using hlast)
  | @dots _ _ _ rest _ ih =>
    cases rest with
    | nil => exact absurd (by simpa using hlast.symm) hn.ne_dots
    | cons => exact ih (by simpa using hlast)
  | @dir _ base _ name rest _ _ hrest ih =>
    cases rest with
    | nil =>
      cases hrest
      simpa using hlast
    | cons => exact ih (by simpa using hlast)
  | last => simpa using hlast
  | @link _ base _ name target rest _ hlink _ ih =>
    cases rest with
    | nil => exact absurd (by simpa using hlast) (hfree _ _ hlink)
    | cons => exact ih (by simpa [List.getLast?_append] using hlast)

lemma Named.getLast? (hs : Named n s) (hn : Writable [n]) (hfree : Unlinked d n)
    (h : d.locate here s = .ok loc) : loc.getLast? = some n :=
  (locate_eq_ok_iff.mp h).2.getLast? (getLast?_namesToFollow hs hn) (hn n (by simp)).1 hfree

/-- Paths with different last names lead to different places. -/
lemma Named.apart (hs : Named n s) (ht : Named m t) (hn : Writable [n]) (hm : Writable [m])
    (hfree : Unlinked d n) (hfree' : Unlinked d m) (hne : n ≠ m) : ¬ SamePlace d here s t := by
  rintro ⟨loc, hloc, hloc'⟩
  have hlast := (hs.getLast? hn hfree hloc).symm.trans (ht.getLast? hm hfree' hloc')
  exact hne (Option.some.inj hlast)

lemma Writes.unlinked (h : Writes here P d d') (hfree : Unlinked d n) : Unlinked d' n :=
  fun loc target hlink => hfree loc target ((h.get?_iff (by simp)).mp hlink)

end

/-! ## Steps that are done once -/

/-- Names that can be those of files, and under which no link stands. -/
def Tidy (d : Disk) (names : List String) : Prop := ∀ n ∈ names, Writable [n] ∧ Unlinked d n

/-- A path with one of some last names. -/
def NamedIn (names : List String) (s : String) : Prop := ∃ n ∈ names, Named n s

section

variable {names others : List String} {n : String}

lemma Tidy.mono (h : Tidy d names) (hsub : others ⊆ names) : Tidy d others :=
  fun n hn => h n (hsub hn)

lemma Writes.tidy (h : Writes here P d d') (htidy : Tidy d names) : Tidy d' names :=
  fun n hn => ⟨(htidy n hn).1, h.unlinked (htidy n hn).2⟩

/-- Paths with one of some names lead to other places than those with one of other names. -/
lemma Tidy.apart (h : Tidy d (names ++ others)) (hdisj : names.Disjoint others) (hn : n ∈ names)
    (ht : Named n t) : ∀ s, NamedIn others s → ¬ SamePlace d here t s := by
  rintro s ⟨m, hm, hs⟩
  obtain ⟨hw, hfree⟩ := h n (List.mem_append_left _ hn)
  obtain ⟨hw', hfree'⟩ := h m (List.mem_append_right _ hm)
  exact ht.apart hs hw hw' hfree hfree' fun heq => hdisj hn (heq ▸ hm)

end

/-- A step that writes files with certain names and that need not be done twice.  When it has been
run, it is done; it stays done when files with other names are written; and to run it again then
changes nothing.  Where it writes does not depend on files with other names either. -/
structure Settles (here : Location) (names : List String) (paths : Disk → String → Prop)
    (run : Disk → Disk → Prop) (done : Disk → Prop) : Prop where
  named : ∀ {d : Disk} {s : String}, paths d s → NamedIn names s
  writes : ∀ {d d' : Disk}, Tidy d names → run d d' → Writes here (paths d) d d'
  done_of_run : ∀ {d d' : Disk}, Tidy d names → run d d' → done d'
  run_of_done : ∀ {d : Disk}, done d → run d d
  paths_of : ∀ {d d' : Disk} {others : List String}, Tidy d (names ++ others) →
    names.Disjoint others → Writes here (NamedIn others) d d' → ∀ {s}, paths d' s → paths d s
  stays : ∀ {d d' : Disk} {others : List String}, Tidy d (names ++ others) →
    names.Disjoint others → Writes here (NamedIn others) d d' → done d → done d'

namespace Settles

variable {ns ms : List String} {paths paths' : Disk → String → Prop} {R S : Disk → Disk → Prop}
  {done done' : Disk → Prop}

lemma nothing : Settles here [] (fun _ _ => False) Eq fun _ => True where
  named := False.elim
  writes _ h := h ▸ .refl
  done_of_run _ _ := trivial
  run_of_done _ := rfl
  paths_of _ _ _ _ := id
  stays _ _ _ := id

lemma congr (h : Settles here ns paths R done) (hpaths : ∀ d s, paths' d s ↔ paths d s)
    (hdone : ∀ d, done' d ↔ done d) : Settles here ns paths' R done' := by
  obtain rfl : paths' = paths := funext fun d => funext fun s => propext (hpaths d s)
  obtain rfl : done' = done := funext fun d => propext (hdone d)
  exact h

lemma writes_named (h : Settles here ns paths R done) (htidy : Tidy d ns) (hrun : R d d') :
    Writes here (NamedIn ns) d d' := (h.writes htidy hrun).mono fun _ => h.named

/-- Two steps that write files with different names are both done at the end. -/
lemma seq (h : Settles here ns paths R done) (h' : Settles here ms paths' S done')
    (hdisj : ns.Disjoint ms) :
    Settles here (ns ++ ms) (fun d s => paths d s ∨ paths' d s) (Relation.Comp R S)
      fun d => done d ∧ done' d where
  named := by
    rintro d s (hs | hs)
    · obtain ⟨n, hn, hnamed⟩ := h.named hs
      exact ⟨n, List.mem_append_left _ hn, hnamed⟩
    · obtain ⟨n, hn, hnamed⟩ := h'.named hs
      exact ⟨n, List.mem_append_right _ hn, hnamed⟩
  writes := by
    rintro d d' htidy ⟨d₁, hR, hS⟩
    have hns := htidy.mono (List.subset_append_left _ _)
    have hfirst := h.writes_named hns hR
    have hms := hfirst.tidy (htidy.mono (List.subset_append_right _ _))
    refine ((h.writes hns hR).mono fun s => .inl).trans ((h'.writes hms hS).mono fun s hs => .inr ?_)
    exact h'.paths_of (htidy.mono (by simp)) hdisj.symm hfirst hs
  done_of_run := by
    rintro d d' htidy ⟨d₁, hR, hS⟩
    have hns := htidy.mono (List.subset_append_left _ _)
    have htidy₁ := (h.writes hns hR).tidy htidy
    have hms := htidy₁.mono (List.subset_append_right _ _)
    exact ⟨h.stays htidy₁ hdisj (h'.writes_named hms hS) (h.done_of_run hns hR),
      h'.done_of_run hms hS⟩
  run_of_done := fun ⟨hdone, hdone'⟩ => ⟨_, h.run_of_done hdone, h'.run_of_done hdone'⟩
  paths_of := by
    rintro d d' others htidy hothers hwrites s hs
    rw [List.disjoint_append_left] at hothers
    exact hs.imp (h.paths_of (htidy.mono (by simp)) hothers.1 hwrites)
      (h'.paths_of (htidy.mono (by simp)) hothers.2 hwrites)
  stays := by
    rintro d d' others htidy hothers hwrites ⟨hdone, hdone'⟩
    rw [List.disjoint_append_left] at hothers
    exact ⟨h.stays (htidy.mono (by simp)) hothers.1 hwrites hdone,
      h'.stays (htidy.mono (by simp)) hothers.2 hwrites hdone'⟩

end Settles

end QualityGate.Disk
