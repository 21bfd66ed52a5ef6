/-
# Where paths lead

`Leads` holds the steps of a walk that succeeds: `walk_iff` says that it is exactly the walk that
follows a final link too.  What follows from the steps:

* `Leads.found`: a walk from a directory ends at a location below directories only, which is no
  link;
* `Leads.follow_eq`: resolving the names gives the same location;
* `Leads.put`: after a file is put at the end of a walk, the walk ends there again.

The text of a location leads back to it (`names_ofText_text`, `find_resolve`).
-/
import Mathlib
import QualityGate.Files.Resolve
import QualityGate.Files.Text

namespace QualityGate.Disk

variable {d : Disk} {loc : Location}

/-! ## Entries -/

@[simp] lemma get?_nil (d : Disk) : d.get? [] = some .dir := rfl

lemma get?_of_ne_nil (h : loc ≠ []) : d.get? loc = d.entries.lookup loc := by
  simp [get?, h]

lemma lookup_put (loc l : Location) (e : Entry) (es : List (Location × Entry)) :
    (put loc e es).lookup l = if l = loc then some e else es.lookup l := by
  induction es with
  | nil =>
    rw [put, List.lookup_cons]
    split <;> simp_all
  | cons x es ih =>
    obtain ⟨k, f⟩ := x
    rw [put, List.lookup_cons]
    by_cases hk : k = loc
    · subst hk
      rw [if_pos rfl, List.lookup_cons]
      split <;> simp_all
    · rw [if_neg hk, List.lookup_cons]
      split <;> simp_all

lemma get?_set_self (e : Entry) (h : loc ≠ []) : (d.set loc e).get? loc = some e := by
  rw [get?_of_ne_nil h, set, lookup_put, if_pos rfl]

lemma get?_set_of_ne (e : Entry) {l : Location} (h : l ≠ loc) :
    (d.set loc e).get? l = d.get? l := by
  by_cases hl : l = []
  · subst hl
    rfl
  · rw [get?_of_ne_nil hl, get?_of_ne_nil hl, set, lookup_put, if_neg h]

/-! ## The steps of a walk -/

/-- A name that has to be looked up, and can be. -/
structure Plain (name : String) : Prop where
  ne_dot : name ≠ "."
  ne_dots : name ≠ ".."
  short : name.utf8ByteSize ≤ maxName

instance (name : String) : Decidable (Plain name) :=
  decidable_of_iff (name ≠ "." ∧ name ≠ ".." ∧ name.utf8ByteSize ≤ maxName)
    ⟨fun ⟨h1, h2, h3⟩ => ⟨h1, h2, h3⟩, fun ⟨h1, h2, h3⟩ => ⟨h1, h2, h3⟩⟩

/-- Names lead from a location to another when so many links may be followed. -/
inductive Leads (d : Disk) : Nat → Location → List String → Location → Prop
  | stop (links : Nat) (base : Location) : Leads d links base [] base
  | dot {links : Nat} {base loc : Location} {rest : List String} :
    Leads d links base rest loc → Leads d links base ("." :: rest) loc
  | dots {links : Nat} {base loc : Location} {rest : List String} :
    Leads d links base.dropLast rest loc → Leads d links base (".." :: rest) loc
  | dir {links : Nat} {base loc : Location} {name : String} {rest : List String} :
    Plain name → d.get? (base ++ [name]) = some .dir →
    Leads d links (base ++ [name]) rest loc → Leads d links base (name :: rest) loc
  | last (links : Nat) {base : Location} {name : String} :
    Plain name → d.get? (base ++ [name]) ≠ some .dir →
    (∀ target, d.get? (base ++ [name]) ≠ some (.link target)) →
    Leads d links base [name] (base ++ [name])
  | link {links : Nat} {base loc : Location} {name target : String} {rest : List String} :
    Plain name → d.get? (base ++ [name]) = some (.link target) →
    Leads d links (if (Path.ofText target).absolute then [] else base)
      ((Path.ofText target).names ++ rest) loc →
    Leads d (links + 1) base (name :: rest) loc

variable {links : Nat} {base : Location} {names : List String}

lemma leads_of_walk (h : walk d true links base names = .ok loc) : Leads d links base names loc := by
  fun_induction walk d true links base names with
  | case1 links base => cases h; exact .stop _ _
  | case2 links base rest ih => exact .dot (ih h)
  | case3 links base rest _ ih => exact .dots (ih h)
  | case4 => cases h
  | case5 links base name rest h1 h2 h3 l hl hrest =>
    obtain rfl : l = loc := Except.ok.inj h
    obtain rfl := List.isEmpty_iff.mp hrest
    exact .last _ ⟨h1, h2, by omega⟩ (by rw [hl]; simp) (by rw [hl]; simp)
  | case6 => cases h
  | case7 links base name rest h1 h2 h3 l hl ih => exact .dir ⟨h1, h2, by omega⟩ hl (ih h)
  | case8 links base name rest h1 h2 h3 l bytes hl hrest =>
    obtain rfl : l = loc := Except.ok.inj h
    obtain rfl := List.isEmpty_iff.mp hrest
    exact .last _ ⟨h1, h2, by omega⟩ (by rw [hl]; simp) (by rw [hl]; simp)
  | case9 => cases h
  | case10 links base name rest h1 h2 h3 l target hl hfinal => simp at hfinal
  | case11 => cases h
  | case12 base name rest h1 h2 h3 l target hl hfinal links p ih =>
    exact .link ⟨h1, h2, by omega⟩ hl (ih h)

section

variable {name : String} {rest : List String}

lemma walk_missing (hn : Plain name) (h : d.get? (base ++ [name]) = none) :
    walk d true links base (name :: rest) =
      if rest.isEmpty then .ok (base ++ [name]) else .error .missing := by
  rw [walk, if_neg hn.ne_dot, if_neg hn.ne_dots, if_neg (Nat.not_lt.mpr hn.short)]
  simp only [h]

lemma walk_file {bytes : ByteArray} (hn : Plain name) (h : d.get? (base ++ [name]) = some (.file bytes)) :
    walk d true links base (name :: rest) =
      if rest.isEmpty then .ok (base ++ [name]) else .error .notDirectory := by
  rw [walk, if_neg hn.ne_dot, if_neg hn.ne_dots, if_neg (Nat.not_lt.mpr hn.short)]
  simp only [h]

lemma walk_dir (hn : Plain name) (h : d.get? (base ++ [name]) = some .dir) :
    walk d true links base (name :: rest) = walk d true links (base ++ [name]) rest := by
  rw [walk, if_neg hn.ne_dot, if_neg hn.ne_dots, if_neg (Nat.not_lt.mpr hn.short)]
  simp only [h]

lemma walk_link_zero {target : String} (hn : Plain name)
    (h : d.get? (base ++ [name]) = some (.link target)) :
    walk d true 0 base (name :: rest) = .error .tooManyLinks := by
  rw [walk, if_neg hn.ne_dot, if_neg hn.ne_dots, if_neg (Nat.not_lt.mpr hn.short)]
  simp [h]

lemma walk_link_succ {target : String} (hn : Plain name)
    (h : d.get? (base ++ [name]) = some (.link target)) :
    walk d true (links + 1) base (name :: rest) =
      walk d true links (if (Path.ofText target).absolute then [] else base)
        ((Path.ofText target).names ++ rest) := by
  rw [walk, if_neg hn.ne_dot, if_neg hn.ne_dots, if_neg (Nat.not_lt.mpr hn.short)]
  simp [h]

end

lemma walk_of_leads (h : Leads d links base names loc) :
    walk d true links base names = .ok loc := by
  induction h with
  | stop => rw [walk]
  | dot _ ih => rw [walk, if_pos rfl, ih]
  | dots _ ih => rw [walk, if_neg (by decide), if_pos rfl, ih]
  | dir hn hdir _ ih => rw [walk_dir hn hdir, ih]
  | @last links base name hn hdir hlink =>
    cases hl : d.get? (base ++ [name]) with
    | none => exact walk_missing hn hl
    | some e =>
      cases e with
      | file bytes => exact walk_file hn hl
      | dir => exact absurd hl hdir
      | link target => exact absurd hl (hlink target)
  | link hn hlink _ ih => rw [walk_link_succ hn hlink, ih]

/-- The steps are those of a walk that follows a final link too. -/
lemma walk_iff : walk d true links base names = .ok loc ↔ Leads d links base names loc :=
  ⟨leads_of_walk, walk_of_leads⟩

/-! ## Locations below directories -/

/-- A location whose names can be written in a path. -/
def Writable (loc : Location) : Prop := ∀ n ∈ loc, Plain n ∧ n ≠ "" ∧ '/' ∉ n.toList

instance (loc : Location) : Decidable (Writable loc) :=
  inferInstanceAs (Decidable (∀ n ∈ loc, Plain n ∧ n ≠ "" ∧ '/' ∉ n.toList))

lemma Writable.concat {name : String} (h : Writable base) (hn : Plain name)
    (hname : name ≠ "" ∧ '/' ∉ name.toList) : Writable (base ++ [name]) := by
  intro n hmem
  rcases List.mem_append.mp hmem with hmem | hmem
  · exact h n hmem
  · obtain rfl := List.mem_singleton.mp hmem
    exact ⟨hn, hname⟩

/-- A location with names that can be written in a path, with directories all the way down. -/
structure Rooted (d : Disk) (loc : Location) : Prop where
  names : Writable loc
  dirs : ∀ p, p <+: loc → d.get? p = some .dir

lemma Rooted.nil (d : Disk) : Rooted d [] where
  names := by simp [Writable]
  dirs p hp := by
    obtain rfl := List.prefix_nil.mp hp
    rfl

lemma Rooted.dropLast (h : Rooted d base) : Rooted d base.dropLast where
  names n hn := h.names n (List.mem_of_mem_dropLast hn)
  dirs p hp := h.dirs p (hp.trans (List.dropLast_prefix _))

lemma Rooted.concat {name : String} (h : Rooted d base) (hn : Plain name)
    (hname : name ≠ "" ∧ '/' ∉ name.toList) (hdir : d.get? (base ++ [name]) = some .dir) :
    Rooted d (base ++ [name]) where
  names := h.names.concat hn hname
  dirs p hp := by
    rcases List.prefix_concat_iff.mp hp with rfl | hp
    · exact hdir
    · exact h.dirs p hp

/-- Where a walk can end: at a directory, or below one at something that is no link. -/
inductive Found (d : Disk) : Location → Prop
  | dir {loc : Location} : Rooted d loc → Found d loc
  | leaf {base : Location} {name : String} : Rooted d base → Plain name →
    name ≠ "" ∧ '/' ∉ name.toList → d.get? (base ++ [name]) ≠ some .dir →
    (∀ target, d.get? (base ++ [name]) ≠ some (.link target)) → Found d (base ++ [name])

lemma Found.writable (h : Found d loc) : Writable loc := by
  cases h with
  | dir hroot => exact hroot.names
  | leaf hroot hn hname _ _ => exact hroot.names.concat hn hname

lemma not_mem_of_mem_splitOn {α : Type} [BEq α] [LawfulBEq α] (x : α) (xs : List α) :
    ∀ l ∈ xs.splitOn x, x ∉ l := by
  induction xs with
  | nil => simp
  | cons y ys ih =>
    rw [List.splitOn_cons_eq_if_modifyHead]
    cases hs : ys.splitOn x with
    | nil => simp
    | cons a as =>
      rw [hs] at ih
      by_cases hy : y = x
      · simpa [hy] using ih
      · simp only [beq_iff_eq, hy, if_false, List.modifyHead_cons]
        intro l hl
        rcases List.mem_cons.mp hl with rfl | hl
        · have ha := ih a (by simp)
          simp [Ne.symm hy, ha]
        · exact ih l (by simp [hl])

lemma names_ofText (s : String) :
    ∀ n ∈ (Path.ofText s).names, n ≠ "." ∧ n ≠ "" ∧ '/' ∉ n.toList := by
  intro n hn
  simp only [Path.ofText, Path.parts, List.mem_filter, List.mem_map] at hn
  obtain ⟨⟨cs, hcs, rfl⟩, hn⟩ := hn
  simp only [Bool.and_eq_true, decide_eq_true_eq] at hn
  refine ⟨hn.2, hn.1, ?_⟩
  rw [String.toList_ofList]
  exact not_mem_of_mem_splitOn '/' _ cs hcs

namespace Leads

lemma found (h : Leads d links base names loc) (hbase : Rooted d base)
    (hnames : ∀ n ∈ names, n ≠ "" ∧ '/' ∉ n.toList) : Found d loc := by
  induction h with
  | stop => exact .dir hbase
  | dot _ ih => exact ih hbase fun n hn => hnames n (by simp [hn])
  | dots _ ih => exact ih hbase.dropLast fun n hn => hnames n (by simp [hn])
  | dir hn hdir _ ih =>
    exact ih (hbase.concat hn (hnames _ (by simp)) hdir) fun n hn => hnames n (by simp [hn])
  | last _ hn hdir hlink => exact .leaf hbase hn (hnames _ (by simp)) hdir hlink
  | link hn hlink _ ih =>
    refine ih ?_ fun n hn => ?_
    · split
      · exact Rooted.nil d
      · exact hbase
    · rcases List.mem_append.mp hn with hn | hn
      · exact (names_ofText _ n hn).2
      · exact hnames n (by simp [hn])

/-- Resolving names gives the location that they lead to. -/
lemma follow_eq (h : Leads d links base names loc) :
    follow d links base (names.filter (· ≠ ".")) = loc := by
  induction h with
  | stop => simp [follow]
  | dot _ ih => simpa using ih
  | dots _ ih =>
    rw [List.filter_cons_of_pos (by simp), follow, if_pos rfl, ih]
  | dir hn hdir _ ih =>
    rw [List.filter_cons_of_pos (by simp [hn.ne_dot]), follow, if_neg hn.ne_dots]
    simp only [hdir, ih]
  | last _ hn hdir hlink =>
    rw [List.filter_cons_of_pos (by simp [hn.ne_dot]), follow, if_neg hn.ne_dots]
    split
    · exact absurd ‹_› (hlink _)
    · simp [follow]
  | @link links base loc name target rest hn hlink _ ih =>
    have hplain : (Path.ofText target).names.filter (· ≠ ".") = (Path.ofText target).names :=
      List.filter_eq_self.mpr fun n hn => by simp [(names_ofText target n hn).1]
    rw [List.filter_append, hplain] at ih
    rw [List.filter_cons_of_pos (by simp [hn.ne_dot]), follow, if_neg hn.ne_dots]
    simp only [hlink]
    simpa using ih

/-- A file that is put where no directory and no link was does not change where a walk leads. -/
lemma put (h : Leads d links base names loc) {l : Location} (hdir : d.get? l ≠ some .dir)
    (hlink : ∀ target, d.get? l ≠ some (.link target)) (bytes : ByteArray) :
    Leads (d.set l (.file bytes)) links base names loc := by
  induction h with
  | stop => exact .stop _ _
  | dot _ ih => exact .dot ih
  | dots _ ih => exact .dots ih
  | dir hn hd _ ih =>
    refine .dir hn ?_ ih
    rwa [get?_set_of_ne]
    rintro rfl
    exact hdir hd
  | @last links base name hn hd hl =>
    by_cases heq : base ++ [name] = l
    · subst heq
      have hfile := d.get?_set_self (.file bytes) (show base ++ [name] ≠ [] by simp)
      exact .last links hn (by simp [hfile]) (by simp [hfile])
    · have hkept := d.get?_set_of_ne (.file bytes) heq
      exact .last links hn (hkept ▸ hd) (hkept ▸ hl)
  | link hn hl _ ih =>
    refine .link hn ?_ ih
    rwa [get?_set_of_ne]
    rintro rfl
    exact hlink _ hl

/-- Names of directories can be walked through. -/
lemma append {more rest : List String} (hroot : Rooted d (base ++ more))
    (h : Leads d links (base ++ more) rest loc) : Leads d links base (more ++ rest) loc := by
  induction more generalizing base with
  | nil => simpa using h
  | cons n more ih =>
    have hassoc : base ++ n :: more = base ++ [n] ++ more := by simp
    rw [hassoc] at hroot h
    refine .dir (hroot.names n (by simp)).1 (hroot.dirs _ (List.prefix_append _ _)) (ih hroot h)

end Leads

/-- The names of a location at which a walk can end lead there. -/
lemma Found.leads (h : Found d loc) : Leads d links [] loc loc := by
  cases h with
  | dir hroot =>
    have hroot' : Rooted d ([] ++ loc) := hroot
    simpa using Leads.append hroot' (Leads.stop links loc)
  | @leaf base name hroot hn _ hdir hlink =>
    have hroot' : Rooted d ([] ++ base) := hroot
    exact Leads.append hroot' (Leads.last links hn hdir hlink)

/-! ## Texts of locations -/

lemma toList_text (loc : Location) :
    (Location.path loc).text.toList = '/' :: ['/'].intercalate (loc.map String.toList) := by
  have htext : (Location.path loc).text = "/" ++ "/".intercalate loc := rfl
  rw [htext, String.toList_append, String.toList_intercalate]
  rfl

lemma startsWith_text (loc : Location) : (Location.path loc).text.startsWith "/" = true := by
  rw [String.startsWith_string_iff, toList_text]
  exact ⟨_, rfl⟩

lemma parts_text (h : Writable loc) :
    Path.parts (Location.path loc).text = "" :: if loc = [] then [""] else loc := by
  rw [Path.parts, toList_text, List.splitOn_cons_eq_if_modifyHead, if_pos (by simp), List.map_cons]
  by_cases hloc : loc = []
  · subst hloc
    rfl
  · have hslash : ∀ l ∈ loc.map String.toList, '/' ∉ l := by
      intro l hl
      obtain ⟨n, hn, rfl⟩ := List.mem_map.mp hl
      exact (h n hn).2.2
    rw [List.splitOn_intercalate '/' hslash (by simpa using hloc), if_neg hloc, List.map_map]
    simp

lemma names_ofText_text (h : Writable loc) : (Path.ofText (Location.path loc).text).names = loc := by
  have hkeep : loc.filter (fun n => decide (n ≠ "") && decide (n ≠ ".")) = loc :=
    List.filter_eq_self.mpr fun n hn => by simp [(h n hn).2.1, (h n hn).1.ne_dot]
  rw [Path.ofText, parts_text h]
  by_cases hloc : loc = []
  · simp [hloc]
  · simpa [hloc] using hkeep

lemma namesToFollow_text (h : Writable loc) :
    namesToFollow (Location.path loc).text = if loc = [] then ["."] else loc := by
  rw [namesToFollow, names_ofText_text h]
  by_cases hloc : loc = []
  · subst hloc
    simp [toList_text]
  · -- a slash at the end would stand before an empty last name
    have hend : (Location.path loc).text.toList.getLast? ≠ some '/' := by
      intro hslash
      obtain ⟨cs, hcs⟩ := List.getLast?_eq_some_iff.mp hslash
      have hparts := parts_text h
      rw [if_neg hloc, Path.parts, hcs, List.splitOn_append_cons_self] at hparts
      have hlast : ("" :: loc).getLast? = some "" := by
        rw [← hparts]
        simp
      rw [List.getLast?_cons_of_ne_nil hloc] at hlast
      exact (h "" (List.mem_of_getLast? hlast)).2.1 rfl
    rw [if_neg hend, if_neg hloc]

lemma absolute_ofText (s : String) : (Path.ofText s).absolute = s.startsWith "/" := by
  have hslash : s.startsWith "/" = true ↔ ∃ cs, s.toList = '/' :: cs := by
    rw [String.startsWith_string_iff]
    exact ⟨fun ⟨cs, hcs⟩ => ⟨cs, by simpa using hcs.symm⟩, fun ⟨cs, hcs⟩ => ⟨cs, by simp [hcs]⟩⟩
  rw [Bool.eq_iff_iff, hslash, Path.absolute, Path.ofText, Path.leadingSlashes]
  cases s.toList with
  | nil => simp
  | cons c cs =>
    by_cases hc : c = '/'
    · simp [hc]
      split <;> omega
    · simp [hc]

/-! ## Resolved paths -/

variable {here : Location} {s : String} {e : Entry}

lemma find_eq_ok_iff : d.find here s = .ok (loc, e) ↔
    d.locate here s = .ok loc ∧ d.get? loc = some e := by
  rw [find]
  cases hl : d.locate here s with
  | error t => simp [bind, Except.bind]
  | ok l =>
    cases he : d.get? l with
    | none =>
      simp only [bind, Except.bind, he]
      constructor
      · intro h
        cases h
      · rintro ⟨h, he'⟩
        cases h
        simp [he] at he'
    | some e' =>
      simp only [bind, Except.bind, he, Except.ok.injEq, Prod.mk.injEq]
      constructor
      · rintro ⟨rfl, rfl⟩
        exact ⟨rfl, he⟩
      · rintro ⟨rfl, he'⟩
        exact ⟨rfl, by simpa [he] using he'⟩

lemma isDir_iff : d.isDir here s = true ↔ ∃ top, d.find here s = .ok (top, .dir) := by
  rw [isDir]
  split <;> simp_all

/-- A text that the system takes for a path. -/
structure Accepted (s : String) : Prop where
  noFault : (Text.nameFault? s).isSome = false
  noNull : s.toList.contains '\x00' = false
  nonempty : s.isEmpty = false
  short : s.utf8ByteSize ≤ maxPath

instance (s : String) : Decidable (Accepted s) :=
  decidable_of_iff ((Text.nameFault? s).isSome = false ∧ s.toList.contains '\x00' = false ∧
    s.isEmpty = false ∧ s.utf8ByteSize ≤ maxPath)
    ⟨fun ⟨h1, h2, h3, h4⟩ => ⟨h1, h2, h3, h4⟩, fun ⟨h1, h2, h3, h4⟩ => ⟨h1, h2, h3, h4⟩⟩

lemma locate_iff_walk {final : Bool} : d.locate here s final = .ok loc ↔ Accepted s ∧
    walk d final maxLinks (if s.startsWith "/" then [] else here) (namesToFollow s) = .ok loc := by
  rw [locate]
  constructor
  · intro h
    split at h
    · cases h
    split at h
    · cases h
    split at h
    · cases h
    split at h
    · cases h
    exact ⟨⟨by simp_all, by simp_all, by simp_all, by omega⟩, h⟩
  · rintro ⟨hs, h⟩
    rw [if_neg (by simp [hs.noFault]), if_neg (by rw [hs.noNull]; simp),
      if_neg (by simp [hs.nonempty]), if_neg (Nat.not_lt.mpr hs.short), h]

/-- A path is located by following its names. -/
lemma locate_eq_ok_iff : d.locate here s = .ok loc ↔
    Accepted s ∧ Leads d maxLinks (if s.startsWith "/" then [] else here) (namesToFollow s) loc := by
  rw [locate_iff_walk, walk_iff]

/-- What stands at a location is found from the root by the names on the way to it. -/
lemma find_of_found {e : Entry} (hs : Accepted s) (hnames : namesToFollow s = loc)
    (hfound : Found d loc) (he : d.get? loc = some e) : d.find [] s = .ok (loc, e) := by
  refine find_eq_ok_iff.mpr ⟨locate_eq_ok_iff.mpr ⟨hs, ?_⟩, he⟩
  rw [hnames, ite_self]
  exact hfound.leads

/-- The root directory is found by its path. -/
lemma find_root : d.find here "/" = .ok ([], .dir) := by
  have hnames : namesToFollow "/" = ["."] := by decide
  refine find_eq_ok_iff.mpr ⟨locate_eq_ok_iff.mpr ⟨by decide, ?_⟩, rfl⟩
  rw [hnames, if_pos (by simp)]
  exact .dot (.stop _ _)

lemma found_in_root {n : String} {bytes : ByteArray} (hn : Writable [n])
    (h : d.get? [n] = some (.file bytes)) : Found d [n] := by
  obtain ⟨hplain, hname⟩ := hn n (by simp)
  show Found d ([] ++ [n])
  exact .leaf (.nil d) hplain hname (by simp [h]) (by simp [h])

/-- A file in the root directory is read by its name. -/
lemma read_in_root {n : String} {bytes : ByteArray} (hs : Accepted n)
    (hnames : namesToFollow n = [n]) (hn : Writable [n]) (h : d.get? [n] = some (.file bytes)) :
    d.read [] n = .ok bytes := by
  rw [read, find_of_found hs hnames (found_in_root hn h) h]

/-- A file in the root directory is found by its path. -/
lemma find_text_in_root {n : String} {bytes : ByteArray} (hs : Accepted (Location.path [n]).text)
    (hn : Writable [n]) (h : d.get? [n] = some (.file bytes)) :
    d.find [] (Location.path [n]).text = .ok ([n], .file bytes) := by
  have hnames : namesToFollow (Location.path [n]).text = [n] := by
    rw [namesToFollow_text hn, if_neg (by simp)]
  exact find_of_found hs hnames (found_in_root hn h) h

/-- Nothing is there at a path whose first name is not there. -/
lemma pathExists_of_first_missing {n : String} {ns : List String} (hnames : namesToFollow s = n :: ns)
    (hn : Plain n) (h : d.get? ((if s.startsWith "/" then [] else here) ++ [n]) = none) :
    d.pathExists here s = false := by
  rw [pathExists]
  cases hf : d.find here s with
  | error t => rfl
  | ok p =>
    obtain ⟨loc, e⟩ := p
    obtain ⟨hloc, hget⟩ := find_eq_ok_iff.mp hf
    obtain ⟨-, hleads⟩ := locate_eq_ok_iff.mp hloc
    rw [hnames] at hleads
    cases hleads with
    | dot => exact absurd rfl hn.ne_dot
    | dots => exact absurd rfl hn.ne_dots
    | dir _ hdir _ => exact absurd (h.symm.trans hdir) (by simp)
    | last => exact absurd (h.symm.trans hget) (by simp)
    | link _ hlink _ => exact absurd (h.symm.trans hlink) (by simp)

/-- Nothing is there below a name that is not there. -/
lemma pathExists_of_missing {n : String} {ns : List String} (hw : Writable (n :: ns))
    (h : d.get? [n] = none) : d.pathExists here (Location.path (n :: ns)).text = false := by
  have hnames : namesToFollow (Location.path (n :: ns)).text = n :: ns := by
    rw [namesToFollow_text hw, if_neg (by simp)]
  refine pathExists_of_first_missing hnames (hw n (by simp)).1 ?_
  rw [if_pos (startsWith_text _)]
  exact h

lemma filter_namesToFollow (s : String) :
    (namesToFollow s).filter (· ≠ ".") = (Path.ofText s).names := by
  have hkeep : (Path.ofText s).names.filter (· ≠ ".") = (Path.ofText s).names :=
    List.filter_eq_self.mpr fun n hn => by simp [(names_ofText s n hn).1]
  rw [namesToFollow]
  split
  · rw [List.filter_append, hkeep]
    simp
  · exact hkeep

lemma mem_namesToFollow {n : String} (h : n ∈ namesToFollow s) : n ≠ "" ∧ '/' ∉ n.toList := by
  rw [namesToFollow] at h
  split at h
  · rcases List.mem_append.mp h with h | h
    · exact (names_ofText s n h).2
    · obtain rfl := List.mem_singleton.mp h
      decide
  · exact (names_ofText s n h).2

/-- A path that leads somewhere is resolved to where it leads. -/
lemma resolve_of_find (hfind : d.find here s = .ok (loc, e)) : d.resolve here s = loc := by
  obtain ⟨-, hleads⟩ := locate_eq_ok_iff.mp (find_eq_ok_iff.mp hfind).1
  rw [resolve, absolute_ofText, ← filter_namesToFollow]
  exact hleads.follow_eq

/-- What a path leads to from a directory is found at the resolved path too, if the system takes
that for a path at all. -/
lemma find_resolve (hhere : Rooted d here) (hfind : d.find here s = .ok (loc, e))
    (haccept : Accepted (Location.path (d.resolve here s)).text) :
    d.find here (Location.path (d.resolve here s)).text = .ok (loc, e) := by
  obtain ⟨hlocate, hget⟩ := find_eq_ok_iff.mp hfind
  obtain ⟨-, hleads⟩ := locate_eq_ok_iff.mp hlocate
  have hbase : Rooted d (if s.startsWith "/" then [] else here) := by
    split
    · exact Rooted.nil d
    · exact hhere
  have hfound : Found d loc := hleads.found hbase fun n hn => mem_namesToFollow hn
  rw [resolve_of_find hfind] at haccept ⊢
  refine find_eq_ok_iff.mpr ⟨locate_eq_ok_iff.mpr ⟨haccept, ?_⟩, hget⟩
  rw [if_pos (startsWith_text _), namesToFollow_text hfound.writable]
  split
  · next hnil =>
    subst hnil
    exact .dot (.stop _ _)
  · exact hfound.leads

end QualityGate.Disk
