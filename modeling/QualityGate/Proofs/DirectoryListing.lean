/-
# What is listed below a directory

`IsTree` says that the entries of a disk form a tree: each location holds one entry, below
directories only.  `Listing` says what the list of the entries below a location is: every entry
with a wanted name, at any depth and once, in the order `Earlier`, in which the entries of a
directory come before those of its subdirectories.

`belowFrom_cases` is about the search for paths below a directory.  It comes to such a list, or is
refused at a directory with a path that is too long.
-/
import Mathlib
import QualityGate.Files.Glob
import QualityGate.Proofs.DiskWalk

namespace QualityGate

/-! ## Trees -/

namespace Disk

/-- The locations that hold an entry. -/
def locations (d : Disk) : List Location := d.entries.map Prod.fst

/-- The entries of a disk form a tree: no location holds two of them, and each stands under a name
that can be written in a path, in a directory. -/
structure IsTree (d : Disk) : Prop where
  distinct : d.locations.Nodup
  writable : ∀ loc ∈ d.locations, Writable loc
  parents : ∀ loc ∈ d.locations, d.get? loc.dropLast = some .dir

variable {d : Disk} {loc : Location} {n : String}

lemma get?_ne_none_iff (h : loc ≠ []) : d.get? loc ≠ none ↔ loc ∈ d.locations := by
  rw [get?_of_ne_nil h, Option.ne_none_iff_isSome, List.lookup_isSome_iff, locations, List.mem_map]
  exact ⟨fun ⟨x, hx, heq⟩ => ⟨x, hx, (beq_iff_eq.mp heq).symm⟩,
    fun ⟨x, hx, heq⟩ => ⟨x, hx, beq_iff_eq.mpr heq.symm⟩⟩

lemma mem_namesIn : n ∈ d.namesIn loc ↔ d.get? (loc ++ [n]) ≠ none := by
  rw [get?_ne_none_iff (by simp), namesIn, List.mem_mergeSort, List.mem_filterMap, locations,
    List.mem_map]
  constructor
  · rintro ⟨⟨l, e⟩, hx, hn⟩
    obtain ⟨rfl, hlast⟩ : l.dropLast = loc ∧ l.getLast? = some n := by simpa using hn
    exact ⟨(l, e), hx, (List.dropLast_append_getLast? n hlast).symm⟩
  · rintro ⟨⟨l, e⟩, hx, rfl⟩
    exact ⟨(loc ++ [n], e), hx, by simp⟩

lemma isDirAt_iff : d.isDirAt loc = true ↔ d.get? loc = some .dir := by
  rw [isDirAt]
  split <;> simp_all

namespace IsTree

variable (h : d.IsTree)

include h

/-- On the way to an entry there are directories. -/
lemma dir_of_prefix : ∀ {l : Location}, d.get? l ≠ none → ∀ {p : Location}, p <+: l → p ≠ l →
    d.get? p = some .dir := by
  intro l
  induction l using List.reverseRecOn with
  | nil =>
    intro _ p hp hne
    exact absurd (List.prefix_nil.mp hp) hne
  | append_singleton l n ih =>
    intro hl p hp hne
    have hdir : d.get? l = some .dir := by
      simpa using h.parents _ ((get?_ne_none_iff (by simp)).mp hl)
    rcases List.prefix_concat_iff.mp hp with rfl | hp
    · exact absurd rfl hne
    · by_cases hpl : p = l
      · rw [hpl, hdir]
      · exact ih (by simp [hdir]) hp hpl

lemma dir_of_below {ns : List String} (hget : d.get? (loc ++ n :: ns) ≠ none) (hns : ns ≠ []) :
    d.get? (loc ++ [n]) = some .dir :=
  h.dir_of_prefix hget ⟨ns, by simp⟩ (by simpa using hns.symm)

/-- No entry is deeper than there are entries. -/
lemma length_le {l : Location} (hl : d.get? l ≠ none) : l.length ≤ d.entries.length := by
  -- the locations on the way, each longer than the one before
  let way := (List.range l.length).map fun k => l.take (k + 1)
  have hnodup : way.Nodup := by
    refine List.Nodup.map_on (fun i hi j hj hij => ?_) List.nodup_range
    have hlen := congrArg List.length hij
    rw [List.mem_range] at hi hj
    simp only [List.length_take] at hlen
    omega
  have hsub : way ⊆ d.locations := by
    intro p hp
    obtain ⟨k, hk, rfl⟩ := List.mem_map.mp hp
    rw [List.mem_range] at hk
    have hne : l.take (k + 1) ≠ [] := by
      rw [ne_eq, List.take_eq_nil_iff]
      rintro (hzero | hnil)
      · omega
      · simp [hnil] at hk
    refine (get?_ne_none_iff hne).mp ?_
    by_cases heq : l.take (k + 1) = l
    · rwa [heq]
    · simp [h.dir_of_prefix hl (List.take_prefix _ _) heq]
  simpa [way, locations] using (hnodup.subperm hsub).length_le

lemma writable_name (hn : d.get? (loc ++ [n]) ≠ none) : n ≠ "" ∧ n ≠ "." ∧ '/' ∉ n.toList := by
  have hw := h.writable _ ((get?_ne_none_iff (by simp)).mp hn) n (by simp)
  exact ⟨hw.2.1, hw.1.ne_dot, hw.2.2⟩

/-- The names in a directory are in order, and none comes twice. -/
lemma namesIn_sorted (loc : Location) : (d.namesIn loc).Pairwise (· < ·) := by
  have hnodup : (d.namesIn loc).Nodup := by
    let last (l : Location) : Option String := if l.dropLast = loc then l.getLast? else none
    have hlast : ∀ l n, n ∈ last l → l = loc ++ [n] := by
      intro l n hn
      obtain ⟨rfl, hend⟩ : l.dropLast = loc ∧ l.getLast? = some n := by simpa [last] using hn
      exact (List.dropLast_append_getLast? n hend).symm
    have hnames : (d.locations.filterMap last).Nodup :=
      List.Nodup.filterMap (fun l l' n hl hl' => (hlast l n hl).trans (hlast l' n hl').symm)
        h.distinct
    rw [locations, List.filterMap_map] at hnames
    exact (List.mergeSort_perm _ _).nodup_iff.mpr hnames
  have hsorted : (d.namesIn loc).Pairwise fun a b => (!decide (b < a)) = true := by
    refine List.pairwise_mergeSort (fun a b c hab hbc => ?_) (fun a b => ?_) _
    · simp only [Bool.not_eq_true', decide_eq_false_iff_not, not_lt] at hab hbc ⊢
      exact hab.trans hbc
    · simp only [Bool.or_eq_true, Bool.not_eq_true', decide_eq_false_iff_not, not_lt]
      exact le_total a b
  refine (hsorted.and hnodup).imp fun {a b} hab => lt_of_le_of_ne ?_ hab.2
  simpa only [Bool.not_eq_true', decide_eq_false_iff_not, not_lt] using hab.1

end IsTree

end Disk

/-! ## Order -/

/-- The order of a listing.  What stands in a directory itself comes first, in the order of the
names, then what stands in its subdirectories, in the order of theirs. -/
inductive Earlier : List String → List String → Prop
  | own {m n : String} : m < n → Earlier [m] [n]
  | ownFirst {m n : String} {ns : List String} : ns ≠ [] → Earlier [m] (n :: ns)
  | dirs {m n : String} {ms ns : List String} : ms ≠ [] → ns ≠ [] → m < n →
    Earlier (m :: ms) (n :: ns)
  | inside {n : String} {ms ns : List String} : Earlier ms ns → Earlier (n :: ms) (n :: ns)

lemma Earlier.ne {ms ns : List String} (h : Earlier ms ns) : ms ≠ ns := by
  induction h with
  | own hlt =>
    rintro ⟨⟩
    exact lt_irrefl _ hlt
  | ownFirst hns =>
    rintro ⟨⟩
    exact hns rfl
  | dirs _ _ hlt =>
    rintro ⟨⟩
    exact lt_irrefl _ hlt
  | inside _ ih =>
    rintro ⟨⟩
    exact ih rfl

lemma Earlier.ne_nil {ms ns : List String} (h : Earlier ms ns) : ms ≠ [] ∧ ns ≠ [] := by
  cases h <;> simp

lemma Earlier.asymm {ms ns : List String} (h : Earlier ms ns) : ¬ Earlier ns ms := by
  induction h with
  | own hlt =>
    rintro (hgt | hne | ⟨hne, -, -⟩ | hin)
    · exact lt_asymm hlt hgt
    · exact hne rfl
    · exact hne rfl
    · exact hin.ne_nil.1 rfl
  | ownFirst hns =>
    rintro (- | - | ⟨-, hne, -⟩ | hin)
    · exact hns rfl
    · exact hns rfl
    · exact hne rfl
    · exact hin.ne_nil.2 rfl
  | dirs hms hns hlt =>
    rintro (- | - | ⟨-, -, hgt⟩ | -)
    · exact hns rfl
    · exact hns rfl
    · exact lt_asymm hlt hgt
    · exact lt_irrefl _ hlt
  | inside hin ih =>
    rintro (hlt | - | ⟨-, -, hlt⟩ | hback)
    · exact lt_irrefl _ hlt
    · exact hin.ne_nil.2 rfl
    · exact lt_irrefl _ hlt
    · exact ih hback

/-- The names that lead from a location to the entries below it with a wanted name: each entry at
any depth is there once, and they are in order. -/
structure Listing (d : Disk) (wanted : String → Prop) (loc : Location)
    (found : List (List String)) : Prop where
  complete : ∀ ns, ns ∈ found ↔ (∃ n ∈ ns.getLast?, wanted n) ∧ d.get? (loc ++ ns) ≠ none
  once : found.Nodup
  ordered : found.Pairwise Earlier

namespace Listing

variable {d : Disk} {wanted : String → Prop} {loc : Location}

lemma ne_nil {found : List (List String)} (h : Listing d wanted loc found) {ns : List String}
    (hns : ns ∈ found) : ns ≠ [] := by
  rintro rfl
  obtain ⟨⟨n, hn, -⟩, -⟩ := (h.complete []).mp hns
  cases hn

/-- The order leaves no choice. -/
lemma unique {found found' : List (List String)} (h : Listing d wanted loc found)
    (h' : Listing d wanted loc found') : found = found' := by
  have hperm : found.Perm found' := (List.perm_ext_iff_of_nodup h.once h'.once).mpr fun ns =>
    (h.complete ns).trans (h'.complete ns).symm
  exact hperm.eq_of_pairwise (fun _ _ _ _ hab hba => absurd hba hab.asymm) h.ordered h'.ordered

end Listing

section

variable {d : Disk} {loc : Location} {wanted : String → Bool} {inner : String → List (List String)}

/-- A list put together from the wanted names in a directory and lists for its subdirectories. -/
def listed (d : Disk) (wanted : String → Bool) (loc : Location)
    (inner : String → List (List String)) : List (List String) :=
  ((d.namesIn loc).filter wanted).map (fun n => [n]) ++
    ((d.namesIn loc).filter fun n => d.isDirAt (loc ++ [n])).flatMap fun n =>
      (inner n).map (n :: ·)

lemma mem_listed {ns : List String} : ns ∈ listed d wanted loc inner ↔
    (∃ n, wanted n = true ∧ d.get? (loc ++ [n]) ≠ none ∧ ns = [n]) ∨
      ∃ n, d.get? (loc ++ [n]) = some .dir ∧ ∃ ms ∈ inner n, ns = n :: ms := by
  simp only [listed, List.mem_append, List.mem_map, List.mem_flatMap, List.mem_filter,
    Disk.mem_namesIn, Disk.isDirAt_iff]
  refine or_congr (exists_congr fun n => ?_) (exists_congr fun n => ?_)
  · rw [and_comm (b := wanted n = true), and_assoc, eq_comm (a := ns)]
  · simp only [eq_comm (a := ns)]
    exact and_congr_left fun _ => ⟨And.right, fun h => ⟨by simp [h], h⟩⟩

/-- Lists of subdirectories that are in order make a list that is. -/
lemma listed_ordered (htree : d.IsTree)
    (hne : ∀ n, d.get? (loc ++ [n]) = some .dir → ∀ ns ∈ inner n, ns ≠ [])
    (hinner : ∀ n, d.get? (loc ++ [n]) = some .dir → (inner n).Pairwise Earlier) :
    (listed d wanted loc inner).Pairwise Earlier := by
  have hsorted := htree.namesIn_sorted loc
  have hdirs : ∀ n ∈ (d.namesIn loc).filter fun n => d.isDirAt (loc ++ [n]),
      d.get? (loc ++ [n]) = some .dir := fun n hn =>
    Disk.isDirAt_iff.mp (List.mem_filter.mp hn).2
  refine List.pairwise_append.mpr ⟨?_, List.pairwise_flatMap.mpr ⟨fun n hn => ?_, ?_⟩, ?_⟩
  · exact List.pairwise_map.mpr ((hsorted.filter _).imp .own)
  · exact List.pairwise_map.mpr ((hinner n (hdirs n hn)).imp .inside)
  · refine (hsorted.filter _).imp_of_mem fun {m n} hm hn hmn => ?_
    simp only [List.mem_map]
    rintro _ ⟨ms, hms, rfl⟩ _ ⟨ns, hns, rfl⟩
    exact .dirs (hne m (hdirs m hm) ms hms) (hne n (hdirs n hn) ns hns) hmn
  · simp only [List.mem_map, List.mem_flatMap]
    rintro _ ⟨m, -, rfl⟩ _ ⟨n, hn, ns, hns, rfl⟩
    exact .ownFirst (hne n (hdirs n hn) ns hns)

/-- A directory is listed by its own names and the listings of its subdirectories. -/
lemma Listing.step (htree : d.IsTree) (hinner : ∀ n, d.get? (loc ++ [n]) = some .dir →
      Listing d (wanted · = true) (loc ++ [n]) (inner n)) :
    Listing d (wanted · = true) loc (listed d wanted loc inner) := by
  have hordered : (listed d wanted loc inner).Pairwise Earlier :=
    listed_ordered htree (fun n hn _ => (hinner n hn).ne_nil) fun n hn => (hinner n hn).ordered
  refine ⟨fun ns => ?_, hordered.imp Earlier.ne, hordered⟩
  rw [mem_listed]
  constructor
  · rintro (⟨n, hn, hget, rfl⟩ | ⟨n, hdir, ms, hms, rfl⟩)
    · exact ⟨⟨n, rfl, hn⟩, hget⟩
    · obtain ⟨⟨m, hm, hwanted⟩, hget⟩ := ((hinner n hdir).complete ms).mp hms
      refine ⟨⟨m, ?_, hwanted⟩, by simpa using hget⟩
      rwa [List.getLast?_cons_of_ne_nil ((hinner n hdir).ne_nil hms)]
  · rintro ⟨⟨m, hm, hwanted⟩, hget⟩
    match ns, hm with
    | [n], rfl => exact .inl ⟨n, hwanted, hget, rfl⟩
    | n :: m' :: ms, hm =>
      -- below a subdirectory
      have hdir : d.get? (loc ++ [n]) = some .dir := htree.dir_of_below hget (by simp)
      refine .inr ⟨n, hdir, m' :: ms, ((hinner n hdir).complete _).mpr ⟨⟨m, ?_, hwanted⟩, ?_⟩, rfl⟩
      · rwa [List.getLast?_cons_cons] at hm
      · simpa using hget

end

/-! ## Paths below a path -/

namespace Path

/-- The path of an entry below a path, by the names that lead to it. -/
def descend (p : Path) (ns : List String) : Path := { p with names := p.names ++ ns }

@[simp] lemma descend_nil (p : Path) : p.descend [] = p := by simp [descend]

lemma descend_descend (p : Path) (ms ns : List String) :
    (p.descend ms).descend ns = p.descend (ms ++ ns) := by simp [descend]

lemma ofText_name {n : String} (hempty : n ≠ "") (hdot : n ≠ ".") (hslash : '/' ∉ n.toList) :
    ofText n = ⟨0, [n]⟩ := by
  have hparts : parts n = [n] := by
    rw [parts, List.splitOn_eq_singleton hslash]
    simp
  have hlead : leadingSlashes n = 0 := by
    have htake : n.toList.takeWhile (· = '/') = [] := by
      cases hn : n.toList with
      | nil => rfl
      | cons c cs =>
        rw [hn] at hslash
        simp [List.ne_of_not_mem_cons hslash |>.symm]
    simp [leadingSlashes, htake]
  rw [ofText, hparts, hlead]
  simp [hempty, hdot]

lemma child_eq {n : String} (p : Path) (hn : n ≠ "" ∧ n ≠ "." ∧ '/' ∉ n.toList) :
    p.child n = p.descend [n] := by
  rw [child, ofText_name hn.1 hn.2.1 hn.2.2]
  rfl

end Path

/-! ## The search -/

section

variable {α β ε : Type} {f : α → Except ε β}

lemma mapM_eq_ok {g : α → β} : ∀ {xs : List α}, (∀ x ∈ xs, f x = .ok (g x)) →
    xs.mapM f = .ok (xs.map g)
  | [], _ => rfl
  | x :: xs, h => by
    rw [List.mapM_cons, h x (by simp), mapM_eq_ok fun y hy => h y (by simp [hy])]
    rfl

/-- If something fails along a list, the first failure is that of the whole. -/
lemma mapM_cases : ∀ xs : List α, (∀ x ∈ xs, ∃ y, f x = .ok y) ∨
    ∃ x ∈ xs, ∃ e, f x = .error e ∧ xs.mapM f = .error e
  | [] => .inl (by simp)
  | x :: xs => by
    cases hx : f x with
    | error e =>
      refine .inr ⟨x, by simp, e, hx, ?_⟩
      rw [List.mapM_cons, hx]
      rfl
    | ok y =>
      rcases mapM_cases xs with hall | ⟨z, hz, e, he, hmap⟩
      · exact .inl (List.forall_mem_cons.mpr ⟨⟨y, hx⟩, hall⟩)
      · refine .inr ⟨z, by simp [hz], e, he, ?_⟩
        rw [List.mapM_cons, hx, hmap]
        rfl

end

namespace Glob

variable {d : Disk} {pattern : String}

/-- The path of a directory below a path is short enough to be followed. -/
def Short (p : Path) : Prop := p.text.utf8ByteSize ≤ Disk.maxPath

/-- The paths found in a directory and in its subdirectories, by the names that lead there. -/
lemma map_descend_listed {loc : Location} (htree : d.IsTree) (p : Path)
    (inner : String → List (List String)) :
    (listed d (matchesName pattern) loc inner).map p.descend =
      ((d.namesIn loc).filter (matchesName pattern)).map p.child ++
        (((d.namesIn loc).filter fun n => d.isDirAt (loc ++ [n])).map fun n =>
          (inner n).map (p.child n).descend).flatten := by
  have hchild : ∀ n ∈ d.namesIn loc, p.child n = p.descend [n] := fun n hn =>
    p.child_eq (htree.writable_name (Disk.mem_namesIn.mp hn))
  rw [listed, List.map_append, List.map_map, List.map_flatMap, ← List.flatMap_def]
  congr 1
  · exact List.map_congr_left fun n hn => (hchild n (List.mem_of_mem_filter hn)).symm
  · refine List.flatMap_congr fun n hn => ?_
    rw [List.map_map, hchild n (List.mem_of_mem_filter hn)]
    exact List.map_congr_left fun ns _ => (p.descend_descend [n] ns).symm

/-- What a search below a directory can come to: the paths of a listing, if the path of every
directory is short enough, or the refusal of a directory with one that is not. -/
inductive Searched (d : Disk) (wanted : String → Prop) (loc : Location) (p : Path) :
    Except FileError (List Path) → Prop
  | found {found : List (List String)} : Listing d wanted loc found →
    (∀ ns, d.get? (loc ++ ns) = some .dir → Short (p.descend ns)) →
    Searched d wanted loc p (.ok (found.map p.descend))
  | refused {ns : List String} : d.get? (loc ++ ns) = some .dir → ¬ Short (p.descend ns) →
    Searched d wanted loc p (.error ⟨.nameTooLong, (p.descend ns).text⟩)

/-- One level of a search: its subdirectories are searched one after the other. -/
lemma Searched.step (htree : d.IsTree) {loc : Location} {p : Path} (hshort : Short p)
    {search : String → Except FileError (List Path)}
    (h : ∀ n, d.get? (loc ++ [n]) = some .dir →
      Searched d (matchesName pattern · = true) (loc ++ [n]) (p.child n) (search n)) :
    Searched d (matchesName pattern · = true) loc p (do
      let inner ← ((d.namesIn loc).filter fun n => d.isDirAt (loc ++ [n])).mapM search
      return ((d.namesIn loc).filter (matchesName pattern)).map p.child ++ inner.flatten) := by
  have hchild : ∀ n, d.get? (loc ++ [n]) = some .dir → p.child n = p.descend [n] := by
    intro n hn
    have hn' : d.get? (loc ++ [n]) ≠ none := by simp [hn]
    exact p.child_eq (htree.writable_name hn')
  have hdirs : ∀ n ∈ (d.namesIn loc).filter fun n => d.isDirAt (loc ++ [n]),
      d.get? (loc ++ [n]) = some .dir := fun n hn =>
    Disk.isDirAt_iff.mp (List.mem_filter.mp hn).2
  rcases mapM_cases (f := search) ((d.namesIn loc).filter fun n => d.isDirAt (loc ++ [n]))
    with hall | ⟨n, hn, e, he, hmap⟩
  · have hfound : ∀ n, d.get? (loc ++ [n]) = some .dir → ∃ found,
        search n = .ok (found.map (p.child n).descend) ∧
          Listing d (matchesName pattern · = true) (loc ++ [n]) found ∧
          ∀ ns, d.get? (loc ++ [n] ++ ns) = some .dir → Short ((p.child n).descend ns) := by
      intro n hn
      have hmem : n ∈ (d.namesIn loc).filter fun n => d.isDirAt (loc ++ [n]) :=
        List.mem_filter.mpr ⟨Disk.mem_namesIn.mpr (by simp [hn]), Disk.isDirAt_iff.mpr hn⟩
      obtain ⟨fs, hfs⟩ := hall n hmem
      have hsearch := h n hn
      rw [hfs] at hsearch ⊢
      cases hsearch with
      | found hlist hsub => exact ⟨_, rfl, hlist, hsub⟩
    choose! inner hinner using hfound
    rw [mapM_eq_ok fun n hn => (hinner n (hdirs n hn)).1]
    show Searched d _ loc p (.ok _)
    rw [← map_descend_listed htree]
    refine .found (.step htree fun n hn => (hinner n hn).2.1) fun ns hns => ?_
    cases ns with
    | nil => simpa using hshort
    | cons n ns =>
      have hdir : d.get? (loc ++ [n]) = some .dir := by
        by_cases hnil : ns = []
        · rwa [hnil] at hns
        · have hget : d.get? (loc ++ n :: ns) ≠ none := by simp [hns]
          exact htree.dir_of_below hget hnil
      have hsub := (hinner n hdir).2.2 ns (by simpa using hns)
      rwa [hchild n hdir, p.descend_descend] at hsub
  · -- the first subdirectory that cannot be searched ends the search
    rw [hmap]
    show Searched d _ loc p (.error e)
    have hn := hdirs n hn
    have hsearch := h n hn
    rw [he] at hsearch
    cases hsearch with
    | @refused ns hdir hlong =>
      rw [hchild n hn, p.descend_descend] at hlong ⊢
      exact .refused (by simpa using hdir) hlong

/-- A search with room for all depths lists what is below a directory, unless it comes to a
directory with a path that is too long. -/
lemma searched_belowFrom (htree : d.IsTree) : ∀ (fuel : Nat) (loc : Location) (p : Path),
    (∀ ns, d.get? (loc ++ ns) ≠ none → ns.length < fuel) → d.get? loc = some .dir →
    Searched d (matchesName pattern · = true) loc p (belowFrom d pattern fuel loc p) := by
  intro fuel
  induction fuel with
  | zero =>
    intro loc p hroom hdir
    exact absurd (hroom [] (by simp [hdir])) (by simp)
  | succ fuel ih =>
    intro loc p hroom hdir
    rw [belowFrom]
    split
    · next hlong =>
      have hrefused := @Searched.refused d (matchesName pattern · = true) loc p []
        (by simpa using hdir) (by simpa [Short] using hlong)
      rwa [p.descend_nil] at hrefused
    · next hshort =>
      refine .step htree (not_lt.mp hshort) fun n hn => ih _ _ (fun ns hns => ?_) hn
      have hlen := hroom (n :: ns) (by simpa using hns)
      simpa using hlen

/-- The search below a directory of a tree. -/
lemma searched_below (htree : d.IsTree) {here loc : Location} {p : Path}
    (hfind : d.find here p.text = .ok (loc, .dir)) :
    Searched d (matchesName pattern · = true) loc p (below d here p pattern) := by
  have hdir : d.get? loc = some .dir := (Disk.find_eq_ok_iff.mp hfind).2
  rw [below, hfind]
  refine searched_belowFrom htree _ loc p (fun ns hns => ?_) hdir
  have hlen := htree.length_le hns
  rw [List.length_append] at hlen
  omega

end Glob

/-! ## Names of modules -/

/-- A name that ends in `.py`. -/
def EndsInPy (n : String) : Prop := ".py".toList <:+ n.toList

instance : DecidablePred EndsInPy := fun n =>
  inferInstanceAs (Decidable (".py".toList <:+ n.toList))

namespace Glob

lemma matchesParts_star {ps : List Part} {cs : List Char} :
    matchesParts (.star :: ps) cs = true ↔ ∃ t, t <:+ cs ∧ matchesParts ps t = true := by
  induction cs with
  | nil => simp [matchesParts]
  | cons c cs ih =>
    rw [matchesParts, Bool.or_eq_true, ih]
    constructor
    · rintro (h | ⟨t, ht, h⟩)
      · exact ⟨c :: cs, List.suffix_refl _, h⟩
      · exact ⟨t, ht.trans (List.suffix_cons c cs), h⟩
    · rintro ⟨t, ht, h⟩
      rcases List.suffix_cons_iff.mp ht with rfl | ht
      · exact .inl h
      · exact .inr ⟨t, ht, h⟩

lemma matchesParts_chars (l : List Char) : ∀ cs : List Char,
    matchesParts (l.map .char) cs = true ↔ cs = l := by
  induction l with
  | nil =>
    intro cs
    simp [matchesParts]
  | cons c l ih =>
    intro cs
    cases cs with
    | nil => simp [matchesParts]
    | cons c' cs => simp [matchesParts, Part.has, ih]

lemma matchesName_py {n : String} : matchesName "*.py" n = true ↔ EndsInPy n := by
  have hparts : parts "*.py" = .star :: ".py".toList.map .char := by decide
  rw [matchesName, hparts, matchesParts_star, EndsInPy]
  simp only [matchesParts_chars, exists_eq_right]

end Glob

/-- The ending of a name is `.py` if the name ends so and there is something before it. -/
lemma Path.ending_eq_py_iff {p : Path} :
    p.ending = ".py" ↔ EndsInPy p.name ∧ p.name ≠ ".py" := by
  rw [ending, EndsInPy, ← String.toList_inj, String.toList_ofList]
  constructor
  · intro h
    refine ⟨h ▸ List.drop_suffix _ _, fun hname => ?_⟩
    rw [hname] at h
    revert h
    decide
  · rintro ⟨⟨t, ht⟩, hname⟩
    have hne : t ≠ [] := by
      rintro rfl
      exact hname (String.toList_inj.mp ht.symm)
    have hstem : stemLength p.name.toList = t.length := by
      rw [stemLength, ← ht]
      simp [hne]
    rw [hstem, ← ht, List.drop_left]

end QualityGate
