/-
# Questions that come to no end

One of our finders asks all others on the list, and leaves out only itself.  Two of ours on the list
therefore ask each other, again and again, as long as nobody else knows a source file.

The lists that come about by putting ours in front, taking them away and adding them at the end have
at most one of ours in front of the other finders (`Arranged`).  A source file that the other
finders know, or a failure of theirs, is met before a second one of ours is asked
(`askOurs_of_source`).  If they know none, each one of ours passes the question on to another one of
ours, however often they may ask each other (`askOurs_endless`), unless there is only one.

`findFresh_reached`: what a new one of ours says to a question, for every such list.
-/
import Mathlib
import QualityGate.Proofs.FinderOrigins
import QualityGate.Proofs.FinderRuns

namespace QualityGate.Imports

/-! ## Lists that come about -/

/-- The settings in force in a session, which want modules to be checked. -/
structure Wanted (w : Session) (c : Settings) : Prop where
  current : Settings.current w.disk w.places = .ok c
  on : isOn c "enable_import_hook" = true

/-- The lists that come about from a list of other finders, each step in a session of its own. -/
inductive Reached (others : List Finder) : List Finder → Prop
  | start : Reached others others
  | install {all all' : List Finder} {w w' : Session} {c : Settings} : Reached others all →
    Wanted w c → install all w = .ok all' w' → Reached others all'
  | uninstall {all : List Finder} : Reached others all → Reached others (uninstall all)
  | add {all all' : List Finder} {w w' : Session} {c : Settings} : Reached others all →
    Wanted w c → addLast all w = .ok all' w' → Reached others all'

/-- The number of one of ours. -/
def Finder.id? : Finder → Option Nat
  | ours id _ => some id
  | other _ => none

/-- The numbers of ours in a list. -/
def ourIds (all : List Finder) : List Nat := all.filterMap Finder.id?

/-- Is it one of ours that is switched on? -/
def Finder.isActive : Finder → Bool
  | ours _ c => isOn c "enable_import_hook"
  | other _ => false

/-- Other finders with at most one of ours in front and any number behind them, all of them switched
on and with numbers of their own. -/
structure Arranged (others all : List Finder) : Prop where
  shape : ∃ (front : Option Finder) (back : List Finder), all = front.toList ++ others ++ back ∧
    ∀ f ∈ front.toList ++ back, f.isActive = true
  distinct : (ourIds all).Nodup

section

variable {others all : List Finder} {w w' : Session} {c : Settings}

lemma lt_freshId {id : Nat} (h : id ∈ ourIds all) : id < freshId all := by
  induction all with
  | nil => cases h
  | cons f fs ih =>
    cases f with
    | ours id' c =>
      rcases List.mem_cons.mp h with rfl | h
      · exact Nat.le_max_left _ _
      · exact lt_of_lt_of_le (ih h) (Nat.le_max_right _ _)
    | other find => exact ih h

lemma mem_ourIds {id : Nat} : id ∈ ourIds all ↔ ∃ s, .ours id s ∈ all := by
  rw [ourIds, List.mem_filterMap]
  constructor
  · rintro ⟨f, hf, hid⟩
    cases f with
    | ours id' s =>
      cases hid
      exact ⟨s, hf⟩
    | other find => cases hid
  · rintro ⟨s, hs⟩
    exact ⟨.ours id s, hs, rfl⟩

lemma length_ourIds : (ourIds all).length = (all.filter Finder.isOurs).length := by
  induction all with
  | nil => rfl
  | cons f fs ih =>
    cases f with
    | ours id s => exact congrArg (· + 1) ih
    | other find => exact ih

lemma isOurs_of_isActive {f : Finder} (h : f.isActive = true) : f.isOurs = true := by
  cases f with
  | ours id s => rfl
  | other find => cases h

lemma uninstall_sublist : (uninstall all).Sublist all := by
  induction all with
  | nil => exact .slnil
  | cons f fs ih =>
    rw [uninstall]
    split
    · exact List.sublist_cons_self f fs
    · exact ih.cons_cons f

lemma addLast_ok (h : Settings.current w.disk w.places = .ok c) :
    addLast all w = .ok (all ++ [.ours (freshId all) c]) w := by
  rw [addLast, Act.bind_ok (currentSettings_ok h)]
  rfl

namespace Arranged

lemma start (hothers : ∀ f ∈ others, f.isOurs = false) : Arranged others others where
  shape := ⟨none, [], by simp, by simp⟩
  distinct := by
    have hnone : ourIds others = [] := by
      rw [← List.length_eq_zero_iff, length_ourIds, List.length_eq_zero_iff, List.filter_eq_nil_iff]
      intro f hf
      simp [hothers f hf]
    rw [hnone]
    exact List.nodup_nil

lemma install (h : Arranged others all) (hw : Wanted w c) {all' : List Finder}
    (hrun : Imports.install all w = .ok all' w') : Arranged others all' := by
  rw [install_ok hw.current, hw.on] at hrun
  cases hrun
  split
  · exact h
  · next hnone =>
    -- nothing of ours is on the list, in front or behind
    simp only [Bool.not_true, Bool.false_or, List.any_eq_true, not_exists, not_and] at hnone
    obtain ⟨front, back, rfl, hactive⟩ := h.shape
    have hempty : front.toList ++ back = [] := by
      refine List.eq_nil_iff_forall_not_mem.mpr fun f hf => ?_
      refine hnone f ?_ (isOurs_of_isActive (hactive f hf))
      simp only [List.mem_append] at hf ⊢
      tauto
    obtain ⟨hfront, rfl⟩ := List.append_eq_nil_iff.mp hempty
    obtain rfl : front = none := Option.toList_eq_nil_iff.mp hfront
    refine ⟨⟨some _, [], rfl, ?_⟩, ?_⟩
    · intro f hf
      rw [List.append_nil, Option.toList_some, List.mem_singleton] at hf
      subst hf
      exact hw.on
    · refine List.nodup_cons.mpr ⟨fun hmem => ?_, h.distinct⟩
      exact lt_irrefl _ (lt_freshId hmem)

lemma uninstall (hothers : ∀ f ∈ others, f.isOurs = false) (h : Arranged others all) :
    Arranged others (Imports.uninstall all) := by
  refine ⟨?_, h.distinct.sublist (uninstall_sublist.filterMap _)⟩
  obtain ⟨front, back, rfl, hactive⟩ := h.shape
  cases front with
  | some f =>
    refine ⟨none, back, ?_, fun g hg => hactive g (List.mem_cons_of_mem f hg)⟩
    exact if_pos (isOurs_of_isActive (hactive f (by simp)))
  | none =>
    cases back with
    | nil => exact ⟨none, [], by simp [uninstall_of_none hothers], by simp⟩
    | cons f back =>
      refine ⟨none, back, ?_, fun g hg => hactive g (List.mem_cons_of_mem f hg)⟩
      exact uninstall_first hothers (isOurs_of_isActive (hactive f (by simp)))

lemma add (h : Arranged others all) (hw : Wanted w c) {all' : List Finder}
    (hrun : addLast all w = .ok all' w') : Arranged others all' := by
  rw [addLast_ok hw.current] at hrun
  cases hrun
  constructor
  · obtain ⟨front, back, rfl, hactive⟩ := h.shape
    refine ⟨front, back ++ [_], List.append_assoc _ _ _, fun f hf => ?_⟩
    rw [← List.append_assoc, List.mem_append, List.mem_singleton] at hf
    rcases hf with hf | rfl
    · exact hactive f hf
    · exact hw.on
  · have hids : ourIds (all ++ [.ours (freshId all) c]) = ourIds all ++ [freshId all] := by
      simp [ourIds, Finder.id?]
    rw [hids, List.nodup_append]
    refine ⟨h.distinct, List.nodup_singleton _, fun id hid id' hid' => ?_⟩
    rw [List.mem_singleton.mp hid']
    exact (lt_freshId hid).ne

end Arranged

lemma Reached.arranged (hothers : ∀ f ∈ others, f.isOurs = false) (h : Reached others all) :
    Arranged others all := by
  induction h with
  | start => exact .start hothers
  | install _ hw hrun ih => exact ih.install hw hrun
  | uninstall _ ih => exact ih.uninstall hothers
  | add _ hw hrun ih => exact ih.add hw hrun

/-- If there are several of ours, one is left when one is left out. -/
lemma exists_other (hdistinct : (ourIds all).Nodup) (hseveral : 1 < (all.filter Finder.isOurs).length)
    (self : Option Nat) : ∃ id s, .ours id s ∈ all ∧ some id ≠ self := by
  by_contra hall
  push Not at hall
  rw [← length_ourIds] at hseveral
  cases hids : ourIds all with
  | nil => simp [hids] at hseveral
  | cons id ids =>
    have hself : ∀ id' ∈ ourIds all, some id' = self := fun id' hid' => by
      obtain ⟨s, hs⟩ := mem_ourIds.mp hid'
      exact hall id' s hs
    cases ids with
    | nil => simp [hids] at hseveral
    | cons id' ids =>
      have hsame : some id = some id' :=
        (hself id (by simp [hids])).trans (hself id' (by simp [hids])).symm
      rw [hids, Option.some.inj hsame] at hdistinct
      simp at hdistinct

end

/-! ## Questions that end -/

section

variable {q : Question} {w : Session} {fs gs all : List Finder}
  {ask : Nat → Settings → Act (Option Located)} {self : Option Nat} {settings : Settings}

lemma askOthers_append : askOthers ask q (fs ++ gs) = (do
      match ← askOthers ask q fs with
      | some l => return some l
      | none => askOthers ask q gs) := by
  induction fs with
  | nil => simp [askOthers]
  | cons f fs ih =>
    rw [List.cons_append, askOthers, askOthers, bind_assoc]
    congr 1
    funext found
    cases found.bind Located.source? with
    | some path => simp
    | none => exact ih

/-- Behind a source file, or a failure, nobody is asked. -/
lemma askOthers_append_of_source (hne : sourceAmong q w fs ≠ .ok none)
    (h : askOthers ask q fs w = withLoader (sourceAmong q w fs) w) :
    askOthers ask q (fs ++ gs) w = withLoader (sourceAmong q w fs) w := by
  rw [askOthers_append]
  cases hamong : sourceAmong q w fs with
  | error e =>
    rw [hamong] at h
    exact Act.bind_error h
  | ok r =>
    cases r with
    | none => exact absurd hamong hne
    | some path =>
      rw [hamong] at h
      rcases withLoader_cases w path with ⟨e, he⟩ | ⟨loader, hl⟩
      · rw [Act.bind_error (h.trans he), he]
      · rw [Act.bind_ok (h.trans hl), hl]
        rfl

/-- Let the others know a source file, or fail, and let none of ours but the one that is asked stand
in front of them. -/
lemma askOurs_alone_of_source (hne : sourceAmong q w fs ≠ .ok none)
    (hself : ∀ id s, .ours id s ∈ fs → some id = self) (hon : isOn settings "enable_import_hook" = true)
    (fuel : Nat) :
    askOurs (fuel + 1) (fs ++ gs) self settings q w = withLoader (sourceAmong q w fs) w := by
  rw [askOurs, hon]
  refine askOthers_append_of_source hne (askOthers_eq fun id s hmem => .inl ?_)
  simp only [hself id s hmem, if_true]
  rfl

/-- Let the others know a source file, or fail, and let at most one of ours stand in front of
them. -/
lemma askOurs_of_source (hne : sourceAmong q w fs ≠ .ok none)
    (hone : ∀ id s id' s', .ours id s ∈ fs → .ours id' s' ∈ fs → id' = id)
    (hactive : ∀ id s, .ours id s ∈ fs → isOn s "enable_import_hook" = true)
    (hon : isOn settings "enable_import_hook" = true) (fuel : Nat) :
    askOurs (fuel + 2) (fs ++ gs) self settings q w = withLoader (sourceAmong q w fs) w := by
  rw [askOurs, hon]
  refine askOthers_append_of_source hne (askOthers_eq fun id s hmem => ?_)
  by_cases hid : some id = self
  · exact .inl (by simp only [hid, if_true]; rfl)
  · simp only [if_neg hid]
    exact .inr (askOurs_alone_of_source hne (fun id' s' hmem' => congrArg some (hone id s id' s' hmem hmem'))
      (hactive id s hmem) fuel)

/-! ## Questions that do not end -/

/-- If one of ours comes to no end and nobody before it knows a source file, the question comes to
no end. -/
lemma askOthers_endless (hnone : sourceAmong q w fs = .ok none)
    (hours : ∀ id s, .ours id s ∈ fs →
      ask id s w = .ok none w ∨ ask id s w = .error .endless w)
    (hsome : ∃ id s, .ours id s ∈ fs ∧ ask id s w = .error .endless w) :
    askOthers ask q fs w = .error .endless w := by
  induction fs with
  | nil =>
    obtain ⟨id, s, hmem, -⟩ := hsome
    cases hmem
  | cons f fs ih =>
    have hrest : (∃ id s, .ours id s ∈ fs ∧ ask id s w = .error .endless w) →
        sourceAmong q w fs = .ok none → askOthers ask q fs w = .error .endless w := fun h h' =>
      ih h' (fun id s hmem => hours id s (List.mem_cons_of_mem f hmem)) h
    obtain ⟨id', s', hmem', hask'⟩ := hsome
    cases f with
    | other find =>
      rw [sourceAmong] at hnone
      cases hfind : find q w with
      | error e => simp [hfind] at hnone
      | ok found =>
        rw [askOthers_cons (answer_ok hfind)]
        cases hsource : found.bind Located.source? with
        | some path => simp [hfind, hsource] at hnone
        | none =>
          simp only [hfind, hsource] at hnone
          exact hrest ⟨id', s', by simpa using hmem', hask'⟩ hnone
    | ours id s =>
      have hanswer : Finder.answer ask q (.ours id s) w = ask id s w := rfl
      rcases hours id s (by simp) with hask | hask
      · rw [askOthers_cons (hanswer.trans hask)]
        refine hrest ?_ hnone
        rcases List.mem_cons.mp hmem' with heq | hmem'
        · cases heq
          rw [hask] at hask'
          cases hask'
        · exact ⟨id', s', hmem', hask'⟩
      · exact askOthers_error (hanswer.trans hask)

/-- If the others know no source file and there are several of ours, no bound is large enough. -/
lemma askOurs_endless (hnone : sourceAmong q w all = .ok none)
    (hactive : ∀ id s, .ours id s ∈ all → isOn s "enable_import_hook" = true)
    (hother : ∀ self : Option Nat, ∃ id s, .ours id s ∈ all ∧ some id ≠ self) (bound : Nat) :
    ∀ (self : Option Nat) (settings : Settings), isOn settings "enable_import_hook" = true →
      askOurs bound all self settings q w = .error .endless w := by
  induction bound with
  | zero => exact fun _ _ _ => rfl
  | succ bound ih =>
    intro self settings hon
    rw [askOurs, hon]
    refine askOthers_endless hnone (fun id s hmem => ?_) ?_
    · by_cases hid : some id = self
      · exact .inl (by simp only [hid, if_true]; rfl)
      · simp only [if_neg hid]
        exact .inr (ih (some id) s (hactive id s hmem))
    · obtain ⟨id, s, hmem, hid⟩ := hother self
      refine ⟨id, s, hmem, ?_⟩
      simp only [if_neg hid]
      exact ih (some id) s (hactive id s hmem)

end

section

variable {others all : List Finder} {w : Session} {c : Settings}

lemma Arranged.isOn (h : Arranged others all) (hothers : ∀ f ∈ others, f.isOurs = false) {id : Nat}
    {s : Settings} (hmem : .ours id s ∈ all) : isOn s "enable_import_hook" = true := by
  obtain ⟨front, back, rfl, hactive⟩ := h.shape
  have hside : .ours id s ∈ front.toList ++ back := by
    simp only [List.mem_append] at hmem ⊢
    rcases hmem with (hfront | hmem) | hback
    · exact .inl hfront
    · cases hothers _ hmem
    · exact .inr hback
  exact hactive _ hside

/-- Ours know no source files by themselves. -/
lemma sourceAmong_between {front back : List Finder} (hfront : ∀ f ∈ front, f.isActive = true)
    (hback : ∀ f ∈ back, f.isActive = true) (q : Question) (w : Session) :
    sourceAmong q w (front ++ others ++ back) = sourceAmong q w others := by
  have hours {fs : List Finder} (hfs : ∀ f ∈ fs, f.isActive = true) :
      fs.filter (!·.isOurs) = [] := by
    rw [List.filter_eq_nil_iff]
    intro f hf
    simp [isOurs_of_isActive (hfs f hf)]
  rw [← sourceAmong_filter, List.filter_append, List.filter_append, hours hfront, hours hback,
    List.nil_append, List.append_nil, sourceAmong_filter]

lemma Arranged.sourceAmong_eq (h : Arranged others all) (q : Question) (w : Session) :
    sourceAmong q w all = sourceAmong q w others := by
  obtain ⟨front, back, rfl, hactive⟩ := h.shape
  exact sourceAmong_between (fun f hf => hactive f (List.mem_append_left _ hf))
    (fun f hf => hactive f (List.mem_append_right _ hf)) q w

/-- What the others know is found at the second question at the latest. -/
lemma Arranged.askOurs_eq (h : Arranged others all) (hothers : ∀ f ∈ others, f.isOurs = false)
    {q : Question} (hne : sourceAmong q w others ≠ .ok none)
    (hon : Imports.isOn c "enable_import_hook" = true) (fuel : Nat) :
    askOurs (fuel + 2) all none c q w = withLoader (sourceAmong q w others) w := by
  have hactive (id : Nat) (s : Settings) : .ours id s ∈ all → Imports.isOn s _ = true :=
    h.isOn hothers
  obtain ⟨front, back, rfl, hside⟩ := h.shape
  have hfront : ∀ id s, .ours id s ∈ front.toList ++ others → front = some (.ours id s) := by
    intro id s hmem
    rcases List.mem_append.mp hmem with hmem | hmem
    · exact Option.mem_toList.mp hmem
    · cases hothers _ hmem
  have hamong : sourceAmong q w (front.toList ++ others) = sourceAmong q w others := by
    rw [← List.append_nil (front.toList ++ others)]
    exact sourceAmong_between (fun f hf => hside f (List.mem_append_left _ hf)) (by simp) q w
  rw [← hamong] at hne ⊢
  refine askOurs_of_source hne (fun id s id' s' hmem hmem' => ?_)
    (fun id s hmem => hactive id s (List.mem_append_left _ hmem)) hon fuel
  cases (hfront id s hmem).symm.trans (hfront id' s' hmem')
  rfl

lemma findFresh_eq (hw : Settings.current w.disk w.places = .ok c) (all : List Finder)
    (name : String) : findFresh all name w = askOurs maxAsks all none c { name } w := by
  rw [findFresh, Act.bind_ok (currentSettings_ok hw)]

/-- **What a new one of ours says to a question.**  Start from any list of other finders and put
ours in front, take them away and add them at the end, as often as you like, in sessions whose
settings want them.  The answer then does not depend on the bound, once this allows a second
question.  If one of the others fails before a source file is known, the question fails with it; if
the others know a source file, the answer is the first one.  If they know none and there is at most
one of ours on the list, the answer is that there is none.  But if there are several of ours, the
question comes to no end, whatever the bound. -/
theorem findFresh_reached (hothers : ∀ f ∈ others, f.isOurs = false) (h : Reached others all)
    (hw : Wanted w c) (name : String) :
    let q : Question := { name }
    let known := sourceAmong q w others
    let ours := all.filter Finder.isOurs
    (∀ bound, 2 ≤ bound → askOurs bound all none c q w = findFresh all name w) ∧
    (∀ e, known = .error e → findFresh all name w = .error e w) ∧
    (∀ path, known = .ok (some path) →
      findFresh all name w = .ok (some ⟨some path, some ⟨path, c⟩⟩) w) ∧
    (known = .ok none → ours.length ≤ 1 → findFresh all name w = .ok none w) ∧
    (known = .ok none → 1 < ours.length →
      ∀ bound, askOurs bound all none c q w = .error .endless w) := by
  intro q known ours
  have harranged := h.arranged hothers
  have hfound (bound : Nat) (hne : known ≠ .ok none) (hbound : 2 ≤ bound) :
      askOurs bound all none c q w = withLoader known w := by
    obtain ⟨fuel, rfl⟩ := Nat.exists_eq_add_of_le' hbound
    exact harranged.askOurs_eq hothers hne hw.on fuel
  have hnone (bound : Nat) (hknown : known = .ok none) (hone : ours.length ≤ 1)
      (hbound : 2 ≤ bound) : askOurs bound all none c q w = .ok none w := by
    obtain ⟨fuel, rfl⟩ := Nat.exists_eq_add_of_le' hbound
    rw [askOurs_eq hone, hw.on, harranged.sourceAmong_eq]
    change withLoader known w = _
    rw [hknown]
    rfl
  have hendless (bound : Nat) (hknown : known = .ok none) (hseveral : 1 < ours.length) :
      askOurs bound all none c q w = .error .endless w :=
    askOurs_endless ((harranged.sourceAmong_eq q w).trans hknown)
      (fun _ _ hmem => harranged.isOn hothers hmem) (exists_other harranged.distinct hseveral) bound
      none c hw.on
  have hmax : 2 ≤ maxAsks := by decide
  rw [findFresh_eq hw.current]
  refine ⟨fun bound hbound => ?_, fun e he => ?_, fun path hpath => ?_,
    fun hknown hone => hnone _ hknown hone hmax, fun hknown hseveral bound =>
    hendless bound hknown hseveral⟩
  · by_cases hknown : known = .ok none
    · by_cases hone : ours.length ≤ 1
      · rw [hnone bound hknown hone hbound, hnone _ hknown hone hmax]
      · rw [hendless bound hknown (not_le.mp hone), hendless _ hknown (not_le.mp hone)]
    · rw [hfound bound hknown hbound, hfound _ hknown hmax]
  · rw [hfound _ (by simp [he]) hmax, he]
    rfl
  · rw [hfound _ (by simp [hpath]) hmax, hpath, withLoader_ok hw.current]

end

/-! ## Two of ours -/

open Session (bare)

lemma wanted_bare : Wanted bare Settings.defaults where
  current := Settings.current_of_bare_root (by simp [bare, Disk.get?])
  on := by
    simp [isOn, Settings.defaults, Settings.ofFields, Settings.get?, Settings.find?, Key.same,
      Value.truthy]

/-- One of ours in front of other finders, and one behind them. -/
def twoOfOurs (others : List Finder) : List Finder :=
  .ours (freshId others) Settings.defaults :: others ++
    [.ours (max (freshId others + 1) (freshId others)) Settings.defaults]

lemma install_bare {others : List Finder} (hothers : ∀ f ∈ others, f.isOurs = false) :
    install others bare = .ok (.ours (freshId others) Settings.defaults :: others) bare := by
  have hnone : others.any Finder.isOurs = false := by simpa using hothers
  rw [install_ok wanted_bare.current, wanted_bare.on, hnone]
  rfl

lemma addLast_bare (others : List Finder) :
    addLast (.ours (freshId others) Settings.defaults :: others) bare =
      .ok (twoOfOurs others) bare :=
  addLast_ok wanted_bare.current

/-- With two of ours around a finder that knows one module, this module is found, and the question
for another one comes to no end. -/
theorem findFresh_reached_two :
    let others := [findNamed ["m"] "/m.py"]
    Reached others (twoOfOurs others) ∧
      findFresh (twoOfOurs others) "m" bare =
        .ok (some ⟨some "/m.py", some ⟨"/m.py", Settings.defaults⟩⟩) bare ∧
      ∀ bound, askOurs bound (twoOfOurs others) none Settings.defaults { name := "n" } bare =
        .error .endless bare := by
  intro others
  have hothers : ∀ f ∈ others, f.isOurs = false := by decide
  have hreached : Reached others (twoOfOurs others) :=
    .add (.install .start wanted_bare (install_bare hothers)) wanted_bare (addLast_bare others)
  obtain ⟨-, -, hfound, -⟩ := findFresh_reached hothers hreached wanted_bare "m"
  obtain ⟨-, -, -, -, hendless⟩ := findFresh_reached hothers hreached wanted_bare "n"
  refine ⟨hreached, hfound "/m.py" ?_, hendless rfl (by decide)⟩
  have hpy : "/m.py".endsWith ".py" = true := by decide +kernel
  simp [others, findNamed, sourceAmong, Located.source?, Option.filter, hpy]

end QualityGate.Imports

namespace QualityGate.Program

/-! ## A name that no module has -/

/-- What is cut out between separators holds none of them. -/
lemma not_of_mem_splitOnP {α : Type} {p : α → Bool} {xs : List α} :
    ∀ l ∈ xs.splitOnP p, ∀ x ∈ l, p x = false := by
  induction xs with
  | nil => simp
  | cons y ys ih =>
    rw [List.splitOnP_cons_eq_if_modifyHead]
    split
    · rw [List.forall_mem_cons]
      exact ⟨by simp, ih⟩
    · next hy =>
      cases hs : ys.splitOnP p with
      | nil => simp
      | cons a as =>
        rw [hs, List.forall_mem_cons] at ih
        rw [List.modifyHead_cons, List.forall_mem_cons, List.forall_mem_cons]
        exact ⟨⟨by simpa using hy, ih.1⟩, ih.2⟩

lemma contains_wordsOf {s name : String} (hblank : ' ' ∈ name.toList) :
    (wordsOf s).contains name = false := by
  rw [List.contains_eq_mem, decide_eq_false_iff_not]
  intro hname
  rw [wordsOf, String.splitToList_of_valid] at hname
  obtain ⟨l, hl, rfl⟩ := List.mem_map.mp (List.mem_of_mem_filter hname)
  rw [String.toList_ofList] at hblank
  simpa using not_of_mem_splitOnP l hl ' ' hblank

lemma libraryFile?_of_blank {name : String} (hblank : ' ' ∈ name.toList) :
    libraryFile? name = none := by
  have hpackages : libraryPackages.contains name = false := contains_wordsOf hblank
  have hsources : librarySources.contains name = false := contains_wordsOf hblank
  have hbinaries : libraryBinaries.contains name = false := contains_wordsOf hblank
  have hsource : librarySource? name = none := by
    rw [librarySource?, hpackages, hsources]
    rfl
  rw [libraryFile?, hsource, hbinaries]
  rfl

end QualityGate.Program

namespace QualityGate.Imports

open Session (bare)

lemma sourceAmong_other {q : Question} {w : Session} {fs : List Finder} {found : Option Located}
    {find : Question → Session → Except Failure (Option Located)} (h : find q w = .ok found)
    (hnone : found.bind Located.source? = none) :
    sourceAmong q w (.other find :: fs) = sourceAmong q w fs := by
  rw [sourceAmong, h]
  simp only [hnone]

/-- Among the finders of the language nobody knows a module whose name has a blank in it, if there
are no files. -/
lemma sourceAmong_bare {name : String} (hblank : ' ' ∈ name.toList) :
    sourceAmong { name } bare initialFinders = .ok none := by
  have hfile : Program.findAmong bare.disk bare.places.here bare.searchPath (Program.lastName name) =
      none := rfl
  have hanswer : fileAnswer (Program.findAmong bare.disk bare.places.here bare.searchPath
      (Program.lastName name)) (Program.libraryFile? name) = none := by
    rw [hfile, Program.libraryFile?_of_blank hblank]
    rfl
  rw [initialFinders, sourceAmong_findNamed (by decide),
    sourceAmong_findNamed (by decide +kernel), sourceAmong_findNamed (by decide +kernel)]
  exact sourceAmong_other (congrArg Except.ok hanswer) rfl

/-- One of ours is installed and another one added, and a new one of ours is asked for a module that
nobody knows: it gives no answer. -/
theorem findFresh_two_endless :
    ∃ all all', install initialFinders bare = .ok all bare ∧ addLast all bare = .ok all' bare ∧
      findFresh all' "no such module" bare = .error .endless bare := by
  have hlanguage : ∀ f ∈ initialFinders, f.isOurs = false := by decide
  have harranged : Arranged initialFinders (twoOfOurs initialFinders) :=
    ((Arranged.start hlanguage).install wanted_bare (install_bare hlanguage)).add wanted_bare
      (addLast_bare initialFinders)
  refine ⟨_, _, install_bare hlanguage, addLast_bare initialFinders, ?_⟩
  rw [findFresh_eq wanted_bare.current]
  refine askOurs_endless ?_ (fun _ _ hmem => harranged.isOn hlanguage hmem)
    (exists_other harranged.distinct (by decide)) _ none _ wanted_bare.on
  rw [harranged.sourceAmong_eq]
  exact sourceAmong_bare (by decide)

end QualityGate.Imports
