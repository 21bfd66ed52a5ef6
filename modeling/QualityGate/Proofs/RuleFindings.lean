/-
# What a check finds about one thing

A check holds a file to several limits, one after the other, and fails at the first limit that is no
number.  To say what it finds about one of them, whatever the others are, a part of a check is followed
by an invariant with two halves (`Finds`): that it comes to its end if it can, and what it then has
added to the issues about the thing in question.  The walk through a tree is followed once for all
rules on functions (`Finds.visit`).
-/
import Mathlib
import QualityGate.Proofs.LimitsFindings

namespace QualityGate.Limits

open Source (Tree)

/-! ## Limits that can be compared with -/

/-- The limits of a check and their defaults. -/
def limits : List (String × Nat) :=
  [("max_file_lines", 300), ("max_function_lines", 50), ("max_function_params", 4),
    ("max_nesting_depth", 4)]

/-- A configuration in which every limit can be compared with a count. -/
def Config.Comparable (c : Config) : Prop :=
  ∀ l ∈ limits, ∃ v, c.get l.1 (.int l.2) = .ok v ∧ ∀ n, ∃ above, exceeds n v = .ok above

lemma Config.Sets.comparable {c : Config} {b : Bounds} (h : Config.Sets c b) :
    Config.Comparable c := by
  intro l hl
  simp only [limits, List.mem_cons, List.not_mem_nil, or_false] at hl
  rcases hl with rfl | rfl | rfl | rfl
  · exact ⟨_, h.fileLines, fun _ => ⟨_, rfl⟩⟩
  · exact ⟨_, h.functionLines, fun _ => ⟨_, rfl⟩⟩
  · exact ⟨_, h.params, fun _ => ⟨_, rfl⟩⟩
  · exact ⟨_, h.nesting, fun _ => ⟨_, rfl⟩⟩

/-! ## What a part of a check finds -/

/-- The issues about something that a checker has found. -/
def Checker.about (k : Checker) (about : Issue → Bool) : List Issue := k.issues.filter about

lemma Checker.about_adding (k : Checker) (about : Issue → Bool) (is : List Issue) :
    (k.adding is).about about = k.about about ++ is.filter about := by
  simp [Checker.about, adding]

/-- Under a configuration, a part of a check comes to its end if `Free` holds; and if it does, the
configuration is the same and these are the issues about something that were added. -/
structure Finds (about : Issue → Bool) (Free : Prop) (c : Config) (a : Check Unit)
    (is : List Issue) : Prop where
  ends : Free → ∀ k : Checker, k.config = c → ∃ k', a k = .ok () k'
  adds : ∀ k k' : Checker, k.config = c → a k = .ok () k' →
    k'.config = c ∧ k'.about about = k.about about ++ is

namespace Finds

variable {about : Issue → Bool} {Free : Prop} {c : Config}

lemma nothing : Finds about Free c (pure ()) [] := by
  refine ⟨fun _ k _ => ⟨k, rfl⟩, fun k k' hk h => ?_⟩
  cases h
  exact ⟨hk, (List.append_nil _).symm⟩

lemma throw {f : Failure} (h : ¬ Free) {is : List Issue} :
    Finds about Free c (MonadExcept.throw f) is := by
  refine ⟨fun hfree => absurd hfree h, fun k k' hk h => ?_⟩
  cases h

lemma seq {a a' : Check Unit} {is js : List Issue} (h : Finds about Free c a is)
    (h' : Finds about Free c a' js) : Finds about Free c (do a; a') (is ++ js) := by
  have hbind : ∀ k, (do a; a') k = EStateM.bind a (fun _ => a') k := fun _ => rfl
  refine ⟨fun hfree k hk => ?_, fun k k' hk hrun => ?_⟩
  · obtain ⟨k₁, h₁⟩ := h.ends hfree k hk
    obtain ⟨k₂, h₂⟩ := h'.ends hfree k₁ (h.adds k k₁ hk h₁).1
    exact ⟨k₂, by rw [hbind, EStateM.bind, h₁]; exact h₂⟩
  · rw [hbind, EStateM.bind] at hrun
    cases hmid : a k with
    | error f k₁ => rw [hmid] at hrun; cases hrun
    | ok x k₁ =>
      rw [hmid] at hrun
      obtain ⟨hcfg₁, hadds₁⟩ := h.adds k k₁ hk hmid
      obtain ⟨hcfg, hadds⟩ := h'.adds k₁ k' hcfg₁ hrun
      exact ⟨hcfg, by rw [hadds, hadds₁, List.append_assoc]⟩

/-- A count adds nothing unless its issue is about the thing in question. -/
lemma count {name : String} {default : Nat} (n : Int) {issue : Value → Issue}
    (hfree : Free → Config.Comparable c) (hname : (name, default) ∈ limits)
    (hissue : ∀ v, about (issue v) = false) :
    Finds about Free c (Check.count name default n issue) [] := by
  constructor
  · rintro h k rfl
    obtain ⟨v, hv, hcompare⟩ := hfree h _ hname
    obtain ⟨above, habove⟩ := hcompare n
    refine ⟨k.adding (issueIf above (issue v)), ?_⟩
    rw [count_run, hv]
    simp only [habove]
  · rintro k k' rfl hrun
    rw [count_run] at hrun
    split at hrun
    · cases hrun
    · split at hrun
      · cases hrun
      · cases hrun
        refine ⟨rfl, ?_⟩
        rw [Checker.about_adding, issueIf]
        split <;> simp [hissue]

lemma of_reports {a : Check Unit} {is : List Issue} (h : Reports c a is)
    (habout : ∀ i ∈ is, about i = true) : Finds about Free c a is := by
  refine ⟨fun _ k hk => ⟨_, h k hk⟩, fun k k' hk hrun => ?_⟩
  rw [h k hk] at hrun
  cases hrun
  exact ⟨hk, by rw [Checker.about_adding, List.filter_eq_self.mpr habout]⟩

/-- A count against an integer, the issue of which is about the thing in question. -/
lemma count_about {name : String} {default : Nat} {limit : Int} (n : Int) (issue : Value → Issue)
    (h : c.get name (.int default) = .ok (.int limit)) (hissue : ∀ v, about (issue v) = true) :
    Finds about Free c (Check.count name default n issue)
      (issueIf (limit < n) (issue (.int limit))) := by
  refine of_reports (Reports.count n issue h) fun i hi => ?_
  rw [issueIf] at hi
  split at hi
  · rw [List.mem_singleton.mp hi]
    exact hissue _
  · simp at hi

lemma report {i : Issue} (h : about i = false) : Finds about Free c (Check.report i) [] := by
  refine ⟨fun _ k _ => ⟨k.adding [i], rfl⟩, fun k k' hk hrun => ?_⟩
  cases hrun
  refine ⟨hk, ?_⟩
  show (k.adding [i]).about about = _
  rw [Checker.about_adding]
  simp [h]

/-! ## Walks and texts -/

variable {own : Tree → List Issue}

mutual

/-- A walk adds what is found in each function, in the order of the text. -/
lemma visit (hfun : ∀ t, definesFunction t = true → Finds about Free c (Check.function t) (own t)) :
    ∀ t : Tree, Finds about Free c (Check.visit t) ((t.subtrees.filter definesFunction).flatMap own)
  | .node l s ts => by
    have hts := visitAll hfun ts
    rw [Check.visit, Tree.subtrees]
    by_cases hl : isFunction l = true
    · have hdef : definesFunction (.node l s ts) = true := hl
      rw [List.filter_cons_of_pos hdef, List.flatMap_cons, if_pos hl]
      exact (hfun _ hdef).seq hts
    · rw [List.filter_cons_of_neg (show ¬ definesFunction (.node l s ts) = true from hl), if_neg hl]
      exact nothing.seq hts

lemma visitAll
    (hfun : ∀ t, definesFunction t = true → Finds about Free c (Check.function t) (own t)) :
    ∀ ts : List Tree, Finds about Free c (Check.visitAll ts)
      ((Tree.subtreesIn ts |>.filter definesFunction).flatMap own)
  | [] => by
    rw [Check.visitAll, Tree.subtreesIn]
    exact nothing
  | t :: ts => by
    rw [Check.visitAll, Tree.subtreesIn, List.filter_append, List.flatMap_append]
    exact (visit hfun t).seq (visitAll hfun ts)

end

/-- The check of a module looks at the length of its text and then at its functions. -/
lemma text {text : String} {tree : Tree} {is : List Issue}
    (hlength : Finds about Free c (Check.length text) is)
    (hfun : ∀ t, definesFunction t = true → Finds about Free c (Check.function t) (own t))
    (hroom : Free → checkSteps tree ≤ maxSteps)
    (htree : Source.parseKept (some text) text = .ok tree) :
    Finds about Free c (Check.text text)
      (is ++ (tree.subtrees.filter definesFunction).flatMap own) := by
  rw [Check.text, htree]
  refine hlength.seq ?_
  by_cases hsteps : maxSteps < checkSteps tree
  · have hno : ¬ Free := fun h => absurd (hroom h) (Nat.not_le.mpr hsteps)
    have hthrow : Finds about Free c (MonadExcept.throw .endless) [] := throw hno
    simp only [hsteps, if_true]
    exact hthrow.seq (visit hfun tree)
  · simp only [hsteps, if_false]
    exact nothing.seq (visit hfun tree)

end Finds

/-! ## Answers -/

/-- What a checker says about a text that can be read, if anything. -/
lemma check_eq_ok_iff {k : Checker} {t : Target} {text : String} {is : List Issue}
    (hread : t.disk.readText t.here t.path = .ok text) : (k.check t).1 = .ok is ↔
      ∃ k', Check.text text ⟨k.config, []⟩ = .ok () k' ∧ k'.issues = is := by
  have hfile : k.check t = k.run (do
      modify fun k => { k with issues := [] }
      Check.text text
      return (← get).issues) := by
    rw [Checker.check, Check.file, Check.contents, hread]
  rw [hfile]
  cases hrun : Check.text text ⟨k.config, []⟩ with
  | error f k' =>
    simp [Checker.run, hrun, bind, EStateM.bind, modify, modifyGet, MonadStateOf.modifyGet,
      EStateM.modifyGet]
  | ok x k' =>
    simp [Checker.run, hrun, bind, EStateM.bind, modify, modifyGet, MonadStateOf.modifyGet,
      EStateM.modifyGet, get, getThe, MonadStateOf.get, EStateM.get, pure, EStateM.pure]

/-- A check that can come to its end gives an answer. -/
lemma Finds.exists_answer {about : Issue → Bool} {Free : Prop} {k : Checker} {t : Target}
    {text : String} {is : List Issue} (hread : t.disk.readText t.here t.path = .ok text)
    (h : Finds about Free k.config (Check.text text) is) (hfree : Free) :
    ∃ js, (k.check t).1 = .ok js := by
  obtain ⟨k', hk'⟩ := h.ends hfree ⟨k.config, []⟩ rfl
  exact ⟨_, (check_eq_ok_iff hread).mpr ⟨k', hk', rfl⟩⟩

/-- The issues about something in the answer of a check. -/
lemma Finds.filter_answer {about : Issue → Bool} {Free : Prop} {k : Checker} {t : Target}
    {text : String} {is js : List Issue} (hread : t.disk.readText t.here t.path = .ok text)
    (h : Finds about Free k.config (Check.text text) is) (hanswer : (k.check t).1 = .ok js) :
    js.filter about = is := by
  obtain ⟨k', hk', rfl⟩ := (check_eq_ok_iff hread).mp hanswer
  exact (h.adds ⟨k.config, []⟩ k' rfl hk').2

/-- A check that finds the issues of some nodes of a tree finds those at their places, in the order of
the text and once each. -/
lemma Finds.at_places {about : Issue → Bool} {own : Tree → List Issue} {q : Tree → Bool} {tree : Tree}
    {k : Checker} {t : Target} {text : String} (hread : t.disk.readText t.here t.path = .ok text)
    (h : Finds about (Config.Comparable k.config ∧ checkSteps tree ≤ maxSteps) k.config
      (Check.text text) ((tree.subtrees.filter q).flatMap own)) :
    (Config.Comparable k.config → checkSteps tree ≤ maxSteps → ∃ is, (k.check t).1 = .ok is) ∧
    ∃ ps : List (List Nat), ps.Pairwise (· < ·) ∧
      (∀ p, p ∈ ps ↔ ∃ u, tree.at? p = some u ∧ q u = true) ∧
      ∀ is, (k.check t).1 = .ok is →
        is.filter about = (ps.filterMap (tree.at? ·)).flatMap own := by
  obtain ⟨ps, horder, hmem, hps⟩ := Tree.exists_places_filter q tree
  refine ⟨fun hcompare hroom => h.exists_answer hread ⟨hcompare, hroom⟩, ps, horder, hmem,
    fun is his => ?_⟩
  rw [hps]
  exact h.filter_answer hread his

/-- What can be decided of the tree of a text holds of it. -/
lemma exists_parsed (text : String) (P : Tree → Prop) [DecidablePred P]
    (h : ((Source.parseKept (some text) text).toOption.any fun t => decide (P t)) = true) :
    ∃ t, Source.parseKept (some text) text = .ok t ∧ P t := by
  cases hparse : Source.parseKept (some text) text with
  | error r => simp [hparse, Except.toOption] at h
  | ok t => exact ⟨t, rfl, by simpa [hparse, Except.toOption] using h⟩

end QualityGate.Limits
