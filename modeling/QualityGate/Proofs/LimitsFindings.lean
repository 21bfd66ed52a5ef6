/-
# What a checker finds in a file

A checker walks over the tree of a module and adds issues to a list that it keeps from file to
file; for each function it starts a second walk, which counts open levels up and down.  Under
limits that are integers both walks have plain descriptions:

* `Levels.visit_eq`: the counters come back to where they were, and the deepest level seen is the
  nesting of the tree;
* `reports_visit`: the walk adds, for every function in the order of the text, the issues of that
  function and nothing else;
* `Tame.file`: whatever a check ends with, the checker keeps its configuration, so what it says
  about a file does not depend on the files before; and only errors make it fail.
-/
import Mathlib
import QualityGate.Limits.Check
import QualityGate.Proofs.SettingsStore
import QualityGate.Proofs.TreePlaces

namespace QualityGate.Limits

open Source (Tree Label ParamKind)

/-! ## Levels -/

mutual

/-- The greatest number of constructs that open a level, each inside the one before. -/
def nesting : Tree → Nat
  | .node l _ ts => (if opensLevel l then 1 else 0) + nestingIn ts

/-- The greatest nesting of several trees. -/
def nestingIn : List Tree → Nat
  | [] => 0
  | t :: ts => max (nesting t) (nestingIn ts)

end

namespace Levels

mutual

/-- The counters after a visit: as many levels are open as before. -/
lemma visit_eq : ∀ (t : Tree) (k : Levels), k.current ≤ k.deepest →
    visit t k = ⟨k.current, max k.deepest (k.current + nesting t)⟩
  | .node l s ts, k, hk => by
    rw [visit, nesting]
    by_cases hl : opensLevel l = true
    · have hin : k.enter.current ≤ k.enter.deepest := Nat.le_max_right _ _
      rw [if_pos hl, if_pos hl, visitAll_eq ts k.enter hin]
      simp only [leave, enter, Nat.add_sub_cancel, Levels.mk.injEq, true_and]
      omega
    · rw [if_neg hl, if_neg hl, visitAll_eq ts k hk, Nat.zero_add]

lemma visitAll_eq : ∀ (ts : List Tree) (k : Levels), k.current ≤ k.deepest →
    visitAll ts k = ⟨k.current, max k.deepest (k.current + nestingIn ts)⟩
  | [], k, hk => by
    rw [visitAll, nestingIn, Nat.add_zero, Nat.max_eq_left hk]
  | t :: ts, k, hk => by
    rw [visitAll, visit_eq t k hk, visitAll_eq ts _ (by simp only; omega), nestingIn]
    simp only [Levels.mk.injEq, true_and]
    omega

end

end Levels

lemma depth_eq_nesting (t : Tree) : depth t = nesting t := by
  rw [depth, Levels.visit_eq t {} (Nat.le_refl _)]
  simp

/-! ## Parameters -/

/-- Is it a parameter of a kind? -/
def isParam (kind : ParamKind) (t : Tree) : Bool :=
  match t.label with
  | .param k _ => k = kind
  | _ => false

/-- The number of parameters of a function that are of a kind. -/
def paramsOf (kind : ParamKind) (t : Tree) : Nat := (t.child 0).children.countP (isParam kind)

lemma paramCount_eq (t : Tree) :
    paramCount t = paramsOf .ordinary t + paramsOf .keywordOnly t := by
  rw [paramCount, paramsOf, paramsOf]
  induction (t.child 0).children with
  | nil => rfl
  | cons p ps ih =>
    obtain ⟨l, s, us⟩ := p
    simp only [List.countP_cons, ih, countsAsParam, isParam, Tree.label]
    cases l with
    | param k n => cases k <;> simp <;> omega
    | _ => simp

/-! ## Issues under integer limits -/

/-- Limits that are integers. -/
structure Bounds where
  fileLines : Int
  functionLines : Int
  params : Int
  nesting : Int

/-- A configuration sets these limits, or leaves the default where it sets none. -/
structure Config.Sets (c : Config) (b : Bounds) : Prop where
  fileLines : c.get "max_file_lines" (.int 300) = .ok (.int b.fileLines)
  functionLines : c.get "max_function_lines" (.int 50) = .ok (.int b.functionLines)
  params : c.get "max_function_params" (.int 4) = .ok (.int b.params)
  nesting : c.get "max_nesting_depth" (.int 4) = .ok (.int b.nesting)

lemma Config.sets_defaults : Config.Sets (.settings Settings.defaults) ⟨300, 50, 4, 4⟩ := by
  constructor <;> simp [Config.get, Settings.defaults, Settings.ofFields, Settings.get?,
    Settings.find?, Key.same]

/-- An issue, if there is cause for it. -/
def issueIf (cause : Prop) [Decidable cause] (i : Issue) : List Issue := if cause then [i] else []

/-- The issue of a text that has too many lines. -/
def fileIssues (b : Bounds) (text : String) : List Issue :=
  issueIf (b.fileLines < lineCount text)
    ⟨.fileTooLong (lineCount text) (.int b.fileLines), some (lineCount text), 0⟩

/-- The issues of a function: its length, its parameters and its nesting, in this order. -/
def functionIssues (b : Bounds) (t : Tree) : List Issue :=
  issueIf (b.functionLines < (t.span.endLine : Int) - t.span.line + 1)
      ⟨.functionTooLong (functionName t) (t.span.endLine - t.span.line + 1)
        (.int b.functionLines), some t.span.line, 0⟩ ++
    issueIf (b.params < (paramsOf .ordinary t + paramsOf .keywordOnly t : Nat))
      ⟨.tooManyParams (functionName t) (paramsOf .ordinary t + paramsOf .keywordOnly t)
        (.int b.params), some t.span.line, 0⟩ ++
    issueIf (b.nesting < nesting t)
      ⟨.tooDeep (nesting t) (.int b.nesting), some t.span.line, 0⟩

/-! ## What the parts of a check report -/

/-- A checker with more issues. -/
def Checker.adding (k : Checker) (is : List Issue) : Checker := { k with issues := k.issues ++ is }

@[simp] lemma Checker.config_adding (k : Checker) (is : List Issue) :
    (k.adding is).config = k.config := rfl

@[simp] lemma Checker.adding_nil (k : Checker) : k.adding [] = k := by
  simp [adding]

lemma Checker.adding_adding (k : Checker) (is js : List Issue) :
    (k.adding is).adding js = k.adding (is ++ js) := by
  simp [adding]

/-- What the check of a measure comes to. -/
lemma count_run (name : String) (default : Nat) (n : Int) (issue : Value → Issue) (k : Checker) :
    Check.count name default n issue k =
      match k.config.get name (.int default) with
      | .error f => .error f k
      | .ok limit =>
        match exceeds n limit with
        | .error f => .error f k
        | .ok above => .ok () (k.adding (issueIf above (issue limit))) := by
  change EStateM.bind (Check.ofExcept (k.config.get name (.int default))) _ k = _
  cases k.config.get name (.int default) with
  | error f => rfl
  | ok limit =>
    simp only
    change EStateM.bind (Check.ofExcept (exceeds n limit)) _ k = _
    cases exceeds n limit with
    | error f => rfl
    | ok above =>
      cases above with
      | true => rfl
      | false => exact congrArg (EStateM.Result.ok ()) k.adding_nil.symm

/-- Under a configuration, a part of a check ends well and reports these issues. -/
def Reports (c : Config) (a : Check Unit) (is : List Issue) : Prop :=
  ∀ k : Checker, k.config = c → a k = .ok () (k.adding is)

namespace Reports

variable {c : Config} {b : Bounds}

lemma nothing : Reports c (pure ()) [] := by
  intro k _
  rw [Checker.adding_nil]
  rfl

lemma seq {a a' : Check Unit} {is js : List Issue} (h : Reports c a is) (h' : Reports c a' js) :
    Reports c (do a; a') (is ++ js) := by
  intro k hk
  have h2 := h' (k.adding is) hk
  rw [Checker.adding_adding] at h2
  show EStateM.bind a (fun _ => a') k = _
  rw [EStateM.bind, h k hk]
  exact h2

lemma count {name : String} {default : Nat} {limit : Int} (n : Int) (issue : Value → Issue)
    (h : c.get name (.int default) = .ok (.int limit)) :
    Reports c (Check.count name default n issue) (issueIf (limit < n) (issue (.int limit))) := by
  intro k hk
  subst hk
  by_cases hn : limit < n
  · simp [Check.count, Check.ofExcept, Check.report, exceeds, issueIf, Checker.adding, h, hn, bind,
      EStateM.bind, get, getThe, MonadStateOf.get, EStateM.get, pure, EStateM.pure, modify,
      modifyGet, MonadStateOf.modifyGet, EStateM.modifyGet]
  · simp [Check.count, Check.ofExcept, exceeds, issueIf, Checker.adding, h, hn, bind,
      EStateM.bind, get, getThe, MonadStateOf.get, EStateM.get, pure, EStateM.pure]

lemma length (hc : Config.Sets c b) (text : String) :
    Reports c (Check.length text) (fileIssues b text) :=
  count _ _ hc.fileLines

lemma function (hc : Config.Sets c b) (t : Tree) :
    Reports c (Check.function t) (functionIssues b t) := by
  have hlong := count (functionLines t)
    (fun limit => ⟨.functionTooLong (functionName t) (functionLines t) limit, some t.span.line, 0⟩)
    hc.functionLines
  have hwide := count (paramCount t)
    (fun limit => ⟨.tooManyParams (functionName t) (paramCount t) limit, some t.span.line, 0⟩)
    hc.params
  have hdeep := count (depth t)
    (fun limit => ⟨.tooDeep (depth t) limit, some t.span.line, 0⟩) hc.nesting
  have h := hlong.seq (hwide.seq hdeep)
  rw [paramCount_eq, depth_eq_nesting, ← List.append_assoc] at h
  rw [Check.function, paramCount_eq, depth_eq_nesting]
  exact h

end Reports

/-- Is it a tree that is the definition of an ordinary function? -/
def definesFunction (t : Tree) : Bool := isFunction t.label

mutual

/-- A walk reports the issues of every function, in the order of the text. -/
lemma reports_visit {c : Config} {b : Bounds} (hc : Config.Sets c b) : ∀ t : Tree,
    Reports c (Check.visit t) ((t.subtrees.filter definesFunction).flatMap (functionIssues b))
  | .node l s ts => by
    have hts := reports_visitAll hc ts
    rw [Check.visit, Tree.subtrees]
    by_cases hl : isFunction l = true
    · have hf := (Reports.function hc (.node l s ts)).seq hts
      rw [List.filter_cons_of_pos (show definesFunction (.node l s ts) = true from hl),
        List.flatMap_cons]
      rw [if_pos hl]
      exact hf
    · rw [List.filter_cons_of_neg (show ¬ definesFunction (.node l s ts) = true from hl)]
      rw [if_neg hl]
      exact Reports.nothing.seq hts

lemma reports_visitAll {c : Config} {b : Bounds} (hc : Config.Sets c b) : ∀ ts : List Tree,
    Reports c (Check.visitAll ts)
      ((Tree.subtreesIn ts |>.filter definesFunction).flatMap (functionIssues b))
  | [] => by
    rw [Check.visitAll, Tree.subtreesIn]
    exact Reports.nothing
  | t :: ts => by
    rw [Check.visitAll, Tree.subtreesIn, List.filter_append, List.flatMap_append]
    exact (reports_visit hc t).seq (reports_visitAll hc ts)

end

/-! ## How a check ends -/

/-- Whatever a part of a check ends with, the checker keeps its configuration, and only errors make
it fail. -/
def Tame {α : Type} (a : Check α) : Prop :=
  ∀ k : Checker, (k.run a).2.config = k.config ∧ ∀ f, (k.run a).1 = .error f → f.isError = true

namespace Tame

variable {α β : Type}

lemma pure (x : α) : Tame (Pure.pure x : Check α) := by
  refine fun k => ⟨rfl, fun f hf => ?_⟩
  cases hf

lemma throw {f : Failure} (h : f.isError = true) : Tame (MonadExcept.throw f : Check α) := by
  refine fun k => ⟨rfl, fun f' hf => ?_⟩
  cases hf
  exact h

lemma bind {a : Check α} {g : α → Check β} (ha : Tame a) (hg : ∀ x, Tame (g x)) :
    Tame (a >>= g) := by
  intro k
  obtain ⟨hk, hf⟩ := ha k
  rw [Checker.run] at hk hf
  cases h : a k with
  | error f k' =>
    have hbind : (a >>= g) k = .error f k' := by
      show EStateM.bind a g k = _
      rw [EStateM.bind, h]
    rw [h] at hk hf
    rw [Checker.run, hbind]
    exact ⟨hk, fun f' hf' => hf f' (by simpa using hf')⟩
  | ok x k' =>
    have hbind : (a >>= g) k = g x k' := by
      show EStateM.bind a g k = _
      rw [EStateM.bind, h]
    rw [h] at hk
    rw [Checker.run, hbind]
    exact ⟨(hg x k').1.trans hk, (hg x k').2⟩

lemma ofExcept {r : Except Failure α} (h : ∀ f, r = .error f → f.isError = true) :
    Tame (Check.ofExcept r) := by
  cases r with
  | ok x => exact pure x
  | error f => exact throw (h f rfl)

lemma change {g : Checker → Checker} (hg : ∀ k, (g k).config = k.config) :
    Tame (modify g : Check Unit) := by
  refine fun k => ⟨hg k, fun f hf => ?_⟩
  cases hf

lemma look : Tame (get : Check Checker) := by
  refine fun k => ⟨rfl, fun f hf => ?_⟩
  cases hf

lemma report (i : Issue) : Tame (Check.report i) := change fun _ => rfl

lemma count (name : String) (default : Nat) (n : Int) (issue : Value → Issue) :
    Tame (Check.count name default n issue) := by
  refine bind look fun k => bind (ofExcept ?_) fun limit => bind (ofExcept ?_) fun above => ?_
  · intro f hf
    cases hc : k.config with
    | settings s => rw [hc] at hf; cases hf
    | other v => rw [hc] at hf; cases hf; rfl
  · intro f hf
    cases limit with
    | int | bool | float => cases hf
    | _ => cases hf; rfl
  · cases above with
    | true => exact report _
    | false => exact pure ()

lemma function (t : Tree) : Tame (Check.function t) :=
  bind (count _ _ _ _) fun _ => bind (count _ _ _ _) fun _ => count _ _ _ _

mutual

lemma visit : ∀ t : Tree, Tame (Check.visit t)
  | .node l s ts => by
    rw [Check.visit]
    by_cases hl : isFunction l = true
    · rw [if_pos hl]
      exact bind (function _) fun _ => visitAll ts
    · rw [if_neg hl]
      exact visitAll ts

lemma visitAll : ∀ ts : List Tree, Tame (Check.visitAll ts)
  | [] => by
    rw [Check.visitAll]
    exact pure ()
  | t :: ts => by
    rw [Check.visitAll]
    exact bind (visit t) fun _ => visitAll ts

end

lemma text (s : String) : Tame (Check.text s) := by
  refine bind (count _ _ _ _) fun _ => ?_
  cases Source.parseKept (some s) s with
  | error r =>
    by_cases hr : r.cause.blamesText = true
    · simp only [hr, if_true]
      exact report _
    · simp only [hr]
      exact throw rfl
  | ok t =>
    by_cases ht : maxSteps < checkSteps t
    · simp only [ht, if_true]
      exact bind (throw (by decide)) fun _ => visit t
    · simp only [ht, if_false]
      exact bind (pure ()) fun _ => visit t

lemma contents (d : Disk) (here : Location) (path : String) :
    Tame (Check.contents d here path) := by
  rw [Check.contents, Disk.readText]
  cases d.read here path with
  | error e =>
    by_cases he : e.isSystem = true
    · simp only [he, if_true]
      exact report _
    · simp only [he]
      exact throw rfl
  | ok bytes =>
    cases h : Text.decodeUtf8 bytes with
    | error f =>
      simp only [h]
      exact throw rfl
    | ok t =>
      simp only [h]
      exact text _

lemma file (d : Disk) (here : Location) (path : String) : Tame (Check.file d here path) :=
  bind (change fun _ => rfl) fun _ =>
    bind (contents d here path) fun _ => bind look fun _ => pure _

end Tame

/-- A check of a file fails with errors only. -/
lemma isError_of_checkFileHere {d : Disk} {p : Places} {path : String} {f : Failure}
    (h : checkFileHere d p path = .error f) : f.isError = true := by
  rw [checkFileHere] at h
  cases hs : Settings.current d p with
  | error f' =>
    rw [hs] at h
    cases h
    exact Settings.isError_of_current hs
  | ok s =>
    rw [hs] at h
    exact (Tame.file d p.here path ⟨.settings s, []⟩).2 f h

/-! ## One file after others -/

/-- What was found before plays no part. -/
lemma check_fst (k : Checker) (t : Target) :
    (k.check t).1 = ((Checker.mk k.config []).check t).1 := rfl

/-- What a checker says about a file does not depend on the files before and behind it. -/
lemma checkEach_getElem? (k : Checker) (earlier later : List Target) (t : Target) :
    (k.checkEach (earlier ++ t :: later))[earlier.length]? = some (k.check t).1 := by
  induction earlier generalizing k with
  | nil => rfl
  | cons e es ih =>
    have hcfg : (k.check e).2.config = k.config := (Tame.file e.disk e.here e.path k).1
    calc (k.checkEach (e :: es ++ t :: later))[(e :: es).length]?
        = ((k.check e).2.checkEach (es ++ t :: later))[es.length]? := rfl
      _ = some ((k.check e).2.check t).1 := ih _
      _ = some (k.check t).1 := by rw [check_fst, hcfg, ← check_fst]

/-- What a checker says about a text that can be read. -/
lemma check_of_reports {k : Checker} {t : Target} {text : String} {is : List Issue}
    (hread : t.disk.readText t.here t.path = .ok text)
    (h : Reports k.config (Check.text text) is) : (k.check t).1 = .ok is := by
  have h0 : Check.text text ⟨k.config, []⟩ = .ok () ⟨k.config, is⟩ := h ⟨k.config, []⟩ rfl
  simp [Checker.check, Checker.run, Check.file, Check.contents, hread, h0, bind, EStateM.bind, get, getThe,
    MonadStateOf.get, EStateM.get, pure, EStateM.pure, modify, modifyGet, MonadStateOf.modifyGet,
    EStateM.modifyGet]

variable {c : Config} {b : Bounds}

lemma reports_refusal (hc : Config.Sets c b) {text : String} {r : Source.Refusal}
    (hr : Source.parseKept (some text) text = .error r) (hblame : r.cause.blamesText = true) :
    Reports c (Check.text text) (fileIssues b text ++ [Check.refused r]) := by
  rw [Check.text, hr]
  simp only [hblame, if_true]
  exact (Reports.length hc text).seq fun _ _ => rfl

lemma reports_tree (hc : Config.Sets c b) {text : String} {t : Tree}
    (ht : Source.parseKept (some text) text = .ok t) (hroom : checkSteps t ≤ maxSteps) :
    Reports c (Check.text text)
      (fileIssues b text ++ (t.subtrees.filter definesFunction).flatMap (functionIssues b)) := by
  rw [Check.text, ht]
  simp only [Nat.not_lt.mpr hroom, if_false]
  exact (Reports.length hc text).seq (Reports.nothing.seq (reports_visit hc t))

lemma parseKept_empty : Source.parseKept (some "") "" = .ok (.node .module ⟨1, 0, 0, 0⟩ []) := by cbv

lemma parseKept_bracket :
    Source.parseKept (some ")") ")" = .error ⟨.unmatchedBracket ')', some 1, 1⟩ := by cbv

/-- Nothing is found in an empty file under the defaults. -/
lemma check_empty {t : Target} (hread : t.disk.readText t.here t.path = .ok "") :
    (Checker.check ⟨.settings Settings.defaults, []⟩ t).1 = .ok [] :=
  check_of_reports hread (reports_tree Config.sets_defaults parseKept_empty (by decide))

end QualityGate.Limits
