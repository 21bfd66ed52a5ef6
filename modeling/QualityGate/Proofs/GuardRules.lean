/-
# What a validator finds in a function

The rules are followed one after the other, and each adds at most one violation to the list of the
validator.  `Finds` says which violations a part of a validation adds, `Rule.Broken` says without
looking at the validation when a rule is broken, and `validate_rules` puts the two together: a
validator reports exactly the rules that are broken, in their order, whatever it was used on before.
-/
import Mathlib
import QualityGate.Program.Guarding
import QualityGate.Proofs.DecisionPoints
import QualityGate.Proofs.DiskWrite

namespace QualityGate.Guard

open Source (Tree)

/-! ## Texts inside texts -/

lemma isInfix_iff (needle : List Char) : ∀ text : List Char,
    Text.isInfix needle text = true ↔ needle <:+: text
  | [] => by simp [Text.isInfix]
  | c :: cs => by
    rw [Text.isInfix, Bool.or_eq_true, List.isPrefixOf_iff_prefix, isInfix_iff needle cs,
      List.infix_cons_iff]

lemma holds_iff (text needle : String) :
    Text.holds text needle = true ↔ needle.toList <:+: text.toList :=
  isInfix_iff _ _

/-! ## Files with a property -/

lemma pathExists_of_readText {d : Disk} {here : Location} {path text : String}
    (h : d.readText here path = .ok text) : d.pathExists here path = true := by
  rw [Disk.readText] at h
  cases hread : d.read here path with
  | error e => simp [hread] at h
  | ok bytes => exact Disk.pathExists_of_read hread

lemma fileSatisfies_iff {d : Disk} {here : Location} {p : String → Bool} {path : String} :
    fileSatisfies d here p path = true ↔ ∃ text, d.readText here path = .ok text ∧ p text = true := by
  rw [fileSatisfies, Bool.and_eq_true]
  constructor
  · rintro ⟨-, h⟩
    cases ht : d.readText here path with
    | error f => simp [ht] at h
    | ok text => exact ⟨text, rfl, by simpa [ht] using h⟩
  · rintro ⟨text, ht, hp⟩
    exact ⟨pathExists_of_readText ht, by simpa [ht] using hp⟩

/-- A pattern stands for a path: with a star in it for those that it finds, otherwise for itself. -/
def Matched (d : Disk) (here : Location) (pattern path : String) : Prop :=
  if '*' ∈ pattern.toList then path ∈ Glob.find d here pattern else path = pattern

/-- A text that can be read mentions a test of a function. -/
def TestedBy (d : Disk) (here : Location) (name path : String) : Prop :=
  ∃ text, d.readText here path = .ok text ∧
    (("test_" ++ name).toList <:+: text.toList ∨ ("test" ++ Text.title name).toList <:+: text.toList)

lemma fileSatisfies_mentionsTest {d : Disk} {here : Location} {name path : String} :
    fileSatisfies d here (mentionsTest name) path = true ↔ TestedBy d here name path := by
  rw [fileSatisfies_iff, TestedBy]
  refine exists_congr fun text => and_congr_right fun _ => ?_
  have hlow : s!"test_{name}" = "test_" ++ name := rfl
  have htitle : s!"test{Text.title name}" = "test" ++ Text.title name := rfl
  rw [mentionsTest, Bool.or_eq_true, holds_iff, holds_iff, hlow, htitle]

lemma hasTest_iff {d : Disk} {here : Location} {name pattern : String} :
    hasTest d here name pattern = true ↔
      ∃ path, Matched d here pattern path ∧ TestedBy d here name path := by
  rw [hasTest, List.any_eq_true]
  by_cases hstar : '*' ∈ pattern.toList
  · simp only [testFiles, Matched, List.contains_iff_mem, hstar, if_true,
      fileSatisfies_mentionsTest]
  · simp only [testFiles, Matched, List.contains_iff_mem, hstar, if_false,
      fileSatisfies_mentionsTest, exists_eq_left]
    constructor
    · rintro ⟨path, hpath, htest⟩
      split at hpath
      · rwa [← List.mem_singleton.mp hpath]
      · simp at hpath
    · rintro ⟨text, htext, h⟩
      exact ⟨pattern, by simp [pathExists_of_readText htext], text, htext, h⟩

/-! ## The rules -/

/-- The rules, in the order in which they are followed. -/
inductive Rule where
  | tests
  | docs
  | length
  | complexity
  | architecture
  deriving DecidableEq, Repr

namespace Rule

/-- All rules. -/
def all : List Rule := [tests, docs, length, complexity, architecture]

/-- The name of a rule in a violation. -/
def name : Rule → String
  | tests => "missing_test"
  | docs => "missing_docstring"
  | length => "function_too_long"
  | complexity => "high_complexity"
  | architecture => "unauthorized_function"

end Rule

/-- What the settings say where the limits are integers, and the patterns for tests and the
documents on the architecture are texts. -/
structure Terms where
  maxLines : Int
  maxComplexity : Int
  testPatterns : List String
  docFiles : List String

/-- Settings say this, or leave the default where they say nothing. -/
structure Terms.SetBy (r : Terms) (c : Settings) : Prop where
  maxLines : (c.get? "max_function_lines").getD (.int 50) = .int r.maxLines
  maxComplexity : (c.get? "max_complexity").getD (.int 10) = .int r.maxComplexity
  testPatterns : (c.get? "test_patterns").getD (.list []) = .list (r.testPatterns.map .text)
  docFiles : (c.get? "doc_files").getD (.list []) = .list (r.docFiles.map .text)

/-- A line that is neither blank nor a comment. -/
def IsCode (line : String) : Prop :=
  Text.trim line ≠ "" ∧ ¬ ['#'] <+: (Text.trim line).toList

instance : DecidablePred IsCode := fun _ => inferInstanceAs (Decidable (_ ∧ _))

lemma isCodeLine_iff (line : String) : isCodeLine line = true ↔ IsCode line := by
  have hempty : Text.trim line ≠ "" ↔ (Text.trim line).toList ≠ [] := by
    rw [Ne, Ne, String.toList_eq_nil_iff]
  rw [isCodeLine, IsCode, hempty]
  cases (Text.trim line).toList with
  | nil => simp
  | cons c cs => simp [@eq_comm _ c '#']

/-- A function with a name, a documentation, these lines and the tree of them breaks a rule. -/
def Rule.Broken (c : Settings) (r : Terms) (d : Disk) (here : Location) (name : String)
    (doc : Option String) (lines : List String) (t : Tree) : Rule → Prop
  | .tests => isRequired c "require_tests" = true ∧
      ¬ ∃ pattern ∈ r.testPatterns, ∃ path, Matched d here pattern path ∧ TestedBy d here name path
  | .docs => isRequired c "require_docstrings" = true ∧
      ∀ text, doc = some text → (Text.trim text).length < 10
  | .length => r.maxLines < lines.countP (IsCode ·)
  | .complexity => r.maxComplexity < 1 + decisionPoints t
  | .architecture => isRequired c "require_architecture_docs" = true ∧
      ¬ ∃ path ∈ r.docFiles, ∃ text, d.readText here path = .ok text ∧ name.toList <:+: text.toList

/-- An empty documentation is as good as none. -/
lemma Rule.broken_filter {c : Settings} {r : Terms} {d : Disk} {here : Location} {name : String}
    {doc : Option String} {lines : List String} {t : Tree} {rule : Rule} :
    rule.Broken c r d here name (doc.filter (!·.isEmpty)) lines t ↔
      rule.Broken c r d here name doc lines t := by
  cases rule with
  | docs =>
    refine and_congr_right fun _ => ?_
    cases doc with
    | none => rfl
    | some text =>
      cases hempty : text.isEmpty with
      | false => rw [Option.filter_some_pos (by rw [hempty]; rfl)]
      | true =>
        rw [String.isEmpty_iff] at hempty
        subst hempty
        exact iff_of_true (by simp [Option.filter]) (by simp [Text.trim, Text.trimLeft, Text.trimRight])
  | _ => rfl

/-- The violation of a rule. -/
def Rule.violation (r : Terms) (s : Subject) (lines : List String) (t : Tree) : Rule → Violation
  | .tests => untested s
  | .docs => undocumented s
  | .length => overlong s (codeLines lines) (.int r.maxLines)
  | .complexity => overcomplex s (Guard.complexity t) (.int r.maxComplexity)
  | .architecture => unmentioned s

lemma Rule.rule_violation (r : Terms) (s : Subject) (lines : List String) (t : Tree)
    (rule : Rule) : (rule.violation r s lines t).rule = .text rule.name := by
  cases rule <;> rfl

/-- The part of a validation that follows one rule. -/
def Rule.check (d : Disk) (here : Location) (s : Subject) : Rule → Validation Unit
  | .tests => .ifRequired "require_tests" (checkTests d here s)
  | .docs => .ifRequired "require_docstrings" (checkDoc s)
  | .length => checkLength s
  | .complexity => checkComplexity s
  | .architecture => .ifRequired "require_architecture_docs" (checkArchitecture d here s)

/-! ## What the parts of a validation find -/

/-- Under settings, a part of a validation ends well and finds these violations. -/
def Finds (c : Settings) (a : Validation Unit) (vs : List Violation) : Prop :=
  ∀ k : Validator, k.settings = c → a k = .ok () { k with found := k.found ++ vs }

/-- A violation, if there is cause for it. -/
noncomputable def violationIf (cause : Prop) (v : Violation) : List Violation :=
  open Classical in if cause then [v] else []

lemma violationIf_pos {cause : Prop} {v : Violation} (h : cause) : violationIf cause v = [v] :=
  if_pos h

lemma violationIf_neg {cause : Prop} {v : Violation} (h : ¬ cause) : violationIf cause v = [] :=
  if_neg h

namespace Finds

variable {c : Settings} {r : Terms} {d : Disk} {here : Location} {s : Subject}
  {a a' : Validation Unit} {vs vs' : List Violation}

lemma nothing : Finds c (pure ()) [] := by
  intro k _
  rw [List.append_nil]
  rfl

lemma report (v : Violation) : Finds c (Validation.report v) [v] := fun _ _ => rfl

lemma seq (h : Finds c a vs) (h' : Finds c a' vs') : Finds c (do a; a') (vs ++ vs') := by
  intro k hk
  have h2 := h' { k with found := k.found ++ vs } hk
  rw [List.append_assoc] at h2
  show EStateM.bind a (fun _ => a') k = _
  rw [EStateM.bind, h k hk]
  exact h2

/-- A part that looks at a setting first. -/
lemma setting {name : String} {default v : Value} {g : Value → Validation Unit}
    (hv : (c.get? name).getD default = v) (h : Finds c (g v) vs) :
    Finds c (do g (← Validation.setting name default)) vs := by
  intro k hk
  rw [← h k hk, ← hv, ← hk]
  rfl

lemma ifRequired {key : String} {cause : Prop} {v : Violation}
    (h : Finds c a (violationIf cause v)) :
    Finds c (Validation.ifRequired key a) (violationIf (isRequired c key = true ∧ cause) v) := by
  intro k hk
  have hif : Validation.ifRequired key a k = (if isRequired c key then a else pure ()) k := by
    rw [← hk]
    rfl
  rw [hif]
  by_cases hkey : isRequired c key = true
  · rw [if_pos hkey, h k hk]
    simp only [hkey, true_and]
  · rw [if_neg hkey, nothing k hk, violationIf_neg fun h => hkey h.1]

/-- A search that has to be successful. -/
lemma search (found : Bool) {cause : Prop} {v : Violation} (h : found = true ↔ ¬ cause) :
    Finds c (do if ← Validation.ofExcept (.ok found) then return ()
                Validation.report v) (violationIf cause v) := by
  by_cases hc : cause
  · rw [violationIf_pos hc, Bool.eq_false_of_not_eq_true fun hf => h.mp hf hc]
    exact report v
  · rw [violationIf_neg hc, h.mpr hc]
    exact nothing

end Finds

lemma anyM_texts {p : Value → Except Failure Bool} {q : String → Bool}
    (h : ∀ text, p (.text text) = .ok (q text)) : ∀ texts : List String,
    anyM p (texts.map .text) = .ok (texts.any q)
  | [] => rfl
  | text :: texts => by
    rw [List.map_cons, anyM, h, anyM_texts h texts, List.any_cons]
    cases q text <;> rfl

namespace Finds

variable {c : Settings} {r : Terms} {d : Disk} {here : Location} {s : Subject}

lemma tests (hr : r.SetBy c) : Finds c (checkTests d here s)
    (violationIf (¬ ∃ pattern ∈ r.testPatterns, ∃ path,
      Matched d here pattern path ∧ TestedBy d here s.name path) (untested s)) := by
  refine setting hr.testPatterns ?_
  show Finds c (do
    if ← Validation.ofExcept (anyM (hasTestValue d here s.name) (r.testPatterns.map .text)) then
      return ()
    Validation.report (untested s)) _
  rw [anyM_texts fun _ => rfl]
  refine search _ ?_
  rw [not_not, List.any_eq_true]
  exact exists_congr fun pattern => and_congr_right fun _ => hasTest_iff

lemma docs : Finds c (checkDoc s)
    (violationIf (∀ text, s.doc = some text → (Text.trim text).length < 10) (undocumented s)) := by
  refine search (isDocumented s.doc) ?_
  cases hdoc : s.doc with
  | none => simp [isDocumented]
  | some text =>
    rw [isDocumented, decide_eq_true_eq]
    simp [minDocLength]

lemma architecture (hr : r.SetBy c) : Finds c (checkArchitecture d here s)
    (violationIf (¬ ∃ path ∈ r.docFiles, ∃ text,
      d.readText here path = .ok text ∧ s.name.toList <:+: text.toList) (unmentioned s)) := by
  refine setting hr.docFiles ?_
  show Finds c (do
    if ← Validation.ofExcept (anyM (isMentioned d here s.name) (r.docFiles.map .text)) then
      return ()
    Validation.report (unmentioned s)) _
  rw [anyM_texts fun _ => rfl]
  refine search _ ?_
  rw [not_not, List.any_eq_true]
  simp only [fileSatisfies_iff, holds_iff]

/-- A number that is held against a limit. -/
lemma limit {limit n : Int} {v : Violation} :
    Finds c (match Limits.exceeds n (.int limit) with
      | .ok true => Validation.report v
      | _ => return ()) (violationIf (limit < n) v) := by
  by_cases hn : limit < n
  · simp only [Limits.exceeds, hn, decide_true, violationIf_pos]
    exact report v
  · simp only [Limits.exceeds, hn, decide_false, not_false_eq_true, violationIf_neg]
    exact nothing

lemma length (hr : r.SetBy c) {lines : List String} (hlines : s.text = some lines) :
    Finds c (checkLength s) (violationIf (r.maxLines < lines.countP (IsCode ·))
      (overlong s (codeLines lines) (.int r.maxLines))) := by
  have hcount : lines.countP (IsCode ·) = codeLines lines :=
    List.countP_congr fun line _ => by rw [isCodeLine_iff, decide_eq_true_eq]
  rw [checkLength, hlines, hcount]
  exact setting hr.maxLines limit

lemma complexity (hr : r.SetBy c) {lines : List String} {t : Tree} (hlines : s.text = some lines)
    (htree : Source.parse (String.join lines) = .ok t) :
    Finds c (checkComplexity s) (violationIf (r.maxComplexity < 1 + decisionPoints t)
      (overcomplex s (complexity t) (.int r.maxComplexity))) := by
  rw [checkComplexity, hlines, ← complexity_eq]
  simp only [htree]
  exact setting hr.maxComplexity limit

lemma check (hr : r.SetBy c) {lines : List String} {t : Tree} (hlines : s.text = some lines)
    (htree : Source.parse (String.join lines) = .ok t) (rule : Rule) :
    Finds c (rule.check d here s)
      (violationIf (rule.Broken c r d here s.name s.doc lines t) (rule.violation r s lines t)) := by
  cases rule with
  | tests => exact ifRequired (tests hr)
  | docs => exact ifRequired docs
  | length => exact length hr hlines
  | complexity => exact complexity hr hlines htree
  | architecture => exact ifRequired (architecture hr)

end Finds

/-- All rules together find what each of them finds, in their order. -/
lemma finds_applyRules {c : Settings} {r : Terms} {d : Disk} {here : Location} {s : Subject}
    (hr : r.SetBy c) {lines : List String} {t : Tree} (hlines : s.text = some lines)
    (htree : Source.parse (String.join lines) = .ok t) :
    Finds c (applyRules d here s) (Rule.all.flatMap fun rule =>
      violationIf (rule.Broken c r d here s.name s.doc lines t) (rule.violation r s lines t)) := by
  have h (rule : Rule) : Finds c (rule.check d here s) _ := Finds.check hr hlines htree rule
  simp only [Rule.all, List.flatMap_cons, List.flatMap_nil, List.append_nil]
  exact (h .tests).seq <| (h .docs).seq <| (h .length).seq <| (h .complexity).seq (h .architecture)

open Classical in
lemma rules_violationIf (broken : Rule → Prop) {violation : Rule → Violation}
    (h : ∀ rule, (violation rule).rule = .text rule.name) (rules : List Rule) :
    (rules.flatMap fun rule => violationIf (broken rule) (violation rule)).map (·.rule) =
      (rules.filter (broken ·)).map fun rule => .text rule.name := by
  induction rules with
  | nil => rfl
  | cons rule rules ih =>
    rw [List.flatMap_cons, List.map_append, ih]
    by_cases hb : broken rule
    · rw [violationIf_pos hb, List.filter_cons_of_pos (by simpa using hb)]
      simp [h]
    · rw [violationIf_neg hb, List.filter_cons_of_neg (by simpa using hb)]
      rfl

/-! ## What a validator keeps -/

/-- Whatever a part of a validation ends with, the validator keeps its settings. -/
def KeepsSettings {α : Type} (a : Validation α) : Prop :=
  ∀ k : Validator, match a k with
    | .ok _ k' => k'.settings = k.settings
    | .error _ k' => k'.settings = k.settings

namespace KeepsSettings

variable {α β : Type}

lemma pure (x : α) : KeepsSettings (Pure.pure x) := fun _ => rfl

lemma report (v : Violation) : KeepsSettings (Validation.report v) := fun _ => rfl

lemma ofExcept (r : Except Failure α) : KeepsSettings (Validation.ofExcept r) := by
  intro k
  cases r <;> rfl

lemma setting (name : String) (default : Value) :
    KeepsSettings (Validation.setting name default) := fun _ => rfl

lemma bind {a : Validation α} {g : α → Validation β} (ha : KeepsSettings a)
    (hg : ∀ x, KeepsSettings (g x)) : KeepsSettings (a >>= g) := by
  intro k
  have hk := ha k
  show match EStateM.bind a g k with
    | .ok _ k' => k'.settings = k.settings
    | .error _ k' => k'.settings = k.settings
  rw [EStateM.bind]
  cases h : a k with
  | error f k' => simpa [h] using hk
  | ok x k' =>
    have hk' := hg x k'
    simp only [h] at hk
    simp only [← hk]
    exact hk'

lemma ite {p : Prop} [Decidable p] {a a' : Validation α} (h : KeepsSettings a)
    (h' : KeepsSettings a') : KeepsSettings (if p then a else a') := by
  split
  · exact h
  · exact h'

lemma ifRequired (key : String) {a : Validation Unit} (h : KeepsSettings a) :
    KeepsSettings (Validation.ifRequired key a) :=
  bind (fun _ => rfl) fun _ => ite h (pure ())

lemma search (r : Except Failure Bool) (v : Violation) :
    KeepsSettings (do if ← Validation.ofExcept r then return ()
                      Validation.report v) :=
  bind (ofExcept r) fun _ => ite (pure ()) (report v)

lemma limit (r : Except Failure Bool) (v : Violation) :
    KeepsSettings (match r with
      | .ok true => Validation.report v
      | _ => return ()) := by
  split
  · exact report v
  · exact pure ()

lemma check (d : Disk) (here : Location) (s : Subject) (rule : Rule) :
    KeepsSettings (rule.check d here s) := by
  cases rule with
  | tests => exact ifRequired _ <| bind (setting _ _) fun _ => bind (ofExcept _) fun _ => search _ _
  | docs => exact ifRequired _ <| ite (pure ()) (report _)
  | length =>
    show KeepsSettings (checkLength s)
    rw [checkLength]
    split
    · exact pure ()
    · exact bind (setting _ _) fun _ => limit _ _
  | complexity =>
    show KeepsSettings (checkComplexity s)
    rw [checkComplexity]
    split
    · exact pure ()
    · split
      · exact pure ()
      · exact bind (setting _ _) fun _ => limit _ _
  | architecture =>
    exact ifRequired _ <| bind (setting _ _) fun _ => bind (ofExcept _) fun _ => search _ _

lemma applyRules (d : Disk) (here : Location) (s : Subject) :
    KeepsSettings (applyRules d here s) :=
  bind (check d here s .tests) fun _ => bind (check d here s .docs) fun _ =>
    bind (check d here s .length) fun _ => bind (check d here s .complexity) fun _ =>
      check d here s .architecture

end KeepsSettings

end QualityGate.Guard

namespace QualityGate.Program

open Guard (Rule Subject Terms Validator Violation)
open Source (Tree)

/-! ## Functions as subjects -/

/-- The function that an object is, on its own or taken from an instance. -/
def Store.asFunction? (s : Store) : Object → Option Function
  | .function id => s.function? id
  | .method _ (.function id) => s.function? id
  | _ => none

namespace Store

variable {s : Store} {o : Object} {f : Function}

lemma attr_of_asFunction? {name : String} (hf : s.asFunction? o = some f)
    (hname : name ≠ "__self__" ∧ name ≠ "__func__") : s.attr? o name = f.attr? name := by
  match o, hf with
  | .function id, hf =>
    have hid : s.function? id = some f := hf
    rw [attr?, hid, Option.bind_some]
  | .method self (.function id), hf =>
    have hid : s.function? id = some f := hf
    rw [attr?, hid, Option.bind_some]
    · exact hname.1
    · exact hname.2

lemma attr_name_of_asFunction? (hf : s.asFunction? o = some f) :
    s.attr o "__name__" = .ok (.text f.name) := by
  have hattr : s.attr? o "__name__" = some (.text f.name) := attr_of_asFunction? hf (by decide)
  simp only [attr, hattr]

lemma fileOf_of_asFunction? (tool : String) (hf : s.asFunction? o = some f) :
    ∃ file, s.fileOf tool o = .ok file := by
  have hfun (id : Nat) (hid : s.function? id = some f) :
      ∃ file, s.fileOf tool (.function id) = .ok file := by
    rw [fileOf, code?, hid, Option.map_some]
    cases f.code with
    | closure c => exact ⟨_, rfl⟩
    | fence kind inner => exact ⟨_, rfl⟩
  match o, hf with
  | .function id, hf => exact hfun id hf
  | .method self (.function id), hf =>
    rw [fileOf]
    exact hfun id hf

/-- The documentation that a function was given, unless it is empty. -/
lemma docOf_of_asFunction? {doc : Option String} (hf : s.asFunction? o = some f)
    (hdoc : f.doc = optionText doc) : s.docOf? o = doc.filter (!·.isEmpty) := by
  have hattr : s.attr? o "__doc__" = some (optionText doc) := by
    rw [attr_of_asFunction? hf (by decide), ← hdoc]
    rfl
  rw [docOf?, hattr]
  cases doc with
  | none => rfl
  | some text => cases h : text.isEmpty <;> simp [optionText, Option.filter, h]

end Store

/-- The file that a violation of an object names. -/
def Store.pathFor (s : Store) (tool : String) (o : Object) (file : Value) : Except Failure String :=
  match given? file with
  | some v => .ok v.shown
  | none => s.fileOf tool o

lemma Store.pathFor_of_asFunction? {s : Store} {o : Object} {f : Function} (tool : String)
    (hf : s.asFunction? o = some f) (file : Value) : ∃ path, s.pathFor tool o file = .ok path := by
  rw [pathFor]
  cases given? file with
  | none => exact fileOf_of_asFunction? tool hf
  | some v => exact ⟨v.shown, rfl⟩

/-- The line that a violation of an object with these lines names. -/
def startFor (source : Except Failure (List String × Nat)) (line : Value) : Except Failure Value :=
  match given? line with
  | some v => .ok v
  | none => source.map fun p => Value.int p.2

/-- To look at an object changes nothing in the session. -/
lemma subjectOf_eq (o : Object) (file line : Value) (w : Session) :
    subjectOf o file line w =
      match w.store.attr o "__name__", w.store.pathFor w.places.tool o file,
        startFor (w.store.sourceLines w.disk w.places.here w.places.tool o) line with
      | .ok name, .ok path, .ok start =>
        .ok ⟨w.store.shown name, w.store.docOf? o, path, start,
          (w.store.sourceLines w.disk w.places.here w.places.tool o).toOption.map (·.1)⟩ w
      | .error f, _, _ => .error f w
      | .ok _, .error f, _ => .error f w
      | .ok _, .ok _, .error f => .error f w := by
  show EStateM.bind _ _ w = _
  rw [EStateM.bind]
  generalize w.store.sourceLines w.disk w.places.here w.places.tool o = source
  cases w.store.attr o "__name__" with
  | error f => rfl
  | ok name =>
    rw [Store.pathFor, startFor]
    cases given? file with
    | none =>
      cases w.store.fileOf w.places.tool o with
      | error f => rfl
      | ok path =>
        cases given? line with
        | none => cases source <;> rfl
        | some v => rfl
    | some v =>
      cases given? line with
      | none => cases source <;> rfl
      | some v => rfl

/-- What the rules look at in a function with lines that can be found. -/
lemma subjectOf_function {w : Session} {o : Object} {f : Function} {lines : List String} {n : Nat}
    (hf : w.store.asFunction? o = some f)
    (hlines : w.store.sourceLines w.disk w.places.here w.places.tool o = .ok (lines, n))
    (file line : Value) :
    ∃ s : Subject, subjectOf o file line w = .ok s w ∧ s.name = f.name ∧
      s.doc = w.store.docOf? o ∧ s.text = some lines := by
  obtain ⟨path, hpath⟩ := Store.pathFor_of_asFunction? w.places.tool hf file
  obtain ⟨start, hstart⟩ : ∃ start, startFor (.ok (lines, n)) line = .ok start := by
    rw [startFor]
    cases given? line with
    | none => exact ⟨_, rfl⟩
    | some v => exact ⟨v, rfl⟩
  rw [subjectOf_eq, Store.attr_name_of_asFunction? hf, hpath, hlines, hstart]
  exact ⟨_, rfl, rfl, rfl, rfl⟩

/-! ## The lines of a function -/

lemma fileLines_of_read {d : Disk} {here : Location} {file text : String} {bytes : ByteArray}
    (hread : d.read here file = .ok bytes) (hshown : Source.shownOfBytes bytes = .ok text)
    (htext : text.isEmpty = false) :
    fileLines d here file = .ok ((Source.linesWithEnds text.toList).map withEnd) := by
  simp only [fileLines, hread, hshown, Except.toOption, Option.getD_some, htext, Bool.false_eq_true,
    if_false]

lemma Store.innermost_of_unwrapped {s : Store} {o : Object} (h : s.attr? o "__wrapped__" = none) :
    ∀ fuel, s.innermost fuel o = o
  | 0 => rfl
  | fuel + 1 => by rw [innermost, h]

/-- The text behind the head of a function that runs a body. -/
lemma Store.textFrom_closure {s : Store} {d : Disk} {here : Location} {tool : String} {id : Nat}
    {c : Closure} {lines : List (List Char)} {n : Nat} (hcode : s.code? id = some (.closure c))
    (hlines : fileLines d here c.file = .ok lines)
    (hhead : Source.Block.headLine lines.toArray (c.line - 1) = some n) :
    s.textFrom d here tool (.function id) = .ok (lines.drop n, n + 1) := by
  have hfile : s.fileOf tool (.function id) = .ok c.file := by rw [fileOf, hcode]
  rw [textFrom.eq_def, hfile]
  simp only [Bind.bind, Except.bind, hlines, hcode, hhead]
  rfl

/-- The lines of an object that is put around no other one. -/
lemma Store.sourceLines_of_textFrom {s : Store} {d : Disk} {here : Location} {tool : String}
    {id n : Nat} {lines block : List (List Char)}
    (hwrapped : s.attr? (.function id) "__wrapped__" = none)
    (htext : s.textFrom d here tool (.function id) = .ok (lines, n))
    (hblock : Source.Block.lines lines = some block) :
    s.sourceLines d here tool (.function id) = .ok (block.map String.ofList, n) := by
  rw [sourceLines, innermost_of_unwrapped hwrapped]
  simp only [htext, Bind.bind, Except.bind, hblock]
  rfl

/-! ## Validators -/

/-- A validation, out of what it looks at and what the rules find in that. -/
lemma validate_eq (o : Object) (file line : Value) (k : Validator) (w : Session) :
    validate o file line (k, w) =
      match subjectOf o file line w with
      | .error f w => .error f ({ k with found := [] }, w)
      | .ok s w =>
        match Guard.applyRules w.disk w.places.here s { k with found := [] } with
        | .ok _ k => .ok k.found (k, w)
        | .error f k => .error f (k, w) := by
  have hstart : validate o file line (k, w) = EStateM.bind (ActWith.lift (subjectOf o file line))
      (fun s => do
        followRules s
        return (← ActWith.state).found) ({ k with found := [] }, w) := rfl
  rw [hstart, EStateM.bind, ActWith.lift]
  cases subjectOf o file line w with
  | error f w => rfl
  | ok s w =>
    show EStateM.bind (followRules s) (fun _ => do return (← ActWith.state).found) _ = _
    simp only [EStateM.bind, followRules]
    cases Guard.applyRules w.disk w.places.here s { k with found := [] } <;> rfl

/-- One use of a validator: in a session, on an object, with a file and a line. -/
structure Use where
  session : Session
  object : Object
  file : Value
  line : Value

/-- A validator after a use, whatever that ended with. -/
def Use.apply (k : Validator) (u : Use) : Validator :=
  match validate u.object u.file u.line (k, u.session) with
  | .ok _ (k, _) => k
  | .error _ (k, _) => k

lemma Use.settings_apply (k : Validator) (u : Use) : (u.apply k).settings = k.settings := by
  rw [Use.apply, validate_eq]
  cases subjectOf u.object u.file u.line u.session with
  | error f w => rfl
  | ok s w =>
    have hkeeps := Guard.KeepsSettings.applyRules w.disk w.places.here s { k with found := [] }
    cases hrules : Guard.applyRules w.disk w.places.here s { k with found := [] } <;>
      simpa [hrules] using hkeeps

lemma settings_foldl (uses : List Use) : ∀ k : Validator,
    (uses.foldl Use.apply k).settings = k.settings := by
  induction uses with
  | nil => exact fun _ => rfl
  | cons u uses ih => exact fun k => (ih _).trans (u.settings_apply k)

/-- A session with a function `f` whose file was cut to a comment. -/
def cutFile : Session where
  disk := ⟨[(["m"], .file "#\n".toUTF8), (["t"], .file "test_f".toUTF8)]⟩
  places := ⟨[], [], ""⟩
  store := { functions := #[
    ⟨"f", "f", "m", .null, .closure ⟨default, [], [], [], 0, "/m", 1, none⟩, none, []⟩] }

/-- The lines of a function with the code of this one. -/
lemma sourceLines_cutFile_of_code {s : Store}
    (hcode : s.code? 0 = some (.closure ⟨default, [], [], [], 0, "/m", 1, none⟩))
    (hwrapped : s.attr? (.function 0) "__wrapped__" = none) :
    s.sourceLines cutFile.disk [] "" (.function 0) = .ok (["#\n"], 1) := by
  have hread (a b : ByteArray) :
      (Disk.mk [(["m"], .file a), (["t"], .file b)]).read [] "/m" = .ok a := by cbv
  have hshown : Source.shownOfBytes "#\n".toUTF8 = .ok "#\n" := by cbv
  have hlines : fileLines cutFile.disk [] "/m" = .ok [['#', '\n']] :=
    fileLines_of_read (hread _ _) hshown (by decide)
  have hhead : Source.Block.headLine [['#', '\n']].toArray (1 - 1) = some 0 := by cbv
  have hblock : Source.Block.lines [['#', '\n']] = some [['#', '\n']] := by cbv
  exact Store.sourceLines_of_textFrom hwrapped (Store.textFrom_closure hcode hlines hhead) hblock

/-- The lines of the function, with or without other objects beside it. -/
lemma sourceLines_cutFile {s : Store} (hs : s.function? 0 = cutFile.store.function? 0) :
    s.sourceLines cutFile.disk [] "" (.function 0) = .ok (["#\n"], 1) :=
  sourceLines_cutFile_of_code (by rw [Store.code?, hs]; rfl)
    (Store.attr_of_asFunction? (o := .function 0) hs (by decide))

lemma parse_cutFile :
    Source.parse (String.join ["#\n"]) = .ok (.node .module ⟨1, 0, 0, 0⟩ []) := by cbv

lemma testedBy_cutFile : Guard.TestedBy cutFile.disk [] "f" "t" := by
  have hread (a b : ByteArray) :
      (Disk.mk [(["m"], .file a), (["t"], .file b)]).read [] "t" = .ok b := by cbv
  exact ⟨"test_f", Disk.readText_of_read (by decide) (hread _ _), .inl (List.infix_refl _)⟩

end QualityGate.Program
