/-
# Where the rule on the complexity looks

The complexity of a function is that of its lines, read as a module of their own.  The lines of a
definition inside a class or another definition are indented, and indented lines are no module, so
the rule never speaks of such a function: `validate_complexity` says of a definition that stands
behind an indentation, empty or not, when the rule is reported.

`Reports` says when a part of a validation reports a rule, whatever the settings that it does not
look at.
-/
import Mathlib
import QualityGate.Proofs.GuardRules
import QualityGate.Proofs.IndentedText

namespace QualityGate.Guard

open Source (Tree)

/-- A violation of the rule is among those found. -/
def Validator.Blames (k : Validator) (rule : Rule) : Prop :=
  ∃ v ∈ k.found, v.rule = .text rule.name

/-- Under settings, a part of a validation that ends well reports a rule just if there is cause for
it. -/
def Reports (rule : Rule) (c : Settings) (cause : Prop) (a : Validation Unit) : Prop :=
  ∀ k k' : Validator, k.settings = c → a k = .ok () k' →
    k'.settings = c ∧ (k'.Blames rule ↔ k.Blames rule ∨ cause)

namespace Reports

variable {α : Type} {rule : Rule} {c : Settings} {cause cause' : Prop} {a a' : Validation Unit}

lemma nothing : Reports rule c False (pure ()) := by
  rintro k k' hk ⟨⟩
  exact ⟨hk, by simp⟩

lemma report (v : Violation) :
    Reports rule c (v.rule = .text rule.name) (Validation.report v) := by
  rintro k k' hk ⟨⟩
  exact ⟨hk, by simp [Validator.Blames, or_and_right, exists_or]⟩

lemma congr (h : Reports rule c cause a) (hcause : cause ↔ cause') : Reports rule c cause' a := by
  rwa [← propext hcause]

lemma seq (h : Reports rule c cause a) (h' : Reports rule c cause' a') :
    Reports rule c (cause ∨ cause') (do a; a') := by
  intro k k'' hk hrun
  have hbind : EStateM.bind a (fun _ => a') k = .ok () k'' := hrun
  rw [EStateM.bind] at hbind
  cases ha : a k with
  | error f k' => simp [ha] at hbind
  | ok u k' =>
    simp only [ha] at hbind
    obtain ⟨hk', hiff⟩ := h k k' hk ha
    obtain ⟨hk'', hiff'⟩ := h' k' k'' hk' hbind
    exact ⟨hk'', by rw [hiff', hiff, or_assoc]⟩

/-- A part that looks at a setting first. -/
lemma setting {name : String} {default : Value} {g : Value → Validation Unit}
    (h : Reports rule c cause (g ((c.get? name).getD default))) :
    Reports rule c cause (do g (← Validation.setting name default)) := by
  intro k k' hk hrun
  subst hk
  exact h k k' rfl hrun

/-- A part that needs a result, and fails without it. -/
lemma ofExcept {r : Except Failure α} {g : α → Validation Unit}
    (h : ∀ x, Reports rule c cause (g x)) :
    Reports rule c cause (do g (← Validation.ofExcept r)) := by
  intro k k' hk hrun
  cases r with
  | error f => cases hrun
  | ok x => exact h x k k' hk hrun

lemma ifRequired {key : String} (h : Reports rule c False a) :
    Reports rule c False (Validation.ifRequired key a) := by
  intro k k' hk hrun
  have hif : (if isRequired k.settings key then a else pure ()) k = .ok () k' := hrun
  split at hif
  · exact h k k' hk hif
  · exact nothing k k' hk hif

/-- A search that has to be successful for another rule. -/
lemma search {r : Except Failure Bool} {v : Violation} (hv : v.rule ≠ .text rule.name) :
    Reports rule c False (do if ← Validation.ofExcept r then return ()
                             Validation.report v) := by
  refine ofExcept fun found => ?_
  cases found with
  | true => exact nothing
  | false => exact (report v).congr (by simp [hv])

end Reports

lemma Rule.name_injective : Function.Injective Rule.name := by
  intro rule other h
  cases rule <;> cases other <;> simp_all [Rule.name]

/-! ## The rule on the complexity -/

/-- The lines make a module on their own, and its complexity is above the limit. -/
def Overcomplex (max : Int) (lines : List String) : Prop :=
  ∃ t, Source.parse (String.join lines) = .ok t ∧ max < 1 + decisionPoints t

variable {c : Settings} {max : Int} {d : Disk} {here : Location} {s : Subject} {lines : List String}

lemma reports_checkComplexity (hmax : (c.get? "max_complexity").getD (.int 10) = .int max)
    (hlines : s.text = some lines) :
    Reports .complexity c (Overcomplex max lines) (checkComplexity s) := by
  rw [checkComplexity, hlines]
  cases hparse : Source.parse (String.join lines) with
  | error r =>
    simp only [hparse]
    exact Reports.nothing.congr (by simp [Overcomplex, hparse])
  | ok t =>
    simp only [hparse]
    refine Reports.setting ?_
    rw [hmax]
    by_cases hlimit : max < 1 + decisionPoints t
    · simp only [Limits.exceeds, complexity_eq, hlimit, decide_true]
      exact (Reports.report _).congr
        (by simp [Overcomplex, hparse, hlimit, overcomplex, Rule.name])
    · simp only [Limits.exceeds, complexity_eq, hlimit, decide_false]
      exact Reports.nothing.congr (by simp [Overcomplex, hparse, hlimit])

/-- No rule is reported for another one. -/
lemma reports_check {rule other : Rule} (hother : other ≠ rule) :
    Reports rule c False (other.check d here s) := by
  have hname : Value.text other.name ≠ .text rule.name := fun h =>
    hother (Rule.name_injective (Value.text.inj h))
  have hreport {v : Violation} (hv : v.rule = .text other.name) :
      Reports rule c False (Validation.report v) :=
    (Reports.report v).congr (by simpa [hv] using hname)
  cases other with
  | tests => exact .ifRequired <| .setting <| .ofExcept fun _ => .search hname
  | docs =>
    refine .ifRequired ?_
    rw [checkDoc]
    split
    · exact .nothing
    · exact hreport rfl
  | length =>
    show Reports _ _ _ (checkLength s)
    rw [checkLength]
    split
    · exact .nothing
    · refine .setting ?_
      split
      · exact hreport rfl
      · exact .nothing
  | complexity =>
    show Reports _ _ _ (checkComplexity s)
    rw [checkComplexity]
    split
    · exact .nothing
    · split
      · exact .nothing
      · refine .setting ?_
        split
        · exact hreport rfl
        · exact .nothing
  | architecture => exact .ifRequired <| .setting <| .ofExcept fun _ => .search hname

lemma reports_applyRules (hmax : (c.get? "max_complexity").getD (.int 10) = .int max)
    (hlines : s.text = some lines) :
    Reports .complexity c (Overcomplex max lines) (applyRules d here s) := by
  have hothers (rule : Rule) (h : rule ≠ .complexity) :
      Reports .complexity c False (rule.check d here s) := reports_check h
  exact ((hothers .tests (by decide)).seq <| (hothers .docs (by decide)).seq <|
    (hothers .length (by decide)).seq <| (reports_checkComplexity hmax hlines).seq
      (hothers .architecture (by decide))).congr (by simp)

/-- Settings that say what they should let a validation end well, whether the lines make a module
or not. -/
lemma exists_finds {r : Terms} (hr : r.SetBy c) (hlines : s.text = some lines) :
    ∃ vs, Finds c (applyRules d here s) vs := by
  cases hparse : Source.parse (String.join lines) with
  | ok t => exact ⟨_, finds_applyRules hr hlines hparse⟩
  | error e =>
    have hcomplexity : Finds c (checkComplexity s) [] := by
      rw [checkComplexity, hlines]
      simp only [hparse]
      exact Finds.nothing
    exact ⟨_, (Finds.ifRequired (Finds.tests hr)).seq <| (Finds.ifRequired Finds.docs).seq <|
      (Finds.length hr hlines).seq <| hcomplexity.seq (Finds.ifRequired (Finds.architecture hr))⟩

/-! ## Definitions behind an indentation -/

/-- The lines of a definition behind an indentation.  It stands in front of the first line, which
starts with a token, and in front of any of the others: an empty line and the inside of a text over
several lines may go without. -/
inductive Placed (indent : String) : List String → List String → Prop
  | mk {first : String} {rest lines : List String}
      (start : ∃ x ∈ first.toList.head?, Source.StartsToken x)
      (others : List.Forall₂ (fun l l' => l' = l ∨ l' = indent ++ l) rest lines) :
      Placed indent (first :: rest) ((indent ++ first) :: lines)

/-- Without an indentation the lines are those of the definition. -/
lemma Placed.eq_of_margin {definition : List String} (h : Placed "" definition lines) :
    lines = definition := by
  obtain ⟨-, others⟩ := h
  rw [String.empty_append]
  congr 1
  induction others with
  | nil => rfl
  | cons hline _ ih =>
    rw [ih]
    simpa using hline

/-- Behind an indentation a definition is no module. -/
lemma Placed.not_parsed {indent : String} {definition : List String}
    (h : Placed indent definition lines) (hindent : ∀ b ∈ indent.toList, Source.IsIndent b)
    (hne : indent ≠ "") (t : Tree) : Source.parse (String.join lines) ≠ .ok t := by
  obtain @⟨first, rest, lines, ⟨x, hx, hstart⟩, -⟩ := h
  obtain ⟨tail, hfirst⟩ : ∃ tail, first.toList = x :: tail := by
    cases hfirst : first.toList with
    | nil => simp [hfirst] at hx
    | cons y tail => simp_all
  have htext : (String.join ((indent ++ first) :: lines)).toList =
      indent.toList ++ x :: (tail ++ (String.join lines).toList) := by
    simp [hfirst]
  exact Source.parse_of_indented htext (by simpa using hne) hindent hstart t

lemma overcomplex_iff {indent : String} {definition : List String}
    (h : Placed indent definition lines) (hindent : ∀ b ∈ indent.toList, Source.IsIndent b) :
    Overcomplex max lines ↔ indent = "" ∧ Overcomplex max definition := by
  by_cases hne : indent = ""
  · subst hne
    rw [h.eq_of_margin]
    simp
  · refine iff_of_false ?_ fun hmargin => hne hmargin.1
    rintro ⟨t, ht, -⟩
    exact h.not_parsed hindent hne t ht

end QualityGate.Guard

namespace QualityGate.Program

open Guard (Terms Validator Overcomplex Placed)
open Source (Tree)

/-- A validator reports a rule just if there is cause for it. -/
lemma reported_iff {rule : Guard.Rule} {c : Settings} {cause : Prop} {k : Validator}
    (hk : k.settings = c) {w : Session} {o : Object} {file line : Value} {s : Guard.Subject}
    (hs : subjectOf o file line w = .ok s w)
    (hreports : Guard.Reports rule c cause (Guard.applyRules w.disk w.places.here s))
    {vs : List Guard.Violation} {k' : Validator} {w' : Session}
    (hrun : validate o file line (k, w) = .ok vs (k', w')) :
    (∃ v ∈ vs, v.rule = .text rule.name) ↔ cause := by
  rw [validate_eq, hs] at hrun
  cases hrules : Guard.applyRules w.disk w.places.here s { k with found := [] } with
  | error e k'' => simp [hrules] at hrun
  | ok u k'' =>
    simp only [hrules, EStateM.Result.ok.injEq, Prod.mk.injEq] at hrun
    obtain ⟨rfl, rfl, rfl⟩ := hrun
    obtain ⟨-, hiff⟩ := hreports { k with found := [] } k'' hk hrules
    simpa [Validator.Blames] using hiff

/-- A validator with settings that say what they should returns an answer on a function whose lines
can be found. -/
lemma exists_validate {c : Settings} {r : Terms} (hr : r.SetBy c) {k : Validator}
    (hk : k.settings = c) {w : Session} {o : Object} {f : Function} {lines : List String} {n : Nat}
    (hf : w.store.asFunction? o = some f)
    (hlines : w.store.sourceLines w.disk w.places.here w.places.tool o = .ok (lines, n))
    (file line : Value) : ∃ vs k', validate o file line (k, w) = .ok vs (k', w) := by
  obtain ⟨s, hs, -, -, htext⟩ := subjectOf_function hf hlines file line
  obtain ⟨vs, hfinds⟩ : ∃ vs, Guard.Finds c (Guard.applyRules w.disk w.places.here s) vs :=
    Guard.exists_finds hr htext
  rw [validate_eq, hs]
  dsimp only
  rw [hfinds { k with found := [] } hk]
  exact ⟨_, _, rfl⟩

/-- What a validator reports of the complexity of a function whose lines can be found. -/
lemma blames_complexity {c : Settings} {max : Int}
    (hmax : (c.get? "max_complexity").getD (.int 10) = .int max) {k : Validator}
    (hk : k.settings = c) {w : Session} {o : Object} {f : Function} {lines : List String} {n : Nat}
    (hf : w.store.asFunction? o = some f)
    (hlines : w.store.sourceLines w.disk w.places.here w.places.tool o = .ok (lines, n))
    (file line : Value) :
    (∀ r : Terms, r.SetBy c → ∃ vs k', validate o file line (k, w) = .ok vs (k', w)) ∧
      ∀ vs k' w', validate o file line (k, w) = .ok vs (k', w') →
        ((∃ v ∈ vs, v.rule = .text "high_complexity") ↔ Overcomplex max lines) := by
  refine ⟨fun r hr => exists_validate hr hk hf hlines file line, fun vs k' w' hrun => ?_⟩
  obtain ⟨s, hs, -, -, htext⟩ := subjectOf_function hf hlines file line
  exact reported_iff hk hs (Guard.reports_applyRules hmax htext) hrun

/-- A method with two decision points. -/
def methodText : String := "class A:\n    def m(self, a, b):\n        if a and b: pass\n"

/-- The method as a definition of its own. -/
def definitionText : String := "def m(self, a, b):\n    if a and b: pass\n"

/-- A session with a method, and with the same definition at the margin of another file. -/
def twoPlaces : Session where
  disk := ⟨[(["m"], .file methodText.toUTF8), (["d"], .file definitionText.toUTF8)]⟩
  places := ⟨[], [], ""⟩
  store := { functions := #[
    ⟨"m", "A.m", "m", .null, .closure ⟨default, [], [], [], 0, "/m", 2, none⟩, none, []⟩,
    ⟨"m", "m", "d", .null, .closure ⟨default, [], [], [], 0, "/d", 1, none⟩, none, []⟩] }

/-- The lines of a function that runs a body, out of the text of its file. -/
lemma Store.sourceLines_of_closure {s : Store} {d : Disk} {here : Location} {tool : String}
    {id n : Nat} {c : Closure} {bytes : ByteArray} {text : String} {all block : List (List Char)}
    (hwrapped : s.attr? (.function id) "__wrapped__" = none)
    (hcode : s.code? id = some (.closure c)) (hread : d.read here c.file = .ok bytes)
    (hshown : Source.shownOfBytes bytes = .ok text) (htext : text.isEmpty = false)
    (hall : (Source.linesWithEnds text.toList).map withEnd = all)
    (hhead : Source.Block.headLine all.toArray (c.line - 1) = some n)
    (hblock : Source.Block.lines (all.drop n) = some block) :
    s.sourceLines d here tool (.function id) = .ok (block.map String.ofList, n + 1) := by
  subst hall
  have hlines := fileLines_of_read hread hshown htext
  exact sourceLines_of_textFrom hwrapped (textFrom_closure hcode hlines hhead) hblock

/-- The lines of the method are indented. -/
lemma sourceLines_method : twoPlaces.store.sourceLines twoPlaces.disk [] "" (.function 0) =
    .ok (["    def m(self, a, b):\n", "        if a and b: pass\n"], 2) := by
  let all : List (List Char) := ["class A:\n".toList, "    def m(self, a, b):\n".toList,
    "        if a and b: pass\n".toList]
  have hcode : twoPlaces.store.code? 0 =
      some (.closure ⟨default, [], [], [], 0, "/m", 2, none⟩) := rfl
  have hread (a b : ByteArray) :
      (Disk.mk [(["m"], .file a), (["d"], .file b)]).read [] "/m" = .ok a := by cbv
  have hshown : Source.shownOfBytes methodText.toUTF8 = .ok methodText := by decide +kernel
  have hall : (Source.linesWithEnds methodText.toList).map withEnd = all := by decide
  have hhead : Source.Block.headLine all.toArray (2 - 1) = some 1 := by decide
  have hblock : Source.Block.lines (all.drop 1) = some (all.drop 1) := by decide
  refine (Store.sourceLines_of_closure rfl hcode (hread _ _) hshown (by decide) hall hhead
    hblock).trans ?_
  simp [all]

lemma sourceLines_definition : twoPlaces.store.sourceLines twoPlaces.disk [] "" (.function 1) =
    .ok (["def m(self, a, b):\n", "    if a and b: pass\n"], 1) := by
  let all : List (List Char) := ["def m(self, a, b):\n".toList, "    if a and b: pass\n".toList]
  have hcode : twoPlaces.store.code? 1 =
      some (.closure ⟨default, [], [], [], 0, "/d", 1, none⟩) := rfl
  have hread (a b : ByteArray) :
      (Disk.mk [(["m"], .file a), (["d"], .file b)]).read [] "/d" = .ok b := by cbv
  have hshown : Source.shownOfBytes definitionText.toUTF8 = .ok definitionText := by decide +kernel
  have hall : (Source.linesWithEnds definitionText.toList).map withEnd = all := by decide
  have hhead : Source.Block.headLine all.toArray (1 - 1) = some 0 := by decide
  have hblock : Source.Block.lines (all.drop 0) = some (all.drop 0) := by decide
  refine (Store.sourceLines_of_closure rfl hcode (hread _ _) hshown (by decide) hall hhead
    hblock).trans ?_
  simp [all]

/-- The definition has two decision points. -/
lemma overcomplex_definition :
    Overcomplex 2 ["def m(self, a, b):\n", "    if a and b: pass\n"] := by
  have hparsed : (match Source.parse
        (String.join ["def m(self, a, b):\n", "    if a and b: pass\n"]) with
      | .ok t => decide (2 < 1 + Guard.decisionPoints t)
      | .error _ => false) = true := by decide +kernel
  split at hparsed
  · next t ht => exact ⟨t, ht, by simpa using hparsed⟩
  · simp at hparsed

/-- The method is the definition behind four blanks. -/
lemma placed_method : Placed "    " ["def m(self, a, b):\n", "    if a and b: pass\n"]
    ["    def m(self, a, b):\n", "        if a and b: pass\n"] :=
  .mk ⟨'d', by decide, by decide⟩ (.cons (.inr (by decide)) .nil)

lemma placed_definition : Placed "" ["def m(self, a, b):\n", "    if a and b: pass\n"]
    ["def m(self, a, b):\n", "    if a and b: pass\n"] :=
  .mk ⟨'d', by decide, by decide⟩ (.cons (.inl rfl) .nil)

/-- Settings that allow one decision point and ask for nothing else. -/
def oneBranch : Settings := .ofFields [("max_complexity", .int 2)]

end QualityGate.Program
