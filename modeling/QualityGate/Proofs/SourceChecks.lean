/-
# Two checks of one text

A gate parses a source as it comes and then counts its lines; a checker reads a file, with all line
ends made the same, counts its lines and then parses it.  The lines of a text and its tree do not
depend on the line ends (`splitLinesFrom_unify`, `parseKept_unify`), so the two agree about the same
text.  The column of a fault is a matter of the file that a text is said to come from: told the
name of another file, or of none, a gate may put the fault into another column.
-/
import Mathlib
import QualityGate.Imports.SourceGate
import QualityGate.Proofs.DiskWrite
import QualityGate.Proofs.LimitsFindings

namespace QualityGate.Text

/-! ## Line ends -/

/-- A text with all line ends made the same. -/
def unified (s : String) : String := String.ofList (unifyLineEnds s.toList)

lemma not_mem_unify : ∀ cs : List Char, '\r' ∉ unifyLineEnds cs := by
  intro cs
  fun_induction unifyLineEnds cs with
  | case1 => simp
  | case2 cs ih => simp [ih]
  | case3 cs _ ih => simp [ih]
  | case4 c cs _ hc ih =>
    rw [List.mem_cons, not_or]
    exact ⟨fun h => hc h.symm, ih⟩

/-- What is no line end stays. -/
lemma mem_unify {c : Char} (hr : c ≠ '\r') (hn : c ≠ '\n') (cs : List Char) :
    c ∈ unifyLineEnds cs ↔ c ∈ cs := by
  fun_induction unifyLineEnds cs with
  | case1 => rfl
  | case2 cs ih => simp [ih, hr, hn]
  | case3 cs _ ih => simp [ih, hr, hn]
  | case4 x cs _ _ ih => simp [ih]

lemma splitLinesFrom_cons {c : Char} {cs : List Char} (h : c = '\r' → ∀ rest, cs ≠ '\n' :: rest)
    (line : List Char) : splitLinesFrom line (c :: cs) =
      if isLineBoundary c then line.reverse :: splitLinesFrom [] cs
      else splitLinesFrom (c :: line) cs := by
  rw [splitLinesFrom.eq_def]
  split
  · contradiction
  · rename_i heq
    obtain ⟨rfl, rfl⟩ := List.cons.inj heq
    exact absurd rfl (h rfl _)
  · rename_i heq
    obtain ⟨rfl, rfl⟩ := List.cons.inj heq
    rfl

/-- The lines of a text do not depend on the line ends. -/
lemma splitLinesFrom_unify (cs : List Char) : ∀ line : List Char,
    splitLinesFrom line (unifyLineEnds cs) = splitLinesFrom line cs := by
  have hn (line rest : List Char) :
      splitLinesFrom line ('\n' :: rest) = line.reverse :: splitLinesFrom [] rest := rfl
  fun_induction unifyLineEnds cs with
  | case1 => exact fun _ => rfl
  | case2 cs ih =>
    intro line
    rw [hn, ih]
    rfl
  | case3 cs hcs ih =>
    intro line
    rw [hn, ih, splitLinesFrom_cons fun _ rest hrest => hcs rest hrest]
    rfl
  | case4 c cs _ hc ih =>
    intro line
    rw [splitLinesFrom_cons fun h => absurd h hc, splitLinesFrom_cons fun h => absurd h hc, ih, ih]

lemma splitLines_unified (s : String) : splitLines (unified s) = splitLines s := by
  rw [splitLines, splitLines, unified, String.toList_ofList, splitLinesFrom_unify]

lemma eq_nil_of_prefix_newline {word cs : List Char} (hn : '\n' ∉ word)
    (h : word <+: '\n' :: cs) : word = [] := by
  rcases List.prefix_cons_iff.mp h with rfl | ⟨t, rfl, -⟩
  · rfl
  · simp at hn

/-- A word in one line at the start of a text was there before its line ends were made the same. -/
lemma prefix_of_unifyLineEnds {word cs : List Char} (hn : '\n' ∉ word)
    (h : word <+: unifyLineEnds cs) : word <+: cs := by
  fun_induction unifyLineEnds cs generalizing word with
  | case1 => exact h
  | case2 cs ih => simp [eq_nil_of_prefix_newline hn h]
  | case3 cs _ ih => simp [eq_nil_of_prefix_newline hn h]
  | case4 c cs _ _ ih =>
    rcases List.prefix_cons_iff.mp h with rfl | ⟨t, rfl, ht⟩
    · exact List.nil_prefix
    · exact List.cons_prefix_cons.mpr ⟨rfl, ih (fun hmem => hn (List.mem_cons_of_mem _ hmem)) ht⟩

lemma infix_of_unifyLineEnds {word cs : List Char} (hn : '\n' ∉ word)
    (h : word <:+: unifyLineEnds cs) : word <:+: cs := by
  fun_induction unifyLineEnds cs with
  | case1 => exact h
  | case2 cs ih =>
    rcases List.infix_cons_iff.mp h with h | h
    · simp [eq_nil_of_prefix_newline hn h]
    · exact List.infix_cons (List.infix_cons (ih h))
  | case3 cs _ ih =>
    rcases List.infix_cons_iff.mp h with h | h
    · simp [eq_nil_of_prefix_newline hn h]
    · exact List.infix_cons (ih h)
  | case4 c cs hcr hr ih =>
    rcases List.infix_cons_iff.mp h with h | h
    · have hsame : unifyLineEnds (c :: cs) = c :: unifyLineEnds cs := by
        rw [unifyLineEnds] <;> assumption
      exact (prefix_of_unifyLineEnds hn (hsame ▸ h)).isInfix
    · exact List.infix_cons (ih h)

/-- A text is as it was before its line ends were made the same if it has only one kind. -/
lemma unified_eq_self_iff {s : String} : unified s = s ↔ '\r' ∉ s.toList := by
  constructor
  · intro h
    rw [← h, unified, String.toList_ofList]
    exact not_mem_unify _
  · intro h
    rw [unified, Disk.unifyLineEnds_of_not_mem h, String.ofList_toList]

/-! ## Texts that can be written -/

lemma halfFaultFrom_eq_none_iff {cs : List Char} : ∀ pos,
    halfFaultFrom (fun _ => true) pos cs = none ↔ ∀ c ∈ cs, half? c = none := by
  induction cs with
  | nil => simp [halfFaultFrom]
  | cons c cs ih =>
    intro pos
    rw [halfFaultFrom, List.forall_mem_cons]
    cases half? c with
    | none => simp [ih]
    | some n => simp

lemma halfFault?_append {s t : String} :
    halfFault? (s ++ t) = none ↔ halfFault? s = none ∧ halfFault? t = none := by
  simp only [halfFault?, halfFaultFrom_eq_none_iff, String.toList_append, List.forall_mem_append]

lemma halfFault?_join {ss : List String} :
    halfFault? (String.join ss) = none ↔ ∀ s ∈ ss, halfFault? s = none := by
  simp only [halfFault?, halfFaultFrom_eq_none_iff, String.toList_join, List.mem_flatMap]
  grind

end QualityGate.Text

namespace QualityGate.Source

open Text (unified)

/-! ## Texts with other line ends -/

lemma unify_unified (s : String) :
    Text.unifyLineEnds (unified s).toList = Text.unifyLineEnds s.toList := by
  rw [unified, String.toList_ofList]
  exact Disk.unifyLineEnds_of_not_mem (Text.not_mem_unify _)

lemma readable_unified (s : String) : readable (unified s) = readable s := by
  rw [readable, readable, unify_unified]

/-- Whether a text is a module, and what is wrong with it, does not depend on its line ends. -/
lemma parseKept_unified (onDisk : Option String) (s : String) :
    parseKept onDisk (unified s) = parseKept onDisk s := by
  have hnull : (unified s).toList.contains '\x00' = s.toList.contains '\x00' := by
    rw [Bool.eq_iff_iff, List.contains_iff_mem, List.contains_iff_mem, unified,
      String.toList_ofList, Text.mem_unify (by decide) (by decide)]
  rw [parseKept, parseKept, hnull, readable_unified]

lemma parseKept_onDisk_unified (t s : String) :
    parseKept (some (unified t)) s = parseKept (some t) s := by
  rw [parseKept, parseKept, Option.map_some, Option.map_some, unify_unified]

/-! ## Texts said to come from other files -/

lemma refusal_cause (source : List Char) (onDisk : Option (List Char)) (f : Fault) :
    (f.refusal source onDisk).cause = f.cause := by
  rw [Fault.refusal]
  split
  · rfl
  · split <;> rfl

lemma refusal_line (source : List Char) (onDisk onDisk' : Option (List Char)) (f : Fault) :
    (f.refusal source onDisk).line = (f.refusal source onDisk').line := by
  rw [Fault.refusal, Fault.refusal]
  split
  · rfl
  · split <;> rfl

/-- A refusal that does not blame the text names no place in it. -/
lemma refusal_of_not_blamed {source : List Char} {onDisk onDisk' : Option (List Char)} {f : Fault}
    (h : f.cause.blamesText = false) : f.refusal source onDisk = f.refusal source onDisk' := by
  rw [Fault.refusal, Fault.refusal, h]
  rfl

/-- Two refusals differ at most in the column, and in that only if the text is blamed. -/
structure Refusal.Alike (r r' : Refusal) : Prop where
  cause : r'.cause = r.cause
  line : r'.line = r.line
  unblamed : r.cause.blamesText = false → r' = r

/-- The file that a text is said to come from matters for columns only. -/
lemma parseKept_onDisk (onDisk onDisk' : Option String) (s : String) :
    (∃ t, parseKept onDisk s = .ok t ∧ parseKept onDisk' s = .ok t) ∨
      ∃ r r', parseKept onDisk s = .error r ∧ parseKept onDisk' s = .error r' ∧ r.Alike r' := by
  rw [parseKept, parseKept]
  by_cases hnull : s.toList.contains '\x00' = true
  · rw [if_pos hnull, if_pos hnull]
    exact .inr ⟨_, _, rfl, rfl, rfl, rfl, fun _ => rfl⟩
  · rw [if_neg hnull, if_neg hnull]
    cases hparse : Parser.parseStream (fileRule (run ((readable s).length * 128 + 256)))
        (tokenize (readable s)) none with
    | error f =>
      simp only [hparse]
      refine .inr ⟨_, _, rfl, rfl, ?_, refusal_line _ _ _ _, fun h => ?_⟩
      · rw [refusal_cause, refusal_cause]
      · rw [refusal_cause] at h
        exact refusal_of_not_blamed h
    | ok t =>
      simp only [hparse]
      by_cases hdeep : maxHeight < t.height
      · simp only [if_pos hdeep]
        exact .inr ⟨_, _, rfl, rfl, rfl, rfl, fun _ => rfl⟩
      · simp only [if_neg hdeep]
        exact .inl ⟨t, rfl, rfl⟩

lemma alike_onDisk {onDisk : Option String} (onDisk' : Option String) {s : String} {r : Refusal}
    (hr : parseKept onDisk s = .error r) : ∃ r', parseKept onDisk' s = .error r' ∧ r.Alike r' := by
  obtain ⟨t, ht, -⟩ | ⟨r₁, r', hr₁, hr', halike⟩ := parseKept_onDisk onDisk onDisk' s
  · cases hr.symm.trans ht
  · cases hr.symm.trans hr₁
    exact ⟨r', hr', halike⟩

end QualityGate.Source

namespace QualityGate.Limits

open Source (Tree)
open Text (unified)

/-! ## What a visit to a tree adds -/

/-- Is it a finding about a function? -/
def Finding.isOfFunction : Finding → Bool
  | functionTooLong _ _ _ | tooManyParams _ _ _ | tooDeep _ _ => true
  | _ => false

/-- Is it the finding that a text is not a module? -/
def Finding.isRefusal : Finding → Bool
  | notModule _ => true
  | _ => false

/-- Is it the finding that a text has too many lines? -/
def Finding.isLength : Finding → Bool
  | fileTooLong _ _ => true
  | _ => false

lemma Finding.of_isOfFunction {f : Finding} (h : f.isOfFunction = true) :
    f.isRefusal = false ∧ f.isLength = false := by
  cases f <;> simp_all [isOfFunction, isRefusal, isLength]

/-- Where a part of a check ends well, it has added findings about functions and nothing else. -/
def AddsOfFunctions {α : Type} (a : Check α) : Prop :=
  ∀ k x k', a k = .ok x k' → ∃ is, k' = k.adding is ∧ ∀ i ∈ is, i.finding.isOfFunction = true

namespace AddsOfFunctions

variable {α β : Type}

lemma pure (x : α) : AddsOfFunctions (Pure.pure x : Check α) := by
  intro k y k' h
  cases h
  exact ⟨[], (k.adding_nil).symm, by simp⟩

lemma bind {a : Check α} {g : α → Check β} (ha : AddsOfFunctions a)
    (hg : ∀ x, AddsOfFunctions (g x)) : AddsOfFunctions (a >>= g) := by
  intro k y k₂ h
  change EStateM.bind a g k = _ at h
  rw [EStateM.bind] at h
  cases hak : a k with
  | error f k₁ => simp [hak] at h
  | ok x k₁ =>
    simp only [hak] at h
    obtain ⟨is, rfl, his⟩ := ha k x k₁ hak
    obtain ⟨js, rfl, hjs⟩ := hg x _ y k₂ h
    refine ⟨is ++ js, k.adding_adding is js, fun i hi => ?_⟩
    rcases List.mem_append.mp hi with hi | hi
    · exact his i hi
    · exact hjs i hi

lemma ofExcept (r : Except Failure α) : AddsOfFunctions (Check.ofExcept r) := by
  cases r with
  | ok x => exact pure x
  | error f =>
    intro k y k' h
    cases h

lemma look : AddsOfFunctions (get : Check Checker) := by
  intro k y k' h
  cases h
  exact ⟨[], (k.adding_nil).symm, by simp⟩

lemma count (name : String) (default : Nat) (n : Int) {issue : Value → Issue}
    (hissue : ∀ limit, (issue limit).finding.isOfFunction = true) :
    AddsOfFunctions (Check.count name default n issue) := by
  refine bind look fun k => bind (ofExcept _) fun limit => bind (ofExcept _) fun above => ?_
  cases above with
  | false => exact pure ()
  | true =>
    intro k y k' h
    cases h
    exact ⟨[issue limit], rfl, by simpa using hissue limit⟩

lemma function (t : Tree) : AddsOfFunctions (Check.function t) :=
  bind (count _ _ _ fun _ => rfl) fun _ => bind (count _ _ _ fun _ => rfl) fun _ =>
    count _ _ _ fun _ => rfl

mutual

lemma visit : ∀ t : Tree, AddsOfFunctions (Check.visit t)
  | .node l s ts => by
    rw [Check.visit]
    by_cases hl : isFunction l = true
    · rw [if_pos hl]
      exact bind (function _) fun _ => visitAll ts
    · rw [if_neg hl]
      exact visitAll ts

lemma visitAll : ∀ ts : List Tree, AddsOfFunctions (Check.visitAll ts)
  | [] => by
    rw [Check.visitAll]
    exact pure ()
  | t :: ts => by
    rw [Check.visitAll]
    exact bind (visit t) fun _ => visitAll ts

end

end AddsOfFunctions

/-! ## What a checker says -/

/-- The issue of a text with too many lines, put at a line. -/
def lengthIssues (limit : Int) (line : Nat) (text : String) : List Issue :=
  issueIf (limit < lineCount text) ⟨.fileTooLong (lineCount text) (.int limit), some line, 0⟩

lemma finding_lengthIssues {limit : Int} {line : Nat} {text : String} {i : Issue}
    (h : i ∈ lengthIssues limit line text) :
    i.finding = .fileTooLong (lineCount text) (.int limit) := by
  rw [lengthIssues, issueIf] at h
  split at h
  · rw [List.mem_singleton.mp h]
  · cases h

lemma lengthIssues_ne_nil {limit : Int} {line : Nat} {text : String} :
    lengthIssues limit line text ≠ [] ↔ limit < lineCount text := by
  rw [lengthIssues, issueIf]
  split <;> simp [*]

section Checker

variable {k : Checker} {d : Disk} {here : Location} {path text : String} {limit : Int}

/-- What a checker says about a file, out of what it finds in the text. -/
lemma check_eq (hread : d.readText here path = .ok text) :
    (k.check ⟨d, here, path⟩).1 = match Check.text text ⟨k.config, []⟩ with
      | .ok _ k => .ok k.issues
      | .error f _ => .error f := by
  have hfile : Check.file d here path k =
      EStateM.bind (Check.text text) (fun _ => do return (← get).issues) ⟨k.config, []⟩ := by
    show EStateM.bind (Check.contents d here path) _ _ = _
    rw [Check.contents, hread]
  rw [Checker.check, Checker.run, hfile, EStateM.bind]
  cases Check.text text ⟨k.config, []⟩ <;> rfl

/-- The lines are counted first. -/
lemma text_eq (hlimit : k.config.get "max_file_lines" (.int 300) = .ok (.int limit)) :
    Check.text text ⟨k.config, []⟩ = (match Source.parseKept (some text) text with
      | .error r =>
        if r.cause.blamesText then Check.report (Check.refused r) else throw (.notModule r "")
      | .ok t => do
        if maxSteps < checkSteps t then throw .endless
        Check.visit t : Check Unit) ⟨k.config, lengthIssues limit (lineCount text) text⟩ := by
  have hlength : Reports k.config (Check.length text) (lengthIssues limit (lineCount text) text) :=
    Reports.count _ _ hlimit
  have hrun := hlength ⟨k.config, []⟩ rfl
  show EStateM.bind (Check.length text) _ _ = _
  rw [EStateM.bind, hrun]
  rfl

variable (hread : d.readText here path = .ok text)
  (hlimit : k.config.get "max_file_lines" (.int 300) = .ok (.int limit))

include hread hlimit

lemma check_refused {r : Source.Refusal} (hr : Source.parseKept (some text) text = .error r)
    (hblame : r.cause.blamesText = true) :
    (k.check ⟨d, here, path⟩).1 = .ok (lengthIssues limit (lineCount text) text ++ [Check.refused r]) := by
  rw [check_eq hread, text_eq hlimit, hr]
  simp only [hblame, if_true]
  rfl

lemma check_unblamed {r : Source.Refusal} (hr : Source.parseKept (some text) text = .error r)
    (hblame : r.cause.blamesText = false) : (k.check ⟨d, here, path⟩).1 = .error (.notModule r "") := by
  rw [check_eq hread, text_eq hlimit, hr]
  simp only [hblame, Bool.false_eq_true, if_false]
  rfl

/-- Of a module a checker reports the length and what is wrong with functions. -/
lemma check_tree {t : Tree} (ht : Source.parseKept (some text) text = .ok t) {is : List Issue}
    (h : (k.check ⟨d, here, path⟩).1 = .ok is) : ∃ js, is = lengthIssues limit (lineCount text) text ++ js ∧
      ∀ i ∈ js, i.finding.isOfFunction = true := by
  rw [check_eq hread, text_eq hlimit, ht] at h
  by_cases hroom : maxSteps < checkSteps t
  · simp only [if_pos hroom] at h
    cases h
  · simp only [if_neg hroom] at h
    change (match Check.visit t ⟨k.config, lengthIssues limit (lineCount text) text⟩ with
      | .ok _ k => Except.ok k.issues
      | .error f _ => .error f) = .ok is at h
    cases hvisit : Check.visit t ⟨k.config, lengthIssues limit (lineCount text) text⟩ with
    | error f k' => simp [hvisit] at h
    | ok x k' =>
      obtain ⟨js, rfl, hjs⟩ := AddsOfFunctions.visit t _ x k' hvisit
      simp only [hvisit, Except.ok.injEq] at h
      exact ⟨js, h.symm, hjs⟩

/-- With integers as limits a checker gives up on a module only for lack of room. -/
lemma check_tree_error {b : Bounds} (hb : Config.Sets k.config b) {t : Tree}
    (ht : Source.parseKept (some text) text = .ok t) {f : Failure}
    (h : (k.check ⟨d, here, path⟩).1 = .error f) : f = .endless := by
  by_cases hroom : checkSteps t ≤ maxSteps
  · rw [check_of_reports (t := ⟨d, here, path⟩) hread (reports_tree hb ht hroom)] at h
    cases h
  · rw [check_eq hread, text_eq hlimit, ht] at h
    simp only [if_pos (not_le.mp hroom)] at h
    exact (Except.error.inj h).symm

end Checker

end QualityGate.Limits

namespace QualityGate.Imports

open Limits (Checker Issue Finding lineCount lengthIssues)
open Text (unified)

/-! ## What a gate says -/

section Gate

variable {config : Value} {onDisk : Option String} {s : String} {limit : Int}

lemma checkSource_refused (hs : Text.halfFault? s = none) {r : Source.Refusal}
    (hr : Source.parseKept onDisk s = .error r) (hblame : r.cause.blamesText = true) :
    checkSource config onDisk s = .ok [⟨.notModule r.cause, some (r.line.getD 1), r.column⟩] := by
  rw [checkSource, Source.parseWith, hs]
  simp only [hr, hblame, if_true]
  rfl

lemma checkSource_unblamed (hs : Text.halfFault? s = none) {r : Source.Refusal}
    (hr : Source.parseKept onDisk s = .error r) (hblame : r.cause.blamesText = false) :
    checkSource config onDisk s = .error (.notModule r "") := by
  rw [checkSource, Source.parseWith, hs]
  simp only [hr, hblame, Bool.false_eq_true, if_false]
  rfl

lemma checkSource_tree (hs : Text.halfFault? s = none) {t : Source.Tree}
    (ht : Source.parseKept onDisk s = .ok t)
    (hlimit : lineLimit config = .ok (some (.int limit))) :
    checkSource config onDisk s = .ok (lengthIssues limit 1 s) := by
  rw [checkSource, Source.parseWith, hs]
  simp only [ht, hlimit]
  show (do if ← Limits.exceeds _ (.int limit) then
      return [(⟨.fileTooLong (lineCount s) (.int limit), some 1, 0⟩ : Issue)] else return [] :
    Except Failure (List Issue)) = _
  by_cases hlong : limit < lineCount s
  · simp only [Limits.exceeds, hlong, decide_true, lengthIssues, Limits.issueIf, if_true]
    rfl
  · simp only [Limits.exceeds, hlong, decide_false, lengthIssues, Limits.issueIf, if_false]
    rfl

end Gate

/-! ## Agreement -/

lemma readText_of_file {d : Disk} {here : Location} {path s : String}
    (h : d.read here path = .ok s.toUTF8) : d.readText here path = .ok (unified s) := by
  rw [Disk.readText, h]
  simp only [Disk.decodeUtf8_toUTF8]
  rfl

lemma lineCount_unified (s : String) : lineCount (unified s) = lineCount s := by
  rw [lineCount, lineCount, Text.splitLines_unified]

lemma lengthIssues_unified (limit : Int) (line : Nat) (s : String) :
    lengthIssues limit line (unified s) = lengthIssues limit line s := by
  rw [lengthIssues, lengthIssues, lineCount_unified]

lemma parseKept_file (s : String) :
    Source.parseKept (some (unified s)) (unified s) = Source.parseKept (some s) s := by
  rw [Source.parseKept_unified, Source.parseKept_onDisk_unified]

section Files

variable {s : String} {d : Disk} {here : Location} {path : String} {k : Checker} {limit : Int}
  (hfile : d.read here path = .ok s.toUTF8)
  (hk : k.config.get "max_file_lines" (.int 300) = .ok (.int limit))

include hfile hk

lemma check_file_refused {r : Source.Refusal} (hr : Source.parseKept (some s) s = .error r)
    (hblame : r.cause.blamesText = true) : (k.check ⟨d, here, path⟩).1 =
      .ok (lengthIssues limit (lineCount s) s ++ [Limits.Check.refused r]) := by
  rw [Limits.check_refused (readText_of_file hfile) hk ((parseKept_file s).trans hr) hblame,
    lengthIssues_unified, lineCount_unified]

lemma check_file_unblamed {r : Source.Refusal} (hr : Source.parseKept (some s) s = .error r)
    (hblame : r.cause.blamesText = false) :
    (k.check ⟨d, here, path⟩).1 = .error (.notModule r "") :=
  Limits.check_unblamed (readText_of_file hfile) hk ((parseKept_file s).trans hr) hblame

lemma check_file_tree {t : Source.Tree} (ht : Source.parseKept (some s) s = .ok t)
    {is : List Issue} (h : (k.check ⟨d, here, path⟩).1 = .ok is) :
    ∃ js, is = lengthIssues limit (lineCount s) s ++ js ∧
      ∀ i ∈ js, i.finding.isOfFunction = true := by
  rw [← lengthIssues_unified, ← lineCount_unified]
  exact Limits.check_tree (readText_of_file hfile) hk ((parseKept_file s).trans ht) h

end Files

section Names

variable {s : String} {d : Disk} {here : Location} {path : String} {g : Gate} {limit : Int}
  (hs : Text.halfFault? s = none) (name : String)

include hs

lemma gate_refused (hfile : d.read here path = .ok s.toUTF8) {r : Source.Refusal}
    (hr : Source.parseKept (some s) s = .error r) (hblame : r.cause.blamesText = true) :
    ∃ j, g.check d here name s = .ok [j] ∧ j.finding = .notModule r.cause ∧
      j.line = some (r.line.getD 1) ∧
      (d.readText here name = d.readText here path → j.col = r.column) := by
  obtain ⟨r', hr', halike⟩ := Source.alike_onDisk (textOnDisk d here name) hr
  refine ⟨_, checkSource_refused hs hr' (halike.cause ▸ hblame), congrArg _ halike.cause,
    by rw [halike.line], fun hname => ?_⟩
  have hdisk : textOnDisk d here name = some (unified s) := by
    rw [textOnDisk, hname, readText_of_file hfile]
    rfl
  rw [hdisk, Source.parseKept_onDisk_unified, hr, Except.error.injEq] at hr'
  rw [hr']

lemma gate_unblamed {r : Source.Refusal} (hr : Source.parseKept (some s) s = .error r)
    (hblame : r.cause.blamesText = false) :
    g.check d here name s = .error (.notModule r "") := by
  obtain ⟨r', hr', halike⟩ := Source.alike_onDisk (textOnDisk d here name) hr
  rw [halike.unblamed hblame] at hr'
  exact checkSource_unblamed hs hr' hblame

lemma gate_tree (hg : lineLimit g.config = .ok (some (.int limit))) {t : Source.Tree}
    (ht : Source.parseKept (some s) s = .ok t) :
    g.check d here name s = .ok (lengthIssues limit 1 s) := by
  obtain ⟨t', -, ht'⟩ | ⟨r, _, hr, -⟩ :=
    Source.parseKept_onDisk (some s) (textOnDisk d here name) s
  · exact checkSource_tree hs ht' hg
  · rw [ht] at hr
    cases hr

end Names

/-- Among the issues of a module, there is one of its length just when it is too long. -/
lemma exists_length_iff {limit : Int} {s : String} {js : List Issue}
    (hjs : ∀ i ∈ js, i.finding.isOfFunction = true) :
    lengthIssues limit 1 s ≠ [] ↔ ∃ i ∈ lengthIssues limit (lineCount s) s ++ js,
      i.finding.isRefusal = true ∨ i.finding.isLength = true := by
  rw [Limits.lengthIssues_ne_nil]
  constructor
  · intro hlong
    have hne : lengthIssues limit (lineCount s) s ≠ [] := Limits.lengthIssues_ne_nil.mpr hlong
    obtain ⟨i, hi⟩ := List.exists_mem_of_ne_nil _ hne
    refine ⟨i, List.mem_append_left _ hi, .inr ?_⟩
    rw [Limits.finding_lengthIssues hi]
    rfl
  · rintro ⟨i, hi, hfinding⟩
    rcases List.mem_append.mp hi with hi | hi
    · exact Limits.lengthIssues_ne_nil.mp (List.ne_nil_of_mem hi)
    · obtain ⟨hrefusal, hlength⟩ := Finding.of_isOfFunction (hjs i hi)
      simp [hrefusal, hlength] at hfinding

lemma textOnDisk_of_missing {d : Disk} {here : Location} {name : String}
    (h : d.pathExists here name = false) : textOnDisk d here name = none := by
  rw [textOnDisk]
  cases hread : d.read here name with
  | error e =>
    rw [Disk.readText, hread]
    rfl
  | ok bytes =>
    rw [Disk.pathExists_of_read hread] at h
    cases h

/-- Is it this failure? -/
def failsWith {α ε : Type} [DecidableEq ε] (e : ε) : Except ε α → Bool
  | .ok _ => false
  | .error e' => e' = e

lemma eq_error_of_failsWith {α ε : Type} [DecidableEq ε] {e : ε} {x : Except ε α}
    (h : failsWith e x = true) : x = .error e := by
  cases x with
  | ok _ => cases h
  | error e' => rw [of_decide_eq_true h]

lemma read_single (bytes : ByteArray) : (Disk.mk [(["m"], .file bytes)]).read [] "m" = .ok bytes := by
  cbv

end QualityGate.Imports
