/-
# The way to install that the user chooses

The installer asks until a line names one of the ways to install.  Each line before it gets a
complaint and has no other effect, so that the installation starts from the files as they were; if
no line names one, then asking ends where the lines end.

* `askChoice_chosen`, `askChoice_silence`: the two ways in which asking ends;
* `interactive_run`: what an interactive installation does for all that may be entered.
-/
import Mathlib
import QualityGate.Proofs.LinePieces
import QualityGate.Proofs.ProjectSetup

namespace QualityGate.Scaffold.Installer

open Text (enteredLines enteredLines_eq)

/-! ## Answers -/

/-- What is entered to choose a way to install. -/
def Choice.number : Choice → String
  | package => "1"
  | start => "2"
  | project => "3"
  | samples => "4"
  | all => "5"

lemma Choice.ofAnswer?_eq_some_iff {answer : String} {c : Choice} :
    ofAnswer? answer = some c ↔ Text.trim answer = c.number := by
  rw [ofAnswer?]
  constructor
  · intro h
    split at h <;> cases h <;> assumption
  · intro h
    rw [h]
    cases c <;> rfl

/-- None of some lines chooses a way to install. -/
def Rejected (lines : List (List Char)) : Prop :=
  ∀ line ∈ lines, ∀ c : Choice, Text.trim (String.ofList line) ≠ c.number

lemma Rejected.ofAnswer?_eq_none {line : List Char} {lines : List (List Char)}
    (h : Rejected (line :: lines)) : Choice.ofAnswer? (String.ofList line) = none := by
  refine Option.eq_none_iff_forall_not_mem.mpr fun c hc => ?_
  exact h line (by simp) c (Choice.ofAnswer?_eq_some_iff.mp hc)

lemma Rejected.tail {line : List Char} {lines : List (List Char)} (h : Rejected (line :: lines)) :
    Rejected lines := fun l hl => h l (List.mem_cons_of_mem _ hl)

/-! ## One question -/

variable {w : Session} {n : Nat}

/-- The session once a line was read. -/
def heard (w : Session) : Session :=
  { w with
    out := w.out ++ question
    input := w.input.drop ((w.input.takeWhile (· ≠ '\n')).length + 1) }

/-- How a question ends when there is nothing more to say. -/
def silence (w : Session) : Failure := if w.interrupts then .interrupted else .endOfInput

lemma ask_of_ne_nil (hne : w.input ≠ []) : Act.ask question w =
    .ok (String.ofList (w.input.takeWhile (· ≠ '\n'))) (heard w) := by
  have hempty : w.input.isEmpty = false := by simpa using hne
  have hprint : Act.print question w = .ok () { w with out := w.out ++ question } := rfl
  have hget : (get : Act Session) { w with out := w.out ++ question } = _ := rfl
  rw [Act.ask, Act.bind_ok hprint, Act.bind_ok hget]
  simp only [hempty]
  rfl

lemma ask_of_nil (h : w.input = []) :
    Act.ask question w = .error (silence w) { w with out := w.out ++ question } := by
  have hprint : Act.print question w = .ok () { w with out := w.out ++ question } := rfl
  have hget : (get : Act Session) { w with out := w.out ++ question } = _ := rfl
  rw [Act.ask, Act.bind_ok hprint, Act.bind_ok hget]
  simp only [h]
  rfl

/-- As long as there is a line it is read, and the bound on the answers stays above what is left. -/
lemma exists_ask {line : List Char} {lines : List (List Char)} (hn : w.input.length < n)
    (hlines : enteredLines w.input = line :: lines) :
    ∃ m left, n = m + 1 ∧ left.length < m ∧ enteredLines left = lines ∧
      Act.ask question w =
        .ok (String.ofList line) { w with out := w.out ++ question, input := left } := by
  have hne : w.input ≠ [] := by
    intro h
    rw [h] at hlines
    cases hlines
  rw [enteredLines_eq hne] at hlines
  obtain ⟨rfl, hrest⟩ := List.cons.inj hlines
  refine ⟨n - 1, (heard w).input, by omega, ?_, hrest, ask_of_ne_nil hne⟩
  have hpos := List.length_pos_of_ne_nil hne
  rw [heard, List.length_drop]
  omega

/-- One answer that chooses nothing. -/
lemma askChoice_rejected {line : List Char} {lines : List (List Char)} (hn : w.input.length < n)
    (hlines : enteredLines w.input = line :: lines)
    (hline : Choice.ofAnswer? (String.ofList line) = none) :
    ∃ m left, left.length < m ∧ enteredLines left = lines ∧
      askChoice n w =
        askChoice m { w with out := w.out ++ (question ++ (complaint ++ "\n")), input := left } := by
  obtain ⟨m, left, rfl, hm, hleft, hask⟩ := exists_ask hn hlines
  refine ⟨m, left, hm, hleft, ?_⟩
  rw [askChoice, Act.bind_ok hask]
  simp only [hline]
  rw [Act.bind_ok (Act.printLine_run complaint _), String.append_assoc]

/-! ## All questions -/

/-- What is printed up to the answer behind `n` others, each of which got a complaint. -/
def asked (n : Nat) : String :=
  String.join (List.replicate n (question ++ (complaint ++ "\n"))) ++ question

lemma asked_succ (n : Nat) : asked (n + 1) = question ++ (complaint ++ "\n") ++ asked n := by
  simp [asked, List.replicate_succ, String.append_assoc]

/-- The first answer that chooses a way is taken. -/
lemma askChoice_chosen {c : Choice} {line : List Char} {rest : List (List Char)}
    (hline : Text.trim (String.ofList line) = c.number) (before : List (List Char)) :
    w.input.length < n → enteredLines w.input = before ++ line :: rest → Rejected before →
    ∃ left, enteredLines left = rest ∧ askChoice n w =
      .ok c { w with out := w.out ++ asked before.length, input := left } := by
  induction before generalizing w n with
  | nil =>
    intro hn hlines _
    obtain ⟨m, left, rfl, -, hleft, hask⟩ := exists_ask hn hlines
    refine ⟨left, hleft, ?_⟩
    rw [askChoice, Act.bind_ok hask]
    simp only [Choice.ofAnswer?_eq_some_iff.mpr hline]
    rfl
  | cons l before ih =>
    intro hn hlines hbefore
    obtain ⟨m, left, hm, hleft, hrun⟩ := askChoice_rejected hn hlines hbefore.ofAnswer?_eq_none
    obtain ⟨left', hrest, hrun'⟩ := @ih { w with
      out := w.out ++ (question ++ (complaint ++ "\n")), input := left } m hm hleft hbefore.tail
    refine ⟨left', hrest, ?_⟩
    rw [hrun, hrun', List.length_cons, asked_succ, String.append_assoc]

/-- Without such an answer the input is read to its end. -/
lemma askChoice_silence (lines : List (List Char)) :
    w.input.length < n → enteredLines w.input = lines → Rejected lines →
    askChoice n w =
      .error (silence w) { w with out := w.out ++ asked lines.length, input := [] } := by
  induction lines generalizing w n with
  | nil =>
    intro hn hlines _
    have hnil : w.input = [] := by
      by_contra hne
      rw [enteredLines_eq hne] at hlines
      cases hlines
    obtain ⟨m, rfl⟩ : ∃ m, n = m + 1 := ⟨n - 1, by omega⟩
    rw [askChoice, Act.bind_error (ask_of_nil hnil), ← hnil]
    rfl
  | cons l lines ih =>
    intro hn hlines hrejected
    obtain ⟨m, left, hm, hleft, hrun⟩ := askChoice_rejected hn hlines hrejected.ofAnswer?_eq_none
    rw [hrun, ih hm hleft hrejected.tail, List.length_cons, asked_succ, String.append_assoc]
    rfl

/-! ## The installation -/

lemma choose_of_ok {c : Choice} {w' : Session} (h : askChoice (w.input.length + 1) w = .ok c w') :
    choose w = .ok c w' := by
  show EStateM.tryCatch (askChoice (w.input.length + 1)) _ w = _
  rw [EStateM.tryCatch, h]

/-- How an installation ends without a choice, and what is printed then. -/
def ending (interrupts : Bool) : Failure × String :=
  if interrupts then (.exit (.int 1), farewell ++ "\n") else (.endOfInput, "")

lemma choose_of_silence {w' : Session}
    (h : askChoice (w.input.length + 1) w = .error (silence w) w') :
    choose w = .error (ending w.interrupts).1
      { w' with out := w'.out ++ (ending w.interrupts).2 } := by
  show EStateM.tryCatch (askChoice (w.input.length + 1)) _ w = _
  rw [EStateM.tryCatch, h, silence]
  cases w.interrupts with
  | true => rfl
  | false =>
    simp only [ending, Bool.false_eq_true, if_false, String.append_empty]
    rfl

lemma say_run (lines : List String) (w : Session) :
    say lines w = .ok () { w with out := w.out ++ Text.ofLines lines } := by
  induction lines generalizing w with
  | nil => simp [say, Text.ofLines]; rfl
  | cons s lines ih =>
    rw [say, Act.bind_ok (Act.printLine_run s w), ih]
    simp [Text.ofLines, String.append_assoc]

lemma runFrom_interactive (i : Installer) : ActWith.runFrom i interactive = (do
    say (greeting i.isSource)
    let c ← choose
    ActWith.runFrom i (installChosen c)) := by
  rw [interactive]
  simp only [ActWith.runFrom_state, ActWith.runFrom_lift]

/-- An installer for the directory at the top. -/
def atTop : Installer :=
  ⟨Location.path [], (Location.path []).child "quality-guard.json", false⟩

end QualityGate.Scaffold.Installer
