/-
# Two counts of lines

A watcher cuts a text at its line ends and counts the pieces; a checker counts the lines.  Behind the
line end of the last line there is one piece more, which is empty.  So of a text that is ended the
watcher counts one line more than the checker, and the two rules on the length of a file differ
exactly where such a text has as many lines as are allowed.
-/
import Mathlib
import QualityGate.Proofs.DirectoryListing
import QualityGate.Proofs.LinePieces
import QualityGate.Proofs.RuleFindings
import QualityGate.Proofs.SourceChecks
import QualityGate.Watch.Analyze

namespace QualityGate.Text

/-! ## Pieces and lines -/

/-- No character but `\n` ends a line. -/
def PlainLines (cs : List Char) : Prop := ∀ c ∈ cs, isLineBoundary c = true → c = '\n'

instance : DecidablePred PlainLines := fun cs =>
  decidable_of_iff (cs.all fun c => !isLineBoundary c || c == '\n') <| by
    simp only [PlainLines, List.all_eq_true, Bool.or_eq_true, Bool.not_eq_true', beq_iff_eq,
      imp_iff_not_or, Bool.not_eq_true]

/-- A text that is empty or ends with a line end. -/
def Ended (cs : List Char) : Prop := ∀ c, cs.getLast? = some c → c = '\n'

instance (cs : List Char) : Decidable (Ended cs) :=
  decidable_of_iff (cs.getLast? = none ∨ cs.getLast? = some '\n') <| by
    rw [Ended]
    cases cs.getLast? <;> simp

lemma ended_append_newline (xs cs : List Char) : Ended (xs ++ '\n' :: cs) ↔ Ended cs := by
  rw [Ended, Ended, List.getLast?_append_of_ne_nil _ (List.cons_ne_nil _ _)]
  cases cs with
  | nil => simp
  | cons c cs => rw [List.getLast?_cons_cons]

/-- The lines of a text behind the beginning of a line. -/
lemma length_splitLinesFrom {cs : List Char} (h : PlainLines cs) : ∀ {line : List Char}, '\n' ∉ line →
    (splitLinesFrom line cs).length =
      cs.count '\n' + if Ended (line.reverse ++ cs) then 0 else 1 := by
  induction cs with
  | nil =>
    intro line hline
    cases line with
    | nil => rfl
    | cons c line =>
      have hopen : ¬ Ended ((c :: line).reverse ++ []) := by
        intro hended
        exact hline (by simp [hended c (by simp)])
      rw [if_neg hopen]
      rfl
  | cons c cs ih =>
    intro line hline
    have hrest : PlainLines cs := fun x hx => h x (List.mem_cons_of_mem c hx)
    have hreturn : c = '\r' → ∀ rest, cs ≠ '\n' :: rest := by
      rintro rfl
      exact absurd (h '\r' (by simp) rfl) (by decide)
    rw [splitLinesFrom_cons hreturn]
    by_cases hc : c = '\n'
    · subst hc
      simp only [ended_append_newline, List.count_cons_self]
      rw [if_pos (by rfl), List.length_cons, ih hrest List.not_mem_nil, List.reverse_nil,
        List.nil_append]
      omega
    · have hplain : ¬ isLineBoundary c = true := fun hb => hc (h c (by simp) hb)
      rw [if_neg hplain, ih hrest (by simp [hline, Ne.symm hc]), List.count_cons_of_ne hc,
        List.reverse_cons, List.append_assoc, List.singleton_append]

/-- There is one piece more than there are lines if the text is ended, and otherwise as many. -/
lemma length_splitAtNewlines_eq {text : String} (h : PlainLines text.toList) :
    (splitAtNewlines text.toList).length =
      Limits.lineCount text + if Ended text.toList then 1 else 0 := by
  rw [length_splitAtNewlines, Limits.lineCount, splitLines, List.length_map,
    length_splitLinesFrom h List.not_mem_nil, List.reverse_nil, List.nil_append]
  split <;> omega

end QualityGate.Text

namespace QualityGate.Watch

/-! ## What a watcher finds -/

/-- What is found in the text of a function is about the function, on its line. -/
lemma mem_checkSegment {rules : Value} {s : Segment} {v : Violation}
    (hv : v ∈ checkSegment rules s) : v.line = s.line ∧ v.finding.function? = some s.name := by
  simp only [checkSegment, List.mem_append, List.mem_ite_nil_right, List.mem_singleton] at hv
  rcases hv with (⟨-, rfl⟩ | ⟨-, rfl⟩) | ⟨-, rfl⟩ <;> exact ⟨rfl, rfl⟩

lemma mem_of_mapM {α β ε : Type} {f : α → Except ε (List β)} {P : β → Prop} :
    ∀ {xs : List α}, (∀ x ∈ xs, ∀ ys, f x = .ok ys → ∀ y ∈ ys, P y) → ∀ {yss : List (List β)},
      xs.mapM f = .ok yss → ∀ y ∈ yss.flatten, P y
  | [], _, yss, hyss => by
    cases hyss
    simp
  | x :: xs, h, yss, hyss => by
    rw [List.mapM_cons] at hyss
    cases hx : f x with
    | error e => rw [hx] at hyss; cases hyss
    | ok ys =>
      cases hxs : xs.mapM f with
      | error e => rw [hx, hxs] at hyss; cases hyss
      | ok rest =>
        rw [hx, hxs] at hyss
        cases hyss
        intro y hy
        rw [List.flatten_cons, List.mem_append] at hy
        exact hy.elim (h x (by simp) ys hx y)
          (mem_of_mapM (fun x' hx' => h x' (List.mem_cons_of_mem x hx')) hxs y)

/-- The functions without tests are found on their lines. -/
lemma mem_checkTests {d : Disk} {here : Location} {path : String} {ss : List Segment}
    {vs : List Violation} (h : checkTests d here path ss = .ok vs) :
    ∀ v ∈ vs, ∃ s ∈ ss, v.line = s.line ∧ v.finding.function? = some s.name := by
  simp only [checkTests, bind, Except.bind, pure, Except.pure] at h
  split at h
  · cases h
  · rename_i found hfound
    cases h
    refine mem_of_mapM (fun s hs ys hys v hv => ?_) hfound
    split at hys
    · cases hys
    · split at hys
      · cases hys
        simp at hv
      · cases hys
        rw [List.mem_singleton.mp hv]
        exact ⟨s, hs, rfl, rfl⟩

/-- What is found in a module is about its functions, each on the line of the function. -/
lemma mem_checkModule {d : Disk} {here : Location} {rules : Value} {path : String}
    {text : List Char} {vs : List Violation} (h : checkModule d here rules path text = .ok vs) :
    ∀ v ∈ vs, ∃ s ∈ segments text, v.line = s.line ∧ v.finding.function? = some s.name := by
  have hsegments : ∀ v ∈ (segments text).flatMap (checkSegment rules),
      ∃ s ∈ segments text, v.line = s.line ∧ v.finding.function? = some s.name := by
    intro v hv
    obtain ⟨s, hs, hmem⟩ := List.mem_flatMap.mp hv
    exact ⟨s, hs, mem_checkSegment hmem⟩
  simp only [checkModule, bind, Except.bind, pure, Except.pure] at h
  split at h
  · split at h
    · cases h
    · rename_i untested htests
      cases h
      intro v hv
      exact (List.mem_append.mp hv).elim (hsegments v) (mem_checkTests htests v)
  · cases h
    exact hsegments

lemma code_of_mem_checkModule {d : Disk} {here : Location} {rules : Value} {path : String}
    {text : List Char} {vs : List Violation} (h : checkModule d here rules path text = .ok vs) :
    ∀ v ∈ vs, v.finding.code ≠ "FILE_TOO_LARGE" := by
  intro v hv
  obtain ⟨s, -, -, hfunction⟩ := mem_checkModule h v hv
  cases hf : v.finding <;> simp [hf, Finding.function?, Finding.code] at hfunction ⊢

lemma find_of_read {d : Disk} {here : Location} {path : String} {bytes : ByteArray}
    (h : d.read here path = .ok bytes) : ∃ p, d.find here path = .ok p := by
  rw [Disk.read] at h
  cases hf : d.find here path with
  | error t => simp [hf] at h
  | ok p => exact ⟨p, rfl⟩

lemma readAny_of_read {d : Disk} {here : Location} {path text : String}
    (h : d.read here path = .ok text.toUTF8) : readAny d here path = .ok text := by
  rw [readAny, h]
  simp only [Disk.decodeAny_toUTF8]

/-- Without rules nothing is found. -/
lemma analyze_of_rules_error {d : Disk} {here : Location} {quality : Value} {path text : String}
    {e : Fault} (hfile : d.read here path = .ok text.toUTF8) (hrules : rulesOf quality = .error e) :
    analyze d here quality path = .error e := by
  obtain ⟨p, hp⟩ := find_of_read hfile
  rw [analyze, hp]
  simp only [readAny_of_read hfile, hrules, bind, Except.bind]

/-- What a watcher finds in a module: its length, and then what is wrong with its functions. -/
lemma analyze_module {d : Disk} {here : Location} {quality rules : Value} {path text : String}
    (hfile : d.read here path = .ok text.toUTF8) (hpath : Path.lastEnding path = ".py")
    (hrules : rulesOf quality = .ok rules) :
    analyze d here quality path =
      (checkModule d here rules path text.toList).map (checkLength rules text.toList ++ ·) := by
  obtain ⟨p, hp⟩ := find_of_read hfile
  rw [analyze, hp]
  simp only [readAny_of_read hfile, hrules, hpath, bind, Except.bind]
  cases checkModule d here rules path text.toList <;> rfl

end QualityGate.Watch

namespace QualityGate.Limits

/-! ## What a checker finds -/

/-- Is an issue about the length of a file? -/
def Issue.isAboutLength (i : Issue) : Bool :=
  match i.finding with
  | .fileTooLong .. => true
  | _ => false

/-- A text that a check comes to an end with: a module with room for the walk through its tree, or
one that is refused for what stands in it. -/
def Checkable (text : String) : Prop :=
  (∃ tree, Source.parseKept (some text) text = .ok tree ∧ checkSteps tree ≤ maxSteps) ∨
    ∃ r, Source.parseKept (some text) text = .error r ∧ r.cause.blamesText = true

lemma exists_mem_lengthIssues {limit : Int} {text : String} {is : List Issue}
    (h : is.filter Issue.isAboutLength = lengthIssues limit (lineCount text) text) :
    (∃ i ∈ is, i.isAboutLength = true) ↔ limit < lineCount text := by
  have hlong : lengthIssues limit (lineCount text) text ≠ [] ↔ limit < lineCount text :=
    lengthIssues_ne_nil
  rw [← hlong, ← h, Ne, List.filter_eq_nil_iff]
  simp

/-- The length of a text comes first in its check, and is not looked at again. -/
lemma Finds.text_length {Free : Prop} {c : Config} {limit : Int} {text : String}
    (hfree : Free → Config.Comparable c) (hend : Free → Checkable text)
    (hlimit : c.get "max_file_lines" (.int 300) = .ok (.int limit)) :
    Finds Issue.isAboutLength Free c (Check.text text)
      (lengthIssues limit (lineCount text) text) := by
  have hlength : Finds Issue.isAboutLength Free c (Check.length text)
      (lengthIssues limit (lineCount text) text) := count_about _ _ hlimit fun _ => rfl
  have hfun (t : Source.Tree) : Finds Issue.isAboutLength Free c (Check.function t) [] :=
    (count _ hfree (by decide) fun _ => rfl).seq
      ((count _ hfree (by decide) fun _ => rfl).seq (count _ hfree (by decide) fun _ => rfl))
  rw [← List.append_nil (lengthIssues _ _ _)]
  cases hparse : Source.parseKept (some text) text with
  | ok tree =>
    have hroom : Free → checkSteps tree ≤ maxSteps := by
      intro h
      rcases hend h with ⟨tree', htree, hroom⟩ | ⟨r, hr, -⟩
      · rwa [Except.ok.inj (hparse.symm.trans htree)]
      · cases hparse.symm.trans hr
    have h := hlength.text (fun t _ => hfun t) hroom hparse
    rwa [List.flatMap_eq_nil_iff.mpr fun _ _ => rfl] at h
  | error r =>
    have hblamed : Free → r.cause.blamesText = true := by
      intro h
      rcases hend h with ⟨tree, htree, -⟩ | ⟨r', hr, hblame⟩
      · cases hparse.symm.trans htree
      · rwa [Except.error.inj (hparse.symm.trans hr)]
    rw [Check.text, hparse]
    refine hlength.seq ?_
    by_cases hblame : r.cause.blamesText = true
    · simp only [hblame, if_true]
      exact report rfl
    · simp only [hblame]
      exact throw fun h => hblame (hblamed h)

end QualityGate.Limits

namespace QualityGate.Watch

open Limits (Checker Checkable Issue Target lineCount)

/-- **The length of a file, twice.**  Let a text have no line ends but `\n`, and let a watcher and a
checker have the same integer as limit on the lines of a file.  Whenever both come to an answer about
a module with this text, the watcher reports the file for its length exactly if the checker does so,
or if the text is ended and has as many lines as are allowed.  The watcher comes to an answer if it
does not look for tests, and the checker if it can compare all its limits with counts and is not
stopped by the text. -/
theorem analyze_check_length {text : String} {limit : Int} (hplain : Text.PlainLines text.toList)
    {d : Disk} {here : Location} {path : String} {quality rules : Value}
    (hfile : d.read here path = .ok text.toUTF8) (hpath : Path.lastEnding path = ".py")
    (hrules : rulesOf quality = .ok rules)
    (hrule : rules.get? "max_file_lines" = some (.int limit)) {k : Checker} {t : Target}
    (hread : t.disk.read t.here t.path = .ok text.toUTF8)
    (hlimit : k.config.get "max_file_lines" (.int 300) = .ok (.int limit)) :
    (∀ vs is, analyze d here quality path = .ok vs → (k.check t).1 = .ok is →
      ((∃ v ∈ vs, v.finding.code = "FILE_TOO_LARGE") ↔
        (∃ i ∈ is, i.isAboutLength = true) ∨
          limit = lineCount text ∧ Text.Ended text.toList)) ∧
    (isSet (rules.get? "require_tests") = false → ∃ vs, analyze d here quality path = .ok vs) ∧
    (Limits.Config.Comparable k.config → Checkable text → ∃ is, (k.check t).1 = .ok is) := by
  have hreturn : '\r' ∉ text.toList := fun h => absurd (hplain '\r' h rfl) (by decide)
  have hreadText := Disk.readText_of_read hreturn hread
  have hfinds : Limits.Finds Issue.isAboutLength
      (Limits.Config.Comparable k.config ∧ Checkable text) k.config (Limits.Check.text text)
      (Limits.lengthIssues limit (lineCount text) text) :=
    Limits.Finds.text_length And.left And.right hlimit
  have hanalyze := analyze_module hfile hpath hrules
  refine ⟨fun vs is hvs his => ?_, fun htests => ?_,
    fun hcompare hend => hfinds.exists_answer hreadText ⟨hcompare, hend⟩⟩
  · rw [Limits.exists_mem_lengthIssues (hfinds.filter_answer hreadText his)]
    rw [hanalyze] at hvs
    cases hmodule : checkModule d here rules path text.toList with
    | error f => rw [hmodule] at hvs; cases hvs
    | ok more =>
      rw [hmodule] at hvs
      cases hvs
      have hlong : (∃ v ∈ checkLength rules text.toList ++ more, v.finding.code = "FILE_TOO_LARGE") ↔
          limit < (Text.splitAtNewlines text.toList).length := by
        have hmore : ¬ ∃ v ∈ more, v.finding.code = "FILE_TOO_LARGE" := by
          rintro ⟨v, hv, hcode⟩
          exact code_of_mem_checkModule hmodule v hv hcode
        simp only [List.mem_append, or_and_right, exists_or, hmore, or_false]
        rw [checkLength, hrule]
        simp only [exceeds, List.mem_ite_nil_right, List.mem_singleton, decide_eq_true_eq]
        constructor
        · rintro ⟨v, ⟨h, -⟩, -⟩
          exact h
        · exact fun h => ⟨_, ⟨h, rfl⟩, rfl⟩
      rw [hlong, Text.length_splitAtNewlines_eq hplain]
      split
      · rename_i hended
        simp only [hended, and_true]
        omega
      · rename_i hended
        simp [hended]
  · rw [hanalyze, checkModule]
    simp only [htests]
    exact ⟨_, rfl⟩

/-! ## One line where one is allowed -/

/-- A file with one line. -/
def oneLine : Disk := ⟨[(["m.py"], .file "x = 1\n".toUTF8)]⟩

/-- The rules of a watcher that allows one line. -/
def oneAllowed : Value := .object [("max_file_lines", .int 1)]

/-- A checker that allows one line. -/
def oneAllowing : Checker := ⟨.settings [(.text "max_file_lines", .int 1)], []⟩

lemma read_oneLine : oneLine.read [] "m.py" = .ok "x = 1\n".toUTF8 :=
  Disk.read_in_root (by decide) (by decide) (by decide) rfl

lemma plain_oneLine : Text.PlainLines "x = 1\n".toList := by decide

lemma ended_oneLine : (1 : Int) = lineCount "x = 1\n" ∧ Text.Ended "x = 1\n".toList := by decide

lemma rulesOf_oneAllowed : rulesOf (.object [("rules", oneAllowed)]) = .ok oneAllowed := rfl

lemma get?_oneAllowed : oneAllowed.get? "max_file_lines" = some (.int 1) := rfl

lemma not_isSet_oneAllowed : isSet (oneAllowed.get? "require_tests") = false := by decide

lemma sets_oneAllowing : Limits.Config.Sets oneAllowing.config ⟨1, 50, 4, 4⟩ := by
  constructor <;> simp [oneAllowing, Config.get, Settings.get?, Settings.find?, Key.same]

/-- The file is a module without functions. -/
lemma parsed_oneLine : ∃ tree, Source.parseKept (some "x = 1\n") "x = 1\n" = .ok tree ∧
    Limits.checkSteps tree ≤ Limits.maxSteps ∧
    (tree.subtrees.filter Limits.definesFunction).isEmpty = true :=
  Limits.exists_parsed "x = 1\n" (fun t => Limits.checkSteps t ≤ Limits.maxSteps ∧
    (t.subtrees.filter Limits.definesFunction).isEmpty = true) (by decide +kernel)

/-- The watcher refuses the file, because its only line is ended. -/
theorem analyze_check_length_oneLine :
    ∃ vs is, analyze oneLine [] (.object [("rules", oneAllowed)]) "m.py" = .ok vs ∧
      (oneAllowing.check ⟨oneLine, [], "m.py"⟩).1 = .ok is ∧
      ∃ v ∈ vs, v.finding.code = "FILE_TOO_LARGE" := by
  obtain ⟨tree, htree, hroom, -⟩ := parsed_oneLine
  have hpath : Path.lastEnding "m.py" = ".py" := by decide
  have hlimit : oneAllowing.config.get "max_file_lines" (.int 300) = .ok (.int 1) :=
    sets_oneAllowing.fileLines
  have hboth := analyze_check_length plain_oneLine read_oneLine hpath rulesOf_oneAllowed get?_oneAllowed
    (t := ⟨oneLine, [], "m.py"⟩) read_oneLine hlimit
  obtain ⟨hanswers, hwatcher, hchecker⟩ := hboth
  obtain ⟨vs, hvs⟩ := hwatcher not_isSet_oneAllowed
  obtain ⟨is, his⟩ := hchecker sets_oneAllowing.comparable (.inl ⟨tree, htree, hroom⟩)
  exact ⟨vs, is, hvs, his, (hanswers vs is hvs his).mpr (.inr ended_oneLine)⟩

/-- The same file is too large for a watcher and not too long for a checker, under one limit. -/
theorem analyze_check_apart :
    analyze oneLine [] (.object [("rules", oneAllowed)]) "m.py" =
        .ok [⟨0, .fileTooLarge 2 (limitText (some (.int 1)))⟩] ∧
      (oneAllowing.check ⟨oneLine, [], "m.py"⟩).1 = .ok [] := by
  constructor
  · have hsegments : segments "x = 1\n".toList = [] := by cbv
    have hlength : checkLength oneAllowed "x = 1\n".toList =
        [⟨0, .fileTooLarge 2 (limitText (some (.int 1)))⟩] := by
      rw [checkLength, get?_oneAllowed]
      rfl
    rw [analyze_module read_oneLine (by decide) rulesOf_oneAllowed, checkModule, hsegments, hlength]
    simp only [not_isSet_oneAllowed]
    rfl
  · obtain ⟨tree, htree, hroom, hnone⟩ := parsed_oneLine
    have hreports := Limits.reports_tree sets_oneAllowing htree hroom
    have hshort : Limits.fileIssues ⟨1, 50, 4, 4⟩ "x = 1\n" = [] := by decide
    rw [hshort, List.isEmpty_iff.mp hnone] at hreports
    exact Limits.check_of_reports (Disk.readText_of_read (by decide) read_oneLine) hreports

end QualityGate.Watch
