/-
# The pieces of a text between its line ends

There is one piece more than there are line ends.  When a text is entered line by line, a line end
behind the last line begins no other, so that an empty piece at the end is not seen.
-/
import Mathlib
import QualityGate.Text.Lines

namespace QualityGate.Text

variable {xs : List Char}

lemma length_splitAtNewlines (cs : List Char) :
    (splitAtNewlines cs).length = cs.count '\n' + 1 := by
  induction cs with
  | nil => rfl
  | cons c cs ih =>
    rw [splitAtNewlines, List.count_cons]
    by_cases hc : c = '\n'
    · simp [hc, ih]
    · cases hcs : splitAtNewlines cs with
      | nil => simp [hcs] at ih
      | cons l ls => simp [hc, ← ih, hcs]

lemma splitAtNewlines_ne_nil (cs : List Char) : splitAtNewlines cs ≠ [] := by
  intro h
  simpa [h] using length_splitAtNewlines cs

lemma splitAtNewlines_append (xs ys : List Char) :
    splitAtNewlines (xs ++ '\n' :: ys) = splitAtNewlines xs ++ splitAtNewlines ys := by
  induction xs with
  | nil => simp [splitAtNewlines]
  | cons c xs ih =>
    rw [List.cons_append, splitAtNewlines, splitAtNewlines, ih]
    by_cases hc : c = '\n'
    · simp [hc]
    · rw [if_neg hc, if_neg hc]
      cases h : splitAtNewlines xs with
      | nil => exact absurd h (splitAtNewlines_ne_nil xs)
      | cons l ls => rfl

lemma splitAtNewlines_of_not_mem (h : '\n' ∉ xs) : splitAtNewlines xs = [xs] := by
  induction xs with
  | nil => rfl
  | cons c xs ih =>
    simp only [List.mem_cons, not_or] at h
    rw [splitAtNewlines, if_neg (Ne.symm h.1), ih h.2]

/-! ## Lines that are entered -/

def enteredLines (input : List Char) : List (List Char) :=
  if (splitAtNewlines input).getLast? = some [] then (splitAtNewlines input).dropLast
  else splitAtNewlines input

lemma enteredLines_of_not_mem (hne : xs ≠ []) (h : '\n' ∉ xs) : enteredLines xs = [xs] := by
  rw [enteredLines, splitAtNewlines_of_not_mem h, if_neg (by simpa using hne)]

lemma enteredLines_append (h : '\n' ∉ xs) (rest : List Char) :
    enteredLines (xs ++ '\n' :: rest) = xs :: enteredLines rest := by
  have hne := splitAtNewlines_ne_nil rest
  rw [enteredLines, enteredLines, splitAtNewlines_append, splitAtNewlines_of_not_mem h,
    List.getLast?_append_of_ne_nil _ hne, List.dropLast_append_of_ne_nil hne]
  split <;> rfl

/-- A line is read up to its line end or the end of the text. -/
lemma enteredLines_eq (hne : xs ≠ []) :
    enteredLines xs = xs.takeWhile (· ≠ '\n') ::
      enteredLines (xs.drop ((xs.takeWhile (· ≠ '\n')).length + 1)) := by
  have hline : '\n' ∉ xs.takeWhile (· ≠ '\n') := fun h => by
    simpa using List.mem_takeWhile_imp h
  have hsplit := List.takeWhile_append_dropWhile (p := (· ≠ '\n')) (l := xs)
  generalize xs.takeWhile (· ≠ '\n') = line at hline hsplit ⊢
  cases hrest : xs.dropWhile (· ≠ '\n') with
  | nil =>
    obtain rfl : line = xs := by rwa [hrest, List.append_nil] at hsplit
    rw [List.drop_of_length_le (by omega)]
    exact enteredLines_of_not_mem hne hline
  | cons c rest =>
    obtain rfl : c = '\n' := by
      have hc := List.head?_dropWhile_not (· ≠ '\n') xs
      rw [hrest] at hc
      simpa using hc
    rw [hrest] at hsplit
    have hdrop : xs.drop (line.length + 1) = rest := by simp [← hsplit]
    rw [hdrop, ← hsplit, enteredLines_append hline]

end QualityGate.Text
