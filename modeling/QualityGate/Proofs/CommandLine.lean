/-
# Command lines

Arguments that do not start with a hyphen are all marked as plain, so no switch is read and the
slots are filled from the front at once (`readKnown_of_plain`), also behind a flag
(`readKnown_of_flag`).  The tool hands everything behind the name of a command on to that command
(`read_of_command`).  The command lines that run a script and that check paths are read this way
(`read_run`, `read_validate`, `read_validate_strict`).
-/
import Mathlib
import QualityGate.Command.Request

namespace QualityGate.Command

lemma ne_of_startsWith {s t : String} (hs : s.startsWith "-" = false)
    (ht : t.startsWith "-" = true) : s ≠ t := by
  rintro rfl
  rw [hs] at ht
  cases ht

lemma not_mem_of_plain {args : List String} (h : ∀ s ∈ args, s.startsWith "-" = false) {s : String}
    (hs : s.startsWith "-" = true) : s ∉ args :=
  fun hmem => ne_of_startsWith (h s hmem) hs rfl

/-- Arguments that are no switches, with their marks. -/
def plain (args : List String) : Rest := args.map fun s => (s, .argument)

lemma map_fst_plain (args : List String) : (plain args).map (·.1) = args := by
  simp [plain, Function.comp_def]

lemma marks_of_plain (f : Form) : ∀ args : List String, (∀ s ∈ args, s.startsWith "-" = false) →
    f.marks args = .ok (plain args)
  | [], _ => rfl
  | s :: ss, h => by
    have hs : s.startsWith "-" = false := h s (by simp)
    have hne : s ≠ "--" := ne_of_startsWith hs (by simp)
    have hss := marks_of_plain f ss fun t ht => h t (by simp [ht])
    simp only [Form.marks, Form.mark, hne, hs, hss, if_false, Bool.not_false, if_true]
    rfl

section

variable {f : Form} {rc : CommandReader}

lemma readTurns_of_plain (n : Nat) (r : Reading) (args : List String) :
    readTurns f rc n r (plain args) = .ok (r, plain args) := by
  have hany : (plain args).any (·.2.isSwitch) = false := by
    simp [plain, Mark.isSwitch]
  cases n with
  | zero => rfl
  | succ n =>
    unfold readTurns
    rw [hany]
    rfl

/-- Without switches only the slots are filled. -/
lemma readKnown_of_plain {args : List String} {r : Reading} {rest : Rest}
    (hargs : ∀ s ∈ args, s.startsWith "-" = false)
    (hread : readSlots f rc f.blank (plain args) = .ok (r, rest))
    (hfull : r.slots.filter Slot.required = []) :
    f.readKnown rc args = .ok (r.fields, r.extras ++ rest.map (·.1)) := by
  simp only [Form.readKnown, marks_of_plain f args hargs, readTurns_of_plain, hread, hfull, bind,
    Except.bind]
  rfl

lemma mark_of_named {arg : String} {s : Switch} (harg : arg.startsWith "-" = true)
    (hs : f.named.lookup arg = some s) : f.mark arg = .ok (.switch ⟨some s, arg, none⟩) := by
  simp only [Form.mark, harg, hs]
  rfl

/-- An argument that is short for no switch is never refused. -/
lemma exists_mark {arg : String} (h : f.candidates arg = []) : ∃ m, f.mark arg = .ok m := by
  simp only [Form.mark, h]
  repeat' split
  all_goals exact ⟨_, rfl⟩

/-- A flag before plain arguments is set before the slots are filled. -/
lemma readKnown_of_flag {args : List String} {flag : String} {s : Switch} {r : Reading}
    {rest : Rest} (hflag : flag ≠ "--")
    (hmark : f.mark flag = .ok (.switch ⟨some s, flag, none⟩)) (heffect : s.effect = .flag)
    (hargs : ∀ t ∈ args, t.startsWith "-" = false)
    (hread : readSlots f rc (f.blank.set s.key (.bool true)) (plain args) = .ok (r, rest))
    (hfull : r.slots.filter Slot.required = []) :
    f.readKnown rc (flag :: args) = .ok (r.fields, r.extras ++ rest.map (·.1)) := by
  have hmarks : f.marks (flag :: args) =
      .ok ((flag, .switch ⟨some s, flag, none⟩) :: plain args) := by
    rw [Form.marks, if_neg hflag, hmark, marks_of_plain f args hargs]
    rfl
  have hswitch : readSwitch f f.blank flag ⟨some s, flag, none⟩ (plain args) =
      .ok (f.blank.set s.key (.bool true), plain args) := by
    simp only [readSwitch, Switch.takesValue, heffect, applySwitch]
    rfl
  have hturns : ∀ n, readTurns f rc (n + 1) f.blank
      ((flag, .switch ⟨some s, flag, none⟩) :: plain args) =
      .ok (f.blank.set s.key (.bool true), plain args) := by
    intro n
    have hany : ((flag, Mark.switch ⟨some s, flag, none⟩) :: plain args).any (·.2.isSwitch) =
        true := rfl
    unfold readTurns
    simp only [hany, hswitch, bind, Except.bind]
    exact readTurns_of_plain n _ args
  simp only [Form.readKnown, hmarks, hturns, hread, hfull, bind, Except.bind]
  rfl

/-- If the first argument and all others fill the slots, nothing else is read. -/
lemma readKnown_of_filled {arg : String} {args : List String} {rest : Rest} {r : Reading}
    (hmarks : f.marks (arg :: args) = .ok ((arg, .argument) :: rest))
    (hread : readSlots f rc f.blank ((arg, .argument) :: rest) = .ok (r, []))
    (hslots : r.slots = []) : f.readKnown rc (arg :: args) = .ok (r.fields, r.extras) := by
  obtain ⟨fields, slots, extras⟩ := r
  obtain rfl : slots = [] := hslots
  -- if there is a switch behind, the slots are filled in the first turn
  have hturns : readTurns f rc (args.length + 2) f.blank ((arg, .argument) :: rest) =
        .ok (f.blank, (arg, .argument) :: rest) ∨
      readTurns f rc (args.length + 2) f.blank ((arg, .argument) :: rest) =
        .ok (⟨fields, [], extras⟩, []) := by
    unfold readTurns
    by_cases hany : ((arg, Mark.argument) :: rest).any (·.2.isSwitch) = true
    · right
      simp only [hany, hread, bind, Except.bind]
      rfl
    · left
      simp only [hany]
      rfl
  simp only [Form.readKnown, hmarks, bind, Except.bind, List.length_cons]
  rcases hturns with h | h
  · simp [h, hread, pure, Except.pure]
  · simp [h, readSlots, fillSome, fillSlots, bind, Except.bind, pure, Except.pure]

end

/-! ## Commands -/

variable {program name : String} {args : List String}

/-- The names of the commands. -/
def commandNames : List String := ["init", "validate", "run", "setup"]

/-- What is read from the name of a command and the fields that the command reads. -/
def commandFields (name : String) (fields : List (String × Value)) : List (String × Value) :=
  Value.update [("version", .bool false), ("command", .text name)] fields

lemma readSlots_of_command {rest : Rest} {fields : List (String × Value)}
    (hname : name ∈ commandNames) (hrest : rest.map (·.1) = args)
    (hcommand : readCommand program name args = .ok (fields, [])) :
    readSlots (toolForm program) (readCommand program) (toolForm program).blank
      ((name, .argument) :: rest) = .ok (⟨commandFields name fields, [], []⟩, []) := by
  have hblank : (toolForm program).blank = ⟨[("version", .bool false), ("command", .null)],
      [{ key := "command", arity := .command commandNames }], []⟩ := rfl
  rw [hblank]
  -- the help texts of the form are not looked at
  generalize toolForm program = f
  simp [readSlots, fillSome, fillAll, fillSlots, fillSlot, Arity.take, Mark.isHyphens,
    Mark.isArgument, Reading.set, Value.setField, commandFields, hname, hrest, hcommand, bind,
    Except.bind, pure, Except.pure]

/-- The tool hands what is behind the name of a command on to the command. -/
lemma read_of_command {rest : Rest} {fields : List (String × Value)}
    (hname : name ∈ commandNames) (hversion : "--version" ∉ args ∧ "-v" ∉ args)
    (hmarks : (toolForm program).marks args = .ok rest) (hrest : rest.map (·.1) = args)
    (hcommand : readCommand program name args = .ok (fields, [])) :
    Request.read program (name :: args) = .ok (.line
      (fieldSet (commandFields name fields) "version")
      (Job.ofFields? (commandFields name fields))) := by
  have hplain : name.startsWith "-" = false ∧ name ≠ "--version" ∧ name ≠ "-v" ∧ name ≠ "--" := by
    simp only [commandNames, List.mem_cons, List.not_mem_nil, or_false] at hname
    rcases hname with rfl | rfl | rfl | rfl <;> simp
  obtain ⟨hhyphen, hlong, hshort, hne⟩ := hplain
  have hnone : ((name :: args).contains "--version" || (name :: args).contains "-v") = false := by
    simp [hversion.1, hversion.2, hlong.symm, hshort.symm]
  have hall : (toolForm program).marks (name :: args) = .ok ((name, .argument) :: rest) := by
    simp [Form.marks, Form.mark, hmarks, hhyphen, hne, bind, Except.bind, pure, Except.pure]
  have hknown := readKnown_of_filled hall (readSlots_of_command hname hrest hcommand) rfl
  unfold Request.read
  rw [hnone]
  simp only [Form.read, hknown, bind, Except.bind]
  rfl

/-! ## Running a script -/

variable {script : String}

/-- The fields of the command that runs a script without arguments. -/
def runFields (script : String) : List (String × Value) :=
  [("script", .text script), ("args", .list [])]

lemma readCommand_run (hs : script.startsWith "-" = false) :
    readCommand program "run" [script] = .ok (runFields script, []) := by
  have hne : script ≠ "--" := ne_of_startsWith hs (by simp)
  obtain ⟨f, hf, hread⟩ : ∃ f, (commandForms program).lookup "run" = some f ∧
      ∀ rc, readSlots f rc f.blank (plain [script]) = .ok (⟨runFields script, [], []⟩, []) := by
    refine ⟨_, rfl, fun rc => ?_⟩
    simp [plain, readSlots, fillSome, fillAll, fillSlots, fillSlot, Arity.take, Mark.isHyphens,
      Mark.isArgument, helpSwitch, Reading.set, Value.setField, Form.blank, runFields, hne, bind,
      Except.bind, pure, Except.pure]
  simp only [readCommand, hf]
  exact readKnown_of_plain (by simpa using hs) (hread _) rfl

/-- The command line that runs a script is read as just that. -/
lemma read_run (hs : script.startsWith "-" = false) :
    Request.read program ["run", script] = .ok (.line false (some (.run script []))) := by
  have hargs : ∀ s ∈ [script], s.startsWith "-" = false := by simpa using hs
  exact read_of_command (by decide)
    ⟨not_mem_of_plain hargs (by simp), not_mem_of_plain hargs (by simp)⟩
    (marks_of_plain _ _ hargs) (map_fst_plain _) (readCommand_run hs)

/-! ## Checking paths -/

section

variable {paths : List String}

/-- The fields of the command that checks paths. -/
def validateFields (paths : List String) (strict : Bool) : List (String × Value) :=
  [("strict", .bool strict), ("paths", .list (paths.map .text))]

/-- What is known before the paths are read. -/
def validateBlank (strict : Bool) : Reading :=
  ⟨[("strict", .bool strict), ("paths", .list [.text "."])],
    [{ key := "paths", arity := .many, default := .list [.text "."] }], []⟩

lemma lookup_validate (program : String) : ∃ f, (commandForms program).lookup "validate" = some f ∧
    f.blank = validateBlank false ∧
    f.mark "--strict" = .ok (.switch ⟨some ⟨["--strict"], "strict", .flag⟩, "--strict", none⟩) :=
  ⟨_, rfl, rfl, mark_of_named (by simp) rfl⟩

lemma ofFields?_validate (paths : List String) (strict : Bool) :
    Job.ofFields? (commandFields "validate" (validateFields paths strict)) =
      some (.validate paths strict) := by
  have hpaths : (paths.map Value.text).filterMap valueText? = paths := by
    simp [List.filterMap_map, Function.comp_def, valueText?]
  show some (Job.validate ((paths.map Value.text).filterMap valueText?) strict) = _
  rw [hpaths]

variable (hne : paths ≠ []) (h : ∀ s ∈ paths, s.startsWith "-" = false)

include hne h

/-- Paths fill the slot for them. -/
lemma readSlots_paths (f : Form) (rc : CommandReader) (strict : Bool) :
    readSlots f rc (validateBlank strict) (plain paths) =
      .ok (⟨validateFields paths strict, [], []⟩, []) := by
  have hall : (plain paths).takeWhile (fun x => !x.2.isSwitch) = plain paths := by
    simp [plain, Mark.isSwitch]
  have herase : paths.erase "--" = paths := List.erase_of_not_mem (not_mem_of_plain h (by simp))
  simp [readSlots, validateBlank, fillSome, fillAll, fillSlots, fillSlot, Arity.take, hall,
    map_fst_plain, herase, Reading.set, Value.setField, validateFields, hne, bind, Except.bind,
    pure, Except.pure]

lemma readCommand_validate :
    readCommand program "validate" paths = .ok (validateFields paths false, []) := by
  obtain ⟨f, hf, hblank, -⟩ := lookup_validate program
  simp only [readCommand, hf]
  exact readKnown_of_plain h (hblank ▸ readSlots_paths hne h f _ false) rfl

lemma readCommand_validate_strict :
    readCommand program "validate" ("--strict" :: paths) = .ok (validateFields paths true, []) := by
  obtain ⟨f, hf, hblank, hmark⟩ := lookup_validate program
  have hset : f.blank.set "strict" (.bool true) = validateBlank true := by
    rw [hblank]
    rfl
  have hread := readSlots_paths hne h f (fun _ _ => .ok ([], [])) true
  simp only [readCommand, hf]
  exact readKnown_of_flag (by decide) hmark rfl h (hset ▸ hread) rfl

/-- The command line that checks paths is read as just that. -/
lemma read_validate : Request.read program ("validate" :: paths) =
    .ok (.line false (some (.validate paths false))) := by
  rw [read_of_command (by decide) ⟨not_mem_of_plain h (by simp), not_mem_of_plain h (by simp)⟩
    (marks_of_plain _ paths h) (map_fst_plain _) (readCommand_validate hne h), ofFields?_validate]
  rfl

/-- The command that checks paths strictly is read with its flag. -/
lemma read_validate_strict : Request.read program ("validate" :: "--strict" :: paths) =
    .ok (.line false (some (.validate paths true))) := by
  -- the tool does not know the flag, and it does not matter what it takes it for
  obtain ⟨m, hm⟩ : ∃ m, (toolForm program).mark "--strict" = .ok m := by
    have hsplit : splitEquals "--strict" = ("--strict", none) := by decide
    have hswitches : (toolForm program).switches =
        [helpSwitch, ⟨["-v", "--version"], "version", .flag⟩] := rfl
    refine exists_mark ?_
    simp [Form.candidates, hsplit, Form.named, hswitches, helpSwitch]
  have hmarks : (toolForm program).marks ("--strict" :: paths) =
      .ok (("--strict", m) :: plain paths) := by
    rw [Form.marks, if_neg (by decide), hm, marks_of_plain _ paths h]
    rfl
  rw [read_of_command (by decide) (by simp [not_mem_of_plain h]) hmarks
    (by simp [map_fst_plain]) (readCommand_validate_strict hne h), ofFields?_validate]
  rfl

end

end QualityGate.Command
