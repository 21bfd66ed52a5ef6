/-
What the command line of the tool can ask for.
-/
import QualityGate.Command.Parse

namespace QualityGate.Command

inductive Job where
  | init (path : Option String) (project user : Bool)
  | validate (paths : List String) (strict : Bool)
  | run (script : String) (args : List String)
  /-- The older way to write a settings file. -/
  | setup (path : String)
  deriving DecidableEq, Repr

inductive Request where
  /-- The version, asked for in full, which goes before everything else. -/
  | version
  | line (version : Bool) (job : Option Job)
  deriving DecidableEq, Repr

/-! ## Forms -/

/-- The commands with what they understand and what the help says about them. -/
def commandForms (program : String) : List (String × Form) := [
  ("init", {
    program := program ++ " init"
    switches := [helpSwitch, ⟨["--project"], "project", .flag⟩, ⟨["--user"], "user", .flag⟩,
      ⟨["--path"], "path", .value⟩]
    slots := []
    about :=
      "Create a new SPYQ configuration file with default settings.\n\n" ++
      "options:\n" ++
      "  -h, --help   show this help message and exit\n" ++
      "  --project    Create a project-level configuration file (spyq.json in current\n" ++
      "               directory)\n" ++
      "  --user       Create a user-level configuration file\n" ++
      "               (~/.config/spyq/config.json)\n" ++
      "  --path PATH  Path where to create the configuration file\n" }),
  ("validate", {
    program := program ++ " validate"
    switches := [helpSwitch, ⟨["--strict"], "strict", .flag⟩]
    slots := [{ key := "paths", arity := .many, default := .list [.text "."] }]
    about :=
      "Validate Python files against SPYQ rules.\n\n" ++
      "positional arguments:\n" ++
      "  paths       Files or directories to validate (default: current directory)\n\n" ++
      "options:\n" ++
      "  -h, --help  show this help message and exit\n" ++
      "  --strict    Treat warnings as errors\n" }),
  ("run", {
    program := program ++ " run"
    switches := [helpSwitch]
    slots := [{ key := "script", arity := .one }, { key := "args", arity := .rest }]
    about :=
      "Run a Python script with SPYQ validation.\n\n" ++
      "positional arguments:\n" ++
      "  script      Python script to run\n" ++
      "  args        Arguments to pass to the script\n\n" ++
      "options:\n" ++
      "  -h, --help  show this help message and exit\n" }),
  ("setup", {
    program := program ++ " setup"
    switches := [helpSwitch]
    slots := [{ key := "path", arity := .optional, default := .text "." }]
    about :=
      "Legacy command. Use 'init' instead.\n\n" ++
      "positional arguments:\n" ++
      "  path        Path to the project directory (default: current directory)\n\n" ++
      "options:\n" ++
      "  -h, --help  show this help message and exit\n" })]

def toolForm (program : String) : Form where
  program := program
  switches := [helpSwitch, ⟨["-v", "--version"], "version", .flag⟩]
  slots := [{ key := "command", arity := .command ((commandForms program).map (·.1)) }]
  about :=
    "SPYQ - Shell Python Quality Guard\n\n" ++
    "positional arguments:\n" ++
    "  \x7binit,validate,run,setup\x7d\n" ++
    "                        Command to execute\n" ++
    "    init                Initialize a new SPYQ configuration\n" ++
    "    validate            Validate Python files\n" ++
    "    run                 Run a Python script with validation\n" ++
    "    setup               (Legacy) Setup quality guard in a project\n\n" ++
    "options:\n" ++
    "  -h, --help            show this help message and exit\n" ++
    "  -v, --version         Show version information and exit (default: False)\n"

/-! ## From fields to requests -/

def valueText? : Value → Option String
  | .text s => some s
  | _ => none

def fieldText? (fields : List (String × Value)) (key : String) : Option String :=
  (fields.lookup key).bind valueText?

def fieldTexts (fields : List (String × Value)) (key : String) : List String :=
  match fields.lookup key with
  | some (.list vs) => vs.filterMap valueText?
  | _ => []

def fieldSet (fields : List (String × Value)) (key : String) : Bool :=
  ((fields.lookup key).map Value.truthy).getD false

/-- The command that the fields of a command line ask for. -/
def Job.ofFields? (fields : List (String × Value)) : Option Job :=
  match fieldText? fields "command" with
  | some "init" =>
    some (.init (fieldText? fields "path") (fieldSet fields "project") (fieldSet fields "user"))
  | some "validate" => some (.validate (fieldTexts fields "paths") (fieldSet fields "strict"))
  | some "run" =>
    some (.run ((fieldText? fields "script").getD "") (fieldTexts fields "args"))
  | some "setup" => some (.setup ((fieldText? fields "path").getD ""))
  | _ => none

/-- How the commands of the tool are read.  They have no commands of their own. -/
def readCommand (program : String) : CommandReader := fun name args =>
  match (commandForms program).lookup name with
  | some f => f.readKnown (fun _ _ => .ok ([], [])) args
  | none => .ok ([], [])

/-- Read the command line of the tool under a name. -/
def Request.read (program : String) (args : List String) : Except Stop Request := do
  if args.contains "--version" || args.contains "-v" then return .version
  let form := toolForm program
  if args.isEmpty then throw (.help form.help)
  let fields ← form.read (readCommand program) args
  return .line (fieldSet fields "version") (Job.ofFields? fields)

end QualityGate.Command
