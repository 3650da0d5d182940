import PatchSandbox.CommandLine.Arguments
import PatchSandbox.Config.File
import PatchSandbox.Finding.Wire
import PatchSandbox.Json.Printer
import PatchSandbox.Session.Step

/-!
# What the commands do

**`CommandLine.run`** carries a command out and gives what it prints and its exit code. It
works on any file system and with any engines.
-/

namespace PatchSandbox.CommandLine

/-- How a command ends. -/
inductive Exit where
  /-- The script is admitted, or was evaluated. -/
  | ok
  /-- Something is not admitted, or there is no entry. -/
  | invalid
  /-- The script failed. -/
  | fault
  /-- Anything else went wrong. -/
  | error
  deriving DecidableEq, Repr, Inhabited

namespace Exit

/-- The exit code. -/
def code : Exit → Nat
  | .ok => 0
  | .invalid => 1
  | .fault => 2
  | .error => 3

/-- All ways to end, in the order of their codes. -/
def all : List Exit := [.ok, .invalid, .fault, .error]

/-- How a command ends whose call failed. -/
def ofKind : ErrorKind → Exit
  | .validation => .invalid
  | .moduleResolution => .invalid
  | .runtimeFault => .fault
  | .initialization => .error
  | .disposal => .error

end Exit

/-- What a command prints and how it ends. -/
structure Printed where
  stdout : String := ""
  stderr : String := ""
  exit : Exit
  deriving DecidableEq, Repr, Inhabited

/-- The name of the program and its version. -/
def versionText : String := "scriptbox 0.1.0"

/-- A text on a line of its own. -/
def line (text : String) : String := text ++ "\n"

/-- A value in its indented form. -/
def jsonLine (j : Json) : String := line j.pretty

/-- What is printed when a command cannot be carried out. -/
def refusal (text : String) : Printed := { stderr := line text, exit := .error }

/-- The wording of a file operation that failed. -/
def failureText (what : String) (e : DiskFlaw) : String := what ++ ": " ++ e.message

/-- The wording of a flaw of a text. -/
def textFlawText : TextFlaw → String
  | .notToml => "TOML parse error"
  | .illShaped e excerpt => excerpt.getD "" ++ line e.message

/-- The wording of an error with a configuration file. -/
def configErrorText (e : ConfigError) : String :=
  match e with
  | .unparsable _ flaw => e.message ++ ": " ++ textFlawText flaw
  | e =>
    match e.diskFlaw? with
    | some flaw => failureText e.message flaw
    | none => e.message

/-- What is found in a script, as JSON. -/
def findingsJson (findings : List Finding) : Json :=
  .obj [("ok", .bool findings.isEmpty), ("errors", .arr (findings.map Finding.toJson))]

/-- What is printed about a script. -/
def reportFindings (findings : List Finding) : Printed where
  stdout := jsonLine (findingsJson findings)
  exit := if findings.isEmpty then .ok else .invalid

/-- What is printed about a call. -/
def reportOutcome : Outcome → Printed
  | .ok output => { stdout := jsonLine output.toJson, exit := .ok }
  | .error e =>
    { stderr := String.join (e.logs.map fun l => line ("[script] " ++ l)) ++ line e.message
      exit := .ofKind e.kind }

section

variable {m : Type → Type} [Monad m] {ε : Type}

/-- Reads a script. -/
def readSource (d : Disk m) (file : String) : m (Except Printed String) := do
  match ← d.read file with
  | .ok text => return .ok text
  | .error e => return .error (refusal (failureText ("read " ++ file) e))

/-- Reads modules, up to the first that cannot be read. -/
def readModules (d : Disk m) : List String → m (Except Printed (List (String × String)))
  | [] => return .ok []
  | file :: files => do
    match ← readSource d file with
    | .error p => return .error p
    | .ok text =>
      match ← readModules d files with
      | .error p => return .error p
      | .ok rest => return .ok ((file, text) :: rest)

/-- What is printed about the one call of a session. -/
def evaluateOnce (engines : Config → EngineKind ε) (c : Config) (task : Task) : Printed :=
  reportOutcome ((Session.spawn c).evaluate (engines c) task).1

/-- Writes the default configuration. -/
def initConfig (d : Disk m) (path : String) (force : Bool) : m Printed := do
  match ← Config.save d path {} force with
  | .ok () => return { stdout := line path, exit := .ok }
  | .error e => return refusal (configErrorText e)

/-- Goes on with the configuration in a file. -/
def withConfig (d : Disk m) (path : String) (next : Config → m Printed) : m Printed := do
  match ← Config.load d path with
  | .ok c => next c
  | .error e => return refusal (configErrorText e)

/-- Shows what keeps a script from being admitted. -/
def validate (d : Disk m) (file : String) (c : Config) : m Printed := do
  match ← readSource d file with
  | .error p => return p
  | .ok source => return reportFindings (Admission.check c.source source)

/-- Evaluates a script. -/
def eval (d : Disk m) (engines : Config → EngineKind ε) (file : String) (c : Config) :
    m Printed := do
  match ← readSource d file with
  | .error p => return p
  | .ok source => return evaluateOnce engines c (.script source)

/-- Evaluates modules. -/
def evalModule (d : Disk m) (engines : Config → EngineKind ε) (entry : String)
    (files : List String) (c : Config) : m Printed := do
  match ← readModules d files with
  | .error p => return p
  | .ok pairs => return evaluateOnce engines c (.modules entry pairs)

/-- Carries a command out. -/
def run (d : Disk m) (engines : Config → EngineKind ε) (i : Invocation) : m Printed :=
  match i.command with
  | .initConfig force => initConfig d i.config force
  | .validate file => withConfig d i.config (validate d file)
  | .eval file => withConfig d i.config (eval d engines file)
  | .evalModule entry files => withConfig d i.config (evalModule d engines entry files)

end

end PatchSandbox.CommandLine
