/-!
# Arguments of the command line

**`Invocation.read`** finds out what a list of arguments asks for. An option with a value
takes what follows its equality sign, or else the next argument, which must not look like an
option itself. After two dashes every argument is a file. The option that names the
configuration may stand before or after the command; the one after it wins.
-/

namespace PatchSandbox.CommandLine

/-- What is to be done. -/
inductive Command where
  /-- Writes the default configuration to a file. -/
  | initConfig (force : Bool)
  /-- Shows what keeps a script from being admitted. -/
  | validate (file : String)
  | eval (file : String)
  | evalModule (entry : String) (files : List String)
  deriving DecidableEq, Repr, Inhabited

/-- A command with the file of the configuration. -/
structure Invocation where
  config : String := "scriptbox.toml"
  command : Command
  deriving DecidableEq, Repr, Inhabited

/-- Why arguments are not those of a command. -/
inductive Detour where
  | version
  | help
  /-- They do not fit. -/
  | misused
  deriving DecidableEq, Repr, Inhabited

/-- The options that may be given. -/
structure Accepted where
  version : Bool := false
  force : Bool := false
  entry : Bool := false
  deriving DecidableEq, Repr, Inhabited

/-- What is read of the arguments. -/
structure Collected where
  config : Option String := none
  entry : Option String := none
  force : Bool := false
  files : List String := []
  deriving DecidableEq, Repr, Inhabited

namespace Collected

/-- The file of the configuration is given, for the first time. -/
def addConfig (c : Collected) (value : String) : Except Detour Collected :=
  if c.config.isSome || value.isEmpty then .error .misused else .ok { c with config := some value }

/-- The entry is given, for the first time. -/
def addEntry (c : Collected) (value : String) : Except Detour Collected :=
  if c.entry.isSome then .error .misused else .ok { c with entry := some value }

/-- The leave to overwrite is given, for the first time. -/
def addForce (c : Collected) : Except Detour Collected :=
  if c.force then .error .misused else .ok { c with force := true }

/-- A file is given. -/
def addFile (c : Collected) (value : String) : Except Detour Collected :=
  if value.isEmpty then .error .misused else .ok { c with files := c.files ++ [value] }

/-- Short options, all in one argument. -/
def addShort (a : Accepted) : Collected → List Char → Except Detour Collected
  | c, [] => .ok c
  | c, 'h' :: _ => let _ := c; .error .help
  | c, 'V' :: _ => let _ := c; .error (if a.version then .version else .misused)
  | c, 'f' :: rest => do
    if a.force then addShort a (← c.addForce) rest else .error .misused
  | _, _ => .error .misused

end Collected

/-- A long option: its name, and the value after an equality sign. -/
def splitOption (cs : List Char) : String × Option String :=
  match cs.dropWhile (· != '=') with
  | [] => (String.ofList cs, none)
  | _ :: value => (String.ofList (cs.takeWhile (· != '=')), some (String.ofList value))

/-- Whether an argument is a value and no option. -/
def isValue (argument : String) : Bool :=
  match argument.toList with
  | '-' :: _ :: _ => false
  | _ => true

/-- The option that takes a value under a name, if there is one. -/
def valueOption? (a : Accepted) (name : String) :
    Option (Collected → String → Except Detour Collected) :=
  if name = "config" then some Collected.addConfig
  else if name = "entry" ∧ a.entry then some Collected.addEntry
  else none

/-- An option without a value. -/
def addPlain (a : Accepted) (c : Collected) (name : String) : Except Detour Collected :=
  if name = "help" then .error .help
  else if name = "version" ∧ a.version then .error .version
  else if name = "force" ∧ a.force then c.addForce
  else .error .misused

/-- Reads arguments up to their end or, where the first file is the name of a command, up to
that: what was read, and the name with the arguments after it. -/
def collect (a : Accepted) (stopsAtFile : Bool) :
    List String → Collected → Except Detour (Collected × Option (String × List String))
  | [], c => .ok (c, none)
  | argument :: rest, c =>
    match argument.toList with
    | ['-', '-'] =>
      if stopsAtFile && !rest.isEmpty then .error .misused
      else do return (← rest.foldlM Collected.addFile c, none)
    | '-' :: '-' :: cs =>
      let (name, value) := splitOption cs
      match valueOption? a name, value with
      | some add, some value => do collect a stopsAtFile rest (← add c value)
      | some add, none =>
        match rest with
        | value :: rest =>
          if isValue value then do collect a stopsAtFile rest (← add c value)
          else .error .misused
        | [] => .error .misused
      | none, some _ => .error .misused
      | none, none => do collect a stopsAtFile rest (← addPlain a c name)
    | '-' :: c' :: cs => do collect a stopsAtFile rest (← c.addShort a (c' :: cs))
    | _ =>
      if stopsAtFile then .ok (c, some (argument, rest))
      else do collect a stopsAtFile rest (← c.addFile argument)

/-- The options of a command, and what is made of the arguments. -/
def commandNamed? (name : String) : Option (Accepted × (Collected → Option Command)) :=
  if name = "init-config" then
    some ({ force := true }, fun c => if c.files.isEmpty then some (.initConfig c.force) else none)
  else if name = "validate" then
    some ({}, fun c => match c.files with
      | [file] => some (.validate file)
      | _ => none)
  else if name = "eval" then
    some ({}, fun c => match c.files with
      | [file] => some (.eval file)
      | _ => none)
  else if name = "eval-module" then
    some ({ entry := true }, fun c => match c.entry, c.files with
      | some entry, file :: files => some (.evalModule entry (file :: files))
      | _, _ => none)
  else none

/-- Finds out what arguments ask for. -/
def Invocation.read (arguments : List String) : Except Detour Invocation := do
  let (before, found) ← collect { version := true } true arguments {}
  match found with
  | none => .error .misused
  | some (name, rest) =>
    match commandNamed? name with
    | none => .error (if name = "help" then .help else .misused)
    | some (accepted, command?) =>
      let (after, _) ← collect accepted false rest {}
      match command? after with
      | none => .error .misused
      | some command =>
        let d : Invocation := { command }
        return { d with config := (after.config.or before.config).getD d.config }

end PatchSandbox.CommandLine
