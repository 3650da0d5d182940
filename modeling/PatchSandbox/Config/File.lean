import PatchSandbox.Config
import PatchSandbox.Storage.Disk
import PatchSandbox.Toml.Place

/-!
# Configuration files

* **`Config.render`** writes a configuration down as TOML, and **`Config.ofText`** reads one.
  What a text leaves out has its default.
* **`Config.load`** reads the configuration in a file; where there is no file, it is the
  default one.
* **`Config.save`** writes one. The text is first put into a file of another name beside the
  target and then moved into place, so that nobody ever reads half of it.
-/

/-! ### Texts -/

namespace PatchSandbox

/-- Why a text is no configuration. -/
inductive TextFlaw where
  | notToml
  /-- It has not the shape of one; the excerpt shows where. -/
  | illShaped (e : ShapeError) (excerpt : Option String)
  deriving Inhabited

namespace Config

/-- A line that gives a key a number. -/
def numberLine (key : String) (n : Nat) : String := key ++ " = " ++ toString n ++ "\n"

/-- The text of a configuration. -/
def render (c : Config) : String :=
  (match c.evalTimeout with
    | some ms => numberLine "eval_timeout_ms" ms ++ "\n"
    | none => "") ++
  "[engine]\n" ++ numberLine "memory_limit_bytes" c.engine.memoryBytes ++
  numberLine "max_stack_bytes" c.engine.stackBytes ++
  numberLine "max_pending_jobs" c.engine.pendingJobs ++
  "\n[validator]\n" ++ numberLine "max_source_bytes" c.source.maxBytes ++
  numberLine "max_nesting_depth" c.source.maxNesting ++ "\n"

/-- Reads the table of a document. -/
def ofTable (t : Toml.Table) : Shape.Result Config := do Config.decode .ignored (← t.toJson)

/-- The key in a section whose value does not fit, or else that of the section. -/
def sectionCulprit {α : Type} (key : String) (keys : List String)
    (decode : Json → Shape.Result α) (j : Json) : Option Toml.Path :=
  match decode j with
  | .ok _ => none
  | .error _ =>
    let isCulprit (e : String × Json) : Bool :=
      keys.contains e.1 && (Shape.natural 64 "usize" e.2).toOption.isNone
    match j with
    | .obj fields => some (key :: ((fields.find? isCulprit).map (·.1)).toList)
    | _ => some [key]

/-- The first key whose value does not fit a configuration. -/
def culprit? (j : Json) : Option Toml.Path :=
  match j with
  | .obj fields => fields.findSome? fun (key, v) =>
    if key = "eval_timeout_ms" then
      if (Shape.natural 64 "u64" v).toOption.isNone then some [key] else none
    else if key = "engine" then
      sectionCulprit key ["memory_limit_bytes", "max_stack_bytes", "max_pending_jobs"]
        (EngineLimits.decode .ignored) v
    else if key = "validator" then
      sectionCulprit key ["max_source_bytes", "max_nesting_depth"] (SourceLimits.decode .ignored) v
    else none
  | _ => none

/-- Shows where a text does not fit. -/
def excerpt? (text : String) (t : Toml.Table) : Option String := do
  let path ← culprit? (← t.toJson.toOption)
  return (← Toml.Table.place? text path).excerpt text

/-- Reads a text. -/
def ofText (text : String) : Except TextFlaw Config :=
  match Toml.Table.read text with
  | none => .error .notToml
  | some t =>
    match ofTable t with
    | .ok c => .ok c
    | .error e => .error (.illShaped e (excerpt? text t))

end Config

/-! ### Files -/

/-- Why a configuration file is not read or written. -/
inductive ConfigError where
  | flaw (f : ConfigFlaw)
  | unreadable (path : String) (e : DiskFlaw)
  | unparsable (path : String) (e : TextFlaw)
  /-- There is something, and it is not to be replaced. -/
  | occupied (path : String)
  | noDirectory (path : String) (e : DiskFlaw)
  /-- The path does not end in a name. -/
  | nameless (path : String)
  | notStaged (path : String) (e : DiskFlaw)
  | notInstalled (path : String) (e : DiskFlaw)
  deriving Inhabited

namespace ConfigError

/-- What was being done. -/
def message : ConfigError → String
  | .flaw f => f.message
  | .unreadable path _ => "read " ++ path
  | .unparsable path _ => "parse " ++ path
  | .occupied path => path ++ " already exists (use --force to overwrite)"
  | .noDirectory path _ => "create directory " ++ path
  | .nameless path => "config path has no file name: " ++ path
  | .notStaged path _ => "stage config " ++ path
  | .notInstalled path _ => "install config " ++ path

/-- The flaw of the file operation that failed, if it is one. -/
def diskFlaw? : ConfigError → Option DiskFlaw
  | .unreadable _ e => some e
  | .noDirectory _ e => some e
  | .notStaged _ e => some e
  | .notInstalled _ e => some e
  | _ => none

end ConfigError

namespace Config

variable {m : Type → Type} [Monad m]

/-- A configuration, if all its limits are in their range. -/
def checked (c : Config) : Except ConfigError Config :=
  match c.flaw? with
  | some f => .error (.flaw f)
  | none => .ok c

/-- Reads the configuration in a file. -/
def load (d : Disk m) (path : String) : m (Except ConfigError Config) := do
  if !(← d.exists? path) then return checked {}
  match ← d.read path with
  | .error e => return .error (.unreadable path e)
  | .ok text =>
    match ofText text with
    | .error e => return .error (.unparsable path e)
    | .ok c => return checked c

/-- The directory of a file. -/
def directoryOf (path : String) : String :=
  match FilePath.parent? path with
  | some parent => if parent.isEmpty then "." else parent
  | none => "."

/-- The name of the file that a text is first put into. -/
def stagingName (name : String) : String := "." ++ name ++ ".partial"

/-- Writes a configuration to a file. -/
def save (d : Disk m) (path : String) (c : Config) (overwrite : Bool) :
    m (Except ConfigError Unit) := do
  match c.flaw? with
  | some f => return .error (.flaw f)
  | none =>
    if !overwrite && (← d.exists? path) then return .error (.occupied path)
    let directory := directoryOf path
    match ← d.makeDirectories directory with
    | .error e => return .error (.noDirectory directory e)
    | .ok () =>
      match FilePath.name? path with
      | none => return .error (.nameless path)
      | some name =>
        let staging := FilePath.child directory (stagingName name)
        match ← d.write staging c.render with
        | .error e => return .error (.notStaged staging e)
        | .ok () =>
          match ← d.rename staging path with
          | .error e => return .error (.notInstalled path e)
          | .ok () => return .ok ()

end Config

end PatchSandbox
