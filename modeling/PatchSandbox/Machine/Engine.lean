import PatchSandbox.Config
import PatchSandbox.Evaluation.Evaluate
import PatchSandbox.Machine.Bindings
import PatchSandbox.Session.Worker

/-!
# The engine

* **`Engine.make?`** refuses limits that are out of their range.
* **`Engine.evaluate`** runs a program in a state of its own, so nothing of one evaluation is
  left to another.
* **`engineKind`** is what a worker knows of all this.
-/

namespace PatchSandbox.Machine

open PatchSandbox.Text (CodeUnits)

/-- Bytes of the stack that a nested call takes. -/
def callBytes : Nat := 400

/-- Bytes of the stack that are taken before a program is run. -/
def baseBytes : Nat := 12288

/-- Most calls that a function without code may be nested in. -/
def nativeDepth : Nat := 4000

/-- Memory that the standard objects take. -/
def standardBytes : Nat := 262144

/-- How many calls may be nested on a stack of a size. -/
def depthOf (stackBytes : Nat) : Nat := if stackBytes < baseBytes then 0 else stackBytes / callBytes

/-- The state that a run starts from. -/
def initialState (limits : EngineLimits) (steps : Nat) (modules : ModuleMap) : State where
  objects := realm.objects
  symbols := (WellKnown.names.map fun n => some (CodeUnits.ofString ("Symbol." ++ n))).toArray
  codes := hardeningCode
  depthLimit := depthOf limits.stackBytes
  steps
  used := standardBytes
  memoryLimit := limits.memoryBytes
  nextLook := limits.memoryBytes
  loader := { modules }

/-- Does something in a state. -/
def perform {α : Type} (x : M α) (s : State) : EStateM.Result Abrupt State α :=
  x (interp runNative (min s.depthLimit nativeDepth + 16)) s

/-- The wording of the way a run was left. A thrown value may run code as it is worded, so the
state comes with the wording. -/
def abruptText (e : Abrupt) (s : State) : String × State :=
  match e with
  | .interrupted => ("interrupted", s)
  | .thrown v =>
    match perform (faultText v) s with
    | .ok text s => (text, s)
    | .error _ s => ("uncaught exception", s)

/-- The wording of the way the preparation of a run was left. -/
def hardeningText (e : Abrupt) (s : State) : String × State :=
  (abruptText e s).map ("could not harden context: " ++ ·) id

/-- The wording of the way a job was left: nothing looks at the value it threw. -/
def jobText (_ : Abrupt) (s : State) : String × State := (DrainFlaw.failed.message, s)

/-- What a piece of a run did. What was seen of it is taken out of the state. -/
def turnOf {α : Type} (word : Abrupt → State → String × State) (s : State) (x : M α) :
    Turn State α :=
  match perform x s with
  | .ok a s => ⟨.ok a, s.events, { s with events := #[] }⟩
  | .error e s =>
    let (message, s) := word e s
    ⟨.error message, s.events, { s with events := #[] }⟩

/-- What comes before a program. -/
def prepare (p : Submission) : M Unit := do
  installBridge
  match p with
  | .script _ => pure ()
  | .module _ _ => installRequire
  harden

/-- Runs a program: the JSON form of its result. -/
def runSubmission (p : Submission) : M Json := do
  let v ← match p with
    | .script code => runText code
    | .module entry _ => Loader.load loading entry
  return (← (← view v).toJson).getD .null

/-- Prepares a run and runs a program. -/
def bodyTurn (p : Submission) (s : State) : Turn State Json :=
  let prepared := turnOf hardeningText s (prepare p)
  match prepared.outcome with
  | .error message => ⟨.error message, prepared.events, prepared.rest⟩
  | .ok () =>
    let turn := turnOf abruptText prepared.rest (runSubmission p)
    { turn with events := prepared.events ++ turn.events }

/-- Takes the first job that waits. -/
def nextJob? (s : State) : Option (Job × State) :=
  s.jobs.pop?.map fun (job, jobs) => (job, { s with jobs })

/-- How a program is carried out. -/
def runner (p : Submission) : Runner State Job where
  jobs := { next? := nextJob?, perform := fun job s => turnOf jobText s (runJob job) }
  body := bodyTurn p
  close s := { s with loader := s.loader.close }

/-- An engine with limits, and the number of instructions after which a run is given up. -/
structure Engine where
  limits : EngineLimits
  steps : Nat

namespace Engine

/-- An engine with limits, if they are in their range. -/
def make? (limits : EngineLimits) (steps : Nat) : Except ConfigFlaw Engine :=
  match limits.flaw? with
  | some flaw => .error flaw
  | none => .ok ⟨limits, steps⟩

/-- Runs a program: what becomes of it, and whether it was interrupted. -/
def evaluate (e : Engine) (p : Submission) : Except Fault EvalOutput × Bool :=
  let modules : ModuleMap :=
    match p with
    | .script _ => ⟨[]⟩
    | .module _ modules => modules
  let (outcome, s) :=
    PatchSandbox.evaluate (runner p) e.limits.pendingJobs (initialState e.limits e.steps modules)
  (outcome, s.wasInterrupted)

end Engine

/-- Instructions after which any run is given up. -/
def unboundedSteps : Nat := 200000000

/-- Instructions that are always carried out, unless a run may take no time at all. -/
def boundedSteps : Nat := 8000000

/-- Instructions after which the runs of a session are given up. -/
def stepsFor (c : Config) : Nat :=
  match c.evalTimeout with
  | some 0 => 0
  | some ms => min unboundedSteps (max boundedSteps (ms * stepsPerMillisecond))
  | none => unboundedSteps

/-- Engines with limits, which give a run up after so many instructions. -/
def engineKind (limits : EngineLimits) (steps : Nat) : EngineKind Engine where
  make :=
    match Engine.make? limits steps with
    | .ok e => .ok e
    | .error flaw => .error flaw.message
  run e p :=
    match e.evaluate p with
    | (_, true) => none
    | (outcome, false) => some outcome

/-- The engines of a session. -/
def enginesFor (c : Config) : EngineKind Engine := engineKind c.engine (stepsFor c)

end PatchSandbox.Machine
