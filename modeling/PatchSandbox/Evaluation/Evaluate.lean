import PatchSandbox.EvalOutput
import PatchSandbox.Evaluation.Event
import PatchSandbox.Module.Map

/-!
# Evaluations

* A program leaves promise jobs behind, and each may add more. **`drain`** runs them in order
  until none waits, but never more than a limit; the first that fails ends it.
* **`evaluate`** runs a program, then the jobs it leaves, and then looks for promises that
  are rejected and that nobody waits for. Whichever of the three fails first makes the whole
  evaluation fail, and then only its console lines are kept.
* The ops of a success are those of the bridge in call order, followed by those the result
  declares.
-/

/-! ### Jobs that wait -/

namespace PatchSandbox

/-- What a piece of a run did: how it ended, what was seen of it, and what it left. -/
structure Turn (σ α : Type) where
  outcome : Except String α
  events : Array Event
  rest : σ

/-- A queue of jobs within a state. -/
structure JobSource (σ ι : Type) where
  /-- Takes the first job. -/
  next? : σ → Option (ι × σ)
  perform : ι → σ → Turn σ Unit

/-- Why draining ended with jobs left. -/
inductive DrainFlaw where
  /-- A job failed. -/
  | failed
  /-- As many jobs as allowed were run, and one still waits. -/
  | flooded (limit : Nat)
  deriving DecidableEq, Repr, Inhabited

/-- The wording of a flaw. -/
def DrainFlaw.message : DrainFlaw → String
  | .failed => "uncaught exception in promise job"
  | .flooded limit =>
    "more than " ++ toString limit ++ " promise jobs pending after the program finished"

/-- How draining ended, with everything that was seen until then. -/
structure Drained (σ : Type) where
  flaw : Option DrainFlaw
  events : Array Event
  rest : σ

variable {σ ι : Type}

/-- Runs the jobs that wait, at most so many of the limit. -/
def drainFrom (jobs : JobSource σ ι) (limit : Nat) : Nat → Array Event → σ → Drained σ
  | 0, events, s =>
    match jobs.next? s with
    | none => ⟨none, events, s⟩
    | some _ => ⟨some (.flooded limit), events, s⟩
  | n + 1, events, s =>
    match jobs.next? s with
    | none => ⟨none, events, s⟩
    | some (job, s) =>
      let turn := jobs.perform job s
      let events := events ++ turn.events
      match turn.outcome with
      | .ok () => drainFrom jobs limit n events turn.rest
      | .error _ => ⟨some .failed, events, turn.rest⟩

/-- Runs the jobs that wait, after some events. -/
def drain (jobs : JobSource σ ι) (limit : Nat) (events : Array Event) (s : σ) : Drained σ :=
  drainFrom jobs limit limit events s

/-! ### Evaluating -/

/-- What a single evaluation runs. -/
inductive Submission where
  | script (code : String)
  /-- The module of that name, with all that it may ask for. -/
  | module (entry : String) (modules : ModuleMap)
  deriving Inhabited

/-- A failed evaluation. -/
structure Fault where
  message : String
  /-- The console lines until the failure. -/
  logs : List String
  deriving DecidableEq, Repr, Inhabited

/-- What can carry a program out. -/
structure Runner (σ ι : Type) where
  jobs : JobSource σ ι
  /-- Runs the program, without the jobs it leaves: the JSON form of its result. -/
  body : σ → Turn σ Json
  /-- Lets go of everything the run keeps. -/
  close : σ → σ

namespace Fault

/-- The failure with a message, after some events. -/
def ofEvents (message : String) (events : Array Event) : Fault :=
  ⟨message, (Capture.ofEvents events).logs.toList⟩

/-- The wording of a rejected promise that nobody waits for. -/
def unhandledText (reason : String) : String := "unhandled promise rejection: " ++ reason

end Fault

/-- The output of a program with such a result, after some events. -/
def EvalOutput.ofEvents (output : Json) (events : Array Event) : EvalOutput :=
  let capture := Capture.ofEvents events
  ⟨capture.ops.toList.map (·.val) ++ Op.declared output, capture.logs.toList, output⟩

variable {σ ι : Type}

/-- What has become of a program: its output or failure, and the state it leaves. -/
def outcomeOf (r : Runner σ ι) (limit : Nat) (s : σ) : Except Fault EvalOutput × σ :=
  let body := r.body s
  match body.outcome with
  | .error message => (.error (.ofEvents message body.events), body.rest)
  | .ok output =>
    let drained := drain r.jobs limit body.events body.rest
    match drained.flaw with
    | some flaw => (.error (.ofEvents flaw.message drained.events), drained.rest)
    | none =>
      match (Ledger.ofEvents drained.events).take.1 with
      | some reason =>
        (.error (.ofEvents (Fault.unhandledText reason) drained.events), drained.rest)
      | none => (.ok (.ofEvents output drained.events), drained.rest)

/-- Runs a program, with a limit of jobs that may follow it, and closes the run. -/
def evaluate (r : Runner σ ι) (limit : Nat) (s : σ) : Except Fault EvalOutput × σ :=
  let (outcome, s) := outcomeOf r limit s
  (outcome, r.close s)

end PatchSandbox
