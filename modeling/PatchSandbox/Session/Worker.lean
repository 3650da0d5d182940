import PatchSandbox.Evaluation.Evaluate
import PatchSandbox.Message

/-!
# Workers

A worker takes requests from a queue, one at a time, and puts its answers into another one.

* **`EngineKind`** is all a worker knows of engines: how to make one, and what it does with a
  program. An engine is made when it is first needed, and never again, whether it could be
  made or not.
* **`Worker.handle`** gives the answer to one request.
* **`Worker.turn`** is one step of the worker's loop. A worker looks twice whether it is
  terminated: when it has taken a request, and when it has an answer. Between these looks the
  flag may be raised at any time.
-/

namespace PatchSandbox

/-- A way to make engines and to run programs on them. -/
structure EngineKind (ε : Type) where
  /-- An engine, or why there is none. -/
  make : Except String ε
  /-- What becomes of a program; nothing if it does not end by itself. -/
  run : ε → Submission → Option (Except Fault EvalOutput)

/-- Where a worker is in its loop. -/
inductive Worker.Phase where
  /-- It waits for a request. -/
  | idle
  | took (r : Request)
  | handling (r : Request)
  | answered (a : Response)
  | sending (a : Response)
  | stopped
  deriving Inhabited

/-- A worker with its queues. -/
structure Worker (ε : Type) where
  phase : Worker.Phase := .idle
  /-- The engine, or why there is none, once one was needed. -/
  engine : Option (Except String ε) := none
  terminated : Bool := false
  /-- Whether requests can still be added. -/
  isOpen : Bool := true
  /-- Whether somebody can still take the answers. -/
  isHeard : Bool := true
  requests : List Request := []
  responses : List Response := []
  deriving Inhabited

/-- Why a request cannot be added. -/
inductive SendFlaw where
  | terminated
  | stopped
  deriving DecidableEq, Repr, Inhabited

/-- The wording of a flaw. -/
def SendFlaw.message : SendFlaw → String
  | .terminated => "worker terminated"
  | .stopped => "worker request channel closed"

/-- The answer to a request for an evaluation. -/
def Response.ofOutcome (id : RequestId) : Except Fault EvalOutput → Response
  | .ok payload => .result id payload
  | .error f => .error id f.message f.logs

/-- The answer to a request for an evaluation where there is no engine. -/
def Response.unavailable (id : RequestId) (reason : String) : Response :=
  .error id ("engine unavailable: " ++ reason) []

/-- The answer to a request for an engine. -/
def Response.ofEngine {ε : Type} : Except String ε → Response
  | .ok _ => .ready
  | .error message => .initFailed message

/-- The id and the program of a request for an evaluation. -/
def Request.submission? : Request → Option (RequestId × Submission)
  | .init => none
  | .eval id code => some (id, .script code)
  | .evalModule id entry modules => some (id, .module entry modules)

namespace Worker

variable {ε : Type}

/-- The engine of a worker, which is made if there is none yet. -/
def engineOf (k : EngineKind ε) (w : Worker ε) : Except String ε := w.engine.getD k.make

/-- The answer to a request, on an engine that may be missing; nothing if the program does not
end. -/
def answer (k : EngineKind ε) (engine : Except String ε) (r : Request) : Option Response :=
  match r.submission? with
  | none => some (.ofEngine engine)
  | some (id, p) =>
    match engine with
    | .ok e => (k.run e p).map (.ofOutcome id)
    | .error reason => some (.unavailable id reason)

/-- Handles a request: the answer, and the worker that has an engine from now on. -/
def handle (k : EngineKind ε) (w : Worker ε) (r : Request) : Option Response × Worker ε :=
  let engine := w.engineOf k
  (answer k engine r, { w with engine := some engine })

/-- Adds a request. -/
def send (w : Worker ε) (r : Request) : Except SendFlaw (Worker ε) :=
  if !w.isOpen then .error .terminated
  else
    match w.phase with
    | .stopped => .error .stopped
    | _ => .ok { w with requests := w.requests ++ [r] }

/-- Raises the flag and takes no more requests. -/
def terminate (w : Worker ε) : Worker ε := { w with terminated := true, isOpen := false }

/-- One step of the loop; nothing while the worker waits, or runs a program that does not
end, or has stopped. -/
def turn (k : EngineKind ε) (w : Worker ε) : Option (Worker ε) :=
  match w.phase with
  | .idle =>
    match w.requests with
    | r :: rest => some { w with phase := .took r, requests := rest }
    | [] => if w.isOpen then none else some { w with phase := .stopped }
  | .took r => some { w with phase := if w.terminated then .stopped else .handling r }
  | .handling r =>
    -- a program is interrupted by the flag, and its answer is not sent
    if w.terminated then some { w with phase := .stopped }
    else
      match w.handle k r with
      | (some a, w) => some { w with phase := .answered a }
      | (none, _) => none
  | .answered a => some { w with phase := if w.terminated then .stopped else .sending a }
  | .sending a =>
    if w.isHeard then some { w with phase := .idle, responses := w.responses ++ [a] }
    else some { w with phase := .stopped }
  | .stopped => none

/-- Whether the worker will never do anything again. -/
def isStopped (w : Worker ε) : Bool :=
  match w.phase with
  | .stopped => true
  | _ => false

/-- Takes the first answer. -/
def receive? (w : Worker ε) : Option (Response × Worker ε) :=
  match w.responses with
  | a :: rest => some (a, { w with responses := rest })
  | [] => none

/-- As many steps as possible, but at most so many. -/
def runFor (k : EngineKind ε) : Nat → Worker ε → Worker ε
  | 0, w => w
  | n + 1, w =>
    match w.turn k with
    | some w => runFor k n w
    | none => w

/-- Steps until the worker waits: every request takes five, and stopping two. -/
def settle (k : EngineKind ε) (w : Worker ε) : Worker ε :=
  w.runFor k (5 * w.requests.length + 8)

@[simp] theorem engine_handle (k : EngineKind ε) (w : Worker ε) (r : Request) :
    (w.handle k r).2.engine = some (w.engineOf k) := rfl

@[simp] theorem engineOf_handle (k : EngineKind ε) (w : Worker ε) (r : Request) :
    (w.handle k r).2.engineOf k = w.engineOf k := rfl

@[simp] theorem responses_handle (k : EngineKind ε) (w : Worker ε) (r : Request) :
    (w.handle k r).2.responses = w.responses := rfl

@[simp] theorem terminated_terminate (w : Worker ε) : w.terminate.terminated = true := rfl

end Worker

end PatchSandbox
