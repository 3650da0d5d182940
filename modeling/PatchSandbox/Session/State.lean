import PatchSandbox.Session.Pending
import PatchSandbox.Session.Task
import PatchSandbox.Session.Worker

/-!
# The state of a session

A session has one worker and any number of callers. What they share is the table of pending
requests, the readiness of the engine, and the handle of the worker; each is read or changed
in one step, and between two steps of one caller all others may go on.

* **`Caller`** says how far one call has got.
* **`Router`** says what the one that hands the worker's answers to the callers is doing.
-/

namespace PatchSandbox

/-- What a call comes to. -/
abbrev Outcome := Except SessionError EvalOutput

/-- What is known of the engine. -/
inductive Readiness where
  | starting
  | ready
  | failed (message : String)
  | closed
  deriving DecidableEq, Repr, Inhabited

/-- What is left to do when a session is disposed of. -/
inductive Disposal where
  | closeTable
  | closeReadiness
  | stopWorker
  deriving DecidableEq, Repr, Inhabited

/-- How far a call has got. -/
inductive Caller where
  /-- Nothing is done yet. -/
  | begun (task : Task)
  /-- The task may run; the call waits for the engine. -/
  | admitted (p : Submission)
  /-- The engine is ready. -/
  | cleared (p : Submission)
  /-- The call has its id. -/
  | numbered (p : Submission) (id : RequestId)
  /-- The call has its mailbox. -/
  | registered (p : Submission) (id : RequestId) (slot : Nat)
  /-- The request could not be sent. -/
  | unsent (id : RequestId)
  /-- The request is sent, and not counted yet. -/
  | sent (id : RequestId) (slot : Nat)
  /-- The call waits for its outcome. -/
  | waiting (id : RequestId) (slot : Nat)
  /-- The time for the call is over. -/
  | expired (id : RequestId)
  /-- The session is being disposed of, after which the call has that outcome, if it is one
  that has an outcome. -/
  | disposing (what : Disposal) (outcome : Option Outcome)
  | done (outcome : Outcome)
  /-- The call has no outcome: it was given up, or it was one to dispose of the session. -/
  | over
  deriving Inhabited

namespace Caller

/-- The outcome of a call. -/
def outcome? : Caller → Option Outcome
  | .done o => some o
  | _ => none

/-- Whether a call has come to its end. -/
def isOver : Caller → Bool
  | .done _ => true
  | .over => true
  | _ => false

/-- Whether a call waits for its outcome. -/
def isWaiting : Caller → Bool
  | .waiting _ _ => true
  | _ => false

/-- What a call is when all of the disposal is done. -/
def ofOutcome : Option Outcome → Caller
  | some o => .done o
  | none => .over

end Caller

/-- What the router is doing. -/
inductive Router where
  /-- It waits for an answer. -/
  | idle
  | delivering (a : Response)
  /-- The worker is gone, and the table is closed. -/
  | ending
  | ended
  deriving Inhabited

/-- A session with its worker and its callers. -/
structure Session (ε : Type) where
  config : Config
  table : PendingTable Outcome := {}
  readiness : Readiness := .starting
  /-- Whether the session still has the handle of its worker. -/
  hasWorker : Bool := true
  worker : Worker ε
  router : Router := .idle
  nextId : RequestId := 1
  /-- How many requests were counted as sent. -/
  dispatched : Nat := 0
  callers : List Caller := []
  deriving Inhabited

namespace Session

variable {ε : Type}

/-- A new session. Its worker is asked for an engine at once. -/
def spawn (config : Config) : Session ε :=
  { config, worker := { requests := [.init] } }

/-- Whether no more calls are taken. -/
def isDisposed (s : Session ε) : Bool := s.table.closed

/-- How many requests await a response. -/
def pending (s : Session ε) : Nat := s.table.size

/-- How far a call has got. -/
def caller? (s : Session ε) (i : Nat) : Option Caller := s.callers[i]?

/-- Says how far a call has got now. -/
def setCaller (s : Session ε) (i : Nat) (c : Caller) : Session ε :=
  { s with callers := s.callers.set i c }

/-- Adds a call. -/
def addCaller (s : Session ε) (c : Caller) : Session ε :=
  { s with callers := s.callers ++ [c] }

end Session

end PatchSandbox
