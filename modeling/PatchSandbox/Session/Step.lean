import PatchSandbox.Session.State

/-!
# Steps of a session

* **`Session.Action`** names who takes the next step. The callers, the worker and the router
  take their steps in any order.
* **`Session.step`** is one step, or nothing where the one who is named has none to take.
* **`Session.runActions`** is a run: one interleaving of all their steps.

Callers see the outcomes of their calls and not the order of the steps. One schedule lets
the router go first, then the callers in the order in which they began, then the worker; when
nobody has a step to take, the first caller that waits runs out of time, if the session has a
bound for it.

* **`Session.settle`** goes on until a goal is reached or nobody can go on.
* **`Session.start`** begins a call, **`Session.finish`** waits for some, and
  **`Session.evaluate`** does both.
-/

namespace PatchSandbox.Session

/-- Who takes a step. -/
inductive Action where
  /-- A call begins. -/
  | call (task : Task)
  /-- A call to dispose of the session begins. -/
  | dispose
  /-- A call goes on. -/
  | proceed (caller : Nat)
  /-- The time of a call that waits is over. -/
  | expire (caller : Nat)
  /-- A call that waits is given up. -/
  | abandon (caller : Nat)
  | work
  /-- The worker is lost. -/
  | loseWorker
  | route
  deriving Inhabited

variable {ε : Type}

/-- A part of the disposal, and what is left to do after it. -/
def disposeStep (s : Session ε) : Disposal → Session ε × Option Disposal
  | .closeTable => ({ s with table := (s.table.close (.error .disposed)).2 }, some .closeReadiness)
  | .closeReadiness => ({ s with readiness := .closed }, some .stopWorker)
  | .stopWorker =>
    (if s.hasWorker then { s with hasWorker := false, worker := s.worker.terminate } else s, none)

/-- Hands a request to the worker, if the session still has its handle. -/
def handOver (s : Session ε) (r : Request) : Option (Session ε) :=
  if s.hasWorker then
    match s.worker.send r with
    | .ok w => some { s with worker := w }
    | .error _ => none
  else none

/-- A call goes on. Of the two ways in which a call waits, one ends with the readiness of the
engine and one with an outcome in the call's mailbox. -/
def proceed (s : Session ε) (i : Nat) : Caller → Option (Session ε)
  | .begun task =>
    if s.isDisposed then some (s.setCaller i (.done (.error .disposed)))
    else
      match task.check s.config.source with
      | .ok p => some (s.setCaller i (.admitted p))
      | .error e => some (s.setCaller i (.done (.error e)))
  | .admitted p =>
    match s.readiness with
    | .starting => none
    | .ready => some (s.setCaller i (.cleared p))
    | .failed message => some (s.setCaller i (.done (.error (.engineFailed message))))
    | .closed => some (s.setCaller i (.done (.error .disposed)))
  | .cleared p => some ({ s with nextId := s.nextId + 1 }.setCaller i (.numbered p s.nextId))
  | .numbered p id =>
    match s.table.register? id with
    | some (slot, table) => some ({ s with table }.setCaller i (.registered p id slot))
    | none => some (s.setCaller i (.done (.error .disposed)))
  | .registered p id slot =>
    match s.handOver (p.request id) with
    | some s => some (s.setCaller i (.sent id slot))
    | none => some (s.setCaller i (.unsent id))
  | .unsent id =>
    some ({ s with table := s.table.forget id }.setCaller i (.done (.error .disposed)))
  | .sent id slot =>
    some ({ s with dispatched := s.dispatched + 1 }.setCaller i (.waiting id slot))
  | .waiting _ slot =>
    match s.table.take slot with
    | (.waiting, _) => none
    | (.holding o, table) => some ({ s with table }.setCaller i (.done o))
    | (.abandoned, _) => some (s.setCaller i (.done (.error .disposed)))
  | .expired id =>
    let after := s.config.timeout.getD ⟨0⟩
    some ({ s with table := s.table.forget id }.setCaller i
      (.disposing .closeTable (some (.error (.timedOut after)))))
  | .disposing what outcome =>
    match s.disposeStep what with
    | (s, some next) => some (s.setCaller i (.disposing next outcome))
    | (s, none) => some (s.setCaller i (.ofOutcome outcome))
  | .done _ => none
  | .over => none

/-- The time of a call is over. That is noticed only while its mailbox is still empty. -/
def expire (s : Session ε) (i : Nat) : Caller → Option (Session ε)
  | .waiting id slot =>
    match s.config.timeout, s.table.take slot with
    | some _, (.waiting, _) => some (s.setCaller i (.expired id))
    | _, _ => none
  | _ => none

/-- A call is given up while it waits. -/
def abandon (s : Session ε) (i : Nat) : Caller → Option (Session ε)
  | .admitted _ => some (s.setCaller i .over)
  | .waiting _ _ => some (s.setCaller i .over)
  | _ => none

/-- Hands an answer of the worker on. -/
def deliver (s : Session ε) : Response → Session ε
  | .ready => { s with readiness := .ready }
  | .initFailed message => { s with readiness := .failed message }
  | .result id payload => { s with table := (s.table.settle id (.ok payload)).2 }
  | .error id message logs =>
    { s with table := (s.table.settle id (.error (.scriptFailed message logs))).2 }

/-- The router goes on. It ends when the worker has stopped and no answer is left. -/
def route (s : Session ε) : Option (Session ε) :=
  match s.router with
  | .idle =>
    match s.worker.receive? with
    | some (a, worker) => some { s with worker, router := .delivering a }
    | none =>
      if s.worker.isStopped then
        if s.isDisposed then some { s with router := .ended }
        else
          some { s with table := (s.table.close (.error .workerLost)).2, router := .ending }
      else none
  | .delivering a => some { s.deliver a with router := .idle }
  | .ending => some { s with readiness := .closed, router := .ended }
  | .ended => none

/-- One step. -/
def step (k : EngineKind ε) (s : Session ε) : Action → Option (Session ε)
  | .call task => some (s.addCaller (.begun task))
  | .dispose => some (s.addCaller (.disposing .closeTable none))
  | .proceed i => (s.caller? i).bind (s.proceed i)
  | .expire i => (s.caller? i).bind (s.expire i)
  | .abandon i => (s.caller? i).bind (s.abandon i)
  | .work => (s.worker.turn k).map fun worker => { s with worker }
  | .loseWorker => some { s with worker := { s.worker with phase := .stopped } }
  | .route => s.route

/-- The steps of a run, one after the other. -/
def runActions (k : EngineKind ε) (s : Session ε) : List Action → Option (Session ε)
  | [] => some s
  | a :: rest => (s.step k a).bind fun s => runActions k s rest

/-! ### A schedule -/

/-- The first caller that has a step to take, after it. -/
def proceedFirst (k : EngineKind ε) (s : Session ε) : Nat → List Caller → Option (Session ε)
  | _, [] => none
  | i, _ :: rest =>
    match s.step k (.proceed i) with
    | some s => some s
    | none => proceedFirst k s (i + 1) rest

/-- The first caller that waits, out of time. -/
def expireFirst (k : EngineKind ε) (s : Session ε) : Nat → List Caller → Option (Session ε)
  | _, [] => none
  | i, _ :: rest =>
    match s.step k (.expire i) with
    | some s => some s
    | none => expireFirst k s (i + 1) rest

/-- A step of the router or of a caller. -/
def stepHost (k : EngineKind ε) (s : Session ε) : Option (Session ε) :=
  match s.step k .route with
  | some s => some s
  | none => proceedFirst k s 0 s.callers

/-- A step of anybody. -/
def stepAny (k : EngineKind ε) (s : Session ε) : Option (Session ε) :=
  match s.stepHost k with
  | some s => some s
  | none =>
    match s.step k .work with
    | some s => some s
    | none => expireFirst k s 0 s.callers

/-- Steps until a goal is reached or nobody can go on, but at most so many. -/
def settleFor (k : EngineKind ε) (goal : Session ε → Bool) : Nat → Session ε → Session ε
  | 0, s => s
  | n + 1, s =>
    if goal s then s
    else
      match s.stepAny k with
      | some s => settleFor k goal n s
      | none => s

/-- How many steps are certainly enough: every call takes some twelve steps of its own, and as
many of the worker and the router. -/
def stepBound (s : Session ε) : Nat := 64 * (s.callers.length + s.worker.requests.length + 4)

/-- Steps until a goal is reached or nobody can go on. -/
def settle (k : EngineKind ε) (goal : Session ε → Bool) (s : Session ε) : Session ε :=
  settleFor k goal s.stepBound s

/-- Whether a call waits for its outcome or has one. -/
def isUnderWay (i : Nat) (s : Session ε) : Bool :=
  ((s.caller? i).map fun c => c.isWaiting || c.isOver).getD true

/-- Whether calls have come to their end. -/
def areOver (calls : List Nat) (s : Session ε) : Bool :=
  calls.all fun i => ((s.caller? i).map Caller.isOver).getD true

/-- Begins a call and goes on until its request is sent, or it is over. -/
def start (k : EngineKind ε) (s : Session ε) (task : Task) : Nat × Session ε :=
  let i := s.callers.length
  (i, (s.addCaller (.begun task)).settle k (isUnderWay i))

/-- The outcome of a call. One that never comes is told as that of a session that is over. -/
def outcomeOf (s : Session ε) (i : Nat) : Outcome :=
  ((s.caller? i).bind Caller.outcome?).getD (.error .disposed)

/-- Goes on until calls are over: their outcomes. -/
def finish (k : EngineKind ε) (s : Session ε) (calls : List Nat) : List Outcome × Session ε :=
  let s := s.settle k (areOver calls)
  (calls.map s.outcomeOf, s)

/-- Begins calls. -/
def begin (s : Session ε) (tasks : List Task) : List Nat × Session ε :=
  ((List.range tasks.length).map (· + s.callers.length),
    { s with callers := s.callers ++ tasks.map .begun })

/-- Calls at the same time: their outcomes. -/
def evaluateAll (k : EngineKind ε) (s : Session ε) (tasks : List Task) :
    List Outcome × Session ε :=
  let (calls, s) := s.begin tasks
  s.finish k calls

/-- A call: its outcome. -/
def evaluate (k : EngineKind ε) (s : Session ε) (task : Task) : Outcome × Session ε :=
  let i := s.callers.length
  let s := (s.addCaller (.begun task)).settle k (areOver [i])
  (s.outcomeOf i, s)

/-- Disposes of the session. -/
def dispose (k : EngineKind ε) (s : Session ε) : Session ε :=
  let i := s.callers.length
  (s.addCaller (.disposing .closeTable none)).settle k (areOver [i])

end PatchSandbox.Session
