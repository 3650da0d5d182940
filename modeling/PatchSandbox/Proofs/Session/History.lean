import PatchSandbox.Session.Step

/-!
# What happens in a run of a session

The steps of a session leave a **history**: calls get ids and mailboxes, requests are put on
the worker's queue and taken off it, answers come back, the table is closed. The state
forgets most of this; statements about whole runs are statements about histories.

* **`Move`** says once what a single step can do, and what happens in it. Every proof about
  steps goes through **`move_of_step`** and never unfolds `step`.
* **`run_induction`** lifts what every move keeps to whole runs.
-/

namespace PatchSandbox.Session

/-- What happens in one step. -/
inductive Occurrence where
  /-- A call begins. -/
  | began (caller : Nat) (task : Task)
  /-- A call gets its id. -/
  | numbered (caller : Nat) (id : RequestId)
  /-- A call gets a mailbox under its id. -/
  | registered (caller : Nat) (id : RequestId) (slot : Nat)
  /-- The request of a call is put on the worker's queue. -/
  | sent (caller : Nat) (r : Request)
  /-- The time of a call is over. -/
  | expired (caller : Nat)
  /-- The worker takes a request off its queue. -/
  | taken (r : Request)
  /-- The worker has found the answer to a request. -/
  | answered (r : Request) (a : Response)
  /-- The worker puts an answer on the queue of answers. -/
  | reported (a : Response)
  /-- The router takes an answer off that queue. -/
  | received (a : Response)
  /-- The router hands an answer on. -/
  | delivered (a : Response)
  /-- The table is closed. -/
  | closed (reason : SessionError)

namespace Occurrence

/-- The call it happens to. -/
@[simp] def caller? : Occurrence → Option Nat
  | .began i _ => some i
  | .numbered i _ => some i
  | .registered i _ _ => some i
  | .sent i _ => some i
  | .expired i => some i
  | _ => none

/-- An id that is given. -/
@[simp] def number? : Occurrence → Option RequestId
  | .numbered _ id => some id
  | _ => none

/-- A mailbox that is opened. -/
@[simp] def slot? : Occurrence → Option Nat
  | .registered _ _ slot => some slot
  | _ => none

/-- A request that is put on the worker's queue. -/
@[simp] def sent? : Occurrence → Option Request
  | .sent _ r => some r
  | _ => none

/-- A request that is taken off that queue. -/
@[simp] def taken? : Occurrence → Option Request
  | .taken r => some r
  | _ => none

/-- A request with the answer that is found. -/
@[simp] def answered? : Occurrence → Option (Request × Response)
  | .answered r a => some (r, a)
  | _ => none

/-- An answer that is put on the queue of answers. -/
@[simp] def reported? : Occurrence → Option Response
  | .reported a => some a
  | _ => none

/-- An answer that is taken off that queue. -/
@[simp] def received? : Occurrence → Option Response
  | .received a => some a
  | _ => none

/-- An answer that is handed on. -/
@[simp] def delivered? : Occurrence → Option Response
  | .delivered a => some a
  | _ => none

end Occurrence

variable {ε : Type}

/-! ### The history of a run -/

/-- What happens when a call goes on. -/
def proceeding? (s : Session ε) (i : Nat) : Caller → Option Occurrence
  | .cleared _ => some (.numbered i s.nextId)
  | .numbered _ id => (s.table.register? id).map fun (slot, _) => .registered i id slot
  | .registered p id _ => (s.handOver (p.request id)).map fun _ => .sent i (p.request id)
  | .disposing .closeTable _ => some (.closed .disposed)
  | _ => none

/-- What happens when the worker goes on. -/
def working? (k : EngineKind ε) (w : Worker ε) : Option Occurrence :=
  match w.phase with
  | .idle => w.requests.head?.map .taken
  | .handling r => if w.terminated then none else (w.handle k r).1.map (.answered r)
  | .sending a => if w.isHeard then some (.reported a) else none
  | _ => none

/-- What happens when the router goes on. -/
def routing? (s : Session ε) : Option Occurrence :=
  match s.router with
  | .idle =>
    match s.worker.receive? with
    | some (a, _) => some (.received a)
    | none => if s.isDisposed then none else some (.closed .workerLost)
  | .delivering a => some (.delivered a)
  | _ => none

/-- What happens in a step, if the step can be taken. -/
def occurrence? (k : EngineKind ε) (s : Session ε) : Action → Option Occurrence
  | .call task => some (.began s.callers.length task)
  | .proceed i => (s.caller? i).bind (s.proceeding? i)
  | .expire i => some (.expired i)
  | .work => working? k s.worker
  | .route => s.routing?
  | _ => none

/-- What happens in a run, in order. -/
def history (k : EngineKind ε) (s : Session ε) : List Action → List Occurrence
  | [] => []
  | a :: rest =>
    match s.step k a with
    | some s' => (s.occurrence? k a).toList ++ history k s' rest
    | none => []

/-! ### Moves -/

/-- A step of one call: where it stands before, what happens, where it stands after, and
what the step makes of the rest of the session. -/
inductive CallerMove (s : Session ε) (i : Nat) :
    Caller → Option Occurrence → Caller → Session ε → Prop
  | refused {task} (hc : s.table.closed = true) :
      CallerMove s i (.begun task) none (.done (.error .disposed)) s
  | rejected {task e} (hc : s.table.closed = false)
      (he : task.check s.config.source = .error e) :
      CallerMove s i (.begun task) none (.done (.error e)) s
  | admitted {task p} (hc : s.table.closed = false)
      (hp : task.check s.config.source = .ok p) :
      CallerMove s i (.begun task) none (.admitted p) s
  | cleared {p} (hr : s.readiness = .ready) : CallerMove s i (.admitted p) none (.cleared p) s
  | engineFailed {p message} (hr : s.readiness = .failed message) :
      CallerMove s i (.admitted p) none (.done (.error (.engineFailed message))) s
  | shut {p} (hr : s.readiness = .closed) :
      CallerMove s i (.admitted p) none (.done (.error .disposed)) s
  | givenUp {p} : CallerMove s i (.admitted p) none .over s
  | numbered {p} :
      CallerMove s i (.cleared p) (some (.numbered i s.nextId)) (.numbered p s.nextId)
        { s with nextId := s.nextId + 1 }
  | registered {p id slot table} (hr : s.table.register? id = some (slot, table)) :
      CallerMove s i (.numbered p id) (some (.registered i id slot)) (.registered p id slot)
        { s with table }
  | unregistered {p id} (hr : s.table.register? id = none) :
      CallerMove s i (.numbered p id) none (.done (.error .disposed)) s
  | sent {p id slot w} (hw : s.hasWorker = true) (hs : s.worker.send (p.request id) = .ok w) :
      CallerMove s i (.registered p id slot) (some (.sent i (p.request id))) (.sent id slot)
        { s with worker := w }
  | unsent {p id slot} (hs : s.handOver (p.request id) = none) :
      CallerMove s i (.registered p id slot) none (.unsent id) s
  | withdrawn {id} :
      CallerMove s i (.unsent id) none (.done (.error .disposed))
        { s with table := s.table.forget id }
  | counted {id slot} :
      CallerMove s i (.sent id slot) none (.waiting id slot)
        { s with dispatched := s.dispatched + 1 }
  | settled {id slot o table} (ht : s.table.take slot = (.holding o, table)) :
      CallerMove s i (.waiting id slot) none (.done o) { s with table }
  | dropped {id slot table} (ht : s.table.take slot = (.abandoned, table)) :
      CallerMove s i (.waiting id slot) none (.done (.error .disposed)) s
  | expired {id slot after table} (hb : s.config.timeout = some after)
      (ht : s.table.take slot = (.waiting, table)) :
      CallerMove s i (.waiting id slot) (some (.expired i)) (.expired id) s
  | abandoned {id slot} : CallerMove s i (.waiting id slot) none .over s
  | forgotten {id} :
      CallerMove s i (.expired id) none
        (.disposing .closeTable (some (.error (.timedOut (s.config.timeout.getD ⟨0⟩)))))
        { s with table := s.table.forget id }
  | closeTable {o} :
      CallerMove s i (.disposing .closeTable o) (some (.closed .disposed))
        (.disposing .closeReadiness o) { s with table := (s.table.close (.error .disposed)).2 }
  | closeReadiness {o} :
      CallerMove s i (.disposing .closeReadiness o) none (.disposing .stopWorker o)
        { s with readiness := .closed }
  | stopWorker {o} (hw : s.hasWorker = true) :
      CallerMove s i (.disposing .stopWorker o) none (.ofOutcome o)
        { s with hasWorker := false, worker := s.worker.terminate }
  | noWorker {o} (hw : s.hasWorker = false) :
      CallerMove s i (.disposing .stopWorker o) none (.ofOutcome o) s

/-- A step of the worker. -/
inductive WorkerMove (k : EngineKind ε) (w : Worker ε) :
    Option Occurrence → Worker ε → Prop
  | taken {r rest} (hp : w.phase = .idle) (hr : w.requests = r :: rest) :
      WorkerMove k w (some (.taken r)) { w with phase := .took r, requests := rest }
  | exhausted (hp : w.phase = .idle) (hr : w.requests = []) (ho : w.isOpen = false) :
      WorkerMove k w none { w with phase := .stopped }
  | refused {r} (hp : w.phase = .took r) (ht : w.terminated = true) :
      WorkerMove k w none { w with phase := .stopped }
  | begun {r} (hp : w.phase = .took r) (ht : w.terminated = false) :
      WorkerMove k w none { w with phase := .handling r }
  | interrupted {r} (hp : w.phase = .handling r) (ht : w.terminated = true) :
      WorkerMove k w none { w with phase := .stopped }
  | answered {r a} (hp : w.phase = .handling r) (ht : w.terminated = false)
      (ha : Worker.answer k (w.engineOf k) r = some a) :
      WorkerMove k w (some (.answered r a))
        { w with engine := some (w.engineOf k), phase := .answered a }
  | withheld {a} (hp : w.phase = .answered a) (ht : w.terminated = true) :
      WorkerMove k w none { w with phase := .stopped }
  | kept {a} (hp : w.phase = .answered a) (ht : w.terminated = false) :
      WorkerMove k w none { w with phase := .sending a }
  | unheard {a} (hp : w.phase = .sending a) (hh : w.isHeard = false) :
      WorkerMove k w none { w with phase := .stopped }
  | reported {a} (hp : w.phase = .sending a) (hh : w.isHeard = true) :
      WorkerMove k w (some (.reported a))
        { w with phase := .idle, responses := w.responses ++ [a] }

/-- A step of the router. -/
inductive RouterMove (s : Session ε) : Option Occurrence → Session ε → Prop
  | received {a rest} (hr : s.router = .idle) (ha : s.worker.responses = a :: rest) :
      RouterMove s (some (.received a))
        { s with worker := { s.worker with responses := rest }, router := .delivering a }
  | ended (hr : s.router = .idle) (ha : s.worker.responses = [])
      (hw : s.worker.isStopped = true) (hc : s.table.closed = true) :
      RouterMove s none { s with router := .ended }
  | workerLost (hr : s.router = .idle) (ha : s.worker.responses = [])
      (hw : s.worker.isStopped = true) (hc : s.table.closed = false) :
      RouterMove s (some (.closed .workerLost))
        { s with table := (s.table.close (.error .workerLost)).2, router := .ending }
  | delivered {a} (hr : s.router = .delivering a) :
      RouterMove s (some (.delivered a)) { s.deliver a with router := .idle }
  | shut (hr : s.router = .ending) :
      RouterMove s none { s with readiness := .closed, router := .ended }

/-- A step of the session. -/
inductive Move (k : EngineKind ε) (s : Session ε) : Option Occurrence → Session ε → Prop
  | call (task : Task) :
      Move k s (some (.began s.callers.length task)) (s.addCaller (.begun task))
  | dispose : Move k s none (s.addCaller (.disposing .closeTable none))
  | caller {i c e c' t} (hc : s.caller? i = some c) (hm : CallerMove s i c e c' t) :
      Move k s e (t.setCaller i c')
  | worker {e w} (hm : WorkerMove k s.worker e w) : Move k s e { s with worker := w }
  | loseWorker : Move k s none { s with worker := { s.worker with phase := .stopped } }
  | router {e t} (hm : RouterMove s e t) : Move k s e t

/-! ### Every step is a move -/

theorem handOver_eq_some {s t : Session ε} {r : Request} (h : s.handOver r = some t) :
    s.hasWorker = true ∧ ∃ w, s.worker.send r = .ok w ∧ t = { s with worker := w } := by
  unfold handOver at h
  cases hw : s.hasWorker with
  | false => simp [hw] at h
  | true =>
      cases hs : s.worker.send r with
      | error flaw => simp [hw, hs] at h
      | ok w =>
          simp only [hw, hs, if_true, Option.some.injEq] at h
          exact ⟨rfl, w, rfl, h.symm⟩

/-- A call that goes on makes a move. -/
theorem callerMove_of_proceed {s s' : Session ε} {i : Nat} {c : Caller}
    (h : s.proceed i c = some s') :
    ∃ c' t, CallerMove s i c (s.proceeding? i c) c' t ∧ s' = t.setCaller i c' := by
  cases c with
  | begun task =>
      simp only [proceed, isDisposed] at h
      cases hc : s.table.closed with
      | true =>
          simp only [hc, if_true, Option.some.injEq] at h
          exact ⟨_, _, .refused hc, h.symm⟩
      | false =>
          cases ht : task.check s.config.source with
          | error e =>
              simp only [hc, ht, Bool.false_eq_true, if_false, Option.some.injEq] at h
              exact ⟨_, _, .rejected hc ht, h.symm⟩
          | ok p =>
              simp only [hc, ht, Bool.false_eq_true, if_false, Option.some.injEq] at h
              exact ⟨_, _, .admitted hc ht, h.symm⟩
  | admitted p =>
      simp only [proceed] at h
      cases hr : s.readiness with
      | starting => simp [hr] at h
      | ready =>
          simp only [hr, Option.some.injEq] at h
          exact ⟨_, _, .cleared hr, h.symm⟩
      | failed message =>
          simp only [hr, Option.some.injEq] at h
          exact ⟨_, _, .engineFailed hr, h.symm⟩
      | closed =>
          simp only [hr, Option.some.injEq] at h
          exact ⟨_, _, .shut hr, h.symm⟩
  | cleared p =>
      simp only [proceed, Option.some.injEq] at h
      exact ⟨_, _, .numbered, h.symm⟩
  | numbered p id =>
      simp only [proceed] at h
      cases hr : s.table.register? id with
      | none =>
          simp only [hr, Option.some.injEq] at h
          refine ⟨_, _, ?_, h.symm⟩
          simpa [proceeding?, hr] using CallerMove.unregistered hr
      | some opened =>
          obtain ⟨slot, table⟩ := opened
          simp only [hr, Option.some.injEq] at h
          refine ⟨_, _, ?_, h.symm⟩
          simpa [proceeding?, hr] using CallerMove.registered hr
  | registered p id slot =>
      simp only [proceed] at h
      cases hs : s.handOver (p.request id) with
      | none =>
          simp only [hs, Option.some.injEq] at h
          refine ⟨_, _, ?_, h.symm⟩
          simpa [proceeding?, hs] using CallerMove.unsent hs
      | some t =>
          obtain ⟨hw, w, hq, rfl⟩ := handOver_eq_some hs
          simp only [hs, Option.some.injEq] at h
          refine ⟨_, _, ?_, h.symm⟩
          simpa [proceeding?, hs] using CallerMove.sent hw hq
  | unsent id =>
      simp only [proceed, Option.some.injEq] at h
      exact ⟨_, _, .withdrawn, h.symm⟩
  | sent id slot =>
      simp only [proceed, Option.some.injEq] at h
      exact ⟨_, _, .counted, h.symm⟩
  | waiting id slot =>
      simp only [proceed] at h
      rcases ht : s.table.take slot with ⟨m, table⟩
      cases m with
      | waiting => simp [ht] at h
      | holding o =>
          simp only [ht, Option.some.injEq] at h
          exact ⟨_, _, .settled ht, h.symm⟩
      | abandoned =>
          simp only [ht, Option.some.injEq] at h
          exact ⟨_, _, .dropped ht, h.symm⟩
  | expired id =>
      simp only [proceed, Option.some.injEq] at h
      exact ⟨_, _, .forgotten, h.symm⟩
  | disposing what outcome =>
      cases what with
      | closeTable =>
          simp only [proceed, disposeStep, Option.some.injEq] at h
          exact ⟨_, _, .closeTable, h.symm⟩
      | closeReadiness =>
          simp only [proceed, disposeStep, Option.some.injEq] at h
          exact ⟨_, _, .closeReadiness, h.symm⟩
      | stopWorker =>
          cases hw : s.hasWorker with
          | true =>
              simp only [proceed, disposeStep, hw, if_true, Option.some.injEq] at h
              exact ⟨_, _, .stopWorker hw, h.symm⟩
          | false =>
              simp only [proceed, disposeStep, hw, Bool.false_eq_true, if_false,
                Option.some.injEq] at h
              exact ⟨_, _, .noWorker hw, h.symm⟩
  | done o => simp [proceed] at h
  | _ => simp [proceed] at h

theorem callerMove_of_expire {s s' : Session ε} {i : Nat} {c : Caller}
    (h : s.expire i c = some s') :
    ∃ c' t, CallerMove s i c (some (.expired i)) c' t ∧ s' = t.setCaller i c' := by
  cases c with
  | waiting id slot =>
      simp only [expire] at h
      rcases ht : s.table.take slot with ⟨m, table⟩
      cases hb : s.config.timeout with
      | none => simp [hb] at h
      | some after =>
          cases m with
          | waiting =>
              simp only [hb, ht, Option.some.injEq] at h
              exact ⟨_, _, .expired hb ht, h.symm⟩
          | holding o => simp [hb, ht] at h
          | abandoned => simp [hb, ht] at h
  | _ => simp [expire] at h

theorem callerMove_of_abandon {s s' : Session ε} {i : Nat} {c : Caller}
    (h : s.abandon i c = some s') :
    ∃ c' t, CallerMove s i c none c' t ∧ s' = t.setCaller i c' := by
  cases c with
  | admitted p =>
      simp only [abandon, Option.some.injEq] at h
      exact ⟨_, _, .givenUp, h.symm⟩
  | waiting id slot =>
      simp only [abandon, Option.some.injEq] at h
      exact ⟨_, _, .abandoned, h.symm⟩
  | _ => simp [abandon] at h

theorem workerMove_of_turn {k : EngineKind ε} {w w' : Worker ε} (h : w.turn k = some w') :
    WorkerMove k w (working? k w) w' := by
  unfold Worker.turn at h
  unfold working?
  cases hp : w.phase with
  | idle =>
      simp only [hp] at h ⊢
      cases hr : w.requests with
      | nil =>
          cases ho : w.isOpen with
          | true => simp [hr, ho] at h
          | false =>
              simp only [hr, ho, Bool.false_eq_true, if_false, Option.some.injEq] at h
              exact h ▸ by simpa [hr, ho] using WorkerMove.exhausted hp hr ho
      | cons r rest =>
          simp only [hr, Option.some.injEq] at h
          exact h ▸ .taken hp hr
  | took r =>
      simp only [hp, Option.some.injEq] at h ⊢
      cases ht : w.terminated with
      | true => exact h ▸ by simpa [ht] using WorkerMove.refused hp ht
      | false => exact h ▸ by simpa [ht] using WorkerMove.begun hp ht
  | handling r =>
      simp only [hp] at h ⊢
      cases ht : w.terminated with
      | true =>
          simp only [ht, if_true, Option.some.injEq] at h ⊢
          exact h ▸ by simpa [ht] using WorkerMove.interrupted hp ht
      | false =>
          cases ha : Worker.answer k (w.engineOf k) r with
          | none => simp [ht, Worker.handle, ha] at h
          | some a =>
              simp only [ht, Worker.handle, ha, Bool.false_eq_true, if_false,
                Option.some.injEq] at h ⊢
              exact h ▸ by simpa [ht] using WorkerMove.answered hp ht ha
  | answered a =>
      simp only [hp, Option.some.injEq] at h ⊢
      cases ht : w.terminated with
      | true => exact h ▸ by simpa [ht] using WorkerMove.withheld hp ht
      | false => exact h ▸ by simpa [ht] using WorkerMove.kept hp ht
  | sending a =>
      simp only [hp] at h ⊢
      cases hh : w.isHeard with
      | true =>
          simp only [hh, if_true, Option.some.injEq] at h ⊢
          exact h ▸ by simpa [hh] using WorkerMove.reported hp hh
      | false =>
          simp only [hh, Bool.false_eq_true, if_false, Option.some.injEq] at h ⊢
          exact h ▸ by simpa [hh] using WorkerMove.unheard hp hh
  | stopped => simp [hp] at h

theorem routerMove_of_route {s s' : Session ε} (h : s.route = some s') :
    RouterMove s s.routing? s' := by
  unfold route at h
  unfold routing?
  cases hr : s.router with
  | idle =>
      cases ha : s.worker.responses with
      | cons a rest =>
          simp only [hr, Worker.receive?, ha, Option.some.injEq] at h ⊢
          exact h ▸ .received hr ha
      | nil =>
          cases hw : s.worker.isStopped with
          | false => simp [hr, Worker.receive?, ha, hw] at h
          | true =>
              cases hc : s.table.closed with
              | true =>
                  simp only [hr, Worker.receive?, ha, hw, isDisposed, hc, if_true,
                    Option.some.injEq] at h ⊢
                  exact h ▸ .ended hr ha hw hc
              | false =>
                  simp only [hr, Worker.receive?, ha, hw, isDisposed, hc, if_true,
                    Bool.false_eq_true, if_false, Option.some.injEq] at h ⊢
                  exact h ▸ .workerLost hr ha hw hc
  | delivering a =>
      simp only [hr, Option.some.injEq] at h ⊢
      exact h ▸ .delivered hr
  | ending =>
      simp only [hr, Option.some.injEq] at h ⊢
      exact h ▸ .shut hr
  | ended => simp [hr] at h

/-- **Every step is a move**, and what happens in it is what its action says. -/
theorem move_of_step {k : EngineKind ε} {s s' : Session ε} {a : Action}
    (h : s.step k a = some s') : Move k s (s.occurrence? k a) s' := by
  cases a with
  | call task =>
      simp only [step, Option.some.injEq] at h
      exact h ▸ .call task
  | dispose =>
      simp only [step, Option.some.injEq] at h
      exact h ▸ .dispose
  | proceed i =>
      obtain ⟨c, hc, h⟩ := Option.bind_eq_some_iff.mp h
      obtain ⟨c', t, hm, rfl⟩ := callerMove_of_proceed h
      simp only [occurrence?, hc, Option.bind_some]
      exact .caller hc hm
  | expire i =>
      obtain ⟨c, hc, h⟩ := Option.bind_eq_some_iff.mp h
      obtain ⟨c', t, hm, rfl⟩ := callerMove_of_expire h
      exact .caller hc hm
  | abandon i =>
      obtain ⟨c, hc, h⟩ := Option.bind_eq_some_iff.mp h
      obtain ⟨c', t, hm, rfl⟩ := callerMove_of_abandon h
      exact .caller hc hm
  | work =>
      obtain ⟨w, hw, rfl⟩ := Option.map_eq_some_iff.mp h
      exact .worker (workerMove_of_turn hw)
  | loseWorker =>
      simp only [step, Option.some.injEq] at h
      exact h ▸ .loseWorker
  | route => exact .router (routerMove_of_route h)

/-! ### Runs -/

/-- What holds of a state and of what has happened so far, and is kept by every move, holds
of the state that a run leads to and of the whole history. -/
theorem run_induction_from {k : EngineKind ε} {motive : Session ε → List Occurrence → Prop}
    (move : ∀ s h e s', motive s h → Move k s e s' → motive s' (h ++ e.toList)) :
    ∀ (acts : List Action) (s s' : Session ε) (h : List Occurrence), motive s h →
      runActions k s acts = some s' → motive s' (h ++ history k s acts)
  | [], s, s', h, hs, hr => by
      simp only [runActions, Option.some.injEq] at hr
      simpa [history, hr] using hs
  | a :: rest, s, s', h, hs, hr => by
      obtain ⟨t, ht, hr⟩ := Option.bind_eq_some_iff.mp hr
      have := run_induction_from move rest t s' _ (move s h _ t hs (move_of_step ht)) hr
      simpa [history, ht, List.append_assoc] using this

/-- What holds of a new session and is kept by every move holds after every run. -/
theorem run_induction {k : EngineKind ε} {config : Config}
    {motive : Session ε → List Occurrence → Prop} (start : motive (spawn config) [])
    (move : ∀ s h e s', motive s h → Move k s e s' → motive s' (h ++ e.toList))
    {acts : List Action} {s : Session ε} (hr : runActions k (spawn config) acts = some s) :
    motive s (history k (spawn config) acts) := by
  simpa using run_induction_from move acts _ _ [] start hr

/-! ### Runs in two parts -/

section

variable {k : EngineKind ε}

theorem runActions_append (s : Session ε) (acts more : List Action) :
    runActions k s (acts ++ more) = (runActions k s acts).bind (runActions k · more) := by
  induction acts generalizing s with
  | nil => rfl
  | cons a rest ih => simp only [List.cons_append, runActions, ih, Option.bind_assoc]

theorem history_append {s t : Session ε} {acts : List Action} (hr : runActions k s acts = some t)
    (more : List Action) :
    history k s (acts ++ more) = history k s acts ++ history k t more := by
  induction acts generalizing s with
  | nil =>
      obtain rfl := Option.some.inj hr
      rfl
  | cons a rest ih =>
      obtain ⟨u, hu, hr⟩ := Option.bind_eq_some_iff.mp hr
      simp only [List.cons_append, history, hu, ih hr, List.append_assoc]

end

/-! ### An engine to run with -/

/-- Engines that answer every program at once, with its text or its entry as the only line. -/
def echo : EngineKind Unit where
  make := .ok ()
  run _ p :=
    match p with
    | .script code => some (.ok ⟨[], [code], .null⟩)
    | .module entry _ => some (.ok ⟨[], [entry], .null⟩)

/-- The worker answers a request, and the router hands the answer on. -/
def turnaround : List Action := List.replicate 5 .work ++ [.route, .route]

end PatchSandbox.Session
