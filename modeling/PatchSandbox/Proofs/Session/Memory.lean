import PatchSandbox.Machine.Engine
import PatchSandbox.Proofs.Session.Loop

/-!
# What a worker remembers

All that a worker keeps from one request to the next is its engine, and that is made from the
configuration alone. So a history of requests leaves nothing behind that a later answer depends
on: not what was asked, nor in which order, nor what became of it.

* **`after`** is the worker that has handled a history.
* **`historyFrom`** is the same with the making of engines as an effect: every attempt to make one
  is counted, and may come out differently from the one before. `historyFrom_eq` says that only
  the first attempt is ever made, so that a history is what `Worker.handle` makes of it.
* **`Forgetful`** is what it means to keep no memory, and **`keeps_no_memory`** says it of the
  workers on the machine.
-/

namespace PatchSandbox.Worker

open PatchSandbox.Machine (engineKind initialState runner)

variable {ε : Type}

/-- The worker that has handled requests one after the other. -/
def after (k : EngineKind ε) : Worker ε → List Request → Worker ε
  | w, [] => w
  | w, r :: rs => after k (w.handle k r).2 rs

/-! ### Attempts to make an engine -/

section Attempts

variable (attempts : Nat → Except String ε)
  (run : ε → Submission → Option (Except Fault EvalOutput))

/-- Tries to make an engine. What comes of it depends on how often this was tried before. -/
def attempt : StateM Nat (Except String ε) := fun n => (attempts n, n + 1)

/-- The engine of a worker, which tries to make one if it has none yet. -/
def engineFrom (w : Worker ε) : StateM Nat (Except String ε) :=
  match w.engine with
  | some engine => pure engine
  | none => attempt attempts

/-- Handles a request, as `Worker.handle` does. -/
def handleFrom (w : Worker ε) (r : Request) : StateM Nat (Option Response × Worker ε) := do
  let engine ← engineFrom attempts w
  return (answer ⟨engine, run⟩ engine r, { w with engine := some engine })

/-- Handles requests one after the other: the answers, and the worker after them. -/
def historyFrom (w : Worker ε) : List Request → StateM Nat (List (Option Response) × Worker ε)
  | [] => return ([], w)
  | r :: rs => do
    let (a, w') ← handleFrom attempts run w r
    let (as, w'') ← historyFrom w' rs
    return (a :: as, w'')

end Attempts

variable {k : EngineKind ε} {w : Worker ε} {attempts : Nat → Except String ε} {n n' : Nat}

theorem engineFrom_of_engine {engine : Except String ε} (he : w.engine = some engine) :
    engineFrom attempts w n = (engine, n) := by
  unfold engineFrom
  rw [he]
  rfl

theorem engineFrom_of_no_engine (he : w.engine = none) :
    engineFrom attempts w n = (attempts n, n + 1) := by
  unfold engineFrom
  rw [he]
  rfl

/-- Whichever way the worker came by its engine, it handles a request on it. -/
theorem handleFrom_eq (he : engineFrom attempts w n = (w.engineOf k, n')) (r : Request) :
    handleFrom attempts k.run w r n = (w.handle k r, n') := by
  unfold handleFrom
  simp only [bind, StateT.bind, he]
  rfl

theorem historyFrom_cons {r : Request} (hr : handleFrom attempts k.run w r n = (w.handle k r, n'))
    (rs : List Request) :
    historyFrom attempts k.run w (r :: rs) n =
      let rest := historyFrom attempts k.run (w.handle k r).2 rs n'
      (((w.handle k r).1 :: rest.1.1, rest.1.2), rest.2) := by
  simp only [historyFrom, bind, StateT.bind, hr]
  rfl

/-- Once there is an engine, no attempt is made any more. -/
theorem historyFrom_of_engine {engine : Except String ε} (he : w.engine = some engine)
    (rs : List Request) :
    historyFrom attempts k.run w rs n = ((answersTo k w rs, after k w rs), n) := by
  induction rs generalizing w engine with
  | nil => rfl
  | cons r rs ih =>
      have on : w.engineOf k = engine := by rw [engineOf, he]; rfl
      have handled : handleFrom attempts k.run w r n = (w.handle k r, n) :=
        handleFrom_eq (on ▸ engineFrom_of_engine he) r
      rw [historyFrom_cons handled, ih (engine_handle k w r)]
      rfl

/-- **An engine is made at most once**: for the first request, whichever it is. What any later
attempt would have given makes no difference. -/
theorem historyFrom_eq (hk : attempts 0 = k.make) (rs : List Request) :
    historyFrom attempts k.run {} rs 0 =
      ((answersTo k {} rs, after k {} rs), min 1 rs.length) := by
  cases rs with
  | nil => rfl
  | cons r rs =>
      have made : engineFrom attempts ({} : Worker ε) 0 = (k.make, 1) :=
        hk ▸ engineFrom_of_no_engine rfl
      have once : min 1 (r :: rs).length = 1 := by simp
      rw [historyFrom_cons (handleFrom_eq made r), historyFrom_of_engine (engine_handle k {} r),
        once]
      rfl

/-! ### Histories -/

@[simp] theorem engineOf_after (rs : List Request) : (after k w rs).engineOf k = w.engineOf k := by
  induction rs generalizing w with
  | nil => rfl
  | cons r rs ih => rw [after, ih, engineOf_handle]

/-- What a worker answers depends on its engine only. -/
theorem answer_handle (w : Worker ε) (r : Request) :
    (w.handle k r).1 = answer k (w.engineOf k) r := rfl

/-- The answer where the engine could not be made. -/
theorem answer_failed (message : String) (r : Request) :
    answer k (.error message) r =
      match r.submission? with
      | none => some (.initFailed message)
      | some (id, _) => some (.error id ("engine unavailable: " ++ message) []) := by
  unfold answer
  cases r.submission? with
  | none => rfl
  | some x => rfl

/-- What it means that workers keep no memory between requests, whichever requests they have
handled. -/
structure Forgetful (k : EngineKind ε) : Prop where
  /-- The next request is answered as a new worker answers it. -/
  next : ∀ rs r, ((after k {} rs).handle k r).1 = (handle k {} r).1
  /-- So is every request of a history. -/
  each : ∀ rs, answersTo k {} rs = rs.map fun r => (handle k {} r).1
  /-- Every request for an engine gets the same answer. -/
  init : ∀ rs, ((after k {} rs).handle k .init).1 = some (.ofEngine k.make)
  /-- Where there is no engine, every request is told so, and why. -/
  failed : ∀ message, k.make = .error message → ∀ rs r, ((after k {} rs).handle k r).1 =
    match r.submission? with
    | none => some (.initFailed message)
    | some (id, _) => some (.error id ("engine unavailable: " ++ message) [])
  /-- If the making of an engine were to come out differently each time, nothing would change: there
  is one attempt for a history with a request in it, and no second one. -/
  once : ∀ attempts, attempts 0 = k.make → ∀ rs, historyFrom attempts k.run {} rs 0 =
    ((answersTo k {} rs, after k {} rs), min 1 rs.length)
  /-- All of this holds in the worker's loop: what was sent is what a new worker answers to the
  requests that were taken, and so it is with whatever comes next. -/
  loop : ∀ acts w h, run k {} acts = some (w, h) →
    (∃ rs, rs <+: taken h ∧ (sent h).map some = rs.map fun r => (handle k {} r).1) ∧
      ∀ r, (w.handle k r).1 = (handle k {} r).1

theorem forgetful (k : EngineKind ε) : Forgetful k where
  next rs r := by
    rw [answer_handle, answer_handle, engineOf_after]
  each rs := answersTo_eq k {} rs
  init rs := by
    rw [answer_handle, engineOf_after]
    rfl
  failed message hk rs r := by
    have none : engineOf k {} = .error message := hk
    rw [answer_handle, engineOf_after, none, answer_failed]
  once _ hk rs := historyFrom_eq hk rs
  loop acts w h hr := by
    obtain ⟨rs, last, hs⟩ := account_of_run hr
    refine ⟨⟨rs, hs.taken ▸ List.prefix_append _ _, hs.replies⟩, fun r => ?_⟩
    rw [answer_handle, hs.engine]
    rfl

/-! ### On the machine -/

/-- What becomes of a program that is carried out in the state every run starts from; nothing if
it was interrupted. -/
def runAnew (limits : EngineLimits) (steps : Nat) (p : Submission) (modules : ModuleMap) :
    Option (Except Fault EvalOutput) :=
  let (outcome, s) := evaluate (runner p) limits.pendingJobs (initialState limits steps modules)
  if s.wasInterrupted then none else some outcome

theorem make_engineKind {limits : EngineLimits} (hl : limits.flaw? = none) (steps : Nat) :
    (engineKind limits steps).make = .ok ⟨limits, steps⟩ := by
  simp [engineKind, Machine.Engine.make?, hl]

theorem run_engineKind (limits : EngineLimits) (steps : Nat) (p : Submission) :
    (engineKind limits steps).run ⟨limits, steps⟩ p =
      runAnew limits steps p (match p with | .script _ => ⟨[]⟩ | .module _ modules => modules) := by
  unfold engineKind runAnew Machine.Engine.evaluate
  dsimp only
  generalize evaluate (runner p) limits.pendingJobs _ = x
  obtain ⟨outcome, s⟩ := x
  dsimp only
  cases s.wasInterrupted <;> rfl

/-- **A worker keeps no memory between requests.** Whatever limits it has and whatever it has
handled, it answers as a new worker does; and if the limits are good, an evaluation is the run of
its program in a new state. -/
theorem keeps_no_memory (limits : EngineLimits) (steps : Nat) :
    let k := engineKind limits steps
    Forgetful k ∧ (limits.flaw? = none → ∀ rs id,
      (∀ code, ((after k {} rs).handle k (.eval id code)).1 =
        (runAnew limits steps (.script code) ⟨[]⟩).map (.ofOutcome id)) ∧
      ∀ entry modules, ((after k {} rs).handle k (.evalModule id entry modules)).1 =
        (runAnew limits steps (.module entry modules) modules).map (.ofOutcome id)) := by
  intro k
  refine ⟨forgetful k, fun hl rs id => ?_⟩
  have made : (after k {} rs).engineOf k = .ok ⟨limits, steps⟩ := by
    rw [engineOf_after]
    exact make_engineKind hl steps
  have evaluated (r : Request) (p : Submission) (hr : r.submission? = some (id, p)) :
      ((after k {} rs).handle k r).1 = (k.run ⟨limits, steps⟩ p).map (.ofOutcome id) := by
    rw [answer_handle, made]
    simp only [answer, hr]
  constructor
  · intro code
    rw [evaluated _ _ rfl, run_engineKind]
  · intro entry modules
    rw [evaluated _ _ rfl, run_engineKind]

/-- Without memory for a heap every request is refused in the same words, whatever came before; on
the limits by default a second program runs in a state of its own. -/
theorem refused_alike_or_run_anew :
    let small := engineKind { memoryBytes := 0 } 8
    let usual := engineKind {} 8
    let words := "engine.memory_limit_bytes must be >= 1048576"
    answersTo small {} [.eval 3 "1", .init, .evalModule 4 "main" ⟨[]⟩, .init] =
        [some (.error 3 ("engine unavailable: " ++ words) []), some (.initFailed words),
          some (.error 4 ("engine unavailable: " ++ words) []), some (.initFailed words)] ∧
      ({} : EngineLimits).flaw? = none ∧
      ((after usual {} [.eval 1 "globalThis.x = 1", .init]).handle usual (.eval 2 "x")).1 =
        (runAnew {} 8 (.script "x") ⟨[]⟩).map (.ofOutcome 2) := by
  intro small usual words
  have good : ({} : EngineLimits).flaw? = none := by decide
  refine ⟨?_, good, ((keeps_no_memory {} 8).2 good _ 2).1 "x"⟩
  rw [(keeps_no_memory { memoryBytes := 0 } 8).1.each]
  rfl

end PatchSandbox.Worker
