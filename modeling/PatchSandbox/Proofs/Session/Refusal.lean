import PatchSandbox.Proofs.Session.Decision
import PatchSandbox.Proofs.Session.Fate

/-!
# Refusals

A call is refused for what it asks for, before anything is sent. Everything else that a call can
come to, from an engine that is missing to a worker that is lost, must not look like that.

* **`Justified`** says that whoever was refused asked for what may not run. It holds in every run:
  **`justified_of_run`**.
* **`ComesTo`** is what a call may come to that has a session for itself, as the schedule has it or
  in any other order of the steps. **`outcome_of_comesTo`** says when that is a refusal, and which.
-/

namespace PatchSandbox

/-- Whether a call failed because what it asked for may not run. -/
def SessionError.isRefusal : SessionError → Bool
  | .rejected _ => true
  | .modulesRejected _ => true
  | .moduleNotFound _ => true
  | _ => false

/-- What keeps a task from running is a refusal. -/
theorem Task.isRefusal_of_check {limits : SourceLimits} {task : Task} {e : SessionError}
    (h : task.check limits = .error e) : e.isRefusal = true := by
  cases task with
  | script code =>
      simp only [check, checkScript] at h
      split at h
      · cases h
      · cases h
        rfl
  | modules entry pairs =>
      cases check_modules_iff.mp h with
      | noModules _ => rfl
      | rejected _ _ => rfl
      | noEntry _ _ => rfl

namespace Session

variable {ε : Type} {k : EngineKind ε} {config : Config}

section

variable {s t : Session ε} {h : List Occurrence} {i : Nat} {c : Caller} {e : Option Occurrence}
  {x : SessionError} {id : RequestId}

/-! ### Whoever is refused -/

/-- Whoever was refused asked for what may not run. -/
def Justified (s : Session ε) (h : List Occurrence) : Prop :=
  ∀ i x, s.caller? i = some (.done (.error x)) → x.isRefusal = true →
    ∃ task, .began i task ∈ h ∧ task.check s.config.source = .error x

/-- A verdict is no refusal: it is what a program came to, or why the session has ended. -/
theorem Closure.not_refusal_of_verdict (hs : Closure s h) (hv : Verdict h id (.error x)) :
    x.isRefusal = false := by
  generalize ho : Except.error x = o at hv
  cases hv with
  | settled settled =>
      obtain ⟨a, -, ha⟩ := settled
      subst ho
      cases a <;> cases ha
      rfl
  | closed _ hc =>
      cases ho
      rcases hs.reasons x (mem_of_closing? hc) with rfl | rfl <;> rfl

/-- **A step that ends a call with a refusal** is the one in which its task was looked at. -/
theorem CallerMove.justified (hm : CallerMove s i c e (.done (.error x)) t) (hs : Regular k s h)
    (hf : Fates s h) (hc : s.caller? i = some c) (hx : x.isRefusal = true) :
    ∃ task, .began i task ∈ h ∧ task.check s.config.source = .error x := by
  have story := hs.calls.stories i c hc
  -- a call whose time was over is told so
  have late {o : Option Outcome} {what : Disposal}
      (story : Story s.config.source h i (.disposing what o) (deeds i h))
      (ho : Caller.ofOutcome o = .done (.error x)) : x.isRefusal = false := by
    generalize deeds i h = es at story
    cases story with
    | timedOut hp =>
        cases ho
        rfl
    | disposing => cases ho
  generalize hend : Caller.done (.error x) = c' at hm
  cases hm with
  | @rejected task x' live he =>
      cases hend
      exact ⟨task, hs.calls.began_of_begun hc, he⟩
  | @settled id slot o table ht =>
      cases hend
      obtain ⟨hbox, -⟩ := PendingTable.take_holding ht
      have registered := hs.registered_of_mailbox? hc (rfl : _ = some (id, slot))
      have verdict := hf.holding i id slot _ registered hbox
      rw [hs.closure.not_refusal_of_verdict verdict] at hx
      cases hx
  | stopWorker _ =>
      rw [late story hend.symm] at hx
      cases hx
  | noWorker _ =>
      rw [late story hend.symm] at hx
      cases hx
  | _ =>
      cases hend
      try cases hx

/-- **One move** keeps it so. -/
theorem Justified.move (hj : Justified s h) (hs : Regular k s h) (hf : Fates s h)
    (hm : Move k s e t) : Justified t (h ++ e.toList) := by
  intro i x hi hx
  rw [hm.config_eq]
  have later : ∀ {h' : List Occurrence} {task},
      .began i task ∈ h ∧ task.check s.config.source = .error x →
        .began i task ∈ h ++ h' ∧ task.check s.config.source = .error x :=
    fun {_ _} both => ⟨List.mem_append_left _ both.1, both.2⟩
  have before (old : s.caller? i = some (.done (.error x))) {h' : List Occurrence} :
      ∃ task, .began i task ∈ h ++ h' ∧ task.check s.config.source = .error x :=
    (hj i x old hx).imp fun _ => later
  cases hm with
  | call task =>
      rcases caller?_addCaller_cases hi with old | ⟨-, new⟩
      · exact before old
      · cases new
  | dispose =>
      rcases caller?_addCaller_cases hi with old | ⟨-, new⟩
      · exact before old
      · cases new
  | caller hc hm =>
      rcases caller?_setCaller_cases hi with ⟨rfl, rfl⟩ | ⟨-, old⟩
      · exact (hm.justified hs hf hc hx).imp fun _ => later
      · exact before ((caller?_eq_of_callers_eq hm.callers_eq i).symm.trans old)
  | worker hm => exact before hi
  | loseWorker => exact before hi
  | router hm => exact before ((caller?_eq_of_callers_eq hm.callers_eq i).symm.trans hi)

end

/-- **Whoever was refused asked for what may not run**, in every run. -/
theorem justified_of_run {acts : List Action} {s : Session ε}
    (hr : runActions k (spawn config) acts = some s) :
    Justified s (history k (spawn config) acts) := by
  have start : Justified (spawn config : Session ε) [] := by simp [Justified, spawn, caller?]
  have all := run_induction
    (motive := fun s h => (Regular k s h ∧ Fates s h) ∧ Justified s h)
    ⟨⟨regular_spawn, fates_spawn⟩, start⟩
    (fun _ _ _ _ hs hm =>
      ⟨⟨hs.1.1.move hm, hs.1.2.move hs.1.1 hm⟩, hs.2.move hs.1.1 hs.1.2 hm⟩) hr
  exact all.2

/-! ### A call that has the session for itself -/

/-- Only the worker and the router are at work. -/
def Action.isBackground : Action → Bool
  | .work => true
  | .route => true
  | _ => false

/-- What the only call of a session may come to. -/
inductive ComesTo (k : EngineKind ε) (config : Config) (task : Task) : Outcome → Prop
  /-- As the schedule has it. -/
  | scheduled : ComesTo k config task ((spawn config).evaluate k task).1
  /-- In any other order: the worker is there when the call takes its first step. From then on its
  time may be over at any moment, the worker may be lost, and the session be disposed of. -/
  | course {before after : List Action} {s : Session ε} {o : Outcome}
      (quiet : ∀ a ∈ before, a.isBackground = true)
      (hr : runActions k (spawn config) (.call task :: (before ++ .proceed 0 :: after)) = some s)
      (done : s.caller? 0 = some (.done o)) : ComesTo k config task o

section

variable {s t : Session ε} {task : Task} {before after : List Action}

/-- The only call of a session waits for its turn, and nothing keeps it from that. -/
structure Fresh (config : Config) (task : Task) (s : Session ε) : Prop where
  config_eq : s.config = config
  begun : s.caller? 0 = some (.begun task)
  live : s.table.closed = false
  running : s.worker.isStopped = false
  unterminated : s.worker.terminated = false
  isOpen : s.worker.isOpen = true
  isHeard : s.worker.isHeard = true

theorem fresh_called (config : Config) (task : Task) :
    Fresh config task ((spawn config : Session ε).addCaller (.begun task)) := by
  constructor <;> rfl

theorem Fresh.workerMove {e : Option Occurrence} {w : Worker ε} (hf : Fresh config task s)
    (hm : WorkerMove k s.worker e w) : Fresh config task { s with worker := w } := by
  obtain ⟨config_eq, begun, live, running, unterminated, isOpen, isHeard⟩ := hf
  -- a worker only stops when it is terminated, hung up on or not heard
  have flags : w.terminated = false ∧ w.isOpen = true ∧ w.isHeard = true := by
    cases hm <;> exact ⟨unterminated, isOpen, isHeard⟩
  refine ⟨config_eq, begun, live, ?_, flags.1, flags.2.1, flags.2.2⟩
  cases hm <;> simp_all [Worker.isStopped]

theorem Fresh.routerMove {e : Option Occurrence} (hf : Fresh config task s)
    (hm : RouterMove s e t) : Fresh config task t := by
  obtain ⟨config_eq, begun, live, running, unterminated, isOpen, isHeard⟩ := hf
  cases hm with
  | received hr ha => exact ⟨config_eq, begun, live, running, unterminated, isOpen, isHeard⟩
  | ended hr ha hw hc => simp [hw] at running
  | workerLost hr ha hw hc => simp [hw] at running
  | @delivered a hr =>
      have callers : (s.deliver a).caller? 0 = some (.begun task) :=
        (caller?_eq_of_callers_eq (callers_deliver s a) 0).trans begun
      have table := (closed_deliver s a).trans live
      cases a <;> exact ⟨config_eq, callers, table, running, unterminated, isOpen, isHeard⟩
  | shut hr => exact ⟨config_eq, begun, live, running, unterminated, isOpen, isHeard⟩

/-- As long as only the worker and the router are at work, that stays so. -/
theorem Fresh.run (hf : Fresh config task s) (quiet : ∀ a ∈ before, a.isBackground = true)
    (hr : runActions k s before = some t) : Fresh config task t := by
  induction before generalizing s with
  | nil =>
      cases hr
      exact hf
  | cons a rest ih =>
      obtain ⟨u, hu, hr⟩ := Option.bind_eq_some_iff.mp hr
      refine ih ?_ (fun b hb => quiet b (List.mem_cons_of_mem _ hb)) hr
      have background := quiet a (List.mem_cons_self ..)
      cases a with
      | work =>
          obtain ⟨w, hw, rfl⟩ := Option.map_eq_some_iff.mp hu
          exact hf.workerMove (workerMove_of_turn hw)
      | route => exact hf.routerMove (routerMove_of_route hu)
      | _ => cases background

/-- **With its first step the call is decided**, and a refusal is what it comes to. -/
theorem refused_of_course {x : SessionError} (refused : task.check config.source = .error x)
    (quiet : ∀ a ∈ before, a.isBackground = true)
    (hr : runActions k (spawn config) (.call task :: (before ++ .proceed 0 :: after)) = some s) :
    s.caller? 0 = some (.done (.error x)) := by
  rw [runActions, step, Option.bind_some, runActions_append] at hr
  obtain ⟨u, hu, hr⟩ := Option.bind_eq_some_iff.mp hr
  have fresh := (fresh_called config task).run quiet hu
  rw [runActions, step_begun fresh.begun fresh.live, Option.bind_some, fresh.config_eq,
    refused] at hr
  exact runs_keep (P := fun u => u.caller? 0 = some (.done (.error x)))
    (fun _ _ _ hd hm => hm.done_stays hd) (caller?_setCaller_self fresh.begun) hr

/-- A call that asks for what may run is not refused. -/
theorem not_refused_of_course {p : Submission} {x : SessionError}
    (admitted : task.check config.source = .ok p)
    (hr : runActions k (spawn config) (.call task :: after) = some s)
    (done : s.caller? 0 = some (.done (.error x))) : x.isRefusal = false := by
  by_contra hx
  obtain ⟨task', began, refused⟩ := justified_of_run hr 0 x done (by simpa using hx)
  obtain ⟨calls, same⟩ := calls_of_run hr
  have first : .began 0 task ∈ history k (spawn config) (.call task :: after) :=
    List.mem_append_left _ (List.mem_singleton_self _)
  rw [calls.began_unique began first, same, admitted] at refused
  cases refused

/-! ### The schedule -/

theorem exists_step_of_proceedFirst {i : Nat} {cs : List Caller}
    (h : s.proceedFirst k i cs = some t) : ∃ a, s.step k a = some t := by
  induction cs generalizing i with
  | nil => cases h
  | cons c cs ih =>
      rw [proceedFirst] at h
      split at h
      case h_1 u hu =>
          cases h
          exact ⟨_, hu⟩
      case h_2 => exact ih h

theorem exists_step_of_expireFirst {i : Nat} {cs : List Caller}
    (h : s.expireFirst k i cs = some t) : ∃ a, s.step k a = some t := by
  induction cs generalizing i with
  | nil => cases h
  | cons c cs ih =>
      rw [expireFirst] at h
      split at h
      case h_1 u hu =>
          cases h
          exact ⟨_, hu⟩
      case h_2 => exact ih h

theorem exists_step_of_stepHost (h : s.stepHost k = some t) : ∃ a, s.step k a = some t := by
  rw [stepHost] at h
  split at h
  case h_1 u hu =>
      cases h
      exact ⟨_, hu⟩
  case h_2 => exact exists_step_of_proceedFirst h

theorem exists_step_of_stepAny (h : s.stepAny k = some t) : ∃ a, s.step k a = some t := by
  rw [stepAny] at h
  split at h
  case h_1 u hu =>
      cases h
      exact exists_step_of_stepHost hu
  case h_2 =>
      split at h
      case h_1 u hu =>
          cases h
          exact ⟨_, hu⟩
      case h_2 => exact exists_step_of_expireFirst h

/-- **The schedule is a run.** -/
theorem exists_run_settleFor (goal : Session ε → Bool) (n : Nat) (s : Session ε) :
    ∃ acts, runActions k s acts = some (settleFor k goal n s) := by
  induction n generalizing s with
  | zero => exact ⟨[], rfl⟩
  | succ n ih =>
      rw [settleFor]
      split
      · exact ⟨[], rfl⟩
      · cases hs : s.stepAny k with
        | none => exact ⟨[], rfl⟩
        | some t =>
            obtain ⟨a, ha⟩ := exists_step_of_stepAny hs
            obtain ⟨acts, hacts⟩ := ih t
            exact ⟨a :: acts, by rw [runActions, ha, Option.bind_some, hacts]⟩

/-- The schedule begins with the first step of the call. -/
theorem exists_run_evaluate (k : EngineKind ε) (config : Config) (task : Task) :
    ∃ after s, runActions k (spawn config) (.call task :: .proceed 0 :: after) = some s ∧
      ((spawn config).evaluate k task).1 = s.outcomeOf 0 := by
  let called : Session ε := (spawn config).addCaller (.begun task)
  let decided := called.setCaller 0 (.decided (task.check config.source))
  have begun : called.step k (.proceed 0) = some decided := step_begun rfl rfl
  have first : called.stepAny k = some decided := by
    -- the router would go first, but there is no answer yet
    have route : called.step k .route = none := rfl
    rw [stepAny, stepHost, route]
    dsimp only
    rw [show called.callers = [.begun task] from rfl, proceedFirst, begun]
  have settled : called.settle k (areOver [0]) = settleFor k (areOver [0]) 383 decided := by
    rw [settle, show called.stepBound = 383 + 1 from rfl, settleFor, first]
    rfl
  obtain ⟨after, hr⟩ := exists_run_settleFor (k := k) (areOver [0]) 383 decided
  refine ⟨after, _, ?_, congrArg (outcomeOf · 0) settled⟩
  rw [runActions, step, Option.bind_some, runActions, begun, Option.bind_some, hr]

/-- **What the only call of a session comes to** is a refusal if what it asks for may not run, and
then it is told why. Otherwise nothing that happens looks like a refusal. -/
theorem outcome_of_comesTo {o : Outcome} (h : ComesTo k config task o) :
    (∀ x, task.check config.source = .error x → o = .error x) ∧
      ∀ p x, task.check config.source = .ok p → o = .error x → x.isRefusal = false := by
  cases h with
  | scheduled =>
      obtain ⟨after, s, hr, he⟩ := exists_run_evaluate k config task
      rw [he, outcomeOf]
      constructor
      · intro x refused
        have nothing : ∀ a ∈ ([] : List Action), a.isBackground = true := by simp
        rw [refused_of_course refused nothing hr]
        rfl
      · intro p x admitted ho
        cases hd : (s.caller? 0).bind Caller.outcome? with
        | none =>
            -- the call never comes to an end
            rw [hd] at ho
            cases ho
            rfl
        | some o =>
            rw [hd] at ho
            cases ho
            obtain ⟨c, hc, ho⟩ := Option.bind_eq_some_iff.mp hd
            have ended : c = .done (.error x) := by
              cases c <;> cases ho
              rfl
            exact not_refused_of_course admitted hr (ended ▸ hc)
  | course quiet hr done =>
      constructor
      · intro x refused
        rw [refused_of_course refused quiet hr] at done
        cases done
        rfl
      · rintro p x admitted rfl
        exact not_refused_of_course admitted hr done

end

end Session

end PatchSandbox
