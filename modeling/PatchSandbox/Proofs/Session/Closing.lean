import PatchSandbox.Proofs.Session.Calls

/-!
# How a session is closed

Three things are taken down one after the other: the table, the readiness, the handle of the
worker. Steps of other parties may come between any two of them.

* **`closing?`** is why the table was closed, and **`untilClosing`** what happened before.
* **`Closure`** says which signs of a closed session imply which: whoever finds the handle
  gone or the channel shut finds the table closed. Every move keeps it.
* A table that is closed and a worker that has stopped stay so (**`Move.closed`**,
  **`Move.stopped`**).
-/

namespace PatchSandbox.Session

/-- Why the table is closed, where that happens. -/
def Occurrence.closed? : Occurrence → Option SessionError
  | .closed reason => some reason
  | _ => none

/-- Why the table was closed when it was closed first. -/
def closing? (h : List Occurrence) : Option SessionError := h.findSome? Occurrence.closed?

/-- What happened before the table was closed. -/
def untilClosing (h : List Occurrence) : List Occurrence :=
  h.takeWhile fun e => e.closed?.isNone

@[simp] theorem closing?_nil : closing? [] = none := rfl

@[simp] theorem closing?_cons (e : Occurrence) (h : List Occurrence) :
    closing? (e :: h) = e.closed?.or (closing? h) := by
  unfold closing?
  rw [List.findSome?_cons]
  cases e.closed? <;> rfl

@[simp] theorem closing?_append (h h' : List Occurrence) :
    closing? (h ++ h') = (closing? h).or (closing? h') :=
  List.findSome?_append

theorem mem_of_closing? {h : List Occurrence} {reason : SessionError}
    (hc : closing? h = some reason) : .closed reason ∈ h := by
  obtain ⟨e, he, hreason⟩ := List.exists_of_findSome?_eq_some hc
  cases e <;> simp [Occurrence.closed?] at hreason
  exact hreason ▸ he

/-- As long as the table is open, all has happened before it was closed. -/
theorem untilClosing_append_of_open {h : List Occurrence} (ho : closing? h = none)
    (h' : List Occurrence) : untilClosing (h ++ h') = h ++ untilClosing h' := by
  refine List.takeWhile_append_of_pos fun e he => ?_
  have := List.findSome?_eq_none_iff.mp ho e he
  simp [this]

theorem untilClosing_of_open {h : List Occurrence} (ho : closing? h = none) :
    untilClosing h = h := by
  simpa [untilClosing] using untilClosing_append_of_open ho []

/-- Later nothing is added to it. -/
theorem untilClosing_append_of_closed {h : List Occurrence} (hc : closing? h ≠ none)
    (h' : List Occurrence) : untilClosing (h ++ h') = untilClosing h := by
  induction h with
  | nil => simp at hc
  | cons e h ih =>
      rw [untilClosing, untilClosing, List.cons_append, List.takeWhile_cons, List.takeWhile_cons]
      cases he : e.closed? with
      | some reason => rfl
      | none =>
          have hc : closing? h ≠ none := by simpa [he] using hc
          exact congrArg (e :: ·) (ih hc)

theorem mem_of_mem_untilClosing {h : List Occurrence} {e : Occurrence}
    (he : e ∈ untilClosing h) : e ∈ h :=
  (List.takeWhile_prefix _).subset he

variable {ε : Type} {k : EngineKind ε} {config : Config}

/-! ### The callers of a session -/

section

variable {s t : Session ε} {i j : Nat} {c c' d : Caller}

theorem caller_lt (hc : s.caller? i = some c) : i < s.callers.length :=
  (List.getElem?_eq_some_iff.mp hc).1

theorem caller?_eq_of_callers_eq (h : t.callers = s.callers) (j : Nat) :
    t.caller? j = s.caller? j := by
  rw [caller?, h, caller?]

theorem caller?_setCaller_self (hc : s.caller? i = some c) :
    (s.setCaller i c').caller? i = some c' := by
  rw [caller?, setCaller, List.getElem?_set_self (caller_lt hc)]

theorem caller?_setCaller_of_ne (hj : j ≠ i) : (s.setCaller i c').caller? j = s.caller? j := by
  rw [caller?, setCaller, List.getElem?_set_ne (Ne.symm hj), caller?]

/-- A call after one call has taken a step. -/
theorem caller?_setCaller_cases (h : (s.setCaller i c').caller? j = some d) :
    (j = i ∧ d = c') ∨ (j ≠ i ∧ s.caller? j = some d) := by
  by_cases hj : j = i
  · subst hj
    have hlt : j < s.callers.length := by simpa [setCaller] using caller_lt h
    rw [caller?, setCaller, List.getElem?_set_self hlt] at h
    exact .inl ⟨rfl, (Option.some.inj h).symm⟩
  · rw [caller?_setCaller_of_ne hj] at h
    exact .inr ⟨hj, h⟩

theorem caller?_addCaller_of_lt (hj : j < s.callers.length) :
    (s.addCaller c).caller? j = s.caller? j := by
  rw [caller?, addCaller, List.getElem?_append_left hj, caller?]

@[simp] theorem caller?_addCaller_self : (s.addCaller c).caller? s.callers.length = some c := by
  simp [caller?, addCaller]

/-- A call after one call has begun. -/
theorem caller?_addCaller_cases (h : (s.addCaller c).caller? j = some d) :
    s.caller? j = some d ∨ (j = s.callers.length ∧ d = c) := by
  have hlt : j < s.callers.length + 1 := by simpa [addCaller] using caller_lt h
  rcases Nat.lt_succ_iff_lt_or_eq.mp hlt with hj | rfl
  · rw [caller?_addCaller_of_lt hj] at h
    exact .inl h
  · rw [caller?_addCaller_self] at h
    exact .inr ⟨rfl, (Option.some.inj h).symm⟩

theorem RouterMove.callers_eq {e : Option Occurrence} (hm : RouterMove s e t) :
    t.callers = s.callers := by
  cases hm with
  | @delivered a hr => exact callers_deliver s a
  | _ => rfl

/-- What a step does to a call: nothing, or it is a step of that call. -/
theorem Move.caller_cases {e : Option Occurrence} (hm : Move k s e t)
    (hi : s.caller? i = some c) :
    t.caller? i = some c ∨ ∃ c' u, CallerMove s i c e c' u ∧ t.caller? i = some c' := by
  cases hm with
  | call task => exact .inl ((caller?_addCaller_of_lt (caller_lt hi)).trans hi)
  | dispose => exact .inl ((caller?_addCaller_of_lt (caller_lt hi)).trans hi)
  | @caller j d e d' u hd hm =>
      have hu := (caller?_eq_of_callers_eq hm.callers_eq i).trans hi
      by_cases hij : i = j
      · subst hij
        obtain rfl : d = c := Option.some.inj (hd.symm.trans hi)
        exact .inr ⟨d', u, hm, caller?_setCaller_self hu⟩
      · exact .inl ((caller?_setCaller_of_ne hij).trans hu)
  | worker hm => exact .inl hi
  | loseWorker => exact .inl hi
  | router hm => exact .inl ((caller?_eq_of_callers_eq hm.callers_eq i).trans hi)

end

/-! ### What stays -/

section

variable {s t : Session ε} {i : Nat} {c c' : Caller} {e : Option Occurrence} {w : Worker ε}

theorem closed_of_register? {table table' : PendingTable Outcome} {id : RequestId} {slot : Nat}
    (hr : table.register? id = some (slot, table')) :
    table.closed = false ∧ table'.closed = false := by
  unfold PendingTable.register? at hr
  cases hc : table.closed with
  | true => simp [hc] at hr
  | false =>
      simp only [hc, Bool.false_eq_true, if_false, Option.some.injEq, Prod.mk.injEq] at hr
      obtain ⟨-, rfl⟩ := hr
      exact ⟨rfl, by simpa using hc⟩

theorem closed_of_take {table table' : PendingTable Outcome} {slot : Nat} {o : Outcome}
    (ht : table.take slot = (.holding o, table')) : table'.closed = table.closed := by
  obtain ⟨-, rfl⟩ := PendingTable.take_holding ht
  rfl

theorem closed_deliver (s : Session ε) (a : Response) :
    (s.deliver a).table.closed = s.table.closed := by
  cases a <;> simp [deliver]

/-- The table is closed where that happens, and by nothing else. -/
theorem CallerMove.closed_eq (hm : CallerMove s i c e c' t) :
    t.table.closed = (s.table.closed || (closing? e.toList).isSome) := by
  cases hm with
  | registered hr => simp [closed_of_register? hr, Occurrence.closed?]
  | settled ht => simp [closed_of_take ht]
  | _ => simp [Occurrence.closed?]

theorem Move.closed_eq (hm : Move k s e t) :
    t.table.closed = (s.table.closed || (closing? e.toList).isSome) := by
  cases hm with
  | call task => simp [addCaller, Occurrence.closed?]
  | dispose => simp [addCaller]
  | caller hc hm => exact hm.closed_eq
  | worker hm => cases hm <;> simp [Occurrence.closed?]
  | loseWorker => simp
  | router hm =>
      cases hm with
      | delivered hr => simp [closed_deliver, Occurrence.closed?]
      | _ => simp [Occurrence.closed?]

theorem CallerMove.closed (hm : CallerMove s i c e c' t) (hc : s.table.closed = true) :
    t.table.closed = true := by
  rw [hm.closed_eq, hc, Bool.true_or]

/-- **A table that is closed stays closed.** -/
theorem Move.closed (hm : Move k s e t) (hc : s.table.closed = true) : t.table.closed = true := by
  rw [hm.closed_eq, hc, Bool.true_or]

theorem CallerMove.stopped (hm : CallerMove s i c e c' t) (hs : s.worker.isStopped = true) :
    t.worker.isStopped = true := by
  cases hm with
  | sent hw hq =>
      obtain ⟨-, live, -⟩ := send_eq_ok hq
      simp [hs] at live
  | stopWorker hw => exact hs
  | _ => exact hs

/-- A worker that has stopped has no step to take. -/
theorem WorkerMove.not_stopped {w w' : Worker ε} (hm : WorkerMove k w e w') :
    w.isStopped = false := by
  cases hm <;> simp [Worker.isStopped, *]

/-- **A worker that has stopped stays so.** -/
theorem Move.stopped (hm : Move k s e t) (hs : s.worker.isStopped = true) :
    t.worker.isStopped = true := by
  cases hm with
  | caller hc hm => exact hm.stopped hs
  | worker hm => simp [hm.not_stopped] at hs
  | loseWorker => rfl
  | router hm =>
      cases hm with
      | @delivered a hr => simpa using hs
      | _ => exact hs
  | _ => exact hs

/-- **A handle that is gone stays gone.** -/
theorem Move.hasWorker (hm : Move k s e t) (hw : s.hasWorker = false) : t.hasWorker = false := by
  cases hm with
  | caller hc hm => cases hm <;> simp_all [setCaller]
  | router hm =>
      cases hm with
      | @delivered a hr => cases a <;> exact hw
      | _ => exact hw
  | _ => exact hw

theorem runs_keep {P : Session ε → Prop} (keep : ∀ s e t, P s → Move k s e t → P t)
    {acts : List Action} {s t : Session ε} (hs : P s) (hr : runActions k s acts = some t) : P t :=
  run_induction_from (motive := fun s _ => P s) (fun s _ e t hs hm => keep s e t hs hm) acts s t []
    hs hr

end

/-! ### Signs of a closed session -/

/-- Which signs of a closed session imply which. -/
structure Closure (s : Session ε) (h : List Occurrence) : Prop where
  closed : s.table.closed = (closing? h).isSome
  reasons : ∀ reason, .closed reason ∈ h → reason = .disposed ∨ reason = .workerLost
  /-- Readiness and handle are only taken down after the table. -/
  disposing : ∀ i what o, s.caller? i = some (.disposing what o) →
    what = .closeTable ∨ s.table.closed = true
  handle : s.hasWorker = true ∨ s.table.closed = true
  channel : s.worker.isOpen = s.hasWorker
  /-- Sending only fails when it is too late. -/
  unsent : ∀ i id, s.caller? i = some (.unsent id) →
    s.table.closed = true ∨ s.worker.isStopped = true

section

variable {s t : Session ε} {h : List Occurrence} {i : Nat} {c c' : Caller}
  {e : Option Occurrence}

theorem handOver_eq_none {r : Request} (hs : s.handOver r = none) :
    s.hasWorker = false ∨ s.worker.isOpen = false ∨ s.worker.isStopped = true := by
  unfold handOver at hs
  cases hw : s.hasWorker with
  | false => exact .inl rfl
  | true =>
      cases ho : s.worker.isOpen with
      | false => exact .inr (.inl rfl)
      | true =>
          cases hp : s.worker.phase with
          | stopped => exact .inr (.inr (by simp [Worker.isStopped, hp]))
          | _ => simp [hw, Worker.send, ho, hp] at hs

theorem closure_spawn : Closure (spawn config : Session ε) [] where
  closed := rfl
  reasons := by simp
  disposing := by simp [spawn, caller?]
  handle := .inl rfl
  channel := rfl
  unsent := by simp [spawn, caller?]

/-- The worker's channel is shut by the step that gives up its handle. -/
theorem CallerMove.channel (hm : CallerMove s i c e c' t)
    (hs : s.worker.isOpen = s.hasWorker) : t.worker.isOpen = t.hasWorker := by
  cases hm with
  | sent hw hq =>
      obtain ⟨-, -, rfl⟩ := send_eq_ok hq
      exact hs
  | stopWorker hw => rfl
  | _ => exact hs

/-- The handle is given up by a call that has closed the table. -/
theorem CallerMove.handle_or_closed (hm : CallerMove s i c e c' t) (hs : Closure s h)
    (hc : s.caller? i = some c) : t.hasWorker = true ∨ t.table.closed = true := by
  have still := hm.closed
  cases hm with
  | stopWorker hw =>
      rcases hs.disposing i _ _ hc with hd | hd
      · simp at hd
      · exact .inr hd
  | _ => exact hs.handle.imp_right still

/-- Where a call stands that is disposing of the session, after its step. -/
theorem CallerMove.closed_of_disposing (hm : CallerMove s i c e c' t) (hs : Closure s h)
    (hc : s.caller? i = some c) {what : Disposal} {o : Option Outcome}
    (hd : c' = .disposing what o) : what = .closeTable ∨ t.table.closed = true := by
  cases hm with
  | forgotten => simp_all
  | closeTable => exact .inr rfl
  | closeReadiness =>
      rcases hs.disposing i _ _ hc with hw | hw
      · simp at hw
      · exact .inr hw
  | @stopWorker o' hw => cases o' <;> simp [Caller.ofOutcome] at hd
  | @noWorker o' hw => cases o' <;> simp [Caller.ofOutcome] at hd
  | _ => simp at hd

/-- A call could not send because the session is closed or the worker lost. -/
theorem CallerMove.late_of_unsent (hm : CallerMove s i c e c' t) (hs : Closure s h) {id : RequestId}
    (hu : c' = .unsent id) : t.table.closed = true ∨ t.worker.isStopped = true := by
  cases hm with
  | unsent hn =>
      have late (hw : s.hasWorker = false) : s.table.closed = true := by simpa [hw] using hs.handle
      rcases handOver_eq_none hn with hw | hw | hw
      · exact .inl (late hw)
      · exact .inl (late (hs.channel ▸ hw))
      · exact .inr hw
  | @stopWorker o hw => cases o <;> simp [Caller.ofOutcome] at hu
  | @noWorker o hw => cases o <;> simp [Caller.ofOutcome] at hu
  | _ => simp at hu

theorem Closure.callerMove (hs : Closure s h) (hc : s.caller? i = some c)
    (hm : CallerMove s i c e c' t) : Closure (t.setCaller i c') (h ++ e.toList) where
  closed := by
    rw [show (t.setCaller i c').table = t.table from rfl, hm.closed_eq, hs.closed,
      closing?_append, Option.isSome_or]
  reasons := by
    intro reason hr
    rcases List.mem_append.mp hr with hr | hr
    · exact hs.reasons reason hr
    · cases hm <;> simp at hr
      exact .inl hr
  disposing := by
    intro j what o hj
    rcases caller?_setCaller_cases hj with ⟨-, hd⟩ | ⟨-, hj⟩
    · exact hm.closed_of_disposing hs hc hd.symm
    · rw [caller?_eq_of_callers_eq hm.callers_eq] at hj
      exact (hs.disposing j what o hj).imp_right hm.closed
  handle := hm.handle_or_closed hs hc
  channel := hm.channel hs.channel
  unsent := by
    intro j id hj
    rcases caller?_setCaller_cases hj with ⟨-, hu⟩ | ⟨-, hj⟩
    · exact hm.late_of_unsent hs hu.symm
    · rw [caller?_eq_of_callers_eq hm.callers_eq] at hj
      exact (hs.unsent j id hj).imp hm.closed hm.stopped

/-- A step that touches no call and leaves the handle keeps the signs as they are. -/
theorem Closure.quiet (hs : Closure s h) (hm : Move k s e t) (hcs : t.callers = s.callers)
    (hw : t.hasWorker = s.hasWorker) (ho : t.worker.isOpen = s.worker.isOpen)
    (hr : ∀ reason, e = some (.closed reason) → reason = .workerLost) :
    Closure t (h ++ e.toList) where
  closed := by
    rw [hm.closed_eq, hs.closed, closing?_append]
    cases e <;> simp
  reasons := by
    intro reason hmem
    rcases List.mem_append.mp hmem with hmem | hmem
    · exact hs.reasons reason hmem
    · exact .inr (hr reason (by simpa [eq_comm] using hmem))
  disposing := by
    intro j what o hj
    rw [caller?_eq_of_callers_eq hcs] at hj
    exact (hs.disposing j what o hj).imp_right hm.closed
  handle := by
    rw [hw]
    exact hs.handle.imp_right hm.closed
  channel := by rw [ho, hw, hs.channel]
  unsent := by
    intro j id hj
    rw [caller?_eq_of_callers_eq hcs] at hj
    exact (hs.unsent j id hj).imp hm.closed hm.stopped

theorem Closure.addCaller (hs : Closure s h) (he : ∀ reason, .closed reason ∉ e.toList)
    (hd : ∀ what o, c = .disposing what o → what = .closeTable) (hu : ∀ id, c ≠ .unsent id) :
    Closure (s.addCaller c) (h ++ e.toList) where
  closed := by
    have still : closing? e.toList = none := by
      refine List.findSome?_eq_none_iff.mpr fun x hx => ?_
      cases x with
      | closed reason => exact absurd hx (he reason)
      | _ => rfl
    rw [closing?_append, still, Option.or_none]
    exact hs.closed
  reasons := by
    intro reason hr
    rcases List.mem_append.mp hr with hr | hr
    · exact hs.reasons reason hr
    · exact absurd hr (he reason)
  disposing := by
    intro j what o hj
    rcases caller?_addCaller_cases hj with hj | ⟨-, hj⟩
    · exact hs.disposing j what o hj
    · exact .inl (hd what o hj.symm)
  handle := hs.handle
  channel := hs.channel
  unsent := by
    intro j id hj
    rcases caller?_addCaller_cases hj with hj | ⟨-, hj⟩
    · exact hs.unsent j id hj
    · exact absurd hj.symm (hu id)

/-- **One move** keeps the signs in order. -/
theorem Closure.move (hs : Closure s h) (hm : Move k s e t) : Closure t (h ++ e.toList) := by
  have all := hm
  cases hm with
  | call task => exact hs.addCaller (by simp) (by simp) (by simp)
  | dispose => exact hs.addCaller (by simp) (by simp) (by simp)
  | caller hc hm => exact hs.callerMove hc hm
  | worker hm =>
      refine hs.quiet all rfl rfl ?_ ?_
      · cases hm <;> rfl
      · cases hm <;> simp
  | loseWorker => exact hs.quiet all rfl rfl rfl (by simp)
  | router hm =>
      cases hm with
      | @delivered a hr => cases a <;> exact hs.quiet all rfl rfl rfl (by simp)
      | workerLost hr ha hw hc => exact hs.quiet all rfl rfl rfl (by simp [eq_comm])
      | _ => exact hs.quiet all rfl rfl rfl (by simp)

end

end PatchSandbox.Session
