import PatchSandbox.Proofs.Session.Fate

/-!
# A closed session

The table is closed by a call that disposes of the session, be it because its time was over,
or by the router when the worker is lost. From then on nobody is left waiting, and nothing
gets through any more:

* **`Shut`** is what holds in every state with a closed table. Mailboxes are filled, so each
  call can go on and, having only so many steps left (**`Caller.remaining`**), comes to its end.
  What worker and router still do reaches no call.
* **`Sealed`** is what has happened between such a state and a later one: no call has
  registered, nothing has been sent without a handle, and calls that begin late are refused.
* **`Ends`** says how the calls that had registered end.
* **`closed_session`** puts them together. The rest is one lemma for each party, saying what
  its steps do when the table is closed.
-/

namespace PatchSandbox

/-- How many steps of its own a call takes at most before it is over. -/
def Caller.remaining : Caller → Nat
  | .begun _ => 11
  | .admitted _ => 10
  | .cleared _ => 9
  | .numbered _ _ => 8
  | .registered _ _ _ => 7
  | .sent _ _ => 6
  | .waiting _ _ => 5
  | .expired _ => 4
  | .disposing .closeTable _ => 3
  | .disposing .closeReadiness _ => 2
  | .disposing .stopWorker _ => 1
  | .unsent _ => 1
  | .done _ => 0
  | .over => 0

namespace PendingTable

variable {α : Type} {t : PendingTable α}

/-- Closing a closed table changes nothing. -/
theorem close_of_closed (h : t.Sound) (hc : t.closed = true) (o : α) : (t.close o).2 = t := by
  have hw := h.closed hc
  cases t
  simp only at hw hc
  simp [close, hw, hc]

/-- In a closed table nobody waits. -/
theorem not_waiting_of_closed (h : t.Sound) (hc : t.closed = true) (slot : Nat) :
    t.box? slot ≠ some .waiting := by
  intro hb
  obtain ⟨id, hw⟩ := (h.waiting slot).mp hb
  simp [h.closed hc] at hw

end PendingTable

namespace Session

variable {ε : Type} {k : EngineKind ε} {config : Config}

section

variable {s t : Session ε} {h : List Occurrence} {i j : Nat} {c c' d : Caller}
  {e : Option Occurrence} {id : RequestId} {slot : Nat} {o : Outcome}

/-! ### Steps in a closed session -/

/-- **Every step of a call brings it closer to its end.** -/
theorem CallerMove.remaining_lt (hm : CallerMove s i c e c' t) : c'.remaining < c.remaining := by
  cases hm with
  | @stopWorker o hw => cases o <;> exact Nat.zero_lt_one
  | @noWorker o hw => cases o <;> exact Nat.zero_lt_one
  | _ => simp [Caller.remaining]

/-- What the router hands on reaches no call. -/
theorem table_deliver_of_closed (hs : s.table.Sound) (hc : s.table.closed = true) (a : Response) :
    (s.deliver a).table = s.table := by
  have nobody (id : RequestId) : s.table.waiter? id = none := by
    simp [PendingTable.waiter?, hs.closed hc]
  cases a with
  | ready => rfl
  | initFailed message => rfl
  | result id payload => rw [deliver_of_stray rfl (nobody id)]
  | error id message logs => rw [deliver_of_stray rfl (nobody id)]

/-- A step of the router leaves a closed table and all calls alone. -/
theorem RouterMove.of_closed (hm : RouterMove s e t) (hs : s.table.Sound)
    (hc : s.table.closed = true) : t.table = s.table ∧ t.callers = s.callers := by
  refine ⟨?_, hm.callers_eq⟩
  cases hm with
  | workerLost hr ha hw ho => simp [hc] at ho
  | @delivered a hr => exact table_deliver_of_closed hs hc a
  | _ => rfl

/-- A step of the disposal leaves a closed table and the counter alone. -/
theorem CallerMove.of_disposing {what : Disposal} {o : Option Outcome}
    (hm : CallerMove s i (.disposing what o) e c' t) (hs : s.table.Sound)
    (hc : s.table.closed = true) : t.table = s.table ∧ t.dispatched = s.dispatched := by
  cases hm with
  | closeTable => exact ⟨PendingTable.close_of_closed hs hc _, rfl⟩
  | _ => exact ⟨rfl, rfl⟩

/-- In a closed session no call registers, and no time is over. -/
theorem Move.of_closed (hm : Move k s e t) (hs : Regular k s h) (hc : s.table.closed = true) :
    (∀ i id slot, e ≠ some (.registered i id slot)) ∧ ∀ i, e ≠ some (.expired i) := by
  cases hm with
  | caller hcaller hm =>
      cases hm with
      | registered hr => simp [(closed_of_register? hr).1] at hc
      | @expired id slot after table hb ht =>
          have := PendingTable.take_waiting ht
          exact absurd this (PendingTable.not_waiting_of_closed hs.sound hc slot)
      | _ => simp
  | worker hm => cases hm <;> simp
  | router hm => cases hm <;> simp
  | _ => simp

/-- Nothing is sent without a handle. -/
theorem Move.of_handle (hm : Move k s e t) (hw : s.hasWorker = false) : sends e.toList = [] := by
  cases hm with
  | caller hc hm =>
      cases hm with
      | sent hok hq => simp [hw] at hok
      | _ => rfl
  | worker hm => cases hm <;> rfl
  | router hm => cases hm <;> rfl
  | _ => rfl

/-- A call waits for nothing but the readiness of the engine and its outcome. -/
theorem exists_proceed (hover : c.isOver = false)
    (hready : ∀ p, c = .admitted p → s.readiness ≠ .starting)
    (hbox : ∀ id slot, c.mailbox? = some (id, slot) → s.table.box? slot ≠ some .waiting) :
    ∃ t, s.proceed i c = some t := by
  cases c with
  | begun task =>
      simp only [proceed]
      split
      · exact ⟨_, rfl⟩
      · split <;> exact ⟨_, rfl⟩
  | admitted p =>
      have := hready p rfl
      cases hr : s.readiness with
      | starting => exact absurd hr this
      | _ => simp [proceed, hr]
  | numbered p id =>
      simp only [proceed]
      split <;> exact ⟨_, rfl⟩
  | registered p id slot =>
      simp only [proceed]
      split <;> exact ⟨_, rfl⟩
  | waiting id slot =>
      rcases ht : s.table.take slot with ⟨m, table⟩
      cases m with
      | waiting => exact absurd (PendingTable.take_waiting ht) (hbox id slot rfl)
      | holding o => simp [proceed, ht]
      | abandoned => simp [proceed, ht]
  | disposing what o =>
      cases what with
      | stopWorker =>
          simp only [proceed, disposeStep]
          exact ⟨_, rfl⟩
      | _ => exact ⟨_, rfl⟩
  | cleared p => exact ⟨_, rfl⟩
  | unsent id => exact ⟨_, rfl⟩
  | sent id slot => exact ⟨_, rfl⟩
  | expired id => exact ⟨_, rfl⟩
  | _ => simp [Caller.isOver] at hover

/-- A call that can go on comes closer to its end. -/
theorem proceed_remaining (hc : s.caller? i = some c) (hp : s.proceed i c = some t) :
    ∃ c', t.caller? i = some c' ∧ c'.remaining < c.remaining := by
  obtain ⟨c', u, hm, rfl⟩ := callerMove_of_proceed hp
  have hu : u.caller? i = some c := (caller?_eq_of_callers_eq hm.callers_eq i).trans hc
  exact ⟨c', caller?_setCaller_self hu, hm.remaining_lt⟩

/-! ### The readiness follows the table -/

/-- Nobody waits for the engine, or somebody is about to close the readiness. -/
def Announced (s : Session ε) : Prop :=
  s.readiness ≠ .starting ∨ (∃ j o, s.caller? j = some (.disposing .closeReadiness o)) ∨
    s.router = .ending

/-- What is announced stays so, unless the one who announced it takes a step. -/
theorem Announced.setCaller (ha : Announced s) (hc : s.caller? i = some c)
    (hcs : t.callers = s.callers) (hr : t.readiness = s.readiness) (hro : t.router = s.router)
    (hne : ∀ o, c ≠ .disposing .closeReadiness o) : Announced (t.setCaller i c') := by
  rcases ha with hready | ⟨j, o, hj⟩ | hrouter
  · exact .inl (hr ▸ hready)
  · have hij : j ≠ i := by
      rintro rfl
      rw [hc, Option.some.injEq] at hj
      exact hne o hj
    refine .inr (.inl ⟨j, o, ?_⟩)
    rw [caller?_setCaller_of_ne hij, caller?_eq_of_callers_eq hcs, hj]
  · exact .inr (.inr (hro ▸ hrouter))

theorem CallerMove.announced (hm : CallerMove s i c e c' t) (hc : s.caller? i = some c)
    (ha : s.table.closed = true → Announced s) (hclosed : t.table.closed = true) :
    Announced (t.setCaller i c') := by
  have hct : t.caller? i = some c := (caller?_eq_of_callers_eq hm.callers_eq i).trans hc
  have still := hm.closed_eq
  have router := hm.traffic.1
  rw [hclosed] at still
  cases hm with
  | closeTable => exact .inr (.inl ⟨i, _, caller?_setCaller_self hct⟩)
  | closeReadiness => exact .inl (by simp [Session.setCaller])
  | _ =>
      refine (ha ?_).setCaller hc rfl rfl router (by simp)
      simpa [Occurrence.closed?] using still.symm

/-- **Where the table is closed, the readiness is known or about to be.** -/
theorem Move.announced (hm : Move k s e t) (ha : s.table.closed = true → Announced s)
    (hclosed : t.table.closed = true) : Announced t := by
  have begun (c : Caller) (hclosed : s.table.closed = true) : Announced (s.addCaller c) := by
    rcases ha hclosed with hready | ⟨j, o, hj⟩ | hrouter
    · exact .inl hready
    · exact .inr (.inl ⟨j, o, (caller?_addCaller_of_lt (caller_lt hj)).trans hj⟩)
    · exact .inr (.inr hrouter)
  cases hm with
  | call task => exact begun _ hclosed
  | dispose => exact begun _ hclosed
  | caller hc hm => exact hm.announced hc ha hclosed
  | worker hm => exact ha hclosed
  | loseWorker => exact ha hclosed
  | router hm =>
      cases hm with
      | received hr hq => exact (ha hclosed).imp_right fun h => h.imp_right (by simp [hr])
      | ended hr hq hw hc => exact (ha hc).imp_right fun h => h.imp_right (by simp [hr])
      | workerLost hr hq hw hc => exact .inr (.inr rfl)
      | shut hr => exact .inl (by simp)
      | @delivered a hr =>
          rw [closed_deliver] at hclosed
          rcases ha hclosed with hready | ⟨j, o, hj⟩ | hrouter
          · refine .inl ?_
            cases a <;> simp [deliver, hready]
          · refine .inr (.inl ⟨j, o, ?_⟩)
            exact (caller?_eq_of_callers_eq (callers_deliver s a) j).trans hj
          · simp [hr] at hrouter

/-! ### States with a closed table -/

/-- What holds when the table is closed. -/
structure Shut (k : EngineKind ε) (s : Session ε) : Prop where
  disposed : s.isDisposed = true
  /-- Nobody waits in the table. -/
  empty : s.pending = 0
  /-- A call that has a mailbox finds something in it. -/
  filled : ∀ i c id slot, s.caller? i = some c → c.mailbox? = some (id, slot) →
    ∃ o, s.table.box? slot = some (.holding o)
  /-- A call that is not over can go on and comes closer to its end, -/
  awake : ∀ i c, s.caller? i = some c → c.isOver = false → (∀ p, c ≠ .admitted p) →
    ∃ t c', s.step k (.proceed i) = some t ∧ t.caller? i = some c' ∧ c'.remaining < c.remaining
  /-- also if it waits for the engine, once the readiness is closed. -/
  waking : ∀ i p, s.caller? i = some (.admitted p) → Announced s ∧
    (s.readiness ≠ .starting → ∃ t c', s.step k (.proceed i) = some t ∧
      t.caller? i = some c' ∧ c'.remaining < (Caller.admitted p).remaining)
  /-- A call that begins is refused. -/
  refused : ∀ i task, s.caller? i = some (.begun task) →
    s.step k (.proceed i) = some (s.setCaller i (.done (.error .disposed)))
  /-- The worker and the router change neither the table nor a call. -/
  unheard : ∀ a t, a = .work ∨ a = .loseWorker ∨ a = .route → s.step k a = some t →
    t.table = s.table ∧ t.callers = s.callers
  /-- Disposing again changes nothing that can be seen, when that begins -/
  again : ∀ t, s.step k .dispose = some t → t.table = s.table ∧ t.dispatched = s.dispatched ∧
    ∀ j c, s.caller? j = some c → t.caller? j = some c
  /-- and with every step of it. -/
  disposing : ∀ i what o t, s.caller? i = some (.disposing what o) →
    s.step k (.proceed i) = some t → t.table = s.table ∧ t.dispatched = s.dispatched ∧
      ∀ j, j ≠ i → t.caller? j = s.caller? j

theorem shut_of_closed (hs : Regular k s h) (hf : Fates s h)
    (ha : s.table.closed = true → Announced s) (hc : s.table.closed = true) : Shut k s := by
  have empty := PendingTable.not_waiting_of_closed hs.sound hc
  constructor
  · exact hc
  · simp [pending, PendingTable.size, hs.sound.closed hc]
  · intro i c id slot hi hm
    obtain ⟨m, hbox, hne⟩ := hf.kept i c hi id slot hm
    cases m with
    | waiting => exact absurd hbox (empty slot)
    | holding o => exact ⟨o, hbox⟩
    | abandoned => exact absurd rfl hne
  · intro i c hi hover hadm
    obtain ⟨t, ht⟩ := exists_proceed (i := i) hover (fun p hp => absurd hp (hadm p))
      (fun _ slot _ => empty slot)
    obtain ⟨c', hc', hlt⟩ := proceed_remaining hi ht
    exact ⟨t, c', by simp [step, hi, ht], hc', hlt⟩
  · intro i p hi
    refine ⟨ha hc, fun hready => ?_⟩
    obtain ⟨t, ht⟩ := exists_proceed (i := i) (rfl : (Caller.admitted p).isOver = false)
      (fun _ _ => hready) (fun _ slot _ => empty slot)
    obtain ⟨c', hc', hlt⟩ := proceed_remaining hi ht
    exact ⟨t, c', by simp [step, hi, ht], hc', hlt⟩
  · intro i task hi
    simp [step, hi, proceed, isDisposed, hc]
  · rintro a t (rfl | rfl | rfl) ht
    · obtain ⟨w, -, rfl⟩ := Option.map_eq_some_iff.mp ht
      exact ⟨rfl, rfl⟩
    · obtain rfl := Option.some.inj ht
      exact ⟨rfl, rfl⟩
    · exact (routerMove_of_route ht).of_closed hs.sound hc
  · intro t ht
    obtain rfl := Option.some.inj ht
    exact ⟨rfl, rfl, fun j c hj => (caller?_addCaller_of_lt (caller_lt hj)).trans hj⟩
  · intro i what o t hi ht
    rw [step, hi, Option.bind_some] at ht
    obtain ⟨c', u, hm, rfl⟩ := callerMove_of_proceed ht
    obtain ⟨htable, hcount⟩ := hm.of_disposing hs.sound hc
    refine ⟨htable, hcount, fun j hj => ?_⟩
    rw [caller?_setCaller_of_ne hj, caller?_eq_of_callers_eq hm.callers_eq]

/-! ### What happens after the closing -/

/-- What has happened since the table was closed, from a state `s` to a state `t`. -/
structure Sealed (s t : Session ε) (since : List Occurrence) : Prop where
  closed : t.table.closed = true
  unregistered : ∀ i id slot, .registered i id slot ∉ since
  /-- A time that was not over is not over any more. -/
  punctual : ∀ i, .expired i ∉ since
  handle : s.hasWorker = false → t.hasWorker = false
  unsent : s.hasWorker = false → sends since = []
  /-- A call that began since then is refused. -/
  late : ∀ i task, .began i task ∈ since →
    t.caller? i = some (.begun task) ∨ t.caller? i = some (.done (.error .disposed))
  /-- A call that had ended has the same outcome. -/
  ended : ∀ i o, s.caller? i = some (.done o) → t.caller? i = some (.done o)

theorem sealed_start (hc : s.table.closed = true) : Sealed s s [] where
  closed := hc
  ended := fun _ _ hd => hd
  unregistered := by simp
  punctual := by simp
  handle := id
  unsent := fun _ => rfl
  late := by simp

/-- What a call has ended with, it has ended with for good. -/
theorem Move.done_stays (hm : Move k s e t) (hd : s.caller? i = some (.done o)) :
    t.caller? i = some (.done o) := by
  rcases hm.caller_cases hd with hd | ⟨c', u, hm, -⟩
  · exact hd
  · cases hm

/-- A call that begins in a closed session is refused with its first step. -/
theorem Move.refused (hm : Move k s e t) (hc : s.table.closed = true) {task : Task}
    (hi : s.caller? i = some (.begun task)) :
    t.caller? i = some (.begun task) ∨ t.caller? i = some (.done (.error .disposed)) := by
  rcases hm.caller_cases hi with hi | ⟨c', u, hm, hi⟩
  · exact .inl hi
  · cases hm with
    | refused _ => exact .inr hi
    | rejected ho _ => simp [hc] at ho
    | admitted ho _ => simp [hc] at ho

theorem Sealed.move {u : Session ε} {since : List Occurrence} (hs : Sealed s t since)
    (hreg : Regular k t h) (hm : Move k t e u) : Sealed s u (since ++ e.toList) where
  closed := hm.closed hs.closed
  unregistered := by
    intro i id slot hmem
    rcases List.mem_append.mp hmem with hmem | hmem
    · exact hs.unregistered i id slot hmem
    · exact (hm.of_closed hreg hs.closed).1 i id slot (by simpa [eq_comm] using hmem)
  punctual := by
    intro i hmem
    rcases List.mem_append.mp hmem with hmem | hmem
    · exact hs.punctual i hmem
    · exact (hm.of_closed hreg hs.closed).2 i (by simpa [eq_comm] using hmem)
  handle := fun hw => hm.hasWorker (hs.handle hw)
  unsent := fun hw => by rw [sends_append, hs.unsent hw, hm.of_handle (hs.handle hw)]; rfl
  late := by
    intro i task hmem
    rcases List.mem_append.mp hmem with hmem | hmem
    · rcases hs.late i task hmem with hi | hi
      · exact hm.refused hs.closed hi
      · exact .inr (hm.done_stays hi)
    · -- only one step begins a call, and it does nothing else
      cases hm with
      | call task' =>
          obtain ⟨rfl, rfl⟩ : i = t.callers.length ∧ task = task' := by simpa using hmem
          exact .inl caller?_addCaller_self
      | caller hc hm => cases hm <;> simp at hmem
      | worker hm => cases hm <;> simp at hmem
      | router hm => cases hm <;> simp at hmem
      | _ => simp at hmem
  ended := fun i o hd => hm.done_stays (hs.ended i o hd)

/-- An outcome that says that the time of a call was over, when it was. -/
def TimeOver (h : List Occurrence) (i : Nat) (o : Outcome) : Prop :=
  .expired i ∈ h ∧ ∃ after, o = .error (.timedOut after)

/-- How the calls end that were registered when the table was closed: from a state `s` with the
history `h` to a state `t`. -/
structure Ends (s : Session ε) (h : List Occurrence) (t : Session ε) (since : List Occurrence) :
    Prop where
  /-- A call whose answer was handed on before the closing ends with that. -/
  settled : ∀ i id slot o o', .registered i id slot ∈ h → Settled h id o →
    t.caller? i = some (.done o') → o' = o ∨ TimeOver h i o'
  /-- Every other one ends with an error. -/
  unsettled : ∀ i id slot o', .registered i id slot ∈ h → (∀ o, ¬ Settled h id o) →
    t.caller? i = some (.done o') →
      o' = .error .disposed ∨ TimeOver h i o' ∨
        (o' = .error .workerLost ∧ closing? h = some .workerLost)
  /-- A call ends with what is in its mailbox already, unless it cannot send any more. -/
  found : ∀ i c id slot o o', s.caller? i = some c → c.mailbox? = some (id, slot) →
    s.table.box? slot = some (.holding o) → t.caller? i = some (.done o') →
      o' = o ∨ (o' = .error .disposed ∧ sends (deeds i (h ++ since)) = [])

/-- A call that was settled has sent. -/
theorem Regular.sent_of_settled (hs : Regular k s h) (hr : .registered i id slot ∈ h)
    (ho : Settled h id o) : sends (deeds i h) ≠ [] := by
  intro hu
  have hn := hs.calls.ids.registered i id slot hr
  have := undelivered_of_unsent hs.calls hs.channels hs.answers hn hu
  exact not_settled_of_undelivered this o ho

/-- There is one verdict for an id. -/
theorem verdict_unique (distinct : ((deliveries h).filterMap Response.id?).Nodup) {o' : Outcome}
    (hv : Verdict h id o) (hv' : Verdict h id o') : o = o' := by
  cases hv with
  | settled hs =>
      cases hv' with
      | settled hs' => exact settled_unique distinct hs hs'
      | closed hn hc => exact absurd hs (hn o)
  | closed hn hc =>
      cases hv' with
      | settled hs' => exact absurd hs' (hn o')
      | closed hn' hc' => rw [Option.some.inj (hc.symm.trans hc')]

theorem ends_of_fates {since : List Occurrence} (hs : Regular k s h) (hf : Fates s h)
    (ht : Regular k t (h ++ since)) (hft : Fates t (h ++ since)) (hc : closing? h ≠ none)
    (hp : ∀ i, .expired i ∉ since) : Ends s h t since := by
  have distinct := ht.calls.deliveries_nodup ht.channels ht.answers
  have still (id : RequestId) (o : Outcome) : Settled (h ++ since) id o ↔ Settled h id o :=
    settled_append_of_closed hc since
  have expired {i : Nat} (he : .expired i ∈ h ++ since) : .expired i ∈ h :=
    (List.mem_append.mp he).resolve_right (hp i)
  constructor
  · intro i id slot o o' hr ho hd
    have hr' := List.mem_append_left since hr
    have ho' := (still id o).mpr ho
    cases hft.ends i id slot o' hd hr' with
    | found hv hn => exact .inl (verdict_unique distinct hv (.settled ho'))
    | unsent hu => exact absurd hu (ht.sent_of_settled hr' ho')
    | expired he => exact .inr ⟨expired he, _, rfl⟩
  · intro i id slot o' hr hn hd
    cases hft.ends i id slot o' hd (List.mem_append_left since hr) with
    | found hv _ =>
        obtain ⟨reason, hreason⟩ := Option.ne_none_iff_exists'.mp hc
        obtain rfl := verdict_unique distinct hv ((Verdict.closed hn hreason).later since)
        rcases hs.closure.reasons reason (mem_of_closing? hreason) with rfl | rfl
        · exact .inl rfl
        · exact .inr (.inr ⟨rfl, hreason⟩)
    | unsent hu => exact .inl rfl
    | expired he => exact .inr (.inl ⟨expired he, _, rfl⟩)
  · intro i c id slot o o' hi hm hb hd
    have hr := hs.registered_of_mailbox? hi hm
    cases hft.ends i id slot o' hd (List.mem_append_left since hr) with
    | found hv _ =>
        have hv' := (hf.holding i id slot o hr hb).later since
        exact .inl (verdict_unique distinct hv hv')
    | unsent hu => exact .inr ⟨rfl, hu⟩
    | expired he => exact absurd (expired he) (hs.not_expired hi hm)

end

/-- **The readiness follows the table** in every run. -/
theorem announced_of_run {acts : List Action} {s : Session ε}
    (hr : runActions k (spawn config) acts = some s) : s.table.closed = true → Announced s :=
  run_induction (motive := fun s _ => s.table.closed = true → Announced s) (by simp [spawn])
    (fun _ _ _ _ hs hm => hm.announced hs) hr

/-- What is known of a closed session stays known, and what happens from then on is sealed. -/
theorem sealed_of_run {s t : Session ε} {h : List Occurrence} {more : List Action}
    (hs : Regular k s h) (hf : Fates s h) (hc : s.table.closed = true)
    (hr : runActions k s more = some t) :
    Regular k t (h ++ history k s more) ∧ Fates t (h ++ history k s more) ∧
      Sealed s t (history k s more) := by
  have after := run_induction_from (k := k)
    (motive := fun u hu => Regular k u hu ∧ Fates u hu ∧ ∃ since, hu = h ++ since ∧ Sealed s u since)
    ?_ more s t h ⟨hs, hf, [], by simp, sealed_start hc⟩ hr
  · obtain ⟨hst, hft, since, he, hsealed⟩ := after
    obtain rfl := List.append_cancel_left he
    exact ⟨hst, hft, hsealed⟩
  · rintro u hu e v ⟨hsu, hfu, since, rfl, hsealed⟩ hm
    refine ⟨hsu.move hm, hfu.move hsu hm, since ++ e.toList, ?_, hsealed.move hsu hm⟩
    rw [List.append_assoc]

/-- **A closed session leaves nobody waiting and lets nothing through.** What holds when the
table is closed holds from then on, and calls that were registered end with what their ids were
settled with before, or with an error. -/
theorem closed_session {acts : List Action} {s : Session ε}
    (hr : runActions k (spawn config) acts = some s) (hd : s.isDisposed = true) :
    Shut k s ∧ ∀ more t, runActions k s more = some t →
      Shut k t ∧ Sealed s t (history k s more) ∧
        Ends s (history k (spawn config) acts) t (history k s more) := by
  have hc : s.table.closed = true := hd
  obtain ⟨hs, hf⟩ := fates_of_run hr
  have ha := announced_of_run hr
  have start : closing? (history k (spawn config) acts) ≠ none := by
    have := hs.closure.closed
    rw [hc] at this
    exact Option.isSome_iff_ne_none.mp this.symm
  refine ⟨shut_of_closed hs hf ha hc, fun more t hmore => ?_⟩
  obtain ⟨hst, hft, hsealed⟩ := sealed_of_run hs hf hc hmore
  have hat := runs_keep (P := fun u => u.table.closed = true → Announced u)
    (fun _ _ _ ha hm => hm.announced ha) ha hmore
  exact ⟨shut_of_closed hst hft hat hsealed.closed, hsealed,
    ends_of_fates hs hf hst hft start hsealed.punctual⟩

/-- The table is closed while one call waits and another one has not sent yet. -/
theorem closed_under_way :
    let acts := turnaround ++ List.replicate 2 (.call (.script "'use strict'")) ++
      List.replicate 6 (.proceed 0) ++ List.replicate 4 (.proceed 1) ++ [.dispose, .proceed 2]
    ∃ s, runActions echo (spawn {}) acts = some s ∧ s.isDisposed = true ∧ s.hasWorker = true ∧
      s.callers.map Caller.mailbox? = [some (1, 0), some (2, 1), none] ∧
      Shut echo s ∧ ∀ more t, runActions echo s more = some t →
        Shut echo t ∧ Sealed s t (history echo s more) ∧
          Ends s (history echo (spawn {}) acts) t (history echo s more) := by
  intro acts
  have runs : (runActions echo (spawn {}) acts).any (fun s =>
      s.isDisposed && s.hasWorker &&
        s.callers.map Caller.mailbox? == [some (1, 0), some (2, 1), none]) = true := by
    decide +kernel
  obtain ⟨s, hr, facts⟩ := (Option.any_eq_true ..).mp runs
  simp only [Bool.and_eq_true, beq_iff_eq] at facts
  obtain ⟨⟨hd, hw⟩, boxes⟩ := facts
  exact ⟨s, hr, hd, hw, boxes, closed_session hr hd⟩

end Session

end PatchSandbox
