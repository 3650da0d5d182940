import PatchSandbox.Proofs.Session.Conservation

/-!
# What a registered call can come to

A call that has its mailbox finds one thing in it: the answer that was handed on under its id
while the table was open, or, where none was, the reason for which the table was closed. What
it ends with is that, unless its own time was over or its request could not be sent.

* **`Settled`** and **`Verdict`** say what a mailbox is given, from the history alone. Nothing
  that happens after the closing changes them.
* **`Fate`** is what a call can end with.
* **`Fates`** ties mailboxes and ends to the history. It holds after every run
  (**`fates_of_run`**).
-/

namespace PatchSandbox

/-- The mailbox of a call that has one, and the id it is for. -/
def Caller.mailbox? : Caller → Option (RequestId × Nat)
  | .registered _ id slot => some (id, slot)
  | .sent id slot => some (id, slot)
  | .waiting id slot => some (id, slot)
  | _ => none

namespace Session

variable {ε : Type} {k : EngineKind ε} {config : Config}

/-! ### Verdicts -/

/-- The answer for an id was handed on before the table was closed. -/
def Settled (h : List Occurrence) (id : RequestId) (o : Outcome) : Prop :=
  ∃ a ∈ deliveries (untilClosing h), a.outcome? = some (id, o)

/-- What a mailbox for an id is given. -/
inductive Verdict (h : List Occurrence) (id : RequestId) : Outcome → Prop
  | settled {o} (hs : Settled h id o) : Verdict h id o
  | closed {reason} (hn : ∀ o, ¬ Settled h id o) (hc : closing? h = some reason) :
      Verdict h id (.error reason)

section

variable {h : List Occurrence} {id : RequestId} {o o' : Outcome}

/-- After the closing nothing is settled any more. -/
theorem settled_append_of_closed (hc : closing? h ≠ none) (h' : List Occurrence) :
    Settled (h ++ h') id o ↔ Settled h id o := by
  rw [Settled, Settled, untilClosing_append_of_closed hc]

theorem Settled.later (hs : Settled h id o) (h' : List Occurrence) : Settled (h ++ h') id o := by
  cases hc : closing? h with
  | some reason => exact (settled_append_of_closed (by simp [hc]) h').mpr hs
  | none =>
      obtain ⟨a, ha, ho⟩ := hs
      rw [untilClosing_of_open hc] at ha
      refine ⟨a, ?_, ho⟩
      rw [untilClosing_append_of_open hc, deliveries_append]
      exact List.mem_append_left _ ha

theorem Verdict.later (hv : Verdict h id o) (h' : List Occurrence) : Verdict (h ++ h') id o := by
  cases hv with
  | settled hs => exact .settled (hs.later h')
  | closed hn hc =>
      have still : closing? h ≠ none := by simp [hc]
      refine .closed (fun o ho => hn o ?_) (by simp [hc])
      exact (settled_append_of_closed still h').mp ho

theorem mem_deliveries_of_mem_untilClosing {a : Response}
    (ha : a ∈ deliveries (untilClosing h)) : a ∈ deliveries h :=
  mem_deliveries.mpr (mem_of_mem_untilClosing (mem_deliveries.mp ha))

/-- Nothing is settled under an id under which nothing is handed on. -/
theorem not_settled_of_undelivered (hn : ∀ a ∈ deliveries h, a.id? ≠ some id) (o : Outcome) :
    ¬ Settled h id o := by
  rintro ⟨a, ha, ho⟩
  exact hn a (mem_deliveries_of_mem_untilClosing ha) (Response.id?_of_outcome? ho)

/-- An id is settled once. -/
theorem settled_unique (distinct : ((deliveries h).filterMap Response.id?).Nodup)
    (hs : Settled h id o) (hs' : Settled h id o') : o = o' := by
  obtain ⟨a, ha, ho⟩ := hs
  obtain ⟨b, hb, ho'⟩ := hs'
  obtain rfl : a = b :=
    eq_of_nodup_filterMap distinct (mem_deliveries_of_mem_untilClosing ha)
      (mem_deliveries_of_mem_untilClosing hb) (Response.id?_of_outcome? ho)
      (Response.id?_of_outcome? ho')
  rw [ho, Option.some.injEq, Prod.mk.injEq] at ho'
  exact ho'.2

/-- The table is closed, and what was not settled gets the reason. -/
theorem Verdict.of_closing {reason : SessionError} (ho : closing? h = none)
    (hn : ∀ o, ¬ Settled h id o) : Verdict (h ++ [.closed reason]) id (.error reason) := by
  refine .closed (fun o hs => hn o ?_) (by simp [ho, Occurrence.closed?])
  have same : untilClosing (h ++ [.closed reason]) = untilClosing h := by
    rw [untilClosing_append_of_open ho, untilClosing_of_open ho]
    exact List.append_nil h
  rwa [Settled, same] at hs

/-- As long as the table is open, an answer that is handed on settles its id. -/
theorem Verdict.of_delivery {a : Response} (ho : closing? h = none)
    (ha : a.outcome? = some (id, o)) : Verdict (h ++ [.delivered a]) id o := by
  refine .settled ⟨a, ?_, ha⟩
  rw [untilClosing_of_open (by simp [ho, Occurrence.closed?]), deliveries_append]
  exact List.mem_append_right _ (by simp)

end

/-! ### Fates -/

/-- What a call with an id can end with, once it is registered. -/
inductive Fate (h : List Occurrence) (i : Nat) (id : RequestId) : Outcome → Prop
  | found {o} (hv : Verdict h id o) (hn : .expired i ∉ h) : Fate h i id o
  | unsent (hu : sends (deeds i h) = []) : Fate h i id (.error .disposed)
  | expired {after} (he : .expired i ∈ h) : Fate h i id (.error (.timedOut after))

theorem Fate.later {h h' : List Occurrence} {i : Nat} {id : RequestId} {o : Outcome}
    (hf : Fate h i id o) (hd : deeds i h' = []) : Fate (h ++ h') i id o := by
  cases hf with
  | found hv hn =>
      refine .found (hv.later h') fun he => hn ?_
      rcases List.mem_append.mp he with he | he
      · exact he
      · have := mem_deeds he (i := i) rfl
        simp [hd] at this
  | unsent hu => exact .unsent (by simpa [hd] using hu)
  | expired he => exact .expired (List.mem_append_left _ he)

/-- A call has its mailbox, and nobody has given that up. -/
def Kept (t : PendingTable Outcome) (c : Caller) : Prop :=
  ∀ id slot, c.mailbox? = some (id, slot) → ∃ m, t.box? slot = some m ∧ m ≠ .abandoned

/-- What the mailboxes hold and how registered calls end. -/
structure Fates (s : Session ε) (h : List Occurrence) : Prop where
  holding : ∀ i id slot o, .registered i id slot ∈ h → s.table.box? slot = some (.holding o) →
    Verdict h id o
  kept : ∀ i c, s.caller? i = some c → Kept s.table c
  ends : ∀ i id slot o, s.caller? i = some (.done o) → .registered i id slot ∈ h → Fate h i id o

section

variable {s t : Session ε} {h : List Occurrence} {i j : Nat} {c c' d : Caller}
  {e : Option Occurrence} {id : RequestId} {slot : Nat} {o : Outcome}

theorem Regular.sound (hs : Regular k s h) : s.table.Sound := hs.calls.boxes.sound

/-- As long as the table is open, nothing closed it. -/
theorem Regular.closing?_eq_none (hs : Regular k s h) (ho : s.table.closed = false) : closing? h = none := by
  have := hs.closure.closed
  rw [ho] at this
  simpa using this.symm

/-- A call with a mailbox was registered. -/
theorem Regular.registered_of_mailbox? (hs : Regular k s h) (hc : s.caller? i = some c)
    (hm : c.mailbox? = some (id, slot)) : .registered i id slot ∈ h := by
  have story := hs.calls.stories i c hc
  refine mem_of_mem_deeds (i := i) ?_
  generalize deeds i h = es at story ⊢
  cases story <;> simp [Caller.mailbox?] at hm <;> simp [hm]

/-- The time of a call that has its mailbox is not over. -/
theorem Regular.not_expired (hs : Regular k s h) (hc : s.caller? i = some c)
    (hm : c.mailbox? = some (id, slot)) : .expired i ∉ h := by
  intro he
  have deed := mem_deeds he (i := i) rfl
  have story := hs.calls.stories i c hc
  generalize deeds i h = es at story deed
  cases story <;> simp [Caller.mailbox?] at hm <;> simp at deed

/-- Two calls do not share a mailbox. -/
theorem Regular.mailbox_apart (hs : Regular k s h) (hc : s.caller? i = some c)
    (hm : c.mailbox? = some (id, slot)) {id' : RequestId} (hr : .registered j id' slot ∈ h) :
    i = j ∧ id = id' :=
  hs.calls.boxes.registered_unique (hs.registered_of_mailbox? hc hm) hr

/-- A mailbox that waits is listed under the id it was opened for. -/
theorem Regular.mem_waiters (hs : Regular k s h) (hr : .registered i id slot ∈ h)
    (hb : s.table.box? slot = some .waiting) : (id, slot) ∈ s.table.waiters := by
  obtain ⟨id', hw⟩ := (hs.sound.waiting slot).mp hb
  obtain ⟨j, hj⟩ := hs.calls.boxes.waiters id' slot hw
  obtain ⟨-, rfl⟩ := hs.calls.boxes.registered_unique hr hj
  exact hw

/-- Nothing was handed on for a mailbox that waits, and the table is open. -/
theorem Regular.unsettled (hs : Regular k s h) (hr : .registered i id slot ∈ h)
    (hb : s.table.box? slot = some .waiting) :
    closing? h = none ∧ ∀ o, ¬ Settled h id o := by
  have hw := hs.mem_waiters hr hb
  have still := PendingTable.open_of_mem hs.sound hw
  exact ⟨hs.closing?_eq_none still, not_settled_of_undelivered (hs.waiters.undelivered id slot hw)⟩

/-! ### What steps do to mailboxes -/

/-- What a mailbox is given in a step: it waited, and the table was closed, or the answer for
it was handed on. -/
def Filled (s : Session ε) (e : Option Occurrence) (slot : Nat) (o : Outcome) : Prop :=
  s.table.box? slot = some .waiting ∧
    ((∃ reason, e = some (.closed reason) ∧ o = .error reason) ∨
      ∃ a id, e = some (.delivered a) ∧ a.outcome? = some (id, o) ∧ (id, slot) ∈ s.table.waiters)

theorem filled_of_close {reason : SessionError} (hs : s.table.Sound)
    (he : e = some (.closed reason))
    (hb : (s.table.close (.error reason)).2.box? slot = some (.holding o)) :
    s.table.box? slot = some (.holding o) ∨ Filled s e slot o := by
  rcases PendingTable.box?_close hs (.error reason) slot with ⟨hw, heq⟩ | ⟨-, heq⟩
  · rw [heq, Option.some.injEq, Mailbox.holding.injEq] at hb
    exact .inr ⟨hw, .inl ⟨reason, he, hb.symm⟩⟩
  · exact .inl (heq ▸ hb)

theorem filled_of_settle {a : Response} {o' : Outcome} (hs : s.table.Sound)
    (ha : a.outcome? = some (id, o')) (he : e = some (.delivered a))
    (hb : (s.table.settle id o').2.box? slot = some (.holding o)) :
    s.table.box? slot = some (.holding o) ∨ Filled s e slot o := by
  rcases PendingTable.box?_settle hs id o' slot with ⟨hw, heq⟩ | ⟨-, heq⟩
  · rw [heq, Option.some.injEq, Mailbox.holding.injEq] at hb
    subst hb
    exact .inr ⟨PendingTable.box?_of_mem hs hw, .inr ⟨a, id, he, ha, hw⟩⟩
  · exact .inl (heq ▸ hb)

/-- A new mailbox holds nothing. -/
theorem box?_register? {table table' : PendingTable Outcome} {slot' : Nat}
    (hf : table.waiter? id = none) (hr : table.register? id = some (slot', table')) :
    slot' = table.mailboxes.length ∧
      ∀ x, table'.box? x = if x = slot' then some .waiting else table.box? x := by
  obtain ⟨-, rfl, rfl⟩ := PendingTable.register?_of_fresh hf hr
  refine ⟨rfl, fun x => ?_⟩
  simp only [PendingTable.box?]
  rcases Nat.lt_trichotomy x table.mailboxes.length with hlt | rfl | hgt
  · rw [List.getElem?_append_left hlt, if_neg (Nat.ne_of_lt hlt)]
  · simp
  · rw [if_neg (Nat.ne_of_gt hgt), List.getElem?_eq_none (by simp; omega),
      List.getElem?_eq_none (Nat.le_of_lt hgt)]

/-- What a mailbox holds after a step of a call, it held before, or it was just given. -/
theorem CallerMove.filled (hm : CallerMove s i c e c' t) (hs : Regular k s h)
    (hc : s.caller? i = some c) (hb : t.table.box? slot = some (.holding o)) :
    s.table.box? slot = some (.holding o) ∨ Filled s e slot o := by
  have forgotten (id' : RequestId) (hb : (s.table.forget id').box? slot = some (.holding o)) :
      s.table.box? slot = some (.holding o) := by
    rcases PendingTable.box?_forget hs.sound id' slot with ⟨-, he⟩ | ⟨-, he⟩
    · simp [he] at hb
    · exact he ▸ hb
  cases hm with
  | registered hr =>
      obtain ⟨-, hx⟩ := box?_register? (hs.calls.waiter?_of_numbered hc) hr
      rw [hx] at hb
      split at hb
      · simp at hb
      · exact .inl hb
  | withdrawn => exact .inl (forgotten _ hb)
  | forgotten => exact .inl (forgotten _ hb)
  | settled ht =>
      obtain ⟨hbox, rfl⟩ := PendingTable.take_holding ht
      rw [PendingTable.box?_put _ (List.getElem?_eq_some_iff.mp hbox).1] at hb
      split at hb
      · simp at hb
      · exact .inl hb
  | closeTable => exact filled_of_close hs.sound rfl hb
  | _ => exact .inl hb

/-- What a mailbox holds after a step of the router, it held before, or it was just given. -/
theorem RouterMove.filled (hm : RouterMove s e t) (hs : s.table.Sound)
    (hb : t.table.box? slot = some (.holding o)) :
    s.table.box? slot = some (.holding o) ∨ Filled s e slot o := by
  cases hm with
  | workerLost hr ha hw hc => exact filled_of_close hs rfl hb
  | @delivered a hr =>
      cases a with
      | ready => exact .inl hb
      | initFailed message => exact .inl hb
      | result id payload => exact filled_of_settle hs rfl rfl hb
      | error id message logs => exact filled_of_settle hs rfl rfl hb
  | _ => exact .inl hb

/-- What a mailbox holds after any step, it held before, or it was just given. -/
theorem Move.filled (hm : Move k s e t) (hs : Regular k s h)
    (hb : t.table.box? slot = some (.holding o)) :
    s.table.box? slot = some (.holding o) ∨ Filled s e slot o := by
  cases hm with
  | caller hc hm => exact hm.filled hs hc hb
  | router hm => exact hm.filled hs.sound hb
  | _ => exact .inl hb

/-- **What a mailbox is given is the verdict** for its id. -/
theorem Regular.verdict_of_filled (hs : Regular k s h) (hr : .registered i id slot ∈ h)
    (hf : Filled s e slot o) : Verdict (h ++ e.toList) id o := by
  obtain ⟨hb, ⟨reason, rfl, rfl⟩ | ⟨a, id', rfl, ho, hw⟩⟩ := hf
  · exact .of_closing (hs.unsettled hr hb).1 (hs.unsettled hr hb).2
  · obtain ⟨j, hj⟩ := hs.calls.boxes.waiters id' slot hw
    obtain ⟨-, rfl⟩ := hs.calls.boxes.registered_unique hr hj
    exact .of_delivery (hs.unsettled hr hb).1 ho

/-- A mailbox after its table was closed or an id settled is still kept. -/
theorem Kept.close (hk : Kept s.table d) (hs : s.table.Sound) (o : Outcome) :
    Kept (s.table.close o).2 d := by
  intro id slot hd
  obtain ⟨m, hm, hne⟩ := hk id slot hd
  rcases PendingTable.box?_close hs o slot with ⟨-, he⟩ | ⟨-, he⟩
  · exact ⟨_, he, by simp⟩
  · exact ⟨m, he.trans hm, hne⟩

theorem Kept.settle (hk : Kept s.table d) (hs : s.table.Sound) (id' : RequestId) (o : Outcome) :
    Kept (s.table.settle id' o).2 d := by
  intro id slot hd
  obtain ⟨m, hm, hne⟩ := hk id slot hd
  rcases PendingTable.box?_settle hs id' o slot with ⟨-, he⟩ | ⟨-, he⟩
  · exact ⟨_, he, by simp⟩
  · exact ⟨m, he.trans hm, hne⟩

/-- Forgetting the id of one call leaves the mailbox of another one alone. -/
theorem Kept.forget (hk : Kept s.table d) (hs : Regular k s h) (hd : s.caller? j = some d)
    (hij : i ≠ j) (hn : .numbered i id ∈ h) : Kept (s.table.forget id) d := by
  intro id' slot hm
  obtain ⟨m, hbox, hne⟩ := hk id' slot hm
  rcases PendingTable.box?_forget hs.sound id slot with ⟨hw, -⟩ | ⟨-, he⟩
  · obtain ⟨n, hreg⟩ := hs.calls.boxes.waiters id slot hw
    obtain ⟨rfl, rfl⟩ := hs.mailbox_apart hd hm hreg
    exact absurd (hs.calls.ids.caller_eq hn (hs.calls.ids.registered _ _ _ hreg)) hij
  · exact ⟨m, he.trans hbox, hne⟩

/-- A step of one call leaves the mailbox of another one alone. -/
theorem CallerMove.kept_other (hm : CallerMove s i c e c' t) (hs : Regular k s h)
    (hc : s.caller? i = some c) (hd : s.caller? j = some d) (hij : i ≠ j)
    (hk : Kept s.table d) : Kept t.table d := by
  have story := hs.calls.stories i c hc
  generalize hes : deeds i h = es at story
  cases hm with
  | registered hr =>
      obtain ⟨rfl, hx⟩ := box?_register? (hs.calls.waiter?_of_numbered hc) hr
      intro id slot hmb
      obtain ⟨m, hbox, hne⟩ := hk id slot hmb
      have hlt : slot < s.table.mailboxes.length := (List.getElem?_eq_some_iff.mp hbox).1
      exact ⟨m, by rw [hx, if_neg (Nat.ne_of_lt hlt), hbox], hne⟩
  | withdrawn =>
      cases story
      exact hk.forget hs hd hij (mem_of_mem_deeds (i := i) (by simp [hes]))
  | forgotten =>
      cases story
      exact hk.forget hs hd hij (mem_of_mem_deeds (i := i) (by simp [hes]))
  | @settled id slot o table ht =>
      obtain ⟨hbox, rfl⟩ := PendingTable.take_holding ht
      intro id' slot' hmb
      obtain ⟨m, hbox', hne⟩ := hk id' slot' hmb
      have hreg := hs.registered_of_mailbox? hc (rfl : _ = some (id, slot))
      have apart : slot' ≠ slot := by
        rintro rfl
        exact hij (hs.mailbox_apart hd hmb hreg).1.symm
      exact ⟨m, by rw [PendingTable.box?_put _ (List.getElem?_eq_some_iff.mp hbox).1,
        if_neg apart, hbox'], hne⟩
  | closeTable => exact hk.close hs.sound _
  | _ => exact hk

/-- A call that has a mailbox after its step has just got it, or had it before. -/
theorem CallerMove.kept_self (hm : CallerMove s i c e c' t) (hs : Regular k s h)
    (hc : s.caller? i = some c) (hk : Kept s.table c) : Kept t.table c' := by
  intro id slot hmb
  cases hm with
  | @registered p id' slot' table hr =>
      obtain ⟨-, hx⟩ := box?_register? (hs.calls.waiter?_of_numbered hc) hr
      simp only [Caller.mailbox?, Option.some.injEq, Prod.mk.injEq] at hmb
      obtain ⟨-, rfl⟩ := hmb
      exact ⟨.waiting, by rw [hx, if_pos rfl], by simp⟩
  | sent hw hq => exact hk id slot hmb
  | counted => exact hk id slot hmb
  | @stopWorker o hw => cases o <;> simp [Caller.ofOutcome, Caller.mailbox?] at hmb
  | @noWorker o hw => cases o <;> simp [Caller.ofOutcome, Caller.mailbox?] at hmb
  | _ => simp [Caller.mailbox?] at hmb

/-! ### Ends -/

/-- A call that is over has no more to do. -/
theorem Move.deeds_of_done (hm : Move k s e t) (hd : s.caller? i = some (.done o)) :
    deeds i e.toList = [] := by
  cases hm with
  | call task => simp [Nat.ne_of_gt (caller_lt hd)]
  | @caller j c e c' u hc hm =>
      refine hm.deeds_eq_nil ?_
      rintro rfl
      rw [hd, Option.some.injEq] at hc
      subst hc
      cases hm
  | worker hm => cases hm <;> simp
  | router hm => cases hm <;> simp
  | _ => rfl

/-- **How a registered call ends**: with what is in its mailbox, or without having sent, or
because its time was over. -/
theorem CallerMove.fate (hm : CallerMove s i c e (.done o) t) (hs : Regular k s h)
    (hf : Fates s h) (hc : s.caller? i = some c) (hr : .registered i id slot ∈ h) :
    Fate h i id o := by
  have deed := mem_deeds hr (i := i) rfl
  have story := hs.calls.stories i c hc
  generalize hes : deeds i h = es at story deed
  generalize hend : Caller.done o = c' at hm
  cases hm with
  | withdrawn =>
      cases story
      cases hend
      exact .unsent (by simp [hes])
  | @settled id' slot' o' table ht =>
      cases hend
      obtain ⟨hbox, -⟩ := PendingTable.take_holding ht
      have punctual := hs.not_expired hc rfl
      cases story
      simp only [List.mem_cons, Occurrence.registered.injEq, reduceCtorEq, List.not_mem_nil,
        true_and, false_or, or_false] at deed
      obtain ⟨rfl, rfl⟩ := deed
      exact .found (hf.holding i id slot o hr hbox) punctual
  | @dropped id' slot' table ht =>
      obtain ⟨m, hbox, hne⟩ := hf.kept i _ hc id' slot' rfl
      have := PendingTable.take_fst hbox
      rw [ht] at this
      exact absurd this.symm hne
  | @stopWorker o' hw =>
      cases story with
      | timedOut hp =>
          cases hend
          exact .expired (mem_of_mem_deeds (i := i) (by simp [hes]))
      | disposing => simp [Caller.ofOutcome] at hend
  | @noWorker o' hw =>
      cases story with
      | timedOut hp =>
          cases hend
          exact .expired (mem_of_mem_deeds (i := i) (by simp [hes]))
      | disposing => simp [Caller.ofOutcome] at hend
  | refused hcl => cases story; simp at deed
  | rejected hcl he => cases story; simp at deed
  | engineFailed hq => cases story; simp at deed
  | shut hq => cases story; simp at deed
  | unregistered hq => cases story; simp at deed
  | _ => simp at hend

/-! ### Moves -/

theorem fates_spawn : Fates (spawn config : Session ε) [] where
  holding := by simp
  kept := by simp [spawn, caller?]
  ends := by simp

theorem mem_of_deeds_eq_nil {h' : List Occurrence} {x : Occurrence} (hd : deeds i h' = [])
    (hx : x ∈ h ++ h') (hi : x.caller? = some i) : x ∈ h := by
  rcases List.mem_append.mp hx with hx | hx
  · exact hx
  · have := mem_deeds hx hi
    rw [hd] at this
    exact absurd this List.not_mem_nil

/-- A call that is over stays so, and has no more to do. -/
theorem Fates.ends_later (hf : Fates s h) (hd : s.caller? i = some (.done o))
    (he : deeds i e.toList = []) (hr : .registered i id slot ∈ h ++ e.toList) :
    Fate (h ++ e.toList) i id o :=
  (hf.ends i id slot o hd (mem_of_deeds_eq_nil he hr rfl)).later he

/-- A call that ends does nothing else in that step. -/
theorem CallerMove.eq_none_of_done (hm : CallerMove s i c e (.done o) t) : e = none := by
  generalize hend : Caller.done o = c' at hm
  cases hm <;> first | rfl | cases hend

/-- **Mailboxes hold the verdicts** after a step. -/
theorem Fates.holding_move (hf : Fates s h) (hs : Regular k s h) (hm : Move k s e t)
    (hr : .registered i id slot ∈ h ++ e.toList)
    (hb : t.table.box? slot = some (.holding o)) : Verdict (h ++ e.toList) id o := by
  have cases := hm.filled hs hb
  have hlt : slot < s.table.mailboxes.length := by
    rcases cases with hbox | hbox
    · exact (List.getElem?_eq_some_iff.mp hbox).1
    · exact (List.getElem?_eq_some_iff.mp hbox.1).1
  -- the mailbox is not a new one, so it was opened before this step, and only then
  have hmem : slot ∈ slots h := by
    rw [hs.calls.boxes.slots]
    exact List.mem_range.mpr hlt
  obtain ⟨x, hx, hslot⟩ := List.mem_filterMap.mp hmem
  cases x <;> simp at hslot
  subst hslot
  obtain ⟨rfl, rfl⟩ := (hs.move hm).calls.boxes.registered_unique hr (List.mem_append_left _ hx)
  rcases cases with hbox | hbox
  · exact (hf.holding _ _ _ o hx hbox).later _
  · exact hs.verdict_of_filled hx hbox

/-- A step of a call keeps what mailboxes hold and how calls end. -/
theorem Fates.callerMove (hf : Fates s h) (hs : Regular k s h) (hc : s.caller? i = some c)
    (hm : CallerMove s i c e c' t) : Fates (t.setCaller i c') (h ++ e.toList) where
  holding := fun j id slot o hr hb => hf.holding_move hs (.caller hc hm) hr hb
  kept := by
    intro j d hd
    rcases caller?_setCaller_cases hd with ⟨-, rfl⟩ | ⟨hj, hd⟩
    · exact hm.kept_self hs hc (hf.kept i c hc)
    · rw [caller?_eq_of_callers_eq hm.callers_eq] at hd
      exact hm.kept_other hs hc hd hj.symm (hf.kept j d hd)
  ends := by
    intro j id slot o hd hr
    rcases caller?_setCaller_cases hd with ⟨rfl, rfl⟩ | ⟨hj, hd⟩
    · obtain rfl := hm.eq_none_of_done
      rw [Option.toList, List.append_nil] at hr ⊢
      exact hm.fate hs hf hc hr
    · rw [caller?_eq_of_callers_eq hm.callers_eq] at hd
      exact hf.ends_later hd (hm.deeds_eq_nil hj) hr

/-- A step that touches no call keeps them, if it gives up no mailbox. -/
theorem Fates.quiet (hf : Fates s h) (hs : Regular k s h) (hm : Move k s e t)
    (hcs : t.callers = s.callers) (hk : ∀ d, Kept s.table d → Kept t.table d) :
    Fates t (h ++ e.toList) where
  holding := fun j id slot o hr hb => hf.holding_move hs hm hr hb
  kept := by
    intro j d hd
    rw [caller?_eq_of_callers_eq hcs] at hd
    exact hk d (hf.kept j d hd)
  ends := by
    intro j id slot o hd hr
    rw [caller?_eq_of_callers_eq hcs] at hd
    exact hf.ends_later hd (hm.deeds_of_done hd) hr

/-- A call that begins has no mailbox and is not over. -/
theorem Fates.addCaller (hf : Fates s h) (hs : Regular k s h)
    (hm : Move k s e (s.addCaller c)) (hmb : c.mailbox? = none) (hd : c.outcome? = none) :
    Fates (s.addCaller c) (h ++ e.toList) where
  holding := fun j id slot o hr hb => hf.holding_move hs hm hr hb
  kept := by
    intro j d hj
    rcases caller?_addCaller_cases hj with hj | ⟨-, rfl⟩
    · exact hf.kept j d hj
    · simp [Kept, hmb]
  ends := by
    intro j id slot o hj hr
    rcases caller?_addCaller_cases hj with hj | ⟨-, rfl⟩
    · exact hf.ends_later hj (hm.deeds_of_done hj) hr
    · simp [Caller.outcome?] at hd

/-- **One move** keeps what mailboxes hold and how calls end. -/
theorem Fates.move (hf : Fates s h) (hs : Regular k s h) (hm : Move k s e t) :
    Fates t (h ++ e.toList) := by
  have all := hm
  cases hm with
  | call task => exact hf.addCaller hs all rfl rfl
  | dispose => exact hf.addCaller hs all rfl rfl
  | caller hc hm => exact hf.callerMove hs hc hm
  | worker hm => exact hf.quiet hs all rfl fun _ hk => hk
  | loseWorker => exact hf.quiet hs all rfl fun _ hk => hk
  | router hm =>
      cases hm with
      | workerLost hr ha hw hc => exact hf.quiet hs all rfl fun _ hk => hk.close hs.sound _
      | @delivered a hr =>
          cases a with
          | ready => exact hf.quiet hs all rfl fun _ hk => hk
          | initFailed message => exact hf.quiet hs all rfl fun _ hk => hk
          | result id payload => exact hf.quiet hs all rfl fun _ hk => hk.settle hs.sound _ _
          | error id message logs => exact hf.quiet hs all rfl fun _ hk => hk.settle hs.sound _ _
      | _ => exact hf.quiet hs all rfl fun _ hk => hk

end

/-- **Mailboxes and ends are as the history says** after every run, and all else that is known
of runs holds too. -/
theorem fates_of_run {acts : List Action} {s : Session ε}
    (hr : runActions k (spawn config) acts = some s) :
    Regular k s (history k (spawn config) acts) ∧ Fates s (history k (spawn config) acts) :=
  run_induction (motive := fun s h => Regular k s h ∧ Fates s h) ⟨regular_spawn, fates_spawn⟩
    (fun _ _ _ _ hs hm => ⟨hs.1.move hm, hs.2.move hs.1 hm⟩) hr

end Session

end PatchSandbox
