import Mathlib.Data.List.Nodup
import Mathlib.Data.List.Pairwise
import PatchSandbox.Proofs.Session.Closing
import PatchSandbox.Proofs.Session.Correlation

/-!
# No request is lost

A request that was sent moves through four **places**: the worker's queue, the worker's hand,
the way back, and the table, where its answer is delivered. As long as the worker has not
stopped, the ids in these places, read backwards, are the ids that were sent
(**`sentIds_eq`**): none is lost, none is there twice, and none overtakes another.

* **`Waiters`** ties the other end of a request to this: whoever waits in the table is about to
  send, or has sent and not got its answer.
* **`Counted`**: the counter is behind by the calls that have sent and not counted yet.
* **`requests_accounted`** puts the three together.
-/

namespace PatchSandbox

/-- The call has its mailbox, and has not sent its request. -/
def Caller.Holds (c : Caller) (id : RequestId) (slot : Nat) : Prop :=
  (∃ p, c = .registered p id slot) ∨ c = .unsent id

/-- The call has sent its request, and not counted it yet. -/
def Caller.isUncounted : Caller → Bool
  | .sent _ _ => true
  | _ => false

namespace Session

/-- Where a request that was sent can be. -/
inductive Place where
  /-- It waits on the worker's queue. -/
  | queued
  /-- The worker holds it, or the answer to it. -/
  | handled
  /-- Its answer waits on the queue of answers, or the router is just handing it on. -/
  | returning
  /-- Its answer was handed on. -/
  | delivered
  deriving DecidableEq, Repr

/-- All places, the last one first. -/
def Place.all : List Place := [.delivered, .returning, .handled, .queued]

theorem Place.mem_all (p : Place) : p ∈ Place.all := by
  cases p <;> decide

variable {ε : Type} {k : EngineKind ε} {config : Config}

/-- The ids of requests, or of the answers to them, in a place; older ones first. -/
def idsAt (s : Session ε) (h : List Occurrence) : Place → List RequestId
  | .queued => s.worker.requests.filterMap Request.id?
  | .handled =>
    s.worker.phase.answer?.toList.filterMap Response.id? ++
      s.worker.phase.request?.toList.filterMap Request.id?
  | .returning => (s.router.answer?.toList ++ s.worker.responses).filterMap Response.id?
  | .delivered => (deliveries h).filterMap Response.id?

/-- The ids of the requests that calls have sent, in order. -/
def sentIds (h : List Occurrence) : List RequestId := (sends h).filterMap Request.id?

/-! ### The places hold what was sent -/

section

variable {s : Session ε} {h : List Occurrence} {i : Nat} {id : RequestId}

/-- **What was sent is what is in the places**, as long as the worker has not stopped. -/
theorem sentIds_eq (hch : Channels s.worker s.router h) (ha : Answers k s.worker h)
    (live : s.worker.isStopped = false) : sentIds h = Place.all.flatMap (s.idsAt h) := by
  have requests := congrArg (List.filterMap Request.id?) hch.requests
  have held := congrArg (List.filterMap Request.id?) (hch.held live)
  have ready := congrArg (List.filterMap Response.id?) (hch.ready live)
  have same := filterMap_answers ha
  simp only [List.filterMap_append, List.filterMap_map, List.filterMap_cons, Request.id?,
    Function.comp_def] at requests held ready same
  rw [sentIds, requests, held, same, ready, hch.responses, hch.received]
  simp [Place.all, idsAt]

/-- What is in several lists only once, is in one of them only. -/
theorem exists_unique_of_nodup_flatMap {α β : Type} [BEq β] [LawfulBEq β] {l : List α}
    {f : α → List β} (distinct : (l.flatMap f).Nodup) {b : β} (hb : b ∈ l.flatMap f) :
    ∃ a ∈ l, (f a).count b = 1 ∧ ∀ a' ∈ l, a' ≠ a → b ∉ f a' := by
  obtain ⟨each, apart⟩ := List.nodup_flatMap.mp distinct
  obtain ⟨a, ha, hba⟩ := List.mem_flatMap.mp hb
  refine ⟨a, ha, List.count_eq_one_of_mem (each a ha) hba, fun a' ha' hne hba' => ?_⟩
  have symmetric : Std.Symm (Function.onFun List.Disjoint f) := ⟨fun _ _ hd _ hb ha => hd ha hb⟩
  exact apart.forall ha ha' hne.symm hba hba'

/-- As long as a call has sent nothing, nothing is handed on under its id. -/
theorem undelivered_of_unsent (hs : Calls s h) (hch : Channels s.worker s.router h)
    (ha : Answers k s.worker h) (hn : .numbered i id ∈ h) (hu : sends (deeds i h) = []) :
    ∀ a ∈ deliveries h, a.id? ≠ some id := by
  intro a hd hid
  obtain ⟨r, -, hr, hsent⟩ := exists_sent_of_delivered hch ha hd hid
  obtain ⟨j, hj⟩ := mem_sends.mp hsent
  obtain ⟨n, hn', hnum⟩ := hs.ids.sent j r hj
  obtain rfl : n = id := Option.some.inj (hn'.symm.trans hr)
  obtain rfl := hs.ids.caller_eq hn hnum
  have : r ∈ sends (deeds i h) := mem_sends.mpr ⟨i, mem_deeds hj rfl⟩
  simp [hu] at this

end

/-! ### Who waits in the table -/

/-- Whoever waits in the table has a call or a request, and no answer yet. -/
structure Waiters (s : Session ε) (h : List Occurrence) : Prop where
  owned : ∀ id slot, (id, slot) ∈ s.table.waiters →
    (∃ i c, s.caller? i = some c ∧ c.Holds id slot) ∨ id ∈ sentIds h
  undelivered : ∀ id slot, (id, slot) ∈ s.table.waiters → ∀ a ∈ deliveries h, a.id? ≠ some id

section

variable {s t : Session ε} {h h' : List Occurrence} {i : Nat} {c c' : Caller}
  {e : Option Occurrence}

theorem sentIds_append (h h' : List Occurrence) : sentIds (h ++ h') = sentIds h ++ sentIds h' := by
  simp [sentIds]

/-- Whoever held an id that still waits holds it on, or has sent. -/
theorem CallerMove.hold (hm : CallerMove s i c e c' t) {id : RequestId} {slot : Nat}
    (hw : (id, slot) ∈ t.table.waiters) (ho : c.Holds id slot) :
    c'.Holds id slot ∨ id ∈ sentIds e.toList := by
  rcases ho with ⟨p, rfl⟩ | rfl
  · cases hm with
    | sent hok hq => exact .inr (by simp [sentIds])
    | unsent hn => exact .inl (.inr rfl)
  · cases hm with
    | withdrawn => exact absurd rfl (PendingTable.mem_waiters_forget.mp hw).2

/-- A step of a call adds nobody to the table, unless the call registers. -/
theorem CallerMove.waiters (hm : CallerMove s i c e c' t) :
    (∀ w ∈ t.table.waiters, w ∈ s.table.waiters) ∨
      ∃ p id slot table, c = .numbered p id ∧ c' = .registered p id slot ∧
        e = some (.registered i id slot) ∧ s.table.register? id = some (slot, table) ∧
        t = { s with table } := by
  cases hm with
  | registered hr => exact .inr ⟨_, _, _, _, rfl, rfl, rfl, hr, rfl⟩
  | withdrawn => exact .inl fun _ hw => (PendingTable.mem_waiters_forget.mp hw).1
  | forgotten => exact .inl fun _ hw => (PendingTable.mem_waiters_forget.mp hw).1
  | closeTable => exact .inl fun _ hw => by simp at hw
  | settled ht =>
      obtain ⟨-, rfl⟩ := PendingTable.take_holding ht
      exact .inl fun _ hw => hw
  | _ => exact .inl fun _ hw => hw

theorem CallerMove.deliveries_eq_nil (hm : CallerMove s i c e c' t) :
    deliveries e.toList = [] := by
  cases hm <;> rfl

/-- What happens elsewhere takes nothing from whoever waits. -/
theorem Waiters.later (hw : Waiters s h) (hcs : t.callers = s.callers)
    (sub : ∀ w ∈ t.table.waiters, w ∈ s.table.waiters) (he : deliveries h' = []) :
    Waiters t (h ++ h') where
  owned := by
    intro id slot hm
    rcases hw.owned id slot (sub _ hm) with ⟨i, c, hc, ho⟩ | hsent
    · rw [← caller?_eq_of_callers_eq hcs] at hc
      exact .inl ⟨i, c, hc, ho⟩
    · exact .inr (by simp [sentIds_append, hsent])
  undelivered := by
    intro id slot hm a ha
    rw [deliveries_append, he, List.append_nil] at ha
    exact hw.undelivered id slot (sub _ hm) a ha

/-- A call takes a step. If it holds the id of one that waits on, it holds it afterwards, or
has sent. -/
theorem Waiters.setCaller (hw : Waiters t h) (hc : t.caller? i = some c)
    (keep : ∀ id slot, (id, slot) ∈ t.table.waiters → c.Holds id slot →
      c'.Holds id slot ∨ id ∈ sentIds h) : Waiters (t.setCaller i c') h where
  owned := by
    intro id slot hm
    rcases hw.owned id slot hm with ⟨j, d, hd, ho⟩ | hsent
    · by_cases hj : j = i
      · subst hj
        obtain rfl : d = c := Option.some.inj (hd.symm.trans hc)
        exact (keep id slot hm ho).imp_left fun ho' => ⟨j, c', caller?_setCaller_self hc, ho'⟩
      · exact .inl ⟨j, d, (caller?_setCaller_of_ne hj).trans hd, ho⟩
    · exact .inr hsent
  undelivered := hw.undelivered

/-- One more waits, who has just got a mailbox under a new id. -/
theorem Waiters.register (hw : Waiters s h) (hs : Calls s h)
    (hch : Channels s.worker s.router h) (ha : Answers k s.worker h) {p : Submission}
    {id : RequestId} {slot : Nat} {table : PendingTable Outcome}
    (hc : s.caller? i = some (.numbered p id)) (hr : s.table.register? id = some (slot, table)) :
    Waiters ({ s with table }.setCaller i (.registered p id slot))
      (h ++ [.registered i id slot]) := by
  obtain ⟨-, -, rfl⟩ := PendingTable.register?_of_fresh (hs.waiter?_of_numbered hc) hr
  have story := hs.stories i _ hc
  generalize hd : deeds i h = es at story
  cases story
  have hn : .numbered i id ∈ h := mem_of_mem_deeds (i := i) (by simp [hd])
  have fresh := undelivered_of_unsent hs hch ha hn (by simp [hd])
  constructor
  · intro id' slot' hm
    rcases List.mem_cons.mp hm with he | hm
    · obtain ⟨rfl, rfl⟩ := Prod.mk.inj he
      exact .inl ⟨i, _, caller?_setCaller_self hc, .inl ⟨p, rfl⟩⟩
    · rcases hw.owned id' slot' hm with ⟨j, d, hj, ho⟩ | hsent
      · have hij : j ≠ i := by
          rintro rfl
          rw [hc, Option.some.injEq] at hj
          subst hj
          simp [Caller.Holds] at ho
        exact .inl ⟨j, d, (caller?_setCaller_of_ne hij).trans hj, ho⟩
      · exact .inr (by simp [sentIds_append, hsent])
  · intro id' slot' hm a hmem
    have hmem : a ∈ deliveries h := by simpa using hmem
    rcases List.mem_cons.mp hm with he | hm
    · rw [(Prod.mk.inj he).1]
      exact fresh a hmem
    · exact hw.undelivered id' slot' hm a hmem

theorem Waiters.callerMove (hw : Waiters s h) (hs : Calls s h)
    (hch : Channels s.worker s.router h) (ha : Answers k s.worker h)
    (hc : s.caller? i = some c) (hm : CallerMove s i c e c' t) :
    Waiters (t.setCaller i c') (h ++ e.toList) := by
  rcases hm.waiters with sub | ⟨p, id, slot, table, rfl, rfl, rfl, hr, rfl⟩
  · have hct : t.caller? i = some c := (caller?_eq_of_callers_eq hm.callers_eq i).trans hc
    refine (hw.later hm.callers_eq sub hm.deliveries_eq_nil).setCaller hct fun id slot hwait ho => ?_
    exact (hm.hold hwait ho).imp_right fun hsent => by simp [sentIds_append, hsent]
  · exact hw.register hs hch ha hc hr

/-- Whoever waits on after an answer was handed on, waited for another one. -/
theorem mem_waiters_deliver {a : Response} {w : RequestId × Nat}
    (hm : w ∈ (s.deliver a).table.waiters) : w ∈ s.table.waiters ∧ a.id? ≠ some w.1 := by
  cases a with
  | ready => exact ⟨hm, by simp [Response.id?]⟩
  | initFailed message => exact ⟨hm, by simp [Response.id?]⟩
  | result id payload =>
      obtain ⟨hm, hne⟩ := PendingTable.mem_waiters_settle.mp hm
      exact ⟨hm, fun he => hne (Option.some.inj he).symm⟩
  | error id message logs =>
      obtain ⟨hm, hne⟩ := PendingTable.mem_waiters_settle.mp hm
      exact ⟨hm, fun he => hne (Option.some.inj he).symm⟩

theorem Waiters.deliver (hw : Waiters s h) (a : Response) :
    Waiters { s.deliver a with router := .idle } (h ++ [.delivered a]) where
  owned := by
    intro id slot hm
    rcases hw.owned id slot (mem_waiters_deliver hm).1 with ⟨i, c, hc, ho⟩ | hsent
    · exact .inl ⟨i, c, (caller?_eq_of_callers_eq (callers_deliver s a) i).trans hc, ho⟩
    · exact .inr (by simp [sentIds_append, hsent])
  undelivered := by
    intro id slot hm b hb
    obtain ⟨hm, hne⟩ := mem_waiters_deliver hm
    rw [deliveries_append, List.mem_append] at hb
    rcases hb with hb | hb
    · exact hw.undelivered id slot hm b hb
    · obtain rfl : b = a := by simpa using hb
      exact hne

/-- One more call has begun. -/
theorem Waiters.addCaller (hw : Waiters s h) (he : deliveries h' = []) :
    Waiters (s.addCaller c) (h ++ h') where
  owned := by
    intro id slot hm
    rcases hw.owned id slot hm with ⟨i, d, hd, ho⟩ | hsent
    · exact .inl ⟨i, d, (caller?_addCaller_of_lt (caller_lt hd)).trans hd, ho⟩
    · exact .inr (by simp [sentIds_append, hsent])
  undelivered := by
    intro id slot hm a ha
    rw [deliveries_append, he, List.append_nil] at ha
    exact hw.undelivered id slot hm a ha

/-- **One move** takes nothing from whoever waits. -/
theorem Waiters.move (hw : Waiters s h) (hs : Calls s h) (hch : Channels s.worker s.router h)
    (ha : Answers k s.worker h) (hm : Move k s e t) : Waiters t (h ++ e.toList) := by
  cases hm with
  | call task => exact hw.addCaller rfl
  | dispose => exact hw.addCaller rfl
  | caller hc hm => exact hw.callerMove hs hch ha hc hm
  | worker hm => exact hw.later rfl (fun _ hm => hm) (by cases hm <;> rfl)
  | loseWorker => exact hw.later rfl (fun _ hm => hm) rfl
  | router hm =>
      cases hm with
      | received hr hq => exact hw.later rfl (fun _ hm => hm) rfl
      | ended hr hq hst hcl => exact hw.later rfl (fun _ hm => hm) rfl
      | workerLost hr hq hst hcl => exact hw.later rfl (fun _ hm => by simp at hm) rfl
      | delivered hr => exact hw.deliver _
      | shut hr => exact hw.later rfl (fun _ hm => hm) rfl

/-- All that is known of the state and the history of a run. -/
structure Regular (k : EngineKind ε) (s : Session ε) (h : List Occurrence) : Prop where
  channels : Channels s.worker s.router h
  answers : Answers k s.worker h
  calls : Calls s h
  waiters : Waiters s h
  closure : Closure s h

theorem regular_spawn : Regular k (spawn config : Session ε) [] where
  channels := channels_start
  answers := ⟨rfl, by simp⟩
  calls := calls_spawn
  waiters := ⟨by simp [spawn], by simp⟩
  closure := closure_spawn

/-- **One move** keeps all of it. -/
theorem Regular.move (hs : Regular k s h) (hm : Move k s e t) : Regular k t (h ++ e.toList) where
  channels := hs.channels.move hm
  answers := hs.answers.move hm
  calls := hs.calls.move hs.channels hm
  waiters := hs.waiters.move hs.calls hs.channels hs.answers hm
  closure := hs.closure.move hm

theorem regular_of_run {acts : List Action} {s : Session ε}
    (hr : runActions k (spawn config) acts = some s) :
    Regular k s (history k (spawn config) acts) :=
  run_induction (motive := fun s h => Regular k s h) regular_spawn
    (fun _ _ _ _ hs hm => hs.move hm) hr

end

/-! ### The counter -/

/-- How many calls have sent and not counted yet. -/
def uncounted (s : Session ε) : Nat := s.callers.countP Caller.isUncounted

section

variable {s t : Session ε} {h : List Occurrence} {i : Nat} {c c' : Caller}
  {e : Option Occurrence}

/-- A step of a call sends, or counts, or does neither. -/
theorem CallerMove.counts (hm : CallerMove s i c e c' t) :
    t.dispatched + c'.isUncounted.toNat =
      s.dispatched + c.isUncounted.toNat + (sends e.toList).length := by
  cases hm with
  | @stopWorker o hw => cases o <;> simp [Caller.isUncounted, Caller.ofOutcome]
  | @noWorker o hw => cases o <;> simp [Caller.isUncounted, Caller.ofOutcome]
  | _ => simp [Caller.isUncounted]

theorem uncounted_setCaller (hc : s.caller? i = some c) :
    (s.setCaller i c').uncounted + c.isUncounted.toNat =
      s.uncounted + c'.isUncounted.toNat := by
  obtain ⟨hlt, rfl⟩ := List.getElem?_eq_some_iff.mp hc
  have positive : (s.callers[i]).isUncounted.toNat ≤ s.uncounted := by
    cases hu : (s.callers[i]).isUncounted with
    | false => exact Nat.zero_le _
    | true => exact List.countP_pos_iff.mpr ⟨_, List.getElem_mem hlt, hu⟩
  simp only [uncounted, setCaller, List.countP_set hlt] at positive ⊢
  cases hu : (s.callers[i]).isUncounted <;> cases c'.isUncounted <;> simp_all

/-- The counter is behind by the calls that have sent and not counted yet. -/
def Counted (s : Session ε) (h : List Occurrence) : Prop :=
  s.dispatched + s.uncounted = (sends h).length

theorem Counted.callerMove (hn : Counted s h) (hc : s.caller? i = some c)
    (hm : CallerMove s i c e c' t) : Counted (t.setCaller i c') (h ++ e.toList) := by
  have hct : t.caller? i = some c := (caller?_eq_of_callers_eq hm.callers_eq i).trans hc
  have same : t.uncounted = s.uncounted := congrArg (List.countP Caller.isUncounted) hm.callers_eq
  have step := hm.counts
  have set : (t.setCaller i c').uncounted + c.isUncounted.toNat =
      t.uncounted + c'.isUncounted.toNat := uncounted_setCaller hct
  unfold Counted at hn ⊢
  rw [sends_append, List.length_append, ← hn]
  change t.dispatched + _ = _
  omega

theorem Counted.move (hn : Counted s h) (hm : Move k s e t) : Counted t (h ++ e.toList) := by
  have quiet (hd : t.dispatched + t.uncounted = s.dispatched + s.uncounted)
      (he : sends e.toList = []) : Counted t (h ++ e.toList) := by
    rw [Counted, hd, sends_append, he, List.append_nil]
    exact hn
  cases hm with
  | call task => exact quiet (by simp [uncounted, addCaller, Caller.isUncounted]) rfl
  | dispose => exact quiet (by simp [uncounted, addCaller, Caller.isUncounted]) rfl
  | caller hc hm => exact hn.callerMove hc hm
  | worker hm => exact quiet rfl (by cases hm <;> rfl)
  | loseWorker => exact quiet rfl rfl
  | router hm =>
      cases hm with
      | @delivered a hr => cases a <;> exact quiet rfl rfl
      | _ => exact quiet rfl rfl

end

theorem counted_of_run {acts : List Action} {s : Session ε}
    (hr : runActions k (spawn config) acts = some s) :
    Counted s (history k (spawn config) acts) :=
  run_induction (motive := fun s h => Counted s h) rfl (fun _ _ _ _ hs hm => hs.move hm) hr

/-! ### The account -/

/-- Where the requests of a session are. -/
structure Accounted (s : Session ε) (h : List Occurrence) : Prop where
  /-- What was sent asks for evaluations. -/
  evaluations : ∀ r ∈ sends h, ∃ id, r.id? = some id
  /-- Nothing is lost, added or overtaken. -/
  conserved : sentIds h = Place.all.flatMap (s.idsAt h)
  /-- Whatever was sent is in one place, and there once. -/
  once : ∀ id ∈ sentIds h, ∃ p, (s.idsAt h p).count id = 1 ∧ ∀ q, q ≠ p → id ∉ s.idsAt h q
  /-- Whoever waits is about to send, or is going to get an answer. -/
  pending : ∀ id slot, (id, slot) ∈ s.table.waiters →
    (∃ i p, s.caller? i = some (.registered p id slot)) ∨
      ∃ p, p ≠ .delivered ∧ id ∈ s.idsAt h p
  /-- Once everyone has counted, all is counted. -/
  counted : (∀ i id slot, s.caller? i ≠ some (.sent id slot)) → s.dispatched = (sends h).length

/-- Where nobody is between sending and counting, nobody is behind. -/
theorem uncounted_eq_zero {s : Session ε}
    (hn : ∀ i id slot, s.caller? i ≠ some (.sent id slot)) : s.uncounted = 0 := by
  refine List.countP_eq_zero.mpr fun c hc => ?_
  obtain ⟨i, hi⟩ := List.getElem?_of_mem hc
  cases c with
  | sent id slot => exact absurd hi (hn i id slot)
  | _ => simp [Caller.isUncounted]

/-- **No request is lost**, as long as the worker has not stopped: each one that was sent is in
one place, and whoever waits in the table has one on the way, or is about to send it. -/
theorem requests_accounted {acts : List Action} {s : Session ε}
    (hr : runActions k (spawn config) acts = some s) (live : s.worker.isStopped = false) :
    Accounted s (history k (spawn config) acts) := by
  obtain ⟨channels, answers, hs, hw, closure⟩ := regular_of_run hr
  have conserved := sentIds_eq channels answers live
  have placed {id : RequestId} (hid : id ∈ sentIds (history k (spawn config) acts)) :
      ∃ p ∈ Place.all, id ∈ s.idsAt (history k (spawn config) acts) p :=
    List.mem_flatMap.mp (conserved ▸ hid)
  refine ⟨?_, conserved, ?_, ?_, ?_⟩
  · intro r hmem
    obtain ⟨i, hi⟩ := mem_sends.mp hmem
    obtain ⟨id, hid, -⟩ := hs.ids.sent i r hi
    exact ⟨id, hid⟩
  · intro id hid
    obtain ⟨p, -, one, others⟩ :=
      exists_unique_of_nodup_flatMap (conserved ▸ hs.sends_nodup) (conserved ▸ hid)
    exact ⟨p, one, fun q hq => others q q.mem_all hq⟩
  · intro id slot hm
    rcases hw.owned id slot hm with ⟨i, c, hc, ⟨p, rfl⟩ | rfl⟩ | hsent
    · exact .inl ⟨i, p, hc⟩
    · -- a call fails to send only when the table is empty, or the worker has stopped
      rcases closure.unsent i id hc with hclosed | hstopped
      · simp [hs.boxes.sound.closed hclosed] at hm
      · simp [hstopped] at live
    · obtain ⟨p, -, hp⟩ := placed hsent
      refine .inr ⟨p, ?_, hp⟩
      rintro rfl
      obtain ⟨a, ha, hid⟩ := List.mem_filterMap.mp hp
      exact hw.undelivered id slot hm a ha hid
  · intro none_between
    have counted := counted_of_run hr
    rwa [Counted, uncounted_eq_zero none_between] at counted

/-- Five calls under way: one has its answer, one has it on the way back, one is being handled,
one waits for the worker, and the last one has not sent yet. -/
theorem one_request_in_each_place :
    let acts := turnaround ++ List.replicate 5 (.call (.script "'use strict'")) ++
      List.replicate 6 (.proceed 0) ++ turnaround ++ List.replicate 6 (.proceed 1) ++
      List.replicate 6 (.proceed 2) ++ List.replicate 6 (.proceed 3) ++
      List.replicate 4 (.proceed 4) ++ List.replicate 6 .work
    ∃ s, runActions echo (spawn {}) acts = some s ∧ s.worker.isStopped = false ∧
      Place.all.map (s.idsAt (history echo (spawn {}) acts)) = [[1], [2], [3], [4]] ∧
      s.pending = 4 ∧ Accounted s (history echo (spawn {}) acts) := by
  intro acts
  have runs : (runActions echo (spawn {}) acts).any (fun s =>
      !s.worker.isStopped && s.pending == 4 &&
        Place.all.map (s.idsAt (history echo (spawn {}) acts)) == [[1], [2], [3], [4]]) = true := by
    decide +kernel
  obtain ⟨s, hr, facts⟩ := (Option.any_eq_true ..).mp runs
  simp only [Bool.and_eq_true, Bool.not_eq_true', beq_iff_eq] at facts
  obtain ⟨⟨live, waiting⟩, places⟩ := facts
  exact ⟨s, hr, live, places, waiting, requests_accounted hr live⟩

end Session

end PatchSandbox
