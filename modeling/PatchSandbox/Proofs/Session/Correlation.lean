import PatchSandbox.Proofs.Session.Calls

/-!
# Whose answer a call gets

Calls, the worker, the router, timeouts and disposal take their steps in any order, and an
answer finds its call by nothing but its id. That is enough:

* **`Apart`**: no call gets two ids or sends two requests, and no id is given twice.
* **`Reply`** is how a call comes to an answer: it sent one request, the worker found one
  answer to it, and that was handed on.
* **`calls_correlated`** says that every answer a call ends with came to it so, and that what
  the router hands on reaches one call at most.
-/

namespace PatchSandbox

/-- An answer carries the id of the request it is for. -/
theorem Worker.id?_of_answer {ε : Type} {k : EngineKind ε} {engine : Except String ε}
    {r : Request} {a : Response} (h : Worker.answer k engine r = some a) : a.id? = r.id? := by
  cases r with
  | init =>
      simp only [answer, Request.submission?, Option.some.injEq] at h
      subst h
      cases engine <;> rfl
  | eval id code =>
      cases engine with
      | error reason =>
          simp only [answer, Request.submission?, Option.some.injEq] at h
          subst h
          rfl
      | ok e =>
          obtain ⟨result, -, rfl⟩ := Option.map_eq_some_iff.mp h
          cases result <;> rfl
  | evalModule id entry modules =>
      cases engine with
      | error reason =>
          simp only [answer, Request.submission?, Option.some.injEq] at h
          subst h
          rfl
      | ok e =>
          obtain ⟨result, -, rfl⟩ := Option.map_eq_some_iff.mp h
          cases result <;> rfl

namespace Session

variable {ε : Type} {k : EngineKind ε} {config : Config}

/-! ### What a call does only once -/

/-- Not two requests, and not two ids. -/
def Apart (a b : Occurrence) : Prop :=
  (a.sent? = none ∨ b.sent? = none) ∧ (a.number? = none ∨ b.number? = none)

theorem Tale.apart {i : Nat} {es : List Occurrence} (h : Tale i es) : es.Pairwise Apart := by
  obtain ⟨task, id, slot, r, hp⟩ := h
  refine List.Pairwise.sublist hp.sublist ?_
  simp [Apart]

/-- A call sends one request at most. -/
theorem Tale.sends {i : Nat} {es : List Occurrence} (h : Tale i es) :
    sends es = [] ∨ ∃ r, .sent i r ∈ es ∧ sends es = [r] := by
  obtain ⟨task, id, slot, r, hp⟩ := h
  have short : Session.sends es <+: [r] := hp.filterMap Occurrence.sent?
  rcases List.prefix_cons_iff.mp short with none | ⟨rest, one, hrest⟩
  · exact .inl none
  · obtain rfl := List.prefix_nil.mp hrest
    obtain ⟨e, he, sent⟩ := List.mem_filterMap.mp (one ▸ List.mem_singleton_self r)
    have known := hp.subset he
    simp only [List.mem_cons, List.not_mem_nil, or_false] at known
    rcases known with rfl | rfl | rfl | rfl | rfl <;> simp at sent
    exact .inr ⟨r, he, one⟩

section

variable {s : Session ε} {h : List Occurrence}

theorem Calls.tale (hs : Calls s h) (i : Nat) : Tale i (deeds i h) := by
  by_cases hi : i < s.callers.length
  · exact (hs.stories i _ (List.getElem?_eq_getElem hi)).tale
  · rw [hs.strangers i (Nat.le_of_not_lt hi)]
    exact ⟨default, 0, 0, .init, List.nil_prefix⟩

/-- What happens to one call is apart. -/
theorem Calls.apart (hs : Calls s h) :
    h.Pairwise fun a b => ∀ i, a.caller? = some i → b.caller? = some i → Apart a b := by
  refine List.pairwise_iff_getElem.mpr fun m n hm hn hlt i ha hb => ?_
  have := List.pairwise_filter.mp (hs.tale i).apart
  exact List.pairwise_iff_getElem.mp this m n hm hn hlt (beq_iff_eq.mpr ha) (beq_iff_eq.mpr hb)

theorem Calls.caller_lt (hs : Calls s h) {e : Occurrence} {i : Nat} (he : e ∈ h)
    (hi : e.caller? = some i) : i < s.callers.length := by
  refine Nat.lt_of_not_le fun hle => ?_
  have := mem_deeds he hi
  rw [hs.strangers i hle] at this
  exact List.not_mem_nil this

/-- Requests with one id are sent by one call. -/
theorem Calls.sender_eq (hs : Calls s h) {i j : Nat} {r r' : Request} {id : RequestId}
    (hi : .sent i r ∈ h) (hj : .sent j r' ∈ h) (hr : r.id? = some id) (hr' : r'.id? = some id) :
    i = j := by
  obtain ⟨m, hm, hni⟩ := hs.ids.sent i r hi
  obtain ⟨n, hn, hnj⟩ := hs.ids.sent j r' hj
  obtain rfl : m = id := Option.some.inj (hm.symm.trans hr)
  obtain rfl : n = m := Option.some.inj (hn.symm.trans hr')
  exact hs.ids.caller_eq hni hnj

/-- No two requests that are sent have one id. -/
theorem Calls.sends_nodup (hs : Calls s h) : ((sends h).filterMap Request.id?).Nodup := by
  rw [sends, List.filterMap_filterMap]
  refine List.pairwise_filterMap.mpr (hs.apart.imp_of_mem ?_)
  intro a b ha hb apart id hid id' hid' he
  obtain ⟨r, hr, hid⟩ := Option.bind_eq_some_iff.mp hid
  obtain ⟨r', hr', hid'⟩ := Option.bind_eq_some_iff.mp hid'
  subst he
  cases a <;> simp at hr
  cases b <;> simp at hr'
  subst hr hr'
  obtain rfl := hs.sender_eq ha hb hid hid'
  simpa using (apart _ rfl rfl).1

/-- There are no more ids than calls. -/
theorem Calls.length_numbers_le (hs : Calls s h) : (numbers h).length ≤ s.callers.length := by
  let numbered : Occurrence → Option Nat := fun e => e.number?.bind fun _ => e.caller?
  have same : (numbers h).length = (h.filterMap numbered).length := by
    rw [numbers, List.length_filterMap_eq_countP, List.length_filterMap_eq_countP]
    refine List.countP_congr fun e _ => ?_
    cases e <;> simp [numbered]
  have distinct : (h.filterMap numbered).Nodup := by
    refine List.pairwise_filterMap.mpr (hs.apart.imp ?_)
    intro a b apart i hi j hj he
    subst he
    cases a <;> simp [numbered] at hi
    cases b <;> simp [numbered] at hj
    subst hi hj
    simpa using (apart _ rfl rfl).2
  have known : ∀ i ∈ h.filterMap numbered, i ∈ List.range s.callers.length := by
    intro i hi
    obtain ⟨e, he, hi⟩ := List.mem_filterMap.mp hi
    cases e <;> simp [numbered] at hi
    subst hi
    exact List.mem_range.mpr (hs.caller_lt he rfl)
  rw [same]
  simpa using distinct.length_le_of_subset known

end

/-! ### What the worker finds -/

/-- The worker makes one engine, and what it answers is what that engine has to say. -/
structure Answers (k : EngineKind ε) (w : Worker ε) (h : List Occurrence) : Prop where
  engine : w.engineOf k = k.make
  answered : ∀ r a, (r, a) ∈ answers h → Worker.answer k k.make r = some a

section

variable {s t : Session ε} {w w' : Worker ε} {h : List Occurrence} {e : Option Occurrence}

theorem Answers.workerMove (hs : Answers k w h) (hm : WorkerMove k w e w') :
    Answers k w' (h ++ e.toList) := by
  cases hm with
  | @answered r a hp ht ha =>
      refine ⟨hs.engine, fun r' a' hm => ?_⟩
      simp only [answers_append, Option.toList, answers_cons, Occurrence.answered?, answers_nil,
        List.append_nil, List.mem_append, List.mem_singleton, Prod.mk.injEq] at hm
      rcases hm with hm | ⟨rfl, rfl⟩
      · exact hs.answered r' a' hm
      · rwa [hs.engine] at ha
  | _ => exact ⟨hs.engine, by simpa using hs.answered⟩

theorem Answers.move (hs : Answers k s.worker h) (hm : Move k s e t) :
    Answers k t.worker (h ++ e.toList) := by
  cases hm with
  | call task => exact ⟨hs.engine, by simpa using hs.answered⟩
  | dispose => exact ⟨hs.engine, by simpa using hs.answered⟩
  | caller hc hm =>
      cases hm with
      | sent hw hq =>
          obtain ⟨-, -, rfl⟩ := send_eq_ok hq
          exact ⟨hs.engine, by simpa using hs.answered⟩
      | _ => exact ⟨hs.engine, by simpa using hs.answered⟩
  | worker hm => exact hs.workerMove hm
  | loseWorker => exact ⟨hs.engine, by simpa using hs.answered⟩
  | router hm =>
      cases hm with
      | @delivered a hr => exact ⟨by simpa using hs.engine, by simpa using hs.answered⟩
      | _ => exact ⟨hs.engine, by simpa using hs.answered⟩

end

theorem answers_of_run {acts : List Action} {s : Session ε}
    (hr : runActions k (spawn config) acts = some s) :
    Answers k s.worker (history k (spawn config) acts) :=
  run_induction (motive := fun s h => Answers k s.worker h) ⟨rfl, by simp⟩
    (fun _ _ _ _ hs hm => hs.move hm) hr

/-! ### Replies -/

/-- How a call comes to an answer. It has sent one request, and the worker has found one
answer to it, which is what the engine has to say, and which was handed on. -/
structure Reply (k : EngineKind ε) (h : List Occurrence) (i : Nat) (r : Request)
    (a : Response) : Prop where
  sent : sends (deeds i h) = [r]
  answer : Worker.answer k k.make r = some a
  found : ∀ b, (r, b) ∈ answers h ↔ b = a
  delivered : .delivered a ∈ h

section

variable {s : Session ε} {h : List Occurrence} {i : Nat}

theorem Reply.sent_mem {r : Request} {a : Response} (hr : Reply k h i r a) : .sent i r ∈ h := by
  have hm : r ∈ sends (deeds i h) := by simp [hr.sent]
  obtain ⟨j, hj⟩ := mem_sends.mp hm
  have hi := (List.mem_filter.mp hj).2
  simp only [Occurrence.caller?, beq_iff_eq, Option.some.injEq] at hi
  exact hi ▸ mem_of_mem_deeds hj

/-- What was handed on was found before. -/
theorem deliveries_sublist {w : Worker ε} {router : Router} (hch : Channels w router h) :
    (deliveries h).Sublist ((answers h).map (·.2)) := by
  have hd : deliveries h <+: receipts h := hch.received ▸ List.prefix_append ..
  have hr : receipts h <+: reports h := hch.responses ▸ List.prefix_append ..
  exact ((hd.trans hr).trans hch.reported).sublist

/-- What was answered, was sent before, but for the first request. -/
theorem answers_sublist {w : Worker ε} {router : Router} (hch : Channels w router h) :
    ((answers h).map (·.1)).Sublist (.init :: sends h) := by
  have ht : takes h <+: .init :: sends h := hch.requests ▸ List.prefix_append ..
  exact (hch.answered.trans ht).sublist

/-- What is handed on, the worker has found for a request that was put on its queue. -/
theorem exists_answered_of_delivered {w : Worker ε} {router : Router} (hch : Channels w router h)
    (ha : Answers k w h) {a : Response} (hd : a ∈ deliveries h) :
    ∃ r, (r, a) ∈ answers h ∧ Worker.answer k k.make r = some a ∧ r ∈ .init :: sends h := by
  obtain ⟨⟨r, b⟩, hra, rfl⟩ := List.mem_map.mp ((deliveries_sublist hch).subset hd)
  exact ⟨r, hra, ha.answered r b hra,
    (answers_sublist hch).subset (List.mem_map.mpr ⟨(r, b), hra, rfl⟩)⟩

/-- If it has an id, that request was sent by a call. -/
theorem exists_sent_of_delivered {w : Worker ε} {router : Router} (hch : Channels w router h)
    (ha : Answers k w h) {a : Response} {id : RequestId} (hd : a ∈ deliveries h)
    (hid : a.id? = some id) :
    ∃ r, (r, a) ∈ answers h ∧ r.id? = some id ∧ r ∈ sends h := by
  obtain ⟨r, hra, hanswer, hmem⟩ := exists_answered_of_delivered hch ha hd
  have hr : r.id? = some id := (Worker.id?_of_answer hanswer).symm.trans hid
  rcases List.mem_cons.mp hmem with rfl | hmem
  · simp [Request.id?] at hr
  · exact ⟨r, hra, hr, hmem⟩

/-- No two answers that the worker finds are for one id. -/
theorem Calls.answers_nodup (hs : Calls s h) (hch : Channels s.worker s.router h) :
    ((answers h).filterMap fun p => p.1.id?).Nodup := by
  have hsub := (answers_sublist hch).filterMap Request.id?
  rw [List.filterMap_map, List.filterMap_cons] at hsub
  exact hs.sends_nodup.sublist hsub

theorem filterMap_answers {w : Worker ε} (ha : Answers k w h) :
    (answers h).filterMap (fun p => p.1.id?) =
      (answers h).filterMap (Response.id? ∘ fun p => p.2) := by
  have same := ha.answered
  generalize answers h = as at same ⊢
  induction as with
  | nil => rfl
  | cons p as ih =>
      have hp := Worker.id?_of_answer (same p.1 p.2 (by simp))
      simp only [List.filterMap_cons, Function.comp_apply, hp,
        ih fun r a hm => same r a (List.mem_cons_of_mem _ hm)]

/-- No two answers that are handed on are for one id. -/
theorem Calls.deliveries_nodup (hs : Calls s h) (hch : Channels s.worker s.router h)
    (ha : Answers k s.worker h) : ((deliveries h).filterMap Response.id?).Nodup := by
  have hsub := (deliveries_sublist hch).filterMap Response.id?
  rw [List.filterMap_map] at hsub
  rw [← filterMap_answers ha] at hsub
  exact (hs.answers_nodup hch).sublist hsub

/-- A call that ends with an answer got the reply to its own request. -/
theorem Calls.reply (hs : Calls s h) (hch : Channels s.worker s.router h)
    (ha : Answers k s.worker h) {o : Outcome} (hc : s.caller? i = some (.done o))
    (ho : isAnswer o = true) :
    ∃ r a id, Reply k h i r a ∧ r.id? = some id ∧ a.outcome? = some (id, o) := by
  have story := hs.stories i _ hc
  generalize hd : deeds i h = es at story
  cases story with
  | failed hn ht => simp [hn] at ho
  | @answered task id slot a o p hp hdel hout =>
      have hsent : .sent i (p.request id) ∈ h := mem_of_mem_deeds (i := i) (by simp [hd])
      have hid : a.id? = some id := Response.id?_of_outcome? hout
      obtain ⟨r, hra, hr, hrs⟩ := exists_sent_of_delivered hch ha (mem_deliveries.mpr hdel) hid
      have hps : p.request id ∈ sends h := mem_sends.mpr ⟨i, hsent⟩
      obtain rfl : r = p.request id :=
        eq_of_nodup_filterMap hs.sends_nodup hrs hps hr (Submission.id?_request p id)
      refine ⟨_, a, id, ⟨by simp [hd], ha.answered _ _ hra, ?_, hdel⟩, hr, hout⟩
      intro c
      constructor
      · intro hc
        have := eq_of_nodup_filterMap (hs.answers_nodup hch) hc hra hr hr
        exact (Prod.mk.inj this).2
      · rintro rfl
        exact hra

/-- One answer is the reply to one call. -/
theorem Calls.caller_eq_of_reply (hs : Calls s h) {i j : Nat} {r r' : Request} {a : Response}
    (hi : Reply k h i r a) (hj : Reply k h j r' a) : i = j := by
  obtain ⟨id, hid, -⟩ := hs.ids.sent i r hi.sent_mem
  have hid' : r'.id? = some id := by
    rw [← Worker.id?_of_answer hj.answer, Worker.id?_of_answer hi.answer, hid]
  exact hs.sender_eq hi.sent_mem hj.sent_mem hid hid'

end

/-! ### Handing on -/

/-- An answer that nobody waits for changes nothing. -/
theorem deliver_of_stray {s : Session ε} {a : Response} {id : RequestId} (ha : a.id? = some id)
    (hw : s.table.waiter? id = none) : s.deliver a = s := by
  have still (o : Outcome) : (s.table.settle id o).2 = s.table := by
    simp [PendingTable.settle, hw]
  cases a with
  | ready => simp [Response.id?] at ha
  | initFailed message => simp [Response.id?] at ha
  | result n payload =>
      obtain rfl : n = id := Option.some.inj ha
      simp [deliver, still]
  | error n message logs =>
      obtain rfl : n = id := Option.some.inj ha
      simp [deliver, still]

/-- An answer is put into one mailbox at most. -/
theorem box_eq_of_deliver {s : Session ε} (h : s.table.Sound) (a : Response) {x y : Nat}
    (hx : (s.deliver a).table.box? x ≠ s.table.box? x)
    (hy : (s.deliver a).table.box? y ≠ s.table.box? y) : x = y := by
  have one (id : RequestId) (o : Outcome)
      (hx : (s.table.settle id o).2.box? x ≠ s.table.box? x)
      (hy : (s.table.settle id o).2.box? y ≠ s.table.box? y) : x = y := by
    rcases PendingTable.box?_settle h id o x with ⟨wx, -⟩ | ⟨-, ex⟩
    · rcases PendingTable.box?_settle h id o y with ⟨wy, -⟩ | ⟨-, ey⟩
      · exact PendingTable.slot_eq_of_mem h wx wy
      · exact absurd ey hy
    · exact absurd ex hx
  cases a with
  | ready => exact absurd rfl hx
  | initFailed message => exact absurd rfl hx
  | result id payload => exact one id _ hx hy
  | error id message logs => exact one id _ hx hy

/-! ### Correlation -/

/-- Answers find their calls. -/
structure Correlated (k : EngineKind ε) (s : Session ε) (h : List Occurrence) : Prop where
  /-- No id is given twice. -/
  ids : (numbers h).Nodup
  /-- Ids stay as small as the number of calls. -/
  small : ∀ id ∈ numbers h, id ≤ s.callers.length
  /-- A call that is about to register replaces nobody. -/
  fresh : ∀ i p id, s.caller? i = some (.numbered p id) → s.table.waiter? id = none
  /-- A call that ends with an answer got the reply to its own request. -/
  reply : ∀ i o, s.caller? i = some (.done o) → isAnswer o = true →
    ∃ r a id, Reply k h i r a ∧ r.id? = some id ∧ a.outcome? = some (id, o)
  /-- No other call sent that request. -/
  own : ∀ i j r, .sent i r ∈ h → .sent j r ∈ h → i = j
  /-- No other call got that answer. -/
  single : ∀ i j r r' a, Reply k h i r a → Reply k h j r' a → i = j
  /-- Nothing is handed on twice. -/
  once : ((deliveries h).filterMap Response.id?).Nodup
  /-- What is handed on gets into one mailbox at most, -/
  delivery : ∀ a, s.router = .delivering a → ∃ t, s.route = some t ∧ t.callers = s.callers ∧
    ∀ x y, t.table.box? x ≠ s.table.box? x → t.table.box? y ≠ s.table.box? y → x = y
  /-- and into none if nobody waits for it. -/
  stray : ∀ a id, s.router = .delivering a → a.id? = some id → s.table.waiter? id = none →
    s.route = some { s with router := .idle }

/-- **Answers find their calls**, whatever the order of the steps. -/
theorem calls_correlated {acts : List Action} {s : Session ε}
    (hr : runActions k (spawn config) acts = some s) :
    Correlated k s (history k (spawn config) acts) := by
  have hs := (calls_of_run hr).1
  have hch := channels_of_run hr
  have ha := answers_of_run hr
  constructor
  · rw [hs.ids.numbers]
    exact List.nodup_range'
  · intro id hid
    rw [hs.ids.numbers, List.mem_range'_1] at hid
    exact Nat.le_trans (Nat.le_of_lt_succ (by omega)) hs.length_numbers_le
  · exact fun i p id => hs.waiter?_of_numbered
  · exact fun i o => hs.reply hch ha
  · intro i j r hi hj
    obtain ⟨id, hid, -⟩ := hs.ids.sent i r hi
    exact hs.sender_eq hi hj hid hid
  · exact fun i j r r' a => hs.caller_eq_of_reply
  · exact hs.deliveries_nodup hch ha
  · intro a hra
    refine ⟨{ s.deliver a with router := .idle }, by simp [route, hra], callers_deliver s a, ?_⟩
    exact fun x y => box_eq_of_deliver hs.boxes.sound a
  · intro a id hra hid hw
    simp [route, hra, deliver_of_stray hid hw]

/-- Whether a call ended with a single line. -/
def endedWith (s : Session ε) (i : Nat) (line : String) : Bool :=
  match (s.caller? i).bind Caller.outcome? with
  | some (.ok output) => output.logs == [line]
  | _ => false

/-- Two calls under way at the same time; the second one is answered first. -/
theorem two_calls_correlated :
    let acts := turnaround ++ [.call (.script "'use strict'"), .call (.script "'use strict';0")] ++
      List.replicate 6 (.proceed 1) ++ List.replicate 6 (.proceed 0) ++ turnaround ++
      turnaround ++ [.proceed 0, .proceed 1]
    ∃ s, runActions echo (spawn {}) acts = some s ∧ s.endedWith 0 "'use strict'" = true ∧
      s.endedWith 1 "'use strict';0" = true ∧ Correlated echo s (history echo (spawn {}) acts) := by
  intro acts
  have runs : (runActions echo (spawn {}) acts).any (fun s =>
      s.endedWith 0 "'use strict'" && s.endedWith 1 "'use strict';0") = true := by
    decide +kernel
  obtain ⟨s, hr, ends⟩ := (Option.any_eq_true ..).mp runs
  obtain ⟨first, second⟩ := (Bool.and_eq_true ..).mp ends
  exact ⟨s, hr, first, second, calls_correlated hr⟩

end Session

end PatchSandbox
