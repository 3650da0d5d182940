import PatchSandbox.Proofs.Session.Channels
import PatchSandbox.Proofs.Session.Table

/-!
# What happens to one call

**`Story`** ties where a call stands to all that has happened to it: a call that waits for
its outcome has got one id, one mailbox under that id and has sent one request with that id,
and nothing else. A call that ended with an answer got the very answer that was delivered
under its id.

**`Calls`** is the invariant of a whole session. Besides the stories it says that ids and
mailboxes are given one after the other, that whoever waits in the table was registered, and
where the outcome in a mailbox comes from. It holds after every run: **`calls_of_run`**.
-/

namespace PatchSandbox

/-- The id an answer is for, and the outcome it brings. -/
def Response.outcome? : Response → Option (RequestId × Outcome)
  | .result id payload => some (id, .ok payload)
  | .error id message logs => some (id, .error (.scriptFailed message logs))
  | _ => none

theorem Response.id?_of_outcome? {a : Response} {id : RequestId} {o : Outcome}
    (h : a.outcome? = some (id, o)) : a.id? = some id := by
  cases a <;> simp [outcome?] at h <;> simp [id?, h.1]

/-- Whether an outcome is what a program came to: its output, or its failure. -/
def isAnswer : Outcome → Bool
  | .ok _ => true
  | .error (.scriptFailed _ _) => true
  | .error _ => false

/-- A task that may not run is refused before any program runs. -/
theorem Task.isAnswer_of_check {limits : SourceLimits} {task : Task} {e : SessionError}
    (h : task.check limits = .error e) : isAnswer (.error e) = false := by
  cases task with
  | script code =>
      simp only [check, checkScript] at h
      split at h
      · simp at h
      · rw [← Except.error.inj h]
        rfl
  | modules entry pairs =>
      simp only [check, checkModules] at h
      split at h
      · rw [← Except.error.inj h]
        rfl
      · split at h
        · rw [← Except.error.inj h]
          rfl
        · split at h
          · rw [← Except.error.inj h]
            rfl
          · simp at h

@[simp] theorem Submission.id?_request (p : Submission) (id : RequestId) :
    (p.request id).id? = some id := by
  cases p <;> rfl

/-- Where a partial function gives different values, equal values have equal arguments. -/
theorem eq_of_nodup_filterMap {α β : Type} {f : α → Option β} {l : List α}
    (distinct : (l.filterMap f).Nodup) {a b : α} {x : β} (ha : a ∈ l) (hb : b ∈ l)
    (hfa : f a = some x) (hfb : f b = some x) : a = b := by
  induction l with
  | nil => simp at ha
  | cons c l ih =>
      have found {d : α} (hd : d ∈ l) (hf : f d = some x) : x ∈ l.filterMap f :=
        List.mem_filterMap.mpr ⟨d, hd, hf⟩
      rw [List.filterMap_cons] at distinct
      rcases List.mem_cons.mp ha with rfl | ha' <;> rcases List.mem_cons.mp hb with hb' | hb'
      · exact hb'.symm
      · simp [hfa, found hb' hfb] at distinct
      · subst hb'
        simp [hfb, found ha' hfa] at distinct
      · refine ih ?_ ha' hb'
        cases hc : f c <;> simp [hc] at distinct
        · exact distinct
        · exact distinct.2

namespace Session

variable {ε : Type} {k : EngineKind ε} {config : Config}

/-- What has happened to one call, in order. -/
def deeds (i : Nat) (h : List Occurrence) : List Occurrence := h.filter (·.caller? == some i)

/-- The ids that were given, in order. -/
def numbers (h : List Occurrence) : List RequestId := h.filterMap Occurrence.number?

/-- The mailboxes that were opened, in order. -/
def slots (h : List Occurrence) : List Nat := h.filterMap Occurrence.slot?

@[simp] theorem deeds_nil (i : Nat) : deeds i [] = [] := rfl

@[simp] theorem deeds_append (i : Nat) (h h' : List Occurrence) :
    deeds i (h ++ h') = deeds i h ++ deeds i h' :=
  List.filter_append ..

@[simp] theorem deeds_cons (i : Nat) (e : Occurrence) (h : List Occurrence) :
    deeds i (e :: h) = if e.caller? = some i then e :: deeds i h else deeds i h := by
  simp only [deeds, List.filter_cons, beq_iff_eq]

@[simp] theorem numbers_nil : numbers [] = [] := rfl

@[simp] theorem numbers_append (h h' : List Occurrence) :
    numbers (h ++ h') = numbers h ++ numbers h' :=
  List.filterMap_append

@[simp] theorem numbers_cons (e : Occurrence) (h : List Occurrence) :
    numbers (e :: h) = e.number?.toList ++ numbers h := by
  unfold numbers
  rw [List.filterMap_cons]
  cases e.number? <;> rfl

@[simp] theorem slots_nil : slots [] = [] := rfl

@[simp] theorem slots_append (h h' : List Occurrence) : slots (h ++ h') = slots h ++ slots h' :=
  List.filterMap_append

@[simp] theorem slots_cons (e : Occurrence) (h : List Occurrence) :
    slots (e :: h) = e.slot?.toList ++ slots h := by
  unfold slots
  rw [List.filterMap_cons]
  cases e.slot? <;> rfl

theorem mem_of_mem_deeds {i : Nat} {h : List Occurrence} {e : Occurrence} (he : e ∈ deeds i h) :
    e ∈ h :=
  (List.mem_filter.mp he).1

theorem mem_deeds {i : Nat} {h : List Occurrence} {e : Occurrence} (he : e ∈ h)
    (hi : e.caller? = some i) : e ∈ deeds i h :=
  List.mem_filter.mpr ⟨he, beq_iff_eq.mpr hi⟩

/-! ### Stories -/

/-- What can have happened to a call at all: its course from the start, as far as it got. -/
def Tale (i : Nat) (es : List Occurrence) : Prop :=
  ∃ task id slot r,
    es <+: [.began i task, .numbered i id, .registered i id slot, .sent i r, .expired i]

/-- Where a call stands, and what has happened to it. -/
inductive Story (limits : SourceLimits) (h : List Occurrence) (i : Nat) :
    Caller → List Occurrence → Prop
  | begun {task} : Story limits h i (.begun task) [.began i task]
  | admitted {task p} (hp : task.check limits = .ok p) :
      Story limits h i (.admitted p) [.began i task]
  | cleared {task p} (hp : task.check limits = .ok p) (hr : .ready ∈ reports h) :
      Story limits h i (.cleared p) [.began i task]
  | numbered {task p id} (hp : task.check limits = .ok p) (hr : .ready ∈ reports h) :
      Story limits h i (.numbered p id) [.began i task, .numbered i id]
  | registered {task p id slot} (hp : task.check limits = .ok p) (hr : .ready ∈ reports h) :
      Story limits h i (.registered p id slot)
        [.began i task, .numbered i id, .registered i id slot]
  | unsent {task id slot} :
      Story limits h i (.unsent id) [.began i task, .numbered i id, .registered i id slot]
  | sent {task id slot} {p : Submission} (hp : task.check limits = .ok p) :
      Story limits h i (.sent id slot)
        [.began i task, .numbered i id, .registered i id slot, .sent i (p.request id)]
  | waiting {task id slot} {p : Submission} (hp : task.check limits = .ok p) :
      Story limits h i (.waiting id slot)
        [.began i task, .numbered i id, .registered i id slot, .sent i (p.request id)]
  | expired {task id slot} {p : Submission} (hp : task.check limits = .ok p) :
      Story limits h i (.expired id)
        [.began i task, .numbered i id, .registered i id slot, .sent i (p.request id), .expired i]
  | timedOut {task id slot what after} {p : Submission} (hp : task.check limits = .ok p) :
      Story limits h i (.disposing what (some (.error (.timedOut after))))
        [.began i task, .numbered i id, .registered i id slot, .sent i (p.request id), .expired i]
  | disposing {what} : Story limits h i (.disposing what none) []
  | answered {task id slot a o} {p : Submission} (hp : task.check limits = .ok p)
      (ha : .delivered a ∈ h) (ho : a.outcome? = some (id, o)) :
      Story limits h i (.done o)
        [.began i task, .numbered i id, .registered i id slot, .sent i (p.request id)]
  | failed {o es} (ho : isAnswer o = false) (ht : Tale i es) : Story limits h i (.done o) es
  | ended {es} (ht : Tale i es) : Story limits h i .over es

/-- What happens later changes no story. -/
theorem Story.later {limits : SourceLimits} {h : List Occurrence} {i : Nat} {c : Caller}
    {es : List Occurrence} (hs : Story limits h i c es) (h' : List Occurrence) :
    Story limits (h ++ h') i c es := by
  have still {a : Response} (ha : a ∈ reports h) : a ∈ reports (h ++ h') := by simp [ha]
  cases hs with
  | begun => exact .begun
  | admitted hp => exact .admitted hp
  | cleared hp hr => exact .cleared hp (still hr)
  | numbered hp hr => exact .numbered hp (still hr)
  | registered hp hr => exact .registered hp (still hr)
  | unsent => exact .unsent
  | sent hp => exact .sent hp
  | waiting hp => exact .waiting hp
  | expired hp => exact .expired hp
  | timedOut hp => exact .timedOut hp
  | disposing => exact .disposing
  | answered hp ha ho => exact .answered hp (List.mem_append_left _ ha) ho
  | failed ho ht => exact .failed ho ht
  | ended ht => exact .ended ht

theorem Story.tale {limits : SourceLimits} {h : List Occurrence} {i : Nat} {c : Caller}
    {es : List Occurrence} (hs : Story limits h i c es) : Tale i es := by
  unfold Tale
  cases hs with
  | failed ho ht => exact ht
  | ended ht => exact ht
  | disposing => exact ⟨default, 0, 0, .init, List.nil_prefix⟩
  | @begun task => exact ⟨task, 0, 0, .init, by simp⟩
  | @admitted task => exact ⟨task, 0, 0, .init, by simp⟩
  | @cleared task => exact ⟨task, 0, 0, .init, by simp⟩
  | @numbered task p id => exact ⟨task, id, 0, .init, by simp⟩
  | @registered task p id slot => exact ⟨task, id, slot, .init, by simp⟩
  | @unsent task id slot => exact ⟨task, id, slot, .init, by simp⟩
  | @sent task id slot p => exact ⟨task, id, slot, p.request id, by simp⟩
  | @waiting task id slot p => exact ⟨task, id, slot, p.request id, by simp⟩
  | @expired task id slot p => exact ⟨task, id, slot, p.request id, by simp⟩
  | @timedOut task id slot _ _ p => exact ⟨task, id, slot, p.request id, by simp⟩
  | @answered task id slot a o p => exact ⟨task, id, slot, p.request id, by simp⟩

/-! ### Mailboxes -/

/-- What ties the table to the history of its session. -/
structure Boxes (t : PendingTable Outcome) (h : List Occurrence) : Prop where
  sound : t.Sound
  slots : slots h = List.range t.mailboxes.length
  waiters : ∀ id slot, (id, slot) ∈ t.waiters → ∃ i, .registered i id slot ∈ h
  holding : ∀ i id slot o, .registered i id slot ∈ h → t.box? slot = some (.holding o) →
    isAnswer o = true → ∃ a, .delivered a ∈ h ∧ a.outcome? = some (id, o)

section

variable {t : PendingTable Outcome} {h h' : List Occurrence}

theorem boxes_empty : Boxes {} [] where
  sound := PendingTable.sound_empty
  slots := rfl
  waiters := by simp
  holding := by simp

theorem not_registered_of_slots_eq_nil (hn : slots h = []) (i : Nat) (id : RequestId)
    (slot : Nat) : .registered i id slot ∉ h := by
  intro hm
  have : slot ∈ slots h := List.mem_filterMap.mpr ⟨_, hm, rfl⟩
  rw [hn] at this
  exact List.not_mem_nil this

/-- A mailbox is opened once. -/
theorem Boxes.registered_unique (hb : Boxes t h) {i j : Nat} {id id' : RequestId} {slot : Nat}
    (hi : .registered i id slot ∈ h) (hj : .registered j id' slot ∈ h) : i = j ∧ id = id' := by
  have distinct : (Session.slots h).Nodup := by
    rw [hb.slots]
    exact List.nodup_range
  have he := eq_of_nodup_filterMap distinct hi hj rfl rfl
  obtain ⟨hij, hid, -⟩ := Occurrence.registered.inj he
  exact ⟨hij, hid⟩

/-- A table is tied to what happens later, unless that opens a mailbox. -/
theorem Boxes.later (hb : Boxes t h) (hn : Session.slots h' = []) : Boxes t (h ++ h') where
  sound := hb.sound
  slots := by rw [slots_append, hn, List.append_nil, hb.slots]
  waiters := by
    intro id slot hw
    obtain ⟨i, hi⟩ := hb.waiters id slot hw
    exact ⟨i, List.mem_append_left _ hi⟩
  holding := by
    intro i id slot o hr ho ha
    rcases List.mem_append.mp hr with hr | hr
    · obtain ⟨a, hd, hout⟩ := hb.holding i id slot o hr ho ha
      exact ⟨a, List.mem_append_left _ hd, hout⟩
    · exact absurd hr (not_registered_of_slots_eq_nil hn i id slot)

/-- A table in which fewer wait, and whose mailboxes hold no other answers. -/
theorem Boxes.shrink {t' : PendingTable Outcome} (hb : Boxes t h) (sound : t'.Sound)
    (hl : t'.mailboxes.length = t.mailboxes.length)
    (hw : ∀ w, w ∈ t'.waiters → w ∈ t.waiters)
    (hh : ∀ slot o, t'.box? slot = some (.holding o) → isAnswer o = true →
      t.box? slot = some (.holding o)) : Boxes t' h where
  sound := sound
  slots := by rw [hl, hb.slots]
  waiters := fun id slot hm => hb.waiters id slot (hw _ hm)
  holding := fun i id slot o hr ho ha => hb.holding i id slot o hr (hh slot o ho ha) ha

theorem Boxes.forget (hb : Boxes t h) (id : RequestId) : Boxes (t.forget id) h := by
  refine hb.shrink (hb.sound.forget id) (PendingTable.length_mailboxes_forget id) ?_ ?_
  · exact fun w hw => (PendingTable.mem_waiters_forget.mp hw).1
  · intro slot o ho _
    rcases PendingTable.box?_forget hb.sound id slot with ⟨-, he⟩ | ⟨-, he⟩
    · simp [he] at ho
    · rw [← he, ho]

theorem Boxes.close (hb : Boxes t h) {o : Outcome} (hn : isAnswer o = false) :
    Boxes (t.close o).2 h := by
  refine hb.shrink (hb.sound.close o) (PendingTable.length_mailboxes_close o) ?_ ?_
  · simp
  · intro slot o' ho ha
    rcases PendingTable.box?_close hb.sound o slot with ⟨-, he⟩ | ⟨-, he⟩
    · rw [he, Option.some.injEq, Mailbox.holding.injEq] at ho
      subst ho
      simp [hn] at ha
    · rw [← he, ho]

theorem Boxes.put (hb : Boxes t h) {slot : Nat} {o : Outcome}
    (ho : t.box? slot = some (.holding o)) : Boxes (t.put slot .abandoned) h := by
  refine hb.shrink (hb.sound.put ho) (by simp [PendingTable.put]) (fun w hw => hw) ?_
  intro x o' hx _
  have hs : slot < t.mailboxes.length := (List.getElem?_eq_some_iff.mp ho).1
  rw [PendingTable.box?_put _ hs] at hx
  by_cases he : x = slot
  · simp [he] at hx
  · simpa [he] using hx

/-- An answer that is delivered fills the mailbox that waits under its id. -/
theorem Boxes.settle (hb : Boxes t h) {a : Response} {id : RequestId} {o : Outcome}
    (ho : a.outcome? = some (id, o)) : Boxes (t.settle id o).2 (h ++ [.delivered a]) where
  sound := hb.sound.settle id o
  slots := by simp [hb.slots]
  waiters := by
    intro id' slot hw
    obtain ⟨i, hi⟩ := hb.waiters id' slot (PendingTable.mem_waiters_settle.mp hw).1
    exact ⟨i, List.mem_append_left _ hi⟩
  holding := by
    intro i id' slot o' hr hbox ha
    have hr : .registered i id' slot ∈ h := by simpa using hr
    rcases PendingTable.box?_settle hb.sound id o slot with ⟨hw, he⟩ | ⟨-, he⟩
    · rw [he, Option.some.injEq, Mailbox.holding.injEq] at hbox
      subst hbox
      obtain ⟨j, hj⟩ := hb.waiters id slot hw
      obtain ⟨-, rfl⟩ := hb.registered_unique hr hj
      exact ⟨a, by simp, ho⟩
    · obtain ⟨b, hd, hout⟩ := hb.holding i id' slot o' hr (he ▸ hbox) ha
      exact ⟨b, List.mem_append_left _ hd, hout⟩

/-- A mailbox is opened for an id that nobody waits under. -/
theorem Boxes.register {t' : PendingTable Outcome} (hb : Boxes t h) (i : Nat) {id : RequestId}
    {slot : Nat} (hf : t.waiter? id = none) (hr : t.register? id = some (slot, t')) :
    Boxes t' (h ++ [.registered i id slot]) := by
  obtain ⟨hc, rfl, rfl⟩ := PendingTable.register?_of_fresh hf hr
  constructor
  · exact hb.sound.register hc hf
  · simp [hb.slots, List.range_succ]
  · intro id' slot hw
    rcases List.mem_cons.mp hw with he | hw
    · obtain ⟨rfl, rfl⟩ := Prod.mk.inj he
      exact ⟨i, by simp⟩
    · obtain ⟨j, hj⟩ := hb.waiters id' slot hw
      exact ⟨j, List.mem_append_left _ hj⟩
  · intro j id' slot o hreg ho ha
    have hslot : slot < t.mailboxes.length := by
      rcases Nat.lt_trichotomy slot t.mailboxes.length with hlt | rfl | hgt
      · exact hlt
      · simp [PendingTable.box?] at ho
      · have := (List.getElem?_eq_some_iff.mp ho).1
        simp at this
        omega
    have ho' : t.box? slot = some (.holding o) := by
      simpa [PendingTable.box?, List.getElem?_append_left hslot] using ho
    have hreg' : .registered j id' slot ∈ h := by
      rcases List.mem_append.mp hreg with hm | hm
      · exact hm
      · simp at hm
        omega
    obtain ⟨a, hd, hout⟩ := hb.holding j id' slot o hreg' ho' ha
    exact ⟨a, List.mem_append_left _ hd, hout⟩

end

/-! ### Ids -/

/-- Ids are given one after the other, and mailboxes and requests are for ids of their call. -/
structure Ids (next : Nat) (h : List Occurrence) : Prop where
  numbers : numbers h = List.range' 1 (numbers h).length
  next : next = (Session.numbers h).length + 1
  registered : ∀ i id slot, .registered i id slot ∈ h → .numbered i id ∈ h
  sent : ∀ i r, .sent i r ∈ h → ∃ id, r.id? = some id ∧ .numbered i id ∈ h

section

variable {n : Nat} {h h' : List Occurrence}

theorem ids_start : Ids 1 [] where
  numbers := rfl
  next := rfl
  registered := by simp
  sent := by simp

/-- An id is given once. -/
theorem Ids.caller_eq (hs : Ids n h) {i j : Nat} {id : RequestId} (hi : .numbered i id ∈ h)
    (hj : .numbered j id ∈ h) : i = j := by
  have distinct : (Session.numbers h).Nodup := by
    rw [hs.numbers]
    exact List.nodup_range'
  have he := eq_of_nodup_filterMap distinct hi hj rfl rfl
  exact (Occurrence.numbered.inj he).1

theorem Ids.number (hs : Ids n h) (i : Nat) : Ids (n + 1) (h ++ [.numbered i n]) where
  numbers := by
    rw [numbers_append, List.length_append, ← List.range'_append_1, ← hs.numbers]
    simp [hs.next, Nat.add_comm]
  next := by simp [hs.next]
  registered := by
    intro j id slot hm
    exact List.mem_append_left _ (hs.registered j id slot (by simpa using hm))
  sent := by
    intro j r hm
    obtain ⟨id, hr, hn⟩ := hs.sent j r (by simpa using hm)
    exact ⟨id, hr, List.mem_append_left _ hn⟩

/-- What happens later gives no id, and is for ids that were given. -/
theorem Ids.later (hs : Ids n h) (hn : Session.numbers h' = [])
    (hreg : ∀ i id slot, .registered i id slot ∈ h' → .numbered i id ∈ h)
    (hsent : ∀ i r, .sent i r ∈ h' → ∃ id, r.id? = some id ∧ .numbered i id ∈ h) :
    Ids n (h ++ h') where
  numbers := by simpa [hn] using hs.numbers
  next := by simpa [hn] using hs.next
  registered := by
    intro j id slot hm
    rcases List.mem_append.mp hm with hm | hm
    · exact List.mem_append_left _ (hs.registered j id slot hm)
    · exact List.mem_append_left _ (hreg j id slot hm)
  sent := by
    intro j r hm
    rcases List.mem_append.mp hm with hm | hm
    · obtain ⟨id, hr, hn⟩ := hs.sent j r hm
      exact ⟨id, hr, List.mem_append_left _ hn⟩
    · obtain ⟨id, hr, hn⟩ := hsent j r hm
      exact ⟨id, hr, List.mem_append_left _ hn⟩

end

/-! ### The invariant -/

/-- What ties the calls, the table and the history of a session together. -/
structure Calls (s : Session ε) (h : List Occurrence) : Prop where
  stories : ∀ i c, s.caller? i = some c → Story s.config.source h i c (deeds i h)
  strangers : ∀ i, s.callers.length ≤ i → deeds i h = []
  ids : Ids s.nextId h
  ready : s.readiness = .ready → .ready ∈ reports h
  boxes : Boxes s.table h

theorem calls_spawn : Calls (spawn config : Session ε) [] where
  stories := by simp [spawn, caller?]
  strangers := fun _ _ => rfl
  ids := ids_start
  ready := by simp [spawn]
  boxes := boxes_empty

section

variable {s t : Session ε} {h : List Occurrence} {i : Nat} {c c' : Caller}
  {e : Option Occurrence}

/-- **Registering never replaces a waiter**: nobody waits yet under the id of a call that is
about to register. -/
theorem Calls.waiter?_of_numbered (hs : Calls s h) {p : Submission} {id : RequestId}
    (hc : s.caller? i = some (.numbered p id)) : s.table.waiter? id = none := by
  have story := hs.stories i _ hc
  generalize hd : deeds i h = es at story
  cases story with
  | numbered hp hr =>
      refine PendingTable.waiter?_eq_none_iff.mpr fun slot hw => ?_
      obtain ⟨j, hj⟩ := hs.boxes.waiters id slot hw
      have hn : .numbered i id ∈ h := mem_of_mem_deeds (i := i) (by simp [hd])
      obtain rfl := hs.ids.caller_eq hn (hs.ids.registered j id slot hj)
      have := mem_deeds hj (i := i) rfl
      simp [hd] at this

/-! ### Steps of a call -/

theorem CallerMove.config_eq (hm : CallerMove s i c e c' t) : t.config = s.config := by
  cases hm <;> rfl

theorem CallerMove.callers_eq (hm : CallerMove s i c e c' t) : t.callers = s.callers := by
  cases hm <;> rfl

theorem CallerMove.ready_of_ready (hm : CallerMove s i c e c' t) (hr : t.readiness = .ready) :
    s.readiness = .ready := by
  cases hm with
  | closeReadiness => simp at hr
  | _ => exact hr

/-- What happens in a step of a call happens to that call or to none. -/
theorem CallerMove.deeds_eq_nil (hm : CallerMove s i c e c' t) {j : Nat} (hj : j ≠ i) :
    deeds j e.toList = [] := by
  cases hm <;> simp [Ne.symm hj]

/-- A call tells its story on. -/
theorem CallerMove.story (hm : CallerMove s i c e c' t) (hs : Calls s h)
    (hc : s.caller? i = some c) :
    Story s.config.source (h ++ e.toList) i c' (deeds i (h ++ e.toList)) := by
  have story := (hs.stories i c hc).later e.toList
  rw [deeds_append]
  generalize hd : deeds i h = es at story
  -- a call that ends without an answer has gone no further than before
  have tale : Tale i (es ++ []) := by simpa using story.tale
  cases hm with
  | refused hclosed => exact .failed rfl tale
  | rejected hclosed he => exact .failed (Task.isAnswer_of_check he) tale
  | admitted hclosed hp =>
      cases story
      simpa using Story.admitted hp
  | cleared hr =>
      cases story with
      | admitted hp => simpa using Story.cleared hp (hs.ready hr)
  | engineFailed hr => exact .failed rfl tale
  | shut hr => exact .failed rfl tale
  | givenUp => exact .ended tale
  | numbered =>
      cases story with
      | cleared hp hr => simpa using Story.numbered hp hr
  | registered hreg =>
      cases story with
      | numbered hp hr => simpa using Story.registered hp hr
  | unregistered hreg => exact .failed rfl tale
  | sent hw hq =>
      cases story with
      | registered hp hr => simpa using Story.sent hp
  | unsent hq =>
      cases story with
      | registered hp hr => simpa using Story.unsent
  | withdrawn => exact .failed rfl tale
  | counted =>
      cases story with
      | sent hp => simpa using Story.waiting hp
  | @settled id slot o table ht =>
      by_cases ho : isAnswer o = true
      · cases story with
        | @waiting task _ _ p hp =>
            have hreg : .registered i id slot ∈ h := mem_of_mem_deeds (i := i) (by simp [hd])
            obtain ⟨a, ha, hout⟩ :=
              hs.boxes.holding i id slot o hreg (PendingTable.take_holding ht).1 ho
            simpa using Story.answered hp ha hout
      · exact .failed (by simpa using ho) tale
  | dropped ht => exact .failed rfl tale
  | expired hb ht =>
      cases story with
      | waiting hp => simpa using Story.expired hp
  | abandoned => exact .ended tale
  | forgotten =>
      cases story with
      | expired hp => simpa using Story.timedOut hp
  | closeTable =>
      cases story with
      | timedOut hp => simpa using Story.timedOut hp
      | disposing => simpa using Story.disposing
  | closeReadiness =>
      cases story with
      | timedOut hp => simpa using Story.timedOut hp
      | disposing => simpa using Story.disposing
  | stopWorker hw =>
      cases story with
      | timedOut hp => exact .failed rfl tale
      | disposing => exact .ended tale
  | noWorker hw =>
      cases story with
      | timedOut hp => exact .failed rfl tale
      | disposing => exact .ended tale

/-- A step of a call keeps the table tied to the history. -/
theorem CallerMove.boxes (hm : CallerMove s i c e c' t) (hs : Calls s h)
    (hc : s.caller? i = some c) : Boxes t.table (h ++ e.toList) := by
  cases hm with
  | registered hreg => exact hs.boxes.register i (hs.waiter?_of_numbered hc) hreg
  | withdrawn => exact (hs.boxes.forget _).later rfl
  | settled ht =>
      obtain ⟨hbox, rfl⟩ := PendingTable.take_holding ht
      exact (hs.boxes.put hbox).later rfl
  | forgotten => exact (hs.boxes.forget _).later rfl
  | closeTable => exact (hs.boxes.close rfl).later rfl
  | _ => exact hs.boxes.later rfl

/-- A step of a call gives the next id or none. -/
theorem CallerMove.ids (hm : CallerMove s i c e c' t) (hs : Calls s h)
    (hc : s.caller? i = some c) : Ids t.nextId (h ++ e.toList) := by
  have story := hs.stories i c hc
  generalize hd : deeds i h = es at story
  cases hm with
  | numbered => exact hs.ids.number i
  | @registered p id slot table hreg =>
      cases story
      have hn : .numbered i id ∈ h := mem_of_mem_deeds (i := i) (by simp [hd])
      refine hs.ids.later rfl ?_ (by simp)
      intro j id' slot' hm
      simp only [Option.toList, List.mem_singleton, Occurrence.registered.injEq] at hm
      obtain ⟨rfl, rfl, -⟩ := hm
      exact hn
  | @sent p id slot w hw hq =>
      cases story
      have hn : .numbered i id ∈ h := mem_of_mem_deeds (i := i) (by simp [hd])
      refine hs.ids.later rfl (by simp) ?_
      intro j r hm
      simp only [Option.toList, List.mem_singleton, Occurrence.sent.injEq] at hm
      obtain ⟨rfl, rfl⟩ := hm
      exact ⟨id, by simp, hn⟩
  | _ => exact hs.ids.later rfl (by simp) (by simp)

/-! ### Moves -/

/-- A step of a call keeps the invariant. -/
theorem Calls.callerMove (hs : Calls s h) (hc : s.caller? i = some c)
    (hm : CallerMove s i c e c' t) : Calls (t.setCaller i c') (h ++ e.toList) where
  stories := by
    intro j d hj
    have hlt : i < s.callers.length := (List.getElem?_eq_some_iff.mp hc).1
    simp only [caller?, setCaller, hm.callers_eq, List.getElem?_set] at hj
    rw [setCaller, hm.config_eq]
    by_cases hij : i = j
    · subst hij
      simp only [if_true, hlt, Option.some.injEq] at hj
      exact hj ▸ hm.story hs hc
    · rw [if_neg hij] at hj
      rw [deeds_append, hm.deeds_eq_nil (Ne.symm hij), List.append_nil]
      exact (hs.stories j d hj).later _
  strangers := by
    intro j hj
    have hlt : i < s.callers.length := (List.getElem?_eq_some_iff.mp hc).1
    simp only [setCaller, hm.callers_eq, List.length_set] at hj
    rw [deeds_append, hm.deeds_eq_nil (by omega), List.append_nil]
    exact hs.strangers j hj
  ids := hm.ids hs hc
  ready := by
    intro hr
    have := hs.ready (hm.ready_of_ready hr)
    simp [this]
  boxes := hm.boxes hs hc

/-- A step that touches no call keeps the stories; the rest has to be seen to. -/
theorem Calls.quiet (hs : Calls s h) (hcfg : t.config = s.config) (hcs : t.callers = s.callers)
    (hd : ∀ j, deeds j e.toList = []) (ids : Ids t.nextId (h ++ e.toList))
    (ready : t.readiness = .ready → .ready ∈ reports (h ++ e.toList))
    (boxes : Boxes t.table (h ++ e.toList)) : Calls t (h ++ e.toList) where
  stories := by
    intro j c hc
    rw [deeds_append, hd, List.append_nil, hcfg]
    exact (hs.stories j c (by simpa [caller?, hcs] using hc)).later _
  strangers := by
    intro j hj
    rw [deeds_append, hd, List.append_nil]
    exact hs.strangers j (by simpa [hcs] using hj)
  ids := ids
  ready := ready
  boxes := boxes

/-- A call begins, as a call for a task or to dispose of the session. -/
theorem Calls.addCaller (hs : Calls s h)
    (hd : ∀ j, deeds j e.toList = if j = s.callers.length then e.toList else [])
    (ids : Ids s.nextId (h ++ e.toList)) (boxes : Boxes s.table (h ++ e.toList))
    (hc : Story s.config.source (h ++ e.toList) s.callers.length c e.toList) :
    Calls (s.addCaller c) (h ++ e.toList) where
  stories := by
    intro j c' hj
    rw [deeds_append, hd]
    rcases Nat.lt_trichotomy j s.callers.length with hlt | rfl | hgt
    · rw [if_neg (by omega), List.append_nil]
      refine (hs.stories j c' ?_).later _
      simpa [caller?, Session.addCaller, List.getElem?_append_left hlt] using hj
    · rw [if_pos rfl, hs.strangers _ (Nat.le_refl _), List.nil_append]
      have : c' = c := by simpa [caller?, Session.addCaller, eq_comm] using hj
      exact this ▸ hc
    · have := (List.getElem?_eq_some_iff.mp hj).1
      simp [Session.addCaller] at this
      omega
  strangers := by
    intro j hj
    simp only [Session.addCaller, List.length_append, List.length_singleton] at hj
    rw [deeds_append, hs.strangers j (by omega), hd, if_neg (by omega), List.append_nil]
  ids := ids
  ready := by
    intro hr
    have := hs.ready hr
    simp [this]
  boxes := boxes

/-- What the worker does touches no call. -/
theorem Calls.workerMove {w : Worker ε} (hs : Calls s h) (hm : WorkerMove k s.worker e w) :
    Calls { s with worker := w } (h ++ e.toList) := by
  have ready (hr : s.readiness = .ready) : .ready ∈ reports (h ++ e.toList) := by
    simp [hs.ready hr]
  have ids : Ids s.nextId (h ++ e.toList) := by
    cases hm <;> exact hs.ids.later rfl (by simp) (by simp)
  have boxes : Boxes s.table (h ++ e.toList) := by
    cases hm <;> exact hs.boxes.later rfl
  refine hs.quiet rfl rfl ?_ ids ready boxes
  cases hm <;> simp

/-- What the router does touches no call, but it fills their mailboxes. -/
theorem Calls.routerMove (hs : Calls s h) (hch : Channels s.worker s.router h)
    (hm : RouterMove s e t) : Calls t (h ++ e.toList) := by
  have still (hr : s.readiness = .ready) : .ready ∈ reports (h ++ e.toList) := by
    simp [hs.ready hr]
  have ids : Ids s.nextId (h ++ e.toList) := by
    cases hm <;> exact hs.ids.later rfl (by simp) (by simp)
  have silent : ∀ j, deeds j e.toList = [] := by
    cases hm <;> simp
  cases hm with
  | received hr ha => exact hs.quiet rfl rfl silent ids still (hs.boxes.later rfl)
  | ended hr ha hw hc => exact hs.quiet rfl rfl silent ids still (hs.boxes.later rfl)
  | workerLost hr ha hw hc =>
      exact hs.quiet rfl rfl silent ids still ((hs.boxes.close rfl).later rfl)
  | shut hr => exact hs.quiet rfl rfl silent ids (by simp) (hs.boxes.later rfl)
  | @delivered a hr =>
      cases a with
      | ready =>
          have : .ready ∈ reports h := by
            rw [hch.responses, hch.received, hr]
            simp [Router.answer?]
          exact hs.quiet rfl rfl silent ids (by simp [this]) (hs.boxes.later rfl)
      | initFailed message =>
          exact hs.quiet rfl rfl silent ids (by simp [deliver]) (hs.boxes.later rfl)
      | result id payload => exact hs.quiet rfl rfl silent ids still (hs.boxes.settle rfl)
      | error id message logs => exact hs.quiet rfl rfl silent ids still (hs.boxes.settle rfl)

/-- **One move** keeps the invariant. -/
theorem Calls.move (hs : Calls s h) (hch : Channels s.worker s.router h) (hm : Move k s e t) :
    Calls t (h ++ e.toList) := by
  cases hm with
  | call task =>
      refine hs.addCaller ?_ (hs.ids.later rfl (by simp) (by simp)) (hs.boxes.later rfl) .begun
      intro j
      simp [eq_comm]
  | dispose =>
      exact hs.addCaller (by simp) (hs.ids.later rfl (by simp) (by simp)) (hs.boxes.later rfl)
        .disposing
  | caller hc hm => exact hs.callerMove hc hm
  | worker hm => exact hs.workerMove hm
  | loseWorker =>
      exact hs.quiet rfl rfl (by simp) (hs.ids.later rfl (by simp) (by simp))
        (fun hr => by simp [hs.ready hr]) (hs.boxes.later rfl)
  | router hm => exact hs.routerMove hch hm

end

theorem Move.config_eq {s t : Session ε} {e : Option Occurrence} (hm : Move k s e t) :
    t.config = s.config := by
  cases hm with
  | caller hc hm => exact hm.config_eq
  | router hm =>
      cases hm with
      | @delivered a hr => cases a <;> rfl
      | _ => rfl
  | _ => rfl

/-- **The invariant holds after every run**, and the configuration is the one at the start. -/
theorem calls_of_run {acts : List Action} {s : Session ε}
    (hr : runActions k (spawn config) acts = some s) :
    Calls s (history k (spawn config) acts) ∧ s.config = config := by
  have all := run_induction
    (motive := fun s h => Channels s.worker s.router h ∧ Calls s h ∧ s.config = config)
    ⟨channels_start, calls_spawn, rfl⟩
    (fun _ _ _ _ hs hm =>
      ⟨hs.1.move hm, hs.2.1.move hs.1 hm, hm.config_eq.trans hs.2.2⟩) hr
  exact all.2

end Session

end PatchSandbox
