import Mathlib.Data.List.Induction
import Mathlib.Data.List.Nodup
import PatchSandbox.Session.Step
import PatchSandbox.Proofs.Session.Table

/-!
# What becomes of a receiver

Whoever registers under an id gets a mailbox, and what it is given follows from what is done
afterwards, up to the first operation that concerns it. Nothing after that changes it.

* **`Receiver.fate`** says this of one receiver, from the operations alone, and **`receivers`** are
  all that were handed out in the course of some operations.
* **`Tracks`** ties a table to its history. It holds of a new table, and each operation keeps it.
* **`delivered_once`** — the mailboxes of a table are the fates of its receivers, and what the
  operations answer is about those that still wait.
-/

namespace PatchSandbox

namespace PendingTable

/-! ### Operations -/

/-- What is done to a table. -/
inductive Operation where
  | register (id : RequestId)
  | settle (id : RequestId) (outcome : Outcome)
  | forget (id : RequestId)
  | close (reason : SessionError)
  deriving Inhabited

namespace Operation

/-- Whether an operation decides what becomes of a receiver for an id that waits. -/
def concerns (id : RequestId) : Operation → Bool
  | .register i => i == id
  | .settle i _ => i == id
  | .forget i => i == id
  | .close _ => true

/-- What it leaves in the mailbox of that receiver. -/
def leaves : Operation → Mailbox Outcome
  | .register _ => .abandoned
  | .settle _ outcome => .holding outcome
  | .forget _ => .abandoned
  | .close reason => .holding (.error reason)

/-- Whether an operation closes the table. -/
def closes : Operation → Bool
  | .close _ => true
  | _ => false

theorem isWaiting_leaves (op : Operation) : op.leaves.isWaiting = false := by
  cases op <;> rfl

end Operation

/-- The table after an operation. -/
def perform (t : PendingTable Outcome) : Operation → PendingTable Outcome
  | .register id =>
    match t.register? id with
    | some (_, t') => t'
    | none => t
  | .settle id outcome => (t.settle id outcome).2
  | .forget id => t.forget id
  | .close reason => (t.close (.error reason)).2

/-- A new table after some operations. -/
def after (ops : List Operation) : PendingTable Outcome := ops.foldl perform {}

theorem after_append_singleton (ops : List Operation) (op : Operation) :
    after (ops ++ [op]) = (after ops).perform op := by
  simp [after]

/-! ### Receivers -/

/-- A receiver: the id that it was registered under, and what was done after that. -/
structure Receiver where
  id : RequestId
  later : List Operation

/-- What a receiver finds in its mailbox. The first operation that concerns it decides; as long as
there is none, it waits. -/
def Receiver.fate (r : Receiver) : Mailbox Outcome :=
  match r.later.find? (·.concerns r.id) with
  | some op => op.leaves
  | none => .waiting

/-- The receiver after one operation more. -/
def Receiver.extend (r : Receiver) (op : Operation) : Receiver :=
  { r with later := r.later ++ [op] }

/-- The receivers that are handed out in the course of some operations, in this order. A table
that is closed hands out none. -/
def receivers : List Operation → List Receiver
  | [] => []
  | .register id :: later => ⟨id, later⟩ :: receivers later
  | .settle _ _ :: later => receivers later
  | .forget _ :: later => receivers later
  | .close _ :: _ => []

/-- The receivers that one operation hands out after some others. -/
def newReceivers (ops : List Operation) : Operation → List Receiver
  | .register id => if ops.any Operation.closes then [] else [⟨id, []⟩]
  | _ => []

/-- One operation more makes a difference to a receiver only if it waits and the operation
concerns it. -/
theorem Receiver.fate_extend (r : Receiver) (op : Operation) :
    (r.extend op).fate =
      if r.fate.isWaiting && op.concerns r.id then op.leaves else r.fate := by
  cases hf : r.later.find? (·.concerns r.id) with
  | some first =>
      have hr : r.fate = first.leaves := by simp only [fate, hf]
      have he : (r.extend op).fate = first.leaves := by
        simp only [fate, extend, List.find?_append, hf, Option.or]
      simp [hr, he, first.isWaiting_leaves]
  | none =>
      have hr : r.fate = .waiting := by simp only [fate, hf]
      have he : (r.extend op).fate = if op.concerns r.id then op.leaves else .waiting := by
        cases hc : op.concerns r.id <;> simp [fate, extend, List.find?_append, hf, hc]
      simp [hr, he, Mailbox.isWaiting]

theorem receivers_append_singleton (ops : List Operation) (op : Operation) :
    receivers (ops ++ [op]) = (receivers ops).map (·.extend op) ++ newReceivers ops op := by
  induction ops with
  | nil => cases op <;> rfl
  | cons first ops ih =>
      cases first with
      | close reason => cases op <;> simp [receivers, newReceivers, Operation.closes]
      | register id =>
          simp only [List.cons_append, receivers, ih, List.map_cons, List.cons.injEq]
          exact ⟨rfl, by cases op <;> simp [newReceivers, Operation.closes]⟩
      | _ =>
          simp only [List.cons_append, receivers, ih, List.append_cancel_left_eq]
          cases op <;> simp [newReceivers, Operation.closes]

/-! ### One operation -/

section

variable {t : PendingTable Outcome}

/-- An open table registers an id after it has forgotten who waited under it. -/
theorem register?_of_open {id : RequestId} (hc : t.closed = false) :
    t.register? id = some (t.mailboxes.length,
      { t.forget id with waiters := (id, t.mailboxes.length) :: (t.forget id).waiters,
                         mailboxes := (t.forget id).mailboxes ++ [.waiting] }) := by
  simp [register?, hc]

theorem perform_register_of_open {id : RequestId} (hc : t.closed = false) :
    t.perform (.register id) =
      { t.forget id with waiters := (id, (t.forget id).mailboxes.length) :: (t.forget id).waiters,
                         mailboxes := (t.forget id).mailboxes ++ [.waiting] } := by
  simp [perform, register?_of_open hc]

theorem perform_register_of_closed {id : RequestId} (hc : t.closed = true) :
    t.perform (.register id) = t := by
  simp [perform, register?_eq_none_iff.mpr hc]

theorem waiter?_forget_self (id : RequestId) : (t.forget id).waiter? id = none :=
  waiter?_eq_none_iff.mpr fun _ hm => (mem_waiters_forget.mp hm).2 rfl

theorem Sound.perform (h : t.Sound) (op : Operation) : (t.perform op).Sound := by
  cases op with
  | register id =>
      cases hc : t.closed with
      | true => rwa [perform_register_of_closed hc]
      | false =>
          rw [perform_register_of_open hc]
          exact (h.forget id).register (by simpa using hc) (waiter?_forget_self id)
  | settle id outcome => exact h.settle id outcome
  | forget id => exact h.forget id
  | close reason => exact h.close (.error reason)

@[simp] theorem closed_perform (op : Operation) :
    (t.perform op).closed = (t.closed || op.closes) := by
  cases op with
  | register id =>
      cases hc : t.closed with
      | true => simp [perform_register_of_closed hc, hc]
      | false => simp [perform_register_of_open hc, hc, Operation.closes]
  | settle id outcome => simp [perform, Operation.closes]
  | forget id => simp [perform, Operation.closes]
  | close reason => simp [perform, Operation.closes]

/-- The mailboxes that one operation opens. -/
def opens (t : PendingTable Outcome) : Operation → List (Mailbox Outcome)
  | .register _ => if t.closed then [] else [.waiting]
  | _ => []

/-- **What one operation does to the mailboxes there are**: one that waits under an id that it
concerns gets what it leaves, and every other one keeps what it has. -/
theorem box?_perform (h : t.Sound) (op : Operation) {slot : Nat}
    (hs : slot < t.mailboxes.length) :
    (∃ id, (id, slot) ∈ t.waiters ∧ op.concerns id = true ∧
        (t.perform op).box? slot = some op.leaves) ∨
      ((∀ id, (id, slot) ∈ t.waiters → op.concerns id = false) ∧
        (t.perform op).box? slot = t.box? slot) := by
  -- an operation on one id concerns nobody else
  have other {id : RequestId} (hw : (id, slot) ∉ t.waiters) {i : RequestId}
      (hi : (i, slot) ∈ t.waiters) : (id == i) = false := by
    rw [beq_eq_false_iff_ne]
    rintro rfl
    exact hw hi
  cases op with
  | register id =>
      cases hc : t.closed with
      | true =>
          rw [perform_register_of_closed hc]
          exact .inr ⟨fun i hi => absurd (open_of_mem h hi) (by simp [hc]), rfl⟩
      | false =>
          rw [perform_register_of_open hc, box?, List.getElem?_append_left (by simpa using hs)]
          rcases box?_forget h id slot with ⟨hw, he⟩ | ⟨hw, he⟩
          · exact .inl ⟨id, hw, beq_self_eq_true id, he⟩
          · exact .inr ⟨fun i hi => other hw hi, he⟩
  | settle id outcome =>
      rcases box?_settle h id outcome slot with ⟨hw, he⟩ | ⟨hw, he⟩
      · exact .inl ⟨id, hw, beq_self_eq_true id, he⟩
      · exact .inr ⟨fun i hi => other hw hi, he⟩
  | forget id =>
      rcases box?_forget h id slot with ⟨hw, he⟩ | ⟨hw, he⟩
      · exact .inl ⟨id, hw, beq_self_eq_true id, he⟩
      · exact .inr ⟨fun i hi => other hw hi, he⟩
  | close reason =>
      rcases box?_close h (.error reason) slot with ⟨hw, he⟩ | ⟨hn, he⟩
      · obtain ⟨id, hw⟩ := (h.waiting slot).mp hw
        exact .inl ⟨id, hw, rfl, he⟩
      · exact .inr ⟨fun id hw => absurd (box?_of_mem h hw) hn, he⟩

/-- What an operation opens comes after the mailboxes there are. -/
theorem mailboxes_perform (t : PendingTable Outcome) (op : Operation) :
    ∃ old, old.length = t.mailboxes.length ∧ (t.perform op).mailboxes = old ++ t.opens op := by
  cases op with
  | register id =>
      cases hc : t.closed with
      | true => exact ⟨_, rfl, by simp [perform_register_of_closed hc, opens, hc]⟩
      | false =>
          refine ⟨(t.forget id).mailboxes, length_mailboxes_forget id, ?_⟩
          simp [perform_register_of_open hc, opens, hc]
  | settle id outcome =>
      exact ⟨_, length_mailboxes_settle id outcome, (List.append_nil _).symm⟩
  | forget id => exact ⟨_, length_mailboxes_forget id, (List.append_nil _).symm⟩
  | close reason => exact ⟨_, length_mailboxes_close _, (List.append_nil _).symm⟩

/-- Nobody waits after an operation that did not wait before or has just been registered. -/
theorem mem_waiters_perform {op : Operation} {w : RequestId × Nat}
    (hw : w ∈ (t.perform op).waiters) :
    w ∈ t.waiters ∨ (t.closed = false ∧ op = .register w.1 ∧ w.2 = t.mailboxes.length) := by
  cases op with
  | register id =>
      cases hc : t.closed with
      | true =>
          rw [perform_register_of_closed hc] at hw
          exact .inl hw
      | false =>
          rw [perform_register_of_open hc] at hw
          rcases List.mem_cons.mp hw with rfl | hw
          · exact .inr ⟨rfl, rfl, length_mailboxes_forget id⟩
          · exact .inl (mem_waiters_forget.mp hw).1
  | settle id outcome => exact .inl (mem_waiters_settle.mp hw).1
  | forget id => exact .inl (mem_waiters_forget.mp hw).1
  | close reason => exact absurd hw List.not_mem_nil

end

/-- As many wait as there are mailboxes without anything in them. -/
theorem size_eq_countP {α : Type} {t : PendingTable α} (h : t.Sound) :
    t.size = t.mailboxes.countP Mailbox.isWaiting := by
  have same : (t.waiters.map (·.2)).Perm (t.mailboxes.findIdxs Mailbox.isWaiting) := by
    refine (List.perm_ext_iff_of_nodup h.slots List.nodup_findIdxs).mpr fun slot => ?_
    have hw := h.waiting slot
    rw [box?, List.getElem?_eq_some_iff] at hw
    simpa [List.mem_findIdxs_iff_exists_getElem_pos, Mailbox.isWaiting_iff] using hw.symm
  rw [size, ← List.length_map (f := (·.2)), same.length_eq, List.length_findIdxs]

/-! ### Histories -/

/-- A table and the operations that have led to it. -/
structure Tracks (t : PendingTable Outcome) (ops : List Operation) : Prop where
  sound : t.Sound
  closed : t.closed = ops.any Operation.closes
  mailboxes : t.mailboxes = (receivers ops).map Receiver.fate
  ids : ∀ id slot, (id, slot) ∈ t.waiters → ∃ r, (receivers ops)[slot]? = some r ∧ r.id = id

namespace Tracks

variable {t : PendingTable Outcome} {ops : List Operation}

theorem empty : Tracks {} [] where
  sound := sound_empty
  closed := rfl
  mailboxes := rfl
  ids := fun _ _ hw => absurd hw List.not_mem_nil

theorem box?_eq (h : Tracks t ops) {slot : Nat} {r : Receiver}
    (hr : (receivers ops)[slot]? = some r) : t.box? slot = some r.fate := by
  rw [box?, h.mailboxes, List.getElem?_map, hr]
  rfl

/-- Those that wait under an id are the receivers for it that nothing has come to. -/
theorem mem_waiters_iff (h : Tracks t ops) {slot : Nat} {r : Receiver}
    (hr : (receivers ops)[slot]? = some r) {id : RequestId} :
    (id, slot) ∈ t.waiters ↔ r.id = id ∧ r.fate = .waiting := by
  have known {i : RequestId} (hi : (i, slot) ∈ t.waiters) : r.id = i := by
    obtain ⟨r', hr', rfl⟩ := h.ids i slot hi
    rw [Option.some.inj (hr.symm.trans hr')]
  constructor
  · intro hw
    exact ⟨known hw, Option.some.inj ((h.box?_eq hr).symm.trans (box?_of_mem h.sound hw))⟩
  · rintro ⟨rfl, hf⟩
    obtain ⟨i, hi⟩ := (h.sound.waiting slot).mp (hf ▸ h.box?_eq hr)
    rwa [known hi]

/-- What becomes of the mailboxes there are is what becomes of their receivers. -/
theorem box?_perform_eq (h : Tracks t ops) (op : Operation) {slot : Nat} {r : Receiver}
    (hr : (receivers ops)[slot]? = some r) :
    (t.perform op).box? slot = some (r.extend op).fate := by
  have hs : slot < t.mailboxes.length := by
    rw [h.mailboxes, List.length_map]
    exact (List.getElem?_eq_some_iff.mp hr).1
  rw [r.fate_extend]
  rcases box?_perform h.sound op hs with ⟨id, hw, hc, he⟩ | ⟨hn, he⟩
  · obtain ⟨rfl, hf⟩ := (h.mem_waiters_iff hr).mp hw
    rw [he, if_pos (by simp [hf, hc, Mailbox.isWaiting])]
  · rw [he, h.box?_eq hr, if_neg]
    rw [Bool.and_eq_true, Mailbox.isWaiting_iff]
    rintro ⟨hf, hc⟩
    rw [hn r.id ((h.mem_waiters_iff hr).mpr ⟨rfl, hf⟩)] at hc
    cases hc

/-- **Each operation keeps a table on the track of its history.** -/
theorem perform (h : Tracks t ops) (op : Operation) : Tracks (t.perform op) (ops ++ [op]) where
  sound := h.sound.perform op
  closed := by simp [h.closed]
  mailboxes := by
    obtain ⟨old, hl, he⟩ := mailboxes_perform t op
    have opened : t.opens op = (newReceivers ops op).map Receiver.fate := by
      cases op with
      | register id =>
          simp only [opens, newReceivers, h.closed]
          split <;> rfl
      | _ => rfl
    rw [receivers_append_singleton, List.map_append, ← opened, he]
    congr 1
    refine List.ext_getElem? fun slot => ?_
    rw [List.getElem?_map, List.getElem?_map]
    cases hr : (receivers ops)[slot]? with
    | some r =>
        have hs : slot < old.length := by
          rw [hl, h.mailboxes, List.length_map]
          exact (List.getElem?_eq_some_iff.mp hr).1
        have kept : (old ++ t.opens op)[slot]? = old[slot]? := List.getElem?_append_left hs
        rw [← kept, ← he]
        exact h.box?_perform_eq op hr
    | none =>
        have hs : (receivers ops).length ≤ slot := List.getElem?_eq_none_iff.mp hr
        exact List.getElem?_eq_none (by rwa [hl, h.mailboxes, List.length_map])
  ids := by
    intro id slot hw
    rw [receivers_append_singleton]
    rcases mem_waiters_perform hw with hw | ⟨hc, rfl, rfl⟩
    · obtain ⟨r, hr, rfl⟩ := h.ids id slot hw
      refine ⟨r.extend op, ?_, rfl⟩
      rw [List.getElem?_append_left (by simpa using (List.getElem?_eq_some_iff.mp hr).1),
        List.getElem?_map, hr]
      rfl
    · refine ⟨⟨id, []⟩, ?_, rfl⟩
      simp [h.mailboxes, newReceivers, ← h.closed, hc]

/-- Nobody waits in a table that is closed. -/
theorem size_eq_zero (h : Tracks t ops) (hc : ops.any Operation.closes = true) : t.size = 0 := by
  rw [size, h.sound.closed (h.closed.trans hc), List.length_nil]

theorem size_eq (h : Tracks t ops) :
    t.size = (receivers ops).countP fun r => r.fate.isWaiting := by
  rw [size_eq_countP h.sound, h.mailboxes, List.countP_map]
  rfl

end Tracks

theorem tracks_after (ops : List Operation) : Tracks (after ops) ops := by
  induction ops using List.reverseRecOn with
  | nil => exact .empty
  | append_singleton ops op ih =>
      rw [after_append_singleton]
      exact ih.perform op

/-- The receiver that a registration hands out is the next one. -/
theorem getElem?_receivers {before : List Operation} (id : RequestId) (later : List Operation)
    (ho : before.any Operation.closes = false) :
    (receivers (before ++ .register id :: later))[(receivers before).length]? =
      some ⟨id, later⟩ := by
  induction before with
  | nil => rfl
  | cons first before ih =>
      rw [List.any_cons, Bool.or_eq_false_iff] at ho
      cases first with
      | close reason => simp [Operation.closes] at ho
      | _ => simpa [receivers] using ih ho.2

/-- **Every receiver is delivered to at most once, and it is told what its history says.** A
registration on a table that is not closed hands out a receiver, and what is in its mailbox is its
fate; there are no other mailboxes. Settling succeeds exactly if a receiver for the id waits, which
then has the outcome. The size of a table, and what closing it tells, is the number of receivers
that wait. Once closed, a table stays closed and empty, and a call that wants to register there
ends with the error that the session is over. -/
theorem delivered_once (ops : List Operation) :
    (∀ before id later, ops = before ++ .register id :: later →
      (after before).register? id =
        (if before.any Operation.closes then none
          else some ((receivers before).length, after (before ++ [.register id]))) ∧
      (before.any Operation.closes = false →
        (after ops).box? (receivers before).length = some (Receiver.fate ⟨id, later⟩))) ∧
    (after ops).mailboxes = (receivers ops).map Receiver.fate ∧
    (∀ id outcome, (((after ops).settle id outcome).1 = true ↔
        ∃ slot r, (receivers ops)[slot]? = some r ∧ r.id = id ∧ r.fate = .waiting ∧
          ((after ops).settle id outcome).2.box? slot = some (.holding outcome)) ∧
      (((after ops).settle id outcome).1 = false →
        ((after ops).settle id outcome).2 = after ops)) ∧
    (after ops).size = (receivers ops).countP (fun r => r.fate.isWaiting) ∧
    (∀ reason, ((after ops).close reason).1 =
      (receivers ops).countP fun r => r.fate.isWaiting) ∧
    (after ops).closed = ops.any Operation.closes ∧
    (ops.any Operation.closes = true → (after ops).size = 0 ∧
      ∀ (ε : Type) (s : Session ε) i p id, s.table = after ops →
        s.proceed i (.numbered p id) = some (s.setCaller i (.done (.error .disposed)))) := by
  have h := tracks_after ops
  refine ⟨?_, h.mailboxes, fun id outcome => ⟨?_, ?_⟩, h.size_eq, fun _ => h.size_eq, h.closed,
    fun hc => ⟨h.size_eq_zero hc, fun ε s i p id ht => ?_⟩⟩
  · rintro before id later rfl
    refine ⟨?_, fun ho => h.box?_eq (getElem?_receivers id later ho)⟩
    have hb := tracks_after before
    cases hc : before.any Operation.closes with
    | true => exact register?_eq_none_iff.mpr (hb.closed.trans hc)
    | false =>
        have ho := hb.closed.trans hc
        rw [after_append_singleton, perform_register_of_open ho, register?_of_open ho]
        simp [hb.mailboxes]
  · rcases settle_cases h.sound id outcome with ⟨slot, hw, he⟩ | ⟨hn, he⟩
    · obtain ⟨r, hr, rfl⟩ := h.ids id slot hw
      refine iff_of_true (by rw [he]) ⟨slot, r, hr, rfl, ((h.mem_waiters_iff hr).mp hw).2, ?_⟩
      rw [he, box?_resolve _ (slot_lt_of_mem h.sound hw), if_pos rfl]
    · refine iff_of_false (by rw [he]; exact Bool.false_ne_true) ?_
      rintro ⟨slot, r, hr, rfl, hf, -⟩
      exact waiter?_eq_none_iff.mp hn slot ((h.mem_waiters_iff hr).mpr ⟨rfl, hf⟩)
  · rcases settle_cases h.sound id outcome with ⟨slot, -, he⟩ | ⟨-, he⟩
    · intro hs
      rw [he] at hs
      cases hs
    · exact fun _ => by rw [he]
  · have hn : s.table.register? id = none := by
      rw [ht, register?_eq_none_iff, h.closed, hc]
    simp only [Session.proceed, hn]

/-- An id that is registered twice, settled and registered again before the table is closed. -/
theorem replaced_settled_and_rejected :
    (after [.register 1, .register 1, .settle 1 (.ok default), .register 1,
      .close .disposed]).mailboxes =
      [.abandoned, .holding (.ok default), .holding (.error .disposed)] :=
  (delivered_once _).2.1

end PendingTable

end PatchSandbox
