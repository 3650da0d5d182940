import PatchSandbox.Session.Pending

/-!
# The table of pending requests

**`PendingTable.Sound`** is the shape every table has that was filled by its own operations:
ids and mailboxes are listed at most once, and the mailboxes that wait are exactly the listed
ones. Each operation keeps it, and each has one equation that says what becomes of any
mailbox.
-/

namespace PatchSandbox

/-- Whether nothing has come to a mailbox yet. -/
def Mailbox.isWaiting {α : Type} : Mailbox α → Bool
  | .waiting => true
  | _ => false

theorem Mailbox.isWaiting_iff {α : Type} {m : Mailbox α} : m.isWaiting = true ↔ m = .waiting := by
  cases m <;> simp [isWaiting]

namespace PendingTable

variable {α : Type} {t : PendingTable α}

/-- A mailbox of the table. -/
def box? (t : PendingTable α) (slot : Nat) : Option (Mailbox α) := t.mailboxes[slot]?

/-- The shape of a table that was filled by its own operations. -/
structure Sound (t : PendingTable α) : Prop where
  ids : (t.waiters.map (·.1)).Nodup
  slots : (t.waiters.map (·.2)).Nodup
  waiting : ∀ slot, t.box? slot = some .waiting ↔ ∃ id, (id, slot) ∈ t.waiters
  closed : t.closed = true → t.waiters = []

/-- A new table. -/
theorem sound_empty : Sound ({} : PendingTable α) where
  ids := by simp
  slots := by simp
  waiting := by simp [box?]
  closed := by simp

/-! ### Who waits under an id -/

theorem waiter?_eq_some_iff (h : t.Sound) {id : RequestId} {slot : Nat} :
    t.waiter? id = some slot ↔ (id, slot) ∈ t.waiters := by
  have distinct := h.ids
  unfold waiter?
  generalize t.waiters = ws at distinct ⊢
  induction ws with
  | nil => simp
  | cons w ws ih =>
      obtain ⟨i, s⟩ := w
      simp only [List.map_cons, List.nodup_cons, List.mem_map, not_exists, not_and] at distinct
      by_cases hi : i = id
      · subst hi
        have absent : (i, slot) ∉ ws := fun hm => distinct.1 _ hm rfl
        simp [absent, eq_comm]
      · rw [List.find?_cons_of_neg (by simpa using hi)]
        simpa [Ne.symm hi] using ih distinct.2

theorem waiter?_eq_none_iff {id : RequestId} :
    t.waiter? id = none ↔ ∀ slot, (id, slot) ∉ t.waiters := by
  unfold waiter?
  simp only [Option.map_eq_none_iff, List.find?_eq_none, beq_iff_eq]
  constructor
  · intro h slot hm
    exact h _ hm rfl
  · rintro h ⟨i, slot⟩ hm rfl
    exact h slot hm

/-- All waiters are under other ids than one that nobody waits under. -/
theorem mem_waiters_of_waiter?_eq_none {id : RequestId} {w : RequestId × Nat}
    (hn : t.waiter? id = none) : w ∈ t.waiters ↔ w ∈ t.waiters ∧ w.1 ≠ id := by
  refine ⟨fun hm => ⟨hm, ?_⟩, And.left⟩
  rintro rfl
  exact waiter?_eq_none_iff.mp hn w.2 hm

/-- A waiter has a mailbox that waits. -/
theorem box?_of_mem (h : t.Sound) {id : RequestId} {slot : Nat} (hw : (id, slot) ∈ t.waiters) :
    t.box? slot = some .waiting :=
  (h.waiting slot).mpr ⟨id, hw⟩

theorem slot_lt_of_mem (h : t.Sound) {id : RequestId} {slot : Nat}
    (hw : (id, slot) ∈ t.waiters) : slot < t.mailboxes.length := by
  have hb := box?_of_mem h hw
  exact (List.getElem?_eq_some_iff.mp hb).1

/-- Where somebody waits, the table is open. -/
theorem open_of_mem (h : t.Sound) {w : RequestId × Nat} (hw : w ∈ t.waiters) :
    t.closed = false := by
  cases hc : t.closed with
  | false => rfl
  | true =>
      rw [h.closed hc] at hw
      exact absurd hw List.not_mem_nil

/-- A mailbox waits under one id only. -/
theorem id_eq_of_mem (h : t.Sound) {i j : RequestId} {slot : Nat} (hi : (i, slot) ∈ t.waiters)
    (hj : (j, slot) ∈ t.waiters) : i = j := by
  have distinct := h.slots
  generalize t.waiters = ws at distinct hi hj
  induction ws with
  | nil => simp at hi
  | cons w ws ih =>
      simp only [List.map_cons, List.nodup_cons, List.mem_map, not_exists, not_and] at distinct
      rcases List.mem_cons.mp hi with hi | hi <;> rcases List.mem_cons.mp hj with hj | hj
      · exact congrArg Prod.fst (hi.trans hj.symm)
      · exact absurd (by rw [← hi]) (distinct.1 _ hj)
      · exact absurd (by rw [← hj]) (distinct.1 _ hi)
      · exact ih distinct.2 hi hj

/-- An id waits in one mailbox only. -/
theorem slot_eq_of_mem (h : t.Sound) {id : RequestId} {r s : Nat} (hr : (id, r) ∈ t.waiters)
    (hs : (id, s) ∈ t.waiters) : r = s := by
  rw [← waiter?_eq_some_iff h] at hr hs
  exact Option.some.inj (hr.symm.trans hs)

/-! ### Taking a waiter off the list -/

/-- What `settle` and `forget` do to the table when an id waits: its mailbox gets something
else than waiting, and the id is no longer listed. -/
def resolve (t : PendingTable α) (id : RequestId) (slot : Nat) (m : Mailbox α) :
    PendingTable α :=
  (t.put slot m).unlist id

@[simp] theorem closed_resolve (id : RequestId) (slot : Nat) (m : Mailbox α) :
    (t.resolve id slot m).closed = t.closed := rfl

@[simp] theorem length_mailboxes_resolve (id : RequestId) (slot : Nat) (m : Mailbox α) :
    (t.resolve id slot m).mailboxes.length = t.mailboxes.length := by
  simp [resolve, put, unlist]

theorem mem_waiters_resolve {id : RequestId} {slot : Nat} {m : Mailbox α}
    {w : RequestId × Nat} :
    w ∈ (t.resolve id slot m).waiters ↔ w ∈ t.waiters ∧ w.1 ≠ id := by
  simp [resolve, put, unlist]

theorem box?_resolve {id : RequestId} {slot : Nat} (m : Mailbox α)
    (hs : slot < t.mailboxes.length) (x : Nat) :
    (t.resolve id slot m).box? x = if x = slot then some m else t.box? x := by
  simp only [resolve, unlist, put, box?, List.getElem?_set]
  by_cases hx : slot = x
  · simp [hx, hx ▸ hs]
  · simp [hx, Ne.symm hx]

theorem Sound.resolve (h : t.Sound) {id : RequestId} {slot : Nat} {m : Mailbox α}
    (hw : (id, slot) ∈ t.waiters) (hm : m ≠ .waiting) : (t.resolve id slot m).Sound where
  ids := h.ids.sublist (List.filter_sublist.map _)
  slots := h.slots.sublist (List.filter_sublist.map _)
  waiting := by
    intro x
    rw [box?_resolve m (slot_lt_of_mem h hw)]
    by_cases hx : x = slot
    · subst hx
      simp only [if_true, Option.some.injEq, hm, false_iff, not_exists]
      rintro i hi
      obtain ⟨hi, hne⟩ := mem_waiters_resolve.mp hi
      exact hne (id_eq_of_mem h hi hw)
    · rw [if_neg hx, h.waiting]
      constructor
      · rintro ⟨i, hi⟩
        refine ⟨i, mem_waiters_resolve.mpr ⟨hi, ?_⟩⟩
        rintro rfl
        exact hx (slot_eq_of_mem h hi hw)
      · rintro ⟨i, hi⟩
        exact ⟨i, (mem_waiters_resolve.mp hi).1⟩
  closed := by
    intro hc
    rw [h.closed hc] at hw
    exact absurd hw List.not_mem_nil

/-! ### `forget` -/

/-- Forgetting an id takes its waiter off the list, if there is one. -/
theorem forget_cases (h : t.Sound) (id : RequestId) :
    (∃ slot, (id, slot) ∈ t.waiters ∧ t.forget id = t.resolve id slot .abandoned) ∨
      (t.waiter? id = none ∧ t.forget id = t) := by
  unfold forget
  cases hw : t.waiter? id with
  | some slot => exact .inl ⟨slot, (waiter?_eq_some_iff h).mp hw, rfl⟩
  | none => exact .inr ⟨rfl, rfl⟩

theorem Sound.forget (h : t.Sound) (id : RequestId) : (t.forget id).Sound := by
  rcases forget_cases h id with ⟨slot, hw, he⟩ | ⟨-, he⟩
  · rw [he]
    exact h.resolve hw (by simp)
  · rwa [he]

@[simp] theorem closed_forget (id : RequestId) : (t.forget id).closed = t.closed := by
  unfold PendingTable.forget
  split <;> rfl

@[simp] theorem length_mailboxes_forget (id : RequestId) :
    (t.forget id).mailboxes.length = t.mailboxes.length := by
  unfold PendingTable.forget
  split
  · exact length_mailboxes_resolve id _ _
  · rfl

theorem mem_waiters_forget {id : RequestId} {w : RequestId × Nat} :
    w ∈ (t.forget id).waiters ↔ w ∈ t.waiters ∧ w.1 ≠ id := by
  unfold PendingTable.forget
  cases hw : t.waiter? id with
  | some slot => exact mem_waiters_resolve
  | none => exact mem_waiters_of_waiter?_eq_none hw

/-- A mailbox after an id was forgotten: the one that waited under the id is abandoned, every
other one is what it was. -/
theorem box?_forget (h : t.Sound) (id : RequestId) (x : Nat) :
    ((id, x) ∈ t.waiters ∧ (t.forget id).box? x = some .abandoned) ∨
      ((id, x) ∉ t.waiters ∧ (t.forget id).box? x = t.box? x) := by
  rcases forget_cases h id with ⟨slot, hw, he⟩ | ⟨hn, he⟩
  · rw [he, box?_resolve _ (slot_lt_of_mem h hw)]
    by_cases hx : x = slot
    · subst hx
      exact .inl ⟨hw, by simp⟩
    · exact .inr ⟨fun hm => hx (slot_eq_of_mem h hm hw), by simp [hx]⟩
  · rw [he]
    exact .inr ⟨waiter?_eq_none_iff.mp hn x, rfl⟩

/-! ### `register?` -/

/-- A table that is closed registers nobody. -/
theorem register?_eq_none_iff {id : RequestId} : t.register? id = none ↔ t.closed = true := by
  unfold register?
  cases t.closed <;> simp

/-- Under an id that nobody waits under, a new mailbox is opened and nothing else changes. -/
theorem register?_of_fresh {id : RequestId} {slot : Nat} {t' : PendingTable α}
    (hf : t.waiter? id = none) (hr : t.register? id = some (slot, t')) :
    t.closed = false ∧ slot = t.mailboxes.length ∧
      t' = { t with waiters := (id, slot) :: t.waiters,
                    mailboxes := t.mailboxes ++ [.waiting] } := by
  have he : t.forget id = t := by simp [PendingTable.forget, hf]
  unfold register? at hr
  rw [he] at hr
  cases hc : t.closed with
  | true => simp [hc] at hr
  | false =>
      simp only [hc, Bool.false_eq_true, if_false, Option.some.injEq, Prod.mk.injEq] at hr
      obtain ⟨rfl, rfl⟩ := hr
      exact ⟨rfl, rfl, rfl⟩

/-- The table with one waiter more. -/
theorem Sound.register (h : t.Sound) {id : RequestId} (hc : t.closed = false)
    (hf : t.waiter? id = none) :
    Sound { t with waiters := (id, t.mailboxes.length) :: t.waiters,
                   mailboxes := t.mailboxes ++ [.waiting] } where
  ids := by
    rw [waiter?_eq_none_iff] at hf
    refine List.nodup_cons.mpr ⟨?_, h.ids⟩
    intro hm
    obtain ⟨⟨i, slot⟩, hw, rfl⟩ := List.mem_map.mp hm
    exact hf slot hw
  slots := by
    refine List.nodup_cons.mpr ⟨?_, h.slots⟩
    intro hm
    obtain ⟨⟨i, slot⟩, hw, he⟩ := List.mem_map.mp hm
    have := slot_lt_of_mem h hw
    simp only at he
    omega
  waiting := by
    intro x
    have hx := h.waiting x
    simp only [box?] at hx ⊢
    by_cases hlt : x < t.mailboxes.length
    · rw [List.getElem?_append_left hlt, hx]
      simp [Nat.ne_of_lt hlt]
    · rw [List.getElem?_append_right (Nat.le_of_not_lt hlt)]
      have absent : ∀ i, (i, x) ∉ t.waiters := fun i hm => hlt (slot_lt_of_mem h hm)
      by_cases he : x = t.mailboxes.length
      · simp [he]
      · have hpos : ∃ n, x - t.mailboxes.length = n + 1 := ⟨x - t.mailboxes.length - 1, by omega⟩
        obtain ⟨n, hn⟩ := hpos
        simp [hn, he, absent]
  closed := by simp [hc]

/-! ### `settle` -/

/-- Settling an id fills the mailbox that waits under it; without one nothing changes. -/
theorem settle_cases (h : t.Sound) (id : RequestId) (o : α) :
    (∃ slot, (id, slot) ∈ t.waiters ∧
        t.settle id o = (true, t.resolve id slot (.holding o))) ∨
      (t.waiter? id = none ∧ t.settle id o = (false, t)) := by
  unfold settle
  cases hw : t.waiter? id with
  | some slot => exact .inl ⟨slot, (waiter?_eq_some_iff h).mp hw, rfl⟩
  | none => exact .inr ⟨rfl, rfl⟩

theorem Sound.settle (h : t.Sound) (id : RequestId) (o : α) : (t.settle id o).2.Sound := by
  rcases settle_cases h id o with ⟨slot, hw, he⟩ | ⟨-, he⟩
  · rw [he]
    exact h.resolve hw (by simp)
  · rwa [he]

@[simp] theorem closed_settle (id : RequestId) (o : α) : (t.settle id o).2.closed = t.closed := by
  unfold PendingTable.settle
  split <;> rfl

@[simp] theorem length_mailboxes_settle (id : RequestId) (o : α) :
    (t.settle id o).2.mailboxes.length = t.mailboxes.length := by
  unfold PendingTable.settle
  split
  · exact length_mailboxes_resolve id _ _
  · rfl

theorem mem_waiters_settle {id : RequestId} {o : α} {w : RequestId × Nat} :
    w ∈ (t.settle id o).2.waiters ↔ w ∈ t.waiters ∧ w.1 ≠ id := by
  unfold PendingTable.settle
  cases hw : t.waiter? id with
  | some slot => exact mem_waiters_resolve
  | none => exact mem_waiters_of_waiter?_eq_none hw

/-- A mailbox after an id was settled: the one that waited under the id holds the outcome,
every other one is what it was. -/
theorem box?_settle (h : t.Sound) (id : RequestId) (o : α) (x : Nat) :
    ((id, x) ∈ t.waiters ∧ (t.settle id o).2.box? x = some (.holding o)) ∨
      ((id, x) ∉ t.waiters ∧ (t.settle id o).2.box? x = t.box? x) := by
  rcases settle_cases h id o with ⟨slot, hw, he⟩ | ⟨hn, he⟩
  · rw [he, box?_resolve _ (slot_lt_of_mem h hw)]
    by_cases hx : x = slot
    · subst hx
      exact .inl ⟨hw, by simp⟩
    · refine .inr ⟨fun hm => hx (slot_eq_of_mem h hm hw), by simp [hx]⟩
  · rw [he]
    exact .inr ⟨waiter?_eq_none_iff.mp hn x, rfl⟩

/-! ### `close` -/

theorem length_foldl_set (ws : List (RequestId × Nat)) (ms : List (Mailbox α)) (m : Mailbox α) :
    (ws.foldl (fun ms w => ms.set w.2 m) ms).length = ms.length := by
  induction ws generalizing ms with
  | nil => rfl
  | cons w ws ih => rw [List.foldl_cons, ih, List.length_set]

/-- Filling listed places one after the other. -/
theorem getElem?_foldl_set (ws : List (RequestId × Nat)) (m : Mailbox α) (x : Nat) :
    ∀ ms : List (Mailbox α), x < ms.length →
      (ws.foldl (fun ms w => ms.set w.2 m) ms)[x]? =
        if x ∈ ws.map (·.2) then some m else ms[x]? := by
  induction ws with
  | nil => intro ms _; simp
  | cons w ws ih =>
      intro ms hx
      rw [List.foldl_cons, ih _ (by simpa using hx)]
      by_cases hm : x ∈ ws.map (·.2)
      · simp [hm]
      · by_cases he : w.2 = x
        · subst he
          simp [hm, hx]
        · simp only [hm, if_false, List.getElem?_set_ne he, List.map_cons, List.mem_cons,
            Ne.symm he, or_self]

@[simp] theorem closed_close (o : α) : (t.close o).2.closed = true := rfl

@[simp] theorem waiters_close (o : α) : (t.close o).2.waiters = [] := rfl

@[simp] theorem length_mailboxes_close (o : α) :
    (t.close o).2.mailboxes.length = t.mailboxes.length :=
  length_foldl_set _ _ _

/-- Closing fills exactly the mailboxes that wait. -/
theorem box?_close (h : t.Sound) (o : α) (x : Nat) :
    (t.box? x = some .waiting ∧ (t.close o).2.box? x = some (.holding o)) ∨
      (t.box? x ≠ some .waiting ∧ (t.close o).2.box? x = t.box? x) := by
  by_cases hx : x < t.mailboxes.length
  · have he : (t.close o).2.box? x = _ := getElem?_foldl_set t.waiters (.holding o) x _ hx
    have hm : x ∈ t.waiters.map (·.2) ↔ t.box? x = some .waiting := by
      rw [h.waiting]
      simp
    rw [he]
    by_cases hw : t.box? x = some .waiting
    · exact .inl ⟨hw, by rw [if_pos (hm.mpr hw)]⟩
    · exact .inr ⟨hw, by rw [if_neg (fun hc => hw (hm.mp hc))]; rfl⟩
  · have hn : t.box? x = none := List.getElem?_eq_none (Nat.le_of_not_lt hx)
    refine .inr ⟨by simp [hn], ?_⟩
    rw [hn]
    exact List.getElem?_eq_none (by simpa using hx)

theorem Sound.close (h : t.Sound) (o : α) : (t.close o).2.Sound where
  ids := by simp
  slots := by simp
  waiting := by
    intro x
    rcases box?_close h o x with ⟨-, he⟩ | ⟨hw, he⟩ <;> simp [*]
  closed := fun _ => rfl

/-! ### `take` -/

/-- Looking into a mailbox changes the table only by taking an outcome out. -/
theorem take_holding {slot : Nat} {o : α} {t' : PendingTable α}
    (h : t.take slot = (.holding o, t')) :
    t.box? slot = some (.holding o) ∧ t' = t.put slot .abandoned := by
  unfold take at h
  cases hb : t.mailboxes[slot]? with
  | none => simp [hb] at h
  | some m =>
      cases m with
      | waiting => simp [hb] at h
      | abandoned => simp [hb] at h
      | holding o' =>
          simp only [hb, Prod.mk.injEq, Mailbox.holding.injEq] at h
          exact ⟨h.1 ▸ hb, h.2.symm⟩

/-- What is seen in a mailbox is what is in it. -/
theorem take_fst {slot : Nat} {m : Mailbox α} (hb : t.box? slot = some m) :
    (t.take slot).1 = m := by
  unfold take
  rw [show t.mailboxes[slot]? = some m from hb]
  cases m <;> rfl

theorem take_waiting {slot : Nat} {t' : PendingTable α} (h : t.take slot = (.waiting, t')) :
    t.box? slot = some .waiting := by
  unfold take at h
  unfold box?
  cases hb : t.mailboxes[slot]? with
  | none => simp [hb] at h
  | some m => cases m <;> simp [hb] at h ⊢

theorem box?_put {slot : Nat} (m : Mailbox α) (hs : slot < t.mailboxes.length) (x : Nat) :
    (t.put slot m).box? x = if x = slot then some m else t.box? x := by
  simp only [put, box?, List.getElem?_set]
  by_cases hx : slot = x
  · simp [hx, hx ▸ hs]
  · simp [hx, Ne.symm hx]

/-- A mailbox out of which an outcome is taken did not wait. -/
theorem Sound.put (h : t.Sound) {slot : Nat} {o : α} (hb : t.box? slot = some (.holding o)) :
    (t.put slot .abandoned).Sound where
  ids := h.ids
  slots := h.slots
  waiting := by
    intro x
    have hs : slot < t.mailboxes.length := (List.getElem?_eq_some_iff.mp hb).1
    rw [box?_put _ hs]
    by_cases hx : x = slot
    · subst hx
      have hw := h.waiting x
      rw [hb] at hw
      simpa [PendingTable.put] using hw
    · rw [if_neg hx]
      exact h.waiting x
  closed := h.closed

end PendingTable

end PatchSandbox
