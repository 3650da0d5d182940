import Mathlib.Data.List.Induction
import PatchSandbox.Evaluation.Event

/-!
# What the ledger of rejected promises knows

The ledger sees one report after the other and keeps two numbers at hand; what it answers
depends on the whole sequence.

* **`LeftUnhandled`** says of a sequence of reports that a rejection is left: from some report on
  there are more rejections than promises that somebody waits for. **`outstanding_lt_iff`** is
  the reason why the counter knows.
* **`Blamed`** is the reason that is told: that of the report since which one was always left.
* **`take_eq_some_iff`** and **`take_eq_none_iff`** say that the ledger answers exactly so.
-/

namespace PatchSandbox

/-- Whether a report is of a rejection. -/
def Rejection.isUnhandled : Rejection → Bool
  | .unhandled _ => true
  | .handled => false

namespace Ledger

/-- What is known after some reports. -/
def of (rs : List Rejection) : Ledger := rs.foldl note {}

theorem ofRejections_eq (rs : Array Rejection) : ofRejections rs = of rs.toList := by
  rw [ofRejections, of, Array.foldl_toList]

@[simp] theorem of_nil : of [] = {} := rfl

@[simp] theorem of_append_singleton (rs : List Rejection) (r : Rejection) :
    of (rs ++ [r]) = (of rs).note r := by
  simp [of]

/-! ### Whether a rejection is left -/

/-- Among some reports there are more rejections than promises that somebody waits for, and the
difference exceeds a number. -/
def Exceeds (m : Nat) (rs : List Rejection) : Prop :=
  rs.countP (!·.isUnhandled) + m < rs.countP Rejection.isUnhandled

/-- A rejection is left: from some report on, more promises are rejected than somebody waits
for in the end. Before that report the two may be out of balance in any way. -/
def LeftUnhandled (rs : List Rejection) : Prop := ∃ rest, rest <:+ rs ∧ Exceeds 0 rest

section

variable {rs rest : List Rejection} {r : Rejection} {m : Nat} {reason reason' : String}

@[simp] theorem not_exceeds_nil : ¬ Exceeds m [] := by simp [Exceeds]

/-- A rejection more lets the reports exceed one number more. -/
@[simp] theorem exceeds_append_unhandled :
    Exceeds (m + 1) (rest ++ [.unhandled reason]) ↔ Exceeds m rest := by
  simp [Exceeds, Rejection.isUnhandled, ← Nat.add_assoc]

theorem exceeds_unhandled : Exceeds 0 [.unhandled reason] := by
  simp [Exceeds, Rejection.isUnhandled]

/-- Somebody waits for one promise more. -/
@[simp] theorem exceeds_append_handled : Exceeds m (rest ++ [.handled]) ↔ Exceeds (m + 1) rest := by
  simp [Exceeds, Rejection.isUnhandled, Nat.add_right_comm, Nat.add_assoc]

/-- What can be said of the end of reports, after one report more. -/
theorem exists_suffix_append {P : List Rejection → Prop} :
    (∃ rest, rest <:+ rs ++ [r] ∧ P rest) ↔ P [] ∨ ∃ rest, rest <:+ rs ∧ P (rest ++ [r]) := by
  constructor
  · rintro ⟨rest, hs, hp⟩
    rcases List.suffix_concat_iff.mp (by simpa using hs) with rfl | ⟨t, rfl, ht⟩
    · exact .inl hp
    · exact .inr ⟨t, ht, by simpa using hp⟩
  · rintro (hp | ⟨rest, ⟨before, rfl⟩, hp⟩)
    · exact ⟨[], List.nil_suffix, hp⟩
    · exact ⟨rest ++ [r], ⟨before, by simp⟩, hp⟩

/-- **The counter** exceeds a number if the reports do, from one of them on. -/
theorem outstanding_lt_iff :
    m < (of rs).outstanding ↔ ∃ rest, rest <:+ rs ∧ Exceeds m rest := by
  induction rs using List.reverseRecOn generalizing m with
  | nil => simp
  | append_singleton rs r ih =>
      rw [exists_suffix_append, of_append_singleton]
      cases r with
      | handled =>
          rw [outstanding_note_handled, Nat.lt_sub_iff_add_lt, ih]
          simp
      | unhandled reason =>
          rw [outstanding_note_unhandled]
          cases m with
          | zero => exact ⟨fun _ => .inr ⟨[], List.nil_suffix, exceeds_unhandled⟩, fun _ => by omega⟩
          | succ m =>
              rw [Nat.succ_lt_succ_iff, ih]
              simp

theorem leftUnhandled_iff : LeftUnhandled rs ↔ 0 < (of rs).outstanding :=
  outstanding_lt_iff.symm

/-- Where no promise is waited for that was not rejected before, a rejection is left if there
are more of them than promises that somebody waits for. -/
theorem leftUnhandled_iff_of_balanced
    (hb : ∀ before, before <+: rs →
      before.countP (!·.isUnhandled) ≤ before.countP Rejection.isUnhandled) :
    LeftUnhandled rs ↔ rs.countP (!·.isUnhandled) < rs.countP Rejection.isUnhandled := by
  constructor
  · rintro ⟨rest, ⟨before, rfl⟩, he⟩
    have := hb before (List.prefix_append ..)
    unfold Exceeds at he
    rw [List.countP_append, List.countP_append]
    omega
  · intro h
    exact ⟨rs, List.suffix_refl rs, h⟩

/-! ### Which reason is told -/

/-- The reason of the report since which a rejection was always left. -/
def Blamed (rs : List Rejection) (reason : String) : Prop :=
  ∃ before after, rs = before ++ .unhandled reason :: after ∧ ¬ LeftUnhandled before ∧
    ∀ mid, mid <+: after → LeftUnhandled (before ++ .unhandled reason :: mid)

/-- Only one report is the one since which a rejection was always left. -/
theorem Blamed.unique (h : Blamed rs reason) (h' : Blamed rs reason') : reason = reason' := by
  obtain ⟨before, after, rfl, none, always⟩ := h
  obtain ⟨before', after', he, none', always'⟩ := h'
  rcases List.append_eq_append_iff.mp he with ⟨mid, rfl, hm⟩ | ⟨mid, rfl, hm⟩
  · cases mid with
    | nil => simpa using (List.cons.inj hm).1
    | cons x mid =>
        obtain ⟨rfl, rfl⟩ := List.cons.inj hm
        exact absurd (always mid (List.prefix_append ..)) none'
  · cases mid with
    | nil => simpa using (List.cons.inj hm).1.symm
    | cons x mid =>
        obtain ⟨rfl, rfl⟩ := List.cons.inj hm
        exact absurd (always' mid (List.prefix_append ..)) none

/-- A report after which a rejection is still left does not change who is to blame. -/
theorem Blamed.append (h : Blamed rs reason) (hl : LeftUnhandled (rs ++ [r])) :
    Blamed (rs ++ [r]) reason := by
  obtain ⟨before, after, rfl, none, always⟩ := h
  refine ⟨before, after ++ [r], by simp, none, fun mid hm => ?_⟩
  rcases List.prefix_concat_iff.mp (by simpa using hm) with rfl | hm
  · simpa using hl
  · exact always mid hm

/-- Where no rejection is left, the ledger holds no reason. -/
theorem firstReason_eq_none (h : (of rs).outstanding = 0) : (of rs).firstReason = none := by
  induction rs using List.reverseRecOn with
  | nil => rfl
  | append_singleton rs r ih =>
      rw [of_append_singleton] at h ⊢
      cases r with
      | unhandled reason => simp at h
      | handled =>
          rw [outstanding_note_handled] at h
          simp [note, h]

/-- **The reason in the ledger** is the one to blame. -/
theorem exists_firstReason (h : 0 < (of rs).outstanding) :
    ∃ reason, (of rs).firstReason = some reason ∧ Blamed rs reason := by
  induction rs using List.reverseRecOn with
  | nil => simp at h
  | append_singleton rs r ih =>
      have left : LeftUnhandled (rs ++ [r]) := leftUnhandled_iff.mpr h
      rw [of_append_singleton] at h ⊢
      by_cases hrs : 0 < (of rs).outstanding
      · obtain ⟨reason, hreason, blamed⟩ := ih hrs
        refine ⟨reason, ?_, blamed.append left⟩
        cases r with
        | unhandled _ => simp [note, hreason]
        | handled =>
            rw [outstanding_note_handled] at h
            simp [note, hreason, Nat.ne_of_gt h]
      · -- nothing was left before, so this report is the one
        have none : (of rs).firstReason = none := firstReason_eq_none (by omega)
        cases r with
        | handled =>
            rw [outstanding_note_handled] at h
            omega
        | unhandled reason =>
            refine ⟨reason, by simp [note, none], rs, [], rfl, by rwa [leftUnhandled_iff], ?_⟩
            intro mid hm
            rw [List.prefix_nil.mp hm]
            exact left

/-- **The ledger answers with the reason to blame** if a rejection is left. -/
theorem take_eq_some_iff : (of rs).take.1 = some reason ↔ Blamed rs reason := by
  constructor
  · intro h
    by_cases hrs : 0 < (of rs).outstanding
    · obtain ⟨reason', hreason, blamed⟩ := exists_firstReason hrs
      obtain rfl : reason' = reason := by simpa [take, hrs, hreason] using h
      exact blamed
    · simp [take, hrs] at h
  · intro blamed
    have left : LeftUnhandled rs := by
      obtain ⟨before, after, rfl, -, always⟩ := blamed
      exact always after (List.prefix_refl after)
    have hrs := leftUnhandled_iff.mp left
    obtain ⟨reason', hreason, blamed'⟩ := exists_firstReason hrs
    simp [take, hrs, hreason, blamed.unique blamed']

/-- The ledger answers nothing if no rejection is left. -/
theorem take_eq_none_iff : (of rs).take.1 = none ↔ ¬ LeftUnhandled rs := by
  simp [take, leftUnhandled_iff]

end

end Ledger

end PatchSandbox
