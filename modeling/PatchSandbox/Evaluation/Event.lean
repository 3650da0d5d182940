import PatchSandbox.Evaluation.Capture

/-!
# What is seen of a run

* **`Event`** is one thing that the host sees of a program: an effect that a function of the
  bridge had, or news of a rejected promise. What a run leaves behind is read off the events
  in their order.
* **`Ledger`** counts the promises that are rejected while nobody has asked for their outcome.
  A run that ends with such a promise fails. The ledger keeps the reason that the run then fails
  with: the first one reported since there last was none.
-/

/-! ### Rejected promises -/

namespace PatchSandbox

/-- Something the machine reports about a promise. -/
inductive Rejection where
  /-- It was rejected, and nobody waits for it. -/
  | unhandled (reason : String)
  /-- Somebody waits for it now. -/
  | handled
  deriving DecidableEq, Repr

/-- What is known of rejected promises. -/
structure Ledger where
  outstanding : Nat := 0
  firstReason : Option String := none
  deriving DecidableEq, Repr, Inhabited

namespace Ledger

/-- Notes a report. -/
def note (l : Ledger) : Rejection → Ledger
  | .unhandled reason => ⟨l.outstanding + 1, some (l.firstReason.getD reason)⟩
  | .handled =>
    ⟨l.outstanding - 1, if l.outstanding - 1 = 0 then none else l.firstReason⟩

/-- The reason to fail with, if there is one; the ledger is empty afterwards. -/
def take (l : Ledger) : Option String × Ledger :=
  (if 0 < l.outstanding then some (l.firstReason.getD "unknown reason") else none, {})

@[simp] theorem outstanding_note_unhandled (l : Ledger) (reason : String) :
    (l.note (.unhandled reason)).outstanding = l.outstanding + 1 := rfl

@[simp] theorem outstanding_note_handled (l : Ledger) :
    (l.note .handled).outstanding = l.outstanding - 1 := rfl

@[simp] theorem take_snd (l : Ledger) : l.take.2 = {} := rfl

end Ledger

/-! ### Events -/

/-- Something the host sees of a run. -/
inductive Event where
  | effect (e : Entry)
  | rejection (r : Rejection)

/-- The effects among events. -/
def Event.entries (events : Array Event) : Array Entry :=
  events.filterMap fun
    | .effect e => some e
    | .rejection _ => none

/-- The news of rejected promises among events. -/
def Event.rejections (events : Array Event) : Array Rejection :=
  events.filterMap fun
    | .effect _ => none
    | .rejection r => some r

/-- What is captured of entries. -/
def Capture.ofEntries (entries : Array Entry) : Capture := entries.foldl Capture.add {}

/-- What is known of rejected promises after some news of them. -/
def Ledger.ofRejections (rejections : Array Rejection) : Ledger := rejections.foldl Ledger.note {}

/-- What is captured of a run. -/
def Capture.ofEvents (events : Array Event) : Capture := .ofEntries (Event.entries events)

/-- What is known of rejected promises after a run. -/
def Ledger.ofEvents (events : Array Event) : Ledger := .ofRejections (Event.rejections events)

end PatchSandbox
