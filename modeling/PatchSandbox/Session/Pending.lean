import PatchSandbox.Message

/-!
# Pending requests

Who waits for which response. Registering a request opens a mailbox for its caller; the
table remembers which mailbox waits under which id.

* **`Mailbox`** is what the caller sees: it waits, holds its one outcome, or is abandoned.
* **`register?`**, **`settle`**, **`forget`** and **`close`** are the only changes. A closed
  table has no waiter and takes no new one.
-/

namespace PatchSandbox

/-- Where one caller waits for its outcome. -/
inductive Mailbox (α : Type) where
  | waiting
  | holding (outcome : α)
  /-- Nothing will come any more: the outcome has been taken, or the waiter was forgotten or
  replaced. -/
  | abandoned
  deriving DecidableEq, Repr, Inhabited

/-- The requests that await a response. Mailboxes are numbered in the order in which they
were opened. -/
structure PendingTable (α : Type) where
  waiters : List (RequestId × Nat) := []
  mailboxes : List (Mailbox α) := []
  closed : Bool := false
  deriving DecidableEq, Repr, Inhabited

namespace PendingTable

variable {α : Type}

/-- Number of waiters. -/
def size (t : PendingTable α) : Nat := t.waiters.length

/-- The mailbox that waits under an id. -/
def waiter? (t : PendingTable α) (id : RequestId) : Option Nat :=
  (t.waiters.find? (·.1 == id)).map (·.2)

/-- Puts something into a mailbox. -/
def put (t : PendingTable α) (slot : Nat) (m : Mailbox α) : PendingTable α :=
  { t with mailboxes := t.mailboxes.set slot m }

/-- Removes the waiter under an id. -/
def unlist (t : PendingTable α) (id : RequestId) : PendingTable α :=
  { t with waiters := t.waiters.filter (·.1 != id) }

/-- Stops waiting under an id; its mailbox is abandoned. -/
def forget (t : PendingTable α) (id : RequestId) : PendingTable α :=
  match t.waiter? id with
  | some slot => (t.put slot .abandoned).unlist id
  | none => t

/-- Opens a mailbox for an id, unless the table is closed. An earlier waiter under the same
id is forgotten. -/
def register? (t : PendingTable α) (id : RequestId) : Option (Nat × PendingTable α) :=
  if t.closed then none
  else
    let t := t.forget id
    let slot := t.mailboxes.length
    some (slot,
      { t with waiters := (id, slot) :: t.waiters, mailboxes := t.mailboxes ++ [.waiting] })

/-- Delivers an outcome to the waiter under an id; tells whether there was one. -/
def settle (t : PendingTable α) (id : RequestId) (outcome : α) : Bool × PendingTable α :=
  match t.waiter? id with
  | some slot => (true, (t.put slot (.holding outcome)).unlist id)
  | none => (false, t)

/-- Delivers one outcome to every waiter and takes no more; tells how many there were. -/
def close (t : PendingTable α) (reason : α) : Nat × PendingTable α :=
  (t.size,
    { t with
      waiters := []
      mailboxes := t.waiters.foldl (fun ms w => ms.set w.2 (.holding reason)) t.mailboxes
      closed := true })

/-- Looks into a mailbox; an outcome is taken out. -/
def take (t : PendingTable α) (slot : Nat) : Mailbox α × PendingTable α :=
  match t.mailboxes[slot]? with
  | some (.holding outcome) => (.holding outcome, t.put slot .abandoned)
  | some m => (m, t)
  | none => (.abandoned, t)

end PendingTable

end PatchSandbox
