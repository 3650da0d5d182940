import PatchSandbox.Machine.Value
import Std.Data.HashMap

/-!
# Tables

The entries of a map or a set, in the order in which they were added. Removed entries leave
a gap until the table is cleared of them, so that a position in a table stays meaningful
while the table changes.
-/

namespace PatchSandbox.Machine

open PatchSandbox.Text (CodeUnits)

/-- A value as the key of a table. -/
inductive TableKey where
  | undefined
  | null
  | bool (b : Bool)
  /-- The bits of a number; both zeros have the same, and so has what is no number. -/
  | number (bits : UInt64)
  | bigint (n : Int)
  | string (text : CodeUnits)
  | symbol (s : Symbol)
  | object (r : Ref)
  deriving DecidableEq, Hashable

/-- The key of a value. -/
def Value.tableKey : Value → TableKey
  | .undefined => .undefined
  | .null => .null
  | .bool b => .bool b
  | .number x =>
    .number (if x.isNaN then 0x7FF8000000000000 else if x == 0 then 0 else x.toBits)
  | .bigint n => .bigint n
  | .string u => .string u
  | .symbol s => .symbol s
  | .object r => .object r

/-- A value as it is kept as a key: a zero loses its sign. -/
def Value.entryKey : Value → Value
  | .number x => if x == 0 then .number 0 else .number x
  | v => v

/-- Entries by key. -/
structure Table where
  entries : Array (Option (Value × Value)) := #[]
  places : Std.HashMap TableKey Nat := ∅
  deriving Inhabited

namespace Table

/-- No entries. -/
def empty : Table := {}

/-- Number of entries. -/
def size (t : Table) : Nat := t.places.size

/-- Whether there is an entry. -/
def contains (t : Table) (k : Value) : Bool := t.places.contains k.tableKey

/-- The value of an entry. -/
def find? (t : Table) (k : Value) : Option Value :=
  match t.places[k.tableKey]? with
  | some i => ((t.entries.getD i none).map (·.2))
  | none => none

/-- Adds an entry, or gives the one that is there another value. -/
def insert (t : Table) (k v : Value) : Table :=
  match t.places[k.tableKey]? with
  | some i =>
    let kept := ((t.entries.getD i none).map (·.1)).getD k
    { t with entries := t.entries.setIfInBounds i (some (kept, v)) }
  | none =>
    let place := t.entries.size
    { entries := t.entries.push (some (k.entryKey, v)), places := t.places.insert k.tableKey place }

/-- Adds a value that is its own key. -/
def add (t : Table) (v : Value) : Table := t.insert v v.entryKey

/-- Removes an entry. -/
def erase (t : Table) (k : Value) : Table :=
  match t.places[k.tableKey]? with
  | some i => ⟨t.entries.setIfInBounds i none, t.places.erase k.tableKey⟩
  | none => t

/-- Removes all entries. -/
def clear (t : Table) : Table := ⟨Array.replicate t.entries.size none, ∅⟩

/-- The first entry at or after a position, with the position after it. -/
def entryFrom (t : Table) : Nat → Nat → Option ((Value × Value) × Nat)
  | 0, _ => none
  | n + 1, i =>
    match t.entries.getD i none with
    | some e => some (e, i + 1)
    | none => if i < t.entries.size then entryFrom t n (i + 1) else none

/-- The first entry at or after a position, with the position after it. -/
def next? (t : Table) (position : Nat) : Option ((Value × Value) × Nat) :=
  t.entryFrom (t.entries.size + 1 - position) position

/-- The entries in order. -/
def toList (t : Table) : List (Value × Value) := t.entries.toList.filterMap id

end Table

end PatchSandbox.Machine
