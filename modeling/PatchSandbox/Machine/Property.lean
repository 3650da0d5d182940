import PatchSandbox.Machine.Value
import Std.Data.HashMap

/-!
# Properties

* **`Property`** is a value with its attributes, or a pair of functions that read and write.
* **`PropertyMap`** finds a property by its key and lists the keys in order: indices by
  their number, then names, then symbols, each as they were added.
-/

namespace PatchSandbox.Machine

/-- What may be done with a property. -/
structure Attributes where
  writable : Bool := true
  enumerable : Bool := true
  configurable : Bool := true
  deriving DecidableEq, Repr, Inhabited

namespace Attributes

/-- Of a property that a script adds. -/
def all : Attributes := ⟨true, true, true⟩

/-- Of a member of the standard objects. -/
def hidden : Attributes := ⟨true, false, true⟩

/-- Of a property that can only be defined anew. -/
def fixed : Attributes := ⟨false, false, true⟩

/-- Of a property that stays as it is. -/
def none : Attributes := ⟨false, false, false⟩

end Attributes

/-- What a key of an object stands for. -/
inductive Property where
  | data (value : Value) (attributes : Attributes)
  | accessor (getter setter : Value) (enumerable configurable : Bool)
  deriving Inhabited

namespace Property

/-- Whether loops over the object's keys show the property. -/
def isEnumerable : Property → Bool
  | .data _ a => a.enumerable
  | .accessor _ _ e _ => e

/-- Whether the property may be removed or defined anew. -/
def isConfigurable : Property → Bool
  | .data _ a => a.configurable
  | .accessor _ _ _ c => c

end Property

/-- Properties by key. Each has the number of properties added before it. -/
structure PropertyMap where
  table : Std.HashMap Key (Nat × Property) := ∅
  next : Nat := 0
  deriving Inhabited

namespace PropertyMap

/-- No property. -/
def empty : PropertyMap := ⟨∅, 0⟩

/-- The property of a key. -/
@[inline] def find? (m : PropertyMap) (k : Key) : Option Property :=
  match m.table[k]? with
  | some (_, p) => some p
  | none => none

/-- Whether there is a property of a key. -/
def contains (m : PropertyMap) (k : Key) : Bool := m.table.contains k

/-- Adds a property; one of that key that is there already keeps its place. -/
def insert (m : PropertyMap) (k : Key) (p : Property) : PropertyMap :=
  match m.table[k]? with
  | some (i, _) => { m with table := m.table.insert k (i, p) }
  | none => ⟨m.table.insert k (m.next, p), m.next + 1⟩

/-- Removes a property. -/
def erase (m : PropertyMap) (k : Key) : PropertyMap := { m with table := m.table.erase k }

/-- Number of properties. -/
def size (m : PropertyMap) : Nat := m.table.size

/-- The entries in the order in which they were added. -/
def entries (m : PropertyMap) : List (Key × Property) :=
  (m.table.toList.mergeSort fun a b => a.2.1 ≤ b.2.1).map fun e => (e.1, e.2.2)

/-- The indices among the keys, in ascending order. -/
def indices (m : PropertyMap) : List Nat :=
  (m.table.toList.filterMap fun e => match e.1 with | .index n => some n | _ => none).mergeSort

/-- The keys that are no indices: names, then symbols. -/
def names (m : PropertyMap) : List Key :=
  let keys := m.entries.map (·.1)
  keys.filter (fun k => match k with | .name _ => true | _ => false) ++ keys.filter Key.isSymbol

/-- Applies a function to every property. -/
def map (f : Property → Property) (m : PropertyMap) : PropertyMap :=
  { m with table := m.table.map fun _ e => (e.1, f e.2) }

end PropertyMap

end PatchSandbox.Machine
