import PatchSandbox.Json.Value

/-!
# Module names and maps

A module may be spelled in several ways. Its canonical name is what remains of the
spelling's segments, cut at slashes and backslashes, once empty segments and `.` are
dropped. A `..` segment is an ordinary one.

A map has modules by their canonical names, in ascending byte order. Spellings that share a
canonical name are applied in the order of the spellings, so the greatest one wins, and
of equal spellings the last.
-/

/-! ### Names -/

namespace PatchSandbox.ModuleName

/-- A character that cuts a name into segments. -/
def isSeparator (c : Char) : Bool := c == '/' || c == '\\'

/-- The segments of a name, empty ones included. -/
def split : List Char → List (List Char)
  | [] => [[]]
  | c :: cs =>
    if isSeparator c then [] :: split cs
    else
      match split cs with
      | [] => [[c]]
      | seg :: segs => (c :: seg) :: segs

/-- Whether a segment counts. -/
def isProper (segment : List Char) : Bool := segment != [] && segment != ['.']

/-- The segments that name the module. -/
def segments (name : List Char) : List (List Char) := (split name).filter isProper

/-- Segments with a slash between them. -/
def join : List (List Char) → List Char
  | [] => []
  | [seg] => seg
  | seg :: rest => seg ++ '/' :: join rest

/-- The canonical form of a name. -/
def canonical (name : String) : String := String.ofList (join (segments name.toList))

@[simp] theorem split_nil : split [] = [[]] := rfl

@[simp] theorem join_nil : join [] = [] := rfl

@[simp] theorem join_singleton (seg : List Char) : join [seg] = seg := rfl

/-- A name always has a segment, though it may be empty. -/
theorem split_ne_nil (cs : List Char) : split cs ≠ [] := by
  cases cs with
  | nil => simp
  | cons c cs =>
    rw [split]
    split
    · simp
    · split <;> simp

end PatchSandbox.ModuleName

/-! ### Maps -/

namespace PatchSandbox

/-- Canonical names with their sources, in ascending order of the names. -/
structure ModuleMap where
  entries : List (String × String)
  deriving DecidableEq, Repr, Inhabited

namespace ModuleMap

/-- The map of the given spellings and sources. -/
def ofPairs (pairs : List (String × String)) : ModuleMap :=
  ⟨Json.sortFields ((pairs.mergeSort fun a b => a.1 ≤ b.1).map fun p =>
    (ModuleName.canonical p.1, p.2))⟩

/-- The source under a canonical name. -/
def get? (m : ModuleMap) (name : String) : Option String :=
  (m.entries.find? (·.1 == name)).map (·.2)

/-- Whether there is a module of that canonical name. -/
def contains (m : ModuleMap) (name : String) : Bool := m.entries.any (·.1 == name)

/-- The canonical names. -/
def names (m : ModuleMap) : List String := m.entries.map (·.1)

/-- How many modules there are. -/
def size (m : ModuleMap) : Nat := m.entries.length

/-- Whether there is no module. -/
def isEmpty (m : ModuleMap) : Bool := m.entries.isEmpty

@[simp] theorem length_names (m : ModuleMap) : m.names.length = m.size := by
  simp [names, size]

end ModuleMap

end PatchSandbox
