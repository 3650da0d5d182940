import PatchSandbox.Json.Shape

/-!
# TOML tables

* **`Value`** is what a key of a table stands for.
* **`Table.assign`**, **`Table.openTable`** and **`Table.openNext`** add to a table. They
  refuse a key that is given twice, a table that is opened twice, and an addition to a table
  that was written down as a whole.
* **`Table.toJson`** gives a table as a JSON value, which the shapes of configurations are
  read from.
-/

namespace PatchSandbox.Toml

/-- The parts of a dotted key. -/
abbrev Path := List String

/-- How a table has come about. -/
inductive Origin where
  /-- A header names a table inside it. -/
  | implied
  /-- A dotted key goes through it. -/
  | dotted
  /-- By its own header. -/
  | opened
  /-- It was written down as a whole. -/
  | whole
  deriving DecidableEq, Repr, Inhabited

/-- What a key stands for. -/
inductive Value where
  | string (value : String)
  | integer (value : Int)
  | float (value : Float)
  /-- A number beyond the range of doubles. -/
  | hugeFloat
  | boolean (value : Bool)
  | datetime (text : String)
  | array (items : List Value)
  | table (origin : Origin) (entries : List (String × Value))
  /-- An array of tables made by headers, the last one first. -/
  | tables (all : List (List (String × Value)))
  deriving Inhabited

/-- Keys with what they stand for, in the order in which they were first met. -/
abbrev Table := List (String × Value)

namespace Table

/-- What a key stands for. -/
def find? (t : Table) (key : String) : Option Value := t.lookup key

/-- Replaces what a key stands for, or adds the key. -/
def put (t : Table) (key : String) (v : Value) : Table :=
  match t with
  | [] => [(key, v)]
  | (k, old) :: rest => if k = key then (k, v) :: rest else (k, old) :: put rest key v

/-- Changes the table at the end of a path of headers. -/
def inside (change : Table → Option Table) : Path → Table → Option Table
  | [], t => change t
  | key :: path, t =>
    match t.find? key with
    | none => (inside change path []).map fun u => t.put key (.table .implied u)
    | some (.table .whole _) => none
    | some (.table origin u) => (inside change path u).map fun u => t.put key (.table origin u)
    | some (.tables (u :: rest)) =>
      (inside change path u).map fun u => t.put key (.tables (u :: rest))
    | some _ => none

/-- Opens a table. -/
def openTable (key : String) (t : Table) : Option Table :=
  match t.find? key with
  | none => some (t.put key (.table .opened []))
  | some (.table .implied u) => some (t.put key (.table .opened u))
  | some _ => none

/-- Opens a new table at the end of an array of tables. -/
def openNext (key : String) (t : Table) : Option Table :=
  match t.find? key with
  | none => some (t.put key (.tables [[]]))
  | some (.tables all) => some (t.put key (.tables ([] :: all)))
  | some _ => none

/-- Gives a dotted key a value. -/
def assign (v : Value) : Path → Table → Option Table
  | [], _ => none
  | [key], t =>
    match t.find? key with
    | none => some (t.put key v)
    | some _ => none
  | key :: path, t =>
    match t.find? key with
    | none => (assign v path []).map fun u => t.put key (.table .dotted u)
    | some (.table .dotted u) => (assign v path u).map fun u => t.put key (.table .dotted u)
    | some (.table .implied u) => (assign v path u).map fun u => t.put key (.table .implied u)
    | some _ => none

/-- The table with the given entries. -/
def ofEntries (entries : List (Path × Value)) : Option Table :=
  entries.foldlM (fun t (path, v) => assign v path t) []

end Table

/-- A statement of a document. -/
inductive Statement where
  /-- Opens a table. -/
  | header (path : Path)
  /-- Opens a new table at the end of an array of tables. -/
  | arrayHeader (path : Path)
  | assign (path : Path) (value : Value)
  deriving Inhabited

namespace Statement

/-- The table that is open after a statement. -/
def here (s : Statement) (before : Path) : Path :=
  match s with
  | .header path => path
  | .arrayHeader path => path
  | .assign _ _ => before

/-- What a statement adds to a document, of which a table is open. -/
def apply (s : Statement) (here : Path) (t : Table) : Option Table :=
  match s with
  | .header path => path.getLast?.bind fun key => t.inside (Table.openTable key) path.dropLast
  | .arrayHeader path =>
    path.getLast?.bind fun key => t.inside (Table.openNext key) path.dropLast
  | .assign path v => t.inside (Table.assign v path) here

end Statement

/-- The table that statements add to a table, of which another one is open. -/
def Table.extend : List Statement → Path → Table → Option Table
  | [], _, t => some t
  | s :: rest, here, t => (s.apply here t).bind (extend rest (s.here here))

/-- The table that a document describes. -/
def Table.ofStatements (statements : List Statement) : Option Table := extend statements [] []

/-! ### As JSON -/

/-- The name of the one field that a date or time is made of. -/
def datetimeField : String := "$__toml_private_datetime"

mutual

/-- A value as JSON. Numbers that nothing can hold are refused. -/
def Value.toJson : Value → Shape.Result Json
  | .string s => .ok (.str s)
  | .integer i => if i < -(Nat.pow 2 127 : Nat) ∨ (Nat.pow 2 128 : Nat) ≤ i then .error .overflow
    else .ok (.int i)
  | .float f => .ok (.num (.float f))
  | .hugeFloat => .error .floatOverflow
  | .boolean b => .ok (.bool b)
  | .datetime text => .ok (.obj [(datetimeField, .str text)])
  | .array items => (itemsToJson items).map .arr
  | .table _ entries => (entriesToJson entries).map Json.object
  | .tables all => (tablesToJson all).map fun items => .arr items.reverse

/-- Items as JSON. -/
def itemsToJson : List Value → Shape.Result (List Json)
  | [] => .ok []
  | v :: rest => do return (← v.toJson) :: (← itemsToJson rest)

/-- Entries as the fields of an object. -/
def entriesToJson : List (String × Value) → Shape.Result (List (String × Json))
  | [] => .ok []
  | (key, v) :: rest => do return (key, ← v.toJson) :: (← entriesToJson rest)

/-- Tables as objects. -/
def tablesToJson : List (List (String × Value)) → Shape.Result (List Json)
  | [] => .ok []
  | t :: rest => do return .object (← entriesToJson t) :: (← tablesToJson rest)

end

/-- A table as a JSON object. -/
def Table.toJson (t : Table) : Shape.Result Json := (entriesToJson t).map Json.object

end PatchSandbox.Toml
