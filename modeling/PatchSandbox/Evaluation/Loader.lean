import PatchSandbox.Module.Map

/-!
# Loading modules

* **`Arena`** keeps values for the time of one run and names them by slots.
* **`Loader.request`** decides what a `require` does: give the exports of a record that is
  there, run a source, or fail.
* **`Loader.load`** does it, for whatever runs the sources. A record is entered before its
  source runs, so a module that is required while it runs, or after it failed, is found as it
  stands.
-/

namespace PatchSandbox

/-- Values that are kept for the time of one run. -/
structure Arena (α : Type) where
  values : Array α := #[]
  deriving Inhabited

namespace Arena

variable {α : Type}

/-- Keeps a value, in the slot after all others. -/
def retain (a : Arena α) (value : α) : Arena α × Nat := (⟨a.values.push value⟩, a.values.size)

/-- The value in a slot. -/
def restore? (a : Arena α) (slot : Nat) : Option α := a.values[slot]?

/-- How many values are kept. -/
def size (a : Arena α) : Nat := a.values.size

/-- Lets go of all values and tells how many there were. -/
def release (a : Arena α) : Nat × Arena α := (a.values.size, {})

@[simp] theorem retain_snd (a : Arena α) (value : α) : (a.retain value).2 = a.size := rfl

@[simp] theorem size_retain (a : Arena α) (value : α) :
    (a.retain value).1.size = a.size + 1 := by
  simp [retain, size]

@[simp] theorem restore?_retain_self (a : Arena α) (value : α) :
    (a.retain value).1.restore? a.size = some value := by
  simp [retain, restore?, size]

theorem restore?_retain_of_lt (a : Arena α) (value : α) {slot : Nat} (h : slot < a.size) :
    (a.retain value).1.restore? slot = a.restore? slot := by
  simp only [size] at h
  simp [retain, restore?, Array.getElem?_push, Nat.ne_of_lt h]

@[simp] theorem size_release (a : Arena α) : a.release.2.size = 0 := rfl

end Arena

/-- The modules of a run and what was loaded of them. -/
structure Loader (α : Type) where
  modules : ModuleMap
  arena : Arena α := {}
  /-- Canonical names of the modules that were entered, with the slots of their records. -/
  loaded : List (String × Nat) := []
  /-- The slot of the function `require`. -/
  requireSlot : Option Nat := none
  deriving Inhabited

/-- What a `require` is answered with. -/
inductive LoadRequest where
  /-- The record is in a slot. -/
  | cached (slot : Nat)
  /-- The source has to be run. -/
  | fresh (name source : String)
  /-- There is no module of that canonical name. -/
  | missing (name : String)
  deriving DecidableEq, Repr, Inhabited

namespace Loader

variable {α : Type}

/-- The slot of a module's record. -/
def slot? (l : Loader α) (canonical : String) : Option Nat := l.loaded.lookup canonical

/-- Decides what a `require` of a spelling does. -/
def request (l : Loader α) (spelling : String) : LoadRequest :=
  let name := ModuleName.canonical spelling
  match l.slot? name with
  | some slot => .cached slot
  | none =>
    match l.modules.get? name with
    | some source => .fresh name source
    | none => .missing name

/-- Keeps a module's record under its canonical name. -/
def enter (l : Loader α) (canonical : String) (record : α) : Loader α :=
  let (arena, slot) := l.arena.retain record
  { l with arena, loaded := (canonical, slot) :: l.loaded }

/-- Keeps the function `require`. -/
def bindRequire (l : Loader α) (value : α) : Loader α :=
  let (arena, slot) := l.arena.retain value
  { l with arena, requireSlot := some slot }

/-- The function `require`. -/
def require? (l : Loader α) : Option α := l.requireSlot.bind l.arena.restore?

/-- Lets go of everything that is kept. -/
def close (l : Loader α) : Loader α := { l with arena := l.arena.release.2 }

/-- The text that runs a module's source: a function around it. -/
def wrap (source : String) : String :=
  "(function (module, exports, require) \x7b\n" ++ source ++ "\n\x7d)"

/-- Why a module is not loaded. -/
inductive Flaw where
  /-- There is no module of that canonical name. -/
  | missing (name : String)
  /-- The slot of its record holds nothing. -/
  | released
  deriving DecidableEq, Repr, Inhabited

/-- The wording of a flaw. -/
def Flaw.message : Flaw → String
  | .missing name => "module not found: '" ++ name ++ "'"
  | .released => "engine handle already released"

/-- What loading asks of whatever runs the sources. -/
structure Host (m : Type → Type) (α : Type) where
  get : m (Loader α)
  set : Loader α → m Unit
  /-- A record, and the empty object that it was given to export. The gift is an assignment,
  which may run code of a script. -/
  newRecord : m (α × α)
  /-- What a record exports at the moment. -/
  exportsOf : α → m α
  /-- Runs a text that stands for a function, with a record, the object that the record was
  given to export, and `require`. -/
  run : (text : String) → (record exports require : α) → m Unit
  /-- What stands for no value. -/
  undefined : α
  refuse : Flaw → m α

/-- Loads a module by a spelling of its name: what it exports. -/
def load {m : Type → Type} [Monad m] (h : Host m α) (spelling : String) : m α := do
  let l ← h.get
  match l.request spelling with
  | .cached slot =>
    match l.arena.restore? slot with
    | some record => h.exportsOf record
    | none => h.refuse .released
  | .missing name => h.refuse (.missing name)
  | .fresh name source =>
    let (record, exports) ← h.newRecord
    let l := (← h.get).enter name record
    h.set l
    h.run (wrap source) record exports (l.require?.getD h.undefined)
    h.exportsOf record

@[simp] theorem slot?_enter_self (l : Loader α) (canonical : String) (record : α) :
    (l.enter canonical record).slot? canonical = some l.arena.size := by
  simp [enter, slot?, Arena.retain, Arena.size]

theorem slot?_enter_of_ne (l : Loader α) {canonical other : String} (record : α)
    (h : other ≠ canonical) : (l.enter canonical record).slot? other = l.slot? other := by
  have hne : (other == canonical) = false := by simpa using h
  simp [enter, slot?, List.lookup_cons, hne]

end Loader

end PatchSandbox
