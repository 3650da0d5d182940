import PatchSandbox.EvalOutput

/-!
# What a run leaves behind

* **`SoundOp`** is an op that may leave the sandbox. A capture holds nothing else, so what
  comes out of a run needs no second look.
* **`Capture.add`** appends one entry: to the ops or to the log, never to both.
-/

namespace PatchSandbox

/-- A well formed op. -/
abbrev SoundOp := { op : Op // op.isWellFormed = true }

/-- The op that a JSON value stands for. -/
def SoundOp.recognize (j : Json) : Option SoundOp :=
  match h : Op.recognize j with
  | some op => some ⟨op, Op.isWellFormed_of_recognize h⟩
  | none => none

/-- An op, if it is well formed. -/
def SoundOp.ofOp? (op : Op) : Option SoundOp :=
  if h : op.isWellFormed = true then some ⟨op, h⟩ else none

/-- One effect of a run. -/
inductive Entry where
  | op (op : SoundOp)
  | line (text : String)

/-- The effects of a run so far. -/
structure Capture where
  ops : Array SoundOp := #[]
  logs : Array String := #[]
  deriving Inhabited

namespace Capture

/-- One effect more. -/
def add (c : Capture) : Entry → Capture
  | .op op => { c with ops := c.ops.push op }
  | .line text => { c with logs := c.logs.push text }

@[simp] theorem ops_add_op (c : Capture) (op : SoundOp) :
    (c.add (.op op)).ops = c.ops.push op := rfl

@[simp] theorem logs_add_op (c : Capture) (op : SoundOp) : (c.add (.op op)).logs = c.logs := rfl

@[simp] theorem ops_add_line (c : Capture) (text : String) :
    (c.add (.line text)).ops = c.ops := rfl

@[simp] theorem logs_add_line (c : Capture) (text : String) :
    (c.add (.line text)).logs = c.logs.push text := rfl

end Capture

end PatchSandbox
