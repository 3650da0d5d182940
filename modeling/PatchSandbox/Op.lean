import PatchSandbox.Json.Shape

/-!
# Ops

An op is the only effect a script can have outside the sandbox: a request to change one
thing, which the host may carry out.

* **`Op.decode`** reads the wire form, an object or an array with the tag first.
* **`Op.recognize`** is stricter. It takes objects only, and only well formed ops: a rule
  needs a path and a finite value, an ability a name. What it does not recognize is no op,
  and that is no error.
* **`Op.declared`** selects the ops that a program declares in its completion value.
-/

namespace PatchSandbox

/-- One requested change. -/
inductive Op where
  | setRule (path : String) (value : Float)
  | setAbility (name : String) (active : Bool)
  | removeEntities (filter : Json)
  | emit (payload : Json)
  deriving Inhabited, Repr, BEq

namespace Op

/-- The tag of an op. -/
def label : Op → String
  | .setRule _ _ => "setRule"
  | .setAbility _ _ => "setAbility"
  | .removeEntities _ => "removeEntities"
  | .emit _ => "emit"

/-- Every tag, in the order in which messages list them. -/
def labels : List String := ["setRule", "setAbility", "removeEntities", "emit"]

/-- The wire form. -/
def toJson (op : Op) : Json :=
  .obj (("op", .str op.label) ::
    match op with
    | .setRule path value => [("path", .str path), ("value", Json.ofFloat value)]
    | .setAbility name active => [("name", .str name), ("active", .bool active)]
    | .removeEntities filter => [("filter", filter)]
    | .emit payload => [("payload", payload)])

/-- Reads the fields that go with a tag. -/
def decodeTagged (tag : String) : Json → Shape.Result Op :=
  if tag = "setRule" then
    Shape.record "struct variant SandboxOp::SetRule" .refusedBuffered
      [("path", Shape.check Shape.text), ("value", Shape.check Shape.float)] fun r => do
        .ok (.setRule (← r.required "path" Shape.text) (← r.required "value" Shape.float))
  else if tag = "setAbility" then
    Shape.record "struct variant SandboxOp::SetAbility" .refusedBuffered
      [("name", Shape.check Shape.text), ("active", Shape.check Shape.bool)] fun r => do
        .ok (.setAbility (← r.required "name" Shape.text) (← r.required "active" Shape.bool))
  else if tag = "removeEntities" then
    Shape.record "struct variant SandboxOp::RemoveEntities" .refusedBuffered
      [("filter", Shape.check Shape.any)] fun r => do
        .ok (.removeEntities (← r.required "filter" Shape.any))
  else
    Shape.record "struct variant SandboxOp::Emit" .refusedBuffered
      [("payload", Shape.check Shape.any)] fun r => do
        .ok (.emit (← r.required "payload" Shape.any))

/-- Reads the wire form. -/
def decode : Json → Shape.Result Op := Shape.tagged "SandboxOp" "op" labels decodeTagged

/-- Whether an op may leave the sandbox: it names what it changes, and its value is a
finite number. -/
def isWellFormed : Op → Bool
  | .setRule path value => path != "" && value.isFinite
  | .setAbility name _ => name != ""
  | .removeEntities _ => true
  | .emit _ => true

/-- The op that an object stands for, if it is a well formed one. -/
def recognize (j : Json) : Option Op :=
  if j.isObject then
    match decode j with
    | .ok op => if op.isWellFormed then some op else none
    | .error _ => none
  else none

/-- The ops that a completion value declares: the recognized entries of its array `ops`,
in order. -/
def declared (output : Json) : List Op :=
  match output.field? "ops" with
  | some (.arr entries) => entries.filterMap recognize
  | _ => []

theorem isWellFormed_of_recognize {j : Json} {op : Op} (h : recognize j = some op) :
    op.isWellFormed = true := by
  unfold recognize at h
  split at h
  · split at h
    · split at h
      · cases h; assumption
      · cases h
    · cases h
  · cases h

theorem isWellFormed_of_mem_declared {output : Json} {op : Op} (h : op ∈ declared output) :
    op.isWellFormed = true := by
  unfold declared at h
  split at h
  · obtain ⟨j, -, hj⟩ := List.mem_filterMap.1 h
    exact isWellFormed_of_recognize hj
  · cases h

end Op

end PatchSandbox
