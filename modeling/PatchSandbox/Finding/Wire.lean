import PatchSandbox.Finding
import PatchSandbox.Json.Shape

/-!
# Findings on the wire

The JSON forms of findings and of what they are made of. A kind is written as its name and
also read from an object whose only key is the name.
-/

namespace PatchSandbox

namespace Location

/-- The wire form. -/
def toJson (l : Location) : Json := .obj [("line", .nat l.line), ("column", .nat l.column)]

/-- Reads the wire form. -/
def decode : Json → Shape.Result Location :=
  let number := Shape.natural 32 "u32"
  Shape.record "struct Location" .refused
    [("line", Shape.check number), ("column", Shape.check number)] fun r => do
    .ok ⟨← r.required "line" number, ← r.required "column" number⟩

end Location

namespace FindingKind

/-- The wire form. -/
def toJson (k : FindingKind) : Json := .str k.name

/-- The kind with a name, or the error that lists the names. -/
def named (name : String) : Shape.Result FindingKind :=
  match ofName? name with
  | some k => .ok k
  | none => .error (.unknownVariant name (all.map FindingKind.name))

/-- Reads the wire form. -/
def decode : Json → Shape.Result FindingKind
  | .str name => named name
  | .obj [(name, j)] => do
    let k ← named name
    match j with
    | .null => .ok k
    | j => .error (.wrongType (Shape.found j) "unit")
  | .obj _ => .error (.wrongValue .map "map with a single key")
  | j => .error (.wrongType (Shape.found j) "string or map")

end FindingKind

namespace Finding

/-- The wire form. A finding without a location has no field for it. -/
def toJson (f : Finding) : Json :=
  .obj (("kind", f.kind.toJson) :: ("message", .str f.message) ::
    match f.location with
    | some l => [("location", l.toJson)]
    | none => [])

/-- Reads the wire form. -/
def decode : Json → Shape.Result Finding :=
  let place := Shape.nullable Location.decode
  Shape.record "struct Finding" .refused
    [("kind", Shape.check FindingKind.decode), ("message", Shape.check Shape.text),
      ("location", Shape.check place)] fun r => do
    .ok ⟨← r.required "kind" FindingKind.decode, ← r.required "message" Shape.text,
      ← r.optional "location" place⟩

end Finding

namespace ModuleFailure

/-- The wire form. -/
def toJson (f : ModuleFailure) : Json :=
  .obj [("module", .str f.moduleName), ("errors", .arr (f.errors.map Finding.toJson))]

/-- Reads the wire form. -/
def decode : Json → Shape.Result ModuleFailure :=
  let errors := Shape.list Finding.decode
  Shape.record "struct ModuleFailure" .refused
    [("module", Shape.check Shape.text), ("errors", Shape.check errors)] fun r => do
    .ok ⟨← r.required "module" Shape.text, ← r.required "errors" errors⟩

end ModuleFailure

end PatchSandbox
