import PatchSandbox.Op

/-!
# Output of an evaluation

What the caller of a successful evaluation gets: the ops, imperative ones first and then
the declared ones, the console lines, and the completion value in JSON form.
-/

namespace PatchSandbox

/-- The result of a program that completed. -/
structure EvalOutput where
  ops : List Op
  logs : List String
  output : Json
  deriving Inhabited, Repr, BEq

namespace EvalOutput

/-- The wire form. -/
def toJson (o : EvalOutput) : Json :=
  .obj [("ops", .arr (o.ops.map Op.toJson)), ("logs", Json.texts o.logs), ("output", o.output)]

/-- Reads the wire form. -/
def decode (surplus : Shape.Surplus) : Json → Shape.Result EvalOutput :=
  Shape.record "struct EvalOutput" surplus
    [("ops", Shape.check (Shape.list Op.decode)), ("logs", Shape.check (Shape.list Shape.text)),
      ("output", Shape.check Shape.any)] fun r => do
    .ok ⟨← r.required "ops" (Shape.list Op.decode), ← r.required "logs" (Shape.list Shape.text),
      ← r.required "output" Shape.any⟩

end EvalOutput

end PatchSandbox
