import PatchSandbox.EvalOutput
import PatchSandbox.Module.Map

/-!
# Messages between a session and its worker

* **`Request`** goes to the worker, **`Response`** comes back. A request for an evaluation
  has an id, and the response to it carries the same id.
* Both have a wire form, an object (or an array) tagged by `type`.
-/

namespace PatchSandbox

/-- Tells the requests of one session apart; fits sixty-four bits. -/
abbrev RequestId := Nat

/-- What the worker is asked to do. -/
inductive Request where
  | init
  | eval (id : RequestId) (code : String)
  | evalModule (id : RequestId) (entry : String) (modules : ModuleMap)
  deriving Inhabited, Repr, DecidableEq

/-- What the worker answers. -/
inductive Response where
  | ready
  /-- There is no engine, for the reason given. -/
  | initFailed (message : String)
  | result (id : RequestId) (payload : EvalOutput)
  | error (id : RequestId) (message : String) (logs : List String)
  deriving Inhabited, Repr, BEq

namespace ModuleMap

/-- The wire form: an object from names to sources. -/
def toJson (m : ModuleMap) : Json := .obj (m.entries.map fun (name, source) => (name, .str source))

/-- Reads the wire form; spellings of names become canonical. -/
def decode (j : Json) : Shape.Result ModuleMap := (Shape.map Shape.text j).map ofPairs

end ModuleMap

/-- An id on the wire. -/
def Shape.requestId : Json → Shape.Result RequestId := Shape.natural 64 "u64"

namespace Request

/-- The id, if the request has one. -/
def id? : Request → Option RequestId
  | .init => none
  | .eval id _ => some id
  | .evalModule id _ _ => some id

/-- The wire form. -/
def toJson : Request → Json
  | .init => .obj [("type", .str "init")]
  | .eval id code => .obj [("type", .str "eval"), ("id", .nat id), ("code", .str code)]
  | .evalModule id entry modules =>
    .obj [("type", .str "eval_module"), ("id", .nat id), ("entry", .str entry),
      ("modules", modules.toJson)]

/-- Reads the fields that go with a tag. -/
def decodeTagged (tag : String) : Json → Shape.Result Request :=
  if tag = "init" then Shape.unit .init
  else if tag = "eval" then
    Shape.record "struct variant SandboxRequest::Eval" .refusedBuffered
      [("id", Shape.check Shape.requestId), ("code", Shape.check Shape.text)] fun r => do
        .ok (.eval (← r.required "id" Shape.requestId) (← r.required "code" Shape.text))
  else
    Shape.record "struct variant SandboxRequest::EvalModule" .refusedBuffered
      [("id", Shape.check Shape.requestId), ("entry", Shape.check Shape.text),
        ("modules", Shape.check ModuleMap.decode)] fun r => do
        .ok (.evalModule (← r.required "id" Shape.requestId) (← r.required "entry" Shape.text)
          (← r.required "modules" ModuleMap.decode))

/-- Reads the wire form. -/
def decode : Json → Shape.Result Request :=
  Shape.tagged "SandboxRequest" "type" ["init", "eval", "eval_module"] decodeTagged

end Request

namespace Response

/-- The id of the request that is answered, if it has one. -/
def id? : Response → Option RequestId
  | .ready => none
  | .initFailed _ => none
  | .result id _ => some id
  | .error id _ _ => some id

/-- The wire form. -/
def toJson : Response → Json
  | .ready => .obj [("type", .str "ready")]
  | .initFailed message => .obj [("type", .str "init_failed"), ("message", .str message)]
  | .result id payload =>
    .obj [("type", .str "result"), ("id", .nat id), ("payload", payload.toJson)]
  | .error id message logs =>
    .obj [("type", .str "error"), ("id", .nat id), ("message", .str message),
      ("logs", Json.texts logs)]

/-- Reads the fields that go with a tag. -/
def decodeTagged (tag : String) : Json → Shape.Result Response :=
  if tag = "ready" then Shape.unit .ready
  else if tag = "init_failed" then
    Shape.record "struct variant SandboxResponse::InitFailed" .refusedBuffered
      [("message", Shape.check Shape.text)] fun r => do
        .ok (.initFailed (← r.required "message" Shape.text))
  else if tag = "result" then
    Shape.record "struct variant SandboxResponse::Result" .refusedBuffered
      [("id", Shape.check Shape.requestId),
        ("payload", Shape.check (EvalOutput.decode .refusedBuffered))] fun r => do
        .ok (.result (← r.required "id" Shape.requestId)
          (← r.required "payload" (EvalOutput.decode .refusedBuffered)))
  else
    Shape.record "struct variant SandboxResponse::Error" .refusedBuffered
      [("id", Shape.check Shape.requestId), ("message", Shape.check Shape.text),
        ("logs", Shape.check (Shape.list Shape.text))] fun r => do
        .ok (.error (← r.required "id" Shape.requestId) (← r.required "message" Shape.text)
          (← r.required "logs" (Shape.list Shape.text)))

/-- Reads the wire form. -/
def decode : Json → Shape.Result Response :=
  Shape.tagged "SandboxResponse" "type" ["ready", "init_failed", "result", "error"] decodeTagged

end Response

end PatchSandbox
