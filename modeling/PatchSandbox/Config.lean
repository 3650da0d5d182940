import PatchSandbox.Json.Shape
import PatchSandbox.Duration

/-!
# Configuration

Three groups of limits: how long one evaluation may take, what the engine may use, and what
a source may be to be admitted. Whatever is left out has a default fit for short scripts.

* **`Config.flaw?`** names the first limit that is out of its range.
-/

namespace PatchSandbox

/-- What a source may be to be admitted. -/
structure SourceLimits where
  /-- Longest source, in bytes. -/
  maxBytes : Nat := 65536
  /-- Most brackets around one point. -/
  maxNesting : Nat := 512
  deriving DecidableEq, Repr, Inhabited

/-- What an engine may use. -/
structure EngineLimits where
  memoryBytes : Nat := 67108864
  stackBytes : Nat := 524288
  /-- Most promise jobs that run after a program. -/
  pendingJobs : Nat := 10000
  deriving DecidableEq, Repr, Inhabited

/-- The configuration of a session. -/
structure Config where
  /-- Longest evaluation in milliseconds, if there is a bound. -/
  evalTimeout : Option Nat := none
  engine : EngineLimits := {}
  source : SourceLimits := {}
  deriving DecidableEq, Repr, Inhabited

/-- The smallest heap an engine starts with. -/
def minMemoryBytes : Nat := 1048576

/-- A limit that is out of its range. -/
inductive ConfigFlaw where
  | evalTimeout
  | memoryBytes
  | stackBytes
  | pendingJobs
  | maxSourceBytes
  | maxNesting
  deriving DecidableEq, Repr, Inhabited

/-- The wording of a flaw. -/
def ConfigFlaw.message : ConfigFlaw → String
  | .evalTimeout => "eval_timeout_ms must be > 0 when set"
  | .memoryBytes => "engine.memory_limit_bytes must be >= " ++ toString minMemoryBytes
  | .stackBytes => "engine.max_stack_bytes must be > 0"
  | .pendingJobs => "engine.max_pending_jobs must be > 0"
  | .maxSourceBytes => "validator.max_source_bytes must be > 0"
  | .maxNesting => "validator.max_nesting_depth must be > 0"

namespace EngineLimits

/-- The first limit that is out of its range. -/
def flaw? (l : EngineLimits) : Option ConfigFlaw :=
  if l.memoryBytes < minMemoryBytes then some .memoryBytes
  else if l.stackBytes = 0 then some .stackBytes
  else if l.pendingJobs = 0 then some .pendingJobs
  else none

/-- The wire form. -/
def toJson (l : EngineLimits) : Json :=
  .obj [("memory_limit_bytes", .nat l.memoryBytes), ("max_stack_bytes", .nat l.stackBytes),
    ("max_pending_jobs", .nat l.pendingJobs)]

/-- Reads the wire form. -/
def decode (surplus : Shape.Surplus) : Json → Shape.Result EngineLimits :=
  let size := Shape.natural 64 "usize"
  let d : EngineLimits := {}
  Shape.record "struct EngineConfig" surplus
    [("memory_limit_bytes", Shape.check size), ("max_stack_bytes", Shape.check size),
      ("max_pending_jobs", Shape.check size)] fun r => do
    .ok ⟨← r.defaulted "memory_limit_bytes" size d.memoryBytes,
      ← r.defaulted "max_stack_bytes" size d.stackBytes,
      ← r.defaulted "max_pending_jobs" size d.pendingJobs⟩

end EngineLimits

namespace SourceLimits

/-- The first limit that is out of its range. -/
def flaw? (l : SourceLimits) : Option ConfigFlaw :=
  if l.maxBytes = 0 then some .maxSourceBytes
  else if l.maxNesting = 0 then some .maxNesting
  else none

/-- The wire form. -/
def toJson (l : SourceLimits) : Json :=
  .obj [("max_source_bytes", .nat l.maxBytes), ("max_nesting_depth", .nat l.maxNesting)]

/-- Reads the wire form. -/
def decode (surplus : Shape.Surplus) : Json → Shape.Result SourceLimits :=
  let size := Shape.natural 64 "usize"
  let d : SourceLimits := {}
  Shape.record "struct ValidatorLimits" surplus
    [("max_source_bytes", Shape.check size), ("max_nesting_depth", Shape.check size)] fun r => do
    .ok ⟨← r.defaulted "max_source_bytes" size d.maxBytes,
      ← r.defaulted "max_nesting_depth" size d.maxNesting⟩

end SourceLimits

namespace Config

/-- The first limit that is out of its range. -/
def flaw? (c : Config) : Option ConfigFlaw :=
  if c.evalTimeout = some 0 then some .evalTimeout
  else c.engine.flaw?.or c.source.flaw?

/-- The bound of one evaluation as a span of time. -/
def timeout (c : Config) : Option Duration := c.evalTimeout.map Duration.ofMilliseconds

/-- The wire form. -/
def toJson (c : Config) : Json :=
  .obj [("eval_timeout_ms", Json.option Json.nat c.evalTimeout), ("engine", c.engine.toJson),
    ("validator", c.source.toJson)]

/-- Reads the wire form. -/
def decode (surplus : Shape.Surplus) : Json → Shape.Result Config :=
  let time := Shape.nullable (Shape.natural 64 "u64")
  let d : Config := {}
  Shape.record "struct SandboxConfig" surplus
    [("eval_timeout_ms", Shape.check time),
      ("engine", Shape.check (EngineLimits.decode surplus)),
      ("validator", Shape.check (SourceLimits.decode surplus))] fun r => do
    .ok ⟨← r.defaulted "eval_timeout_ms" time d.evalTimeout,
      ← r.defaulted "engine" (EngineLimits.decode surplus) d.engine,
      ← r.defaulted "validator" (SourceLimits.decode surplus) d.source⟩

end Config

end PatchSandbox
