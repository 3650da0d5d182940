import PatchSandbox.Location

/-!
# Findings

What the static check reports: a kind, a message and, where there is one, a location.
-/

namespace PatchSandbox

/-- Category of a static admission failure. -/
inductive FindingKind where
  /-- The source does not parse. -/
  | malformed
  /-- The source does not open with the strict directive. -/
  | missingStrictMode
  /-- An import or export in any form. -/
  | moduleSyntax
  | withStatement
  | debugger
  | metaProperty
  /-- A call, construction or tag that evaluates code. -/
  | forbiddenCallee
  | sourceTooLarge
  | nestingTooDeep
  /-- The check itself failed. -/
  | internal
  deriving DecidableEq, Repr, Inhabited

/-- The name a kind has outside. -/
def FindingKind.name : FindingKind → String
  | .malformed => "syntax"
  | .missingStrictMode => "missing_strict_mode"
  | .moduleSyntax => "module_syntax"
  | .withStatement => "with_statement"
  | .debugger => "debugger"
  | .metaProperty => "meta_property"
  | .forbiddenCallee => "forbidden_callee"
  | .sourceTooLarge => "source_too_large"
  | .nestingTooDeep => "nesting_too_deep"
  | .internal => "internal"

/-- Every kind, in the order in which messages list them. -/
def FindingKind.all : List FindingKind :=
  [.malformed, .missingStrictMode, .moduleSyntax, .withStatement, .debugger, .metaProperty,
    .forbiddenCallee, .sourceTooLarge, .nestingTooDeep, .internal]

/-- The kind with a name. -/
def FindingKind.ofName? (name : String) : Option FindingKind :=
  FindingKind.all.find? (·.name == name)

@[simp] theorem FindingKind.ofName?_name (k : FindingKind) : ofName? k.name = some k := by
  cases k <;> decide

/-- One reported problem. -/
structure Finding where
  kind : FindingKind
  message : String
  location : Option Location
  deriving DecidableEq, Repr, Inhabited

/-- The written form: the location, if any, before the message. -/
def Finding.text (f : Finding) : String :=
  match f.location with
  | some l => l.text ++ ": " ++ f.message
  | none => f.message

/-- Findings as a list of bullets, one a line. -/
def Finding.render (fs : List Finding) : String :=
  String.intercalate "\n" (fs.map fun f => "- " ++ f.text)

/-- The findings of one module that was refused. -/
structure ModuleFailure where
  moduleName : String
  errors : List Finding
  deriving DecidableEq, Repr, Inhabited

/-- The written form of refused modules. -/
def ModuleFailure.render (fs : List ModuleFailure) : String :=
  String.intercalate "\n" (fs.map fun f => f.moduleName ++ ":\n" ++ Finding.render f.errors)

end PatchSandbox
