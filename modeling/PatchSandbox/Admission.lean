import PatchSandbox.Nesting
import PatchSandbox.Finding
import PatchSandbox.Config
import PatchSandbox.Script.Program

/-!
# Admission

Whether a source may run at all. It is checked in this order: its size, the nesting of its
brackets, that it reads as a module, and then what is in it. Of the first three only one
finding is reported; of the contents all.

* **`Admission.offence?`** says what is wrong with one node, if anything is. It looks at the
  node alone, never at where it stands.
* **`Admission.walk`** goes over a tree and reports what is wrong in it.
* **`Admission.reports`** are the offences of a whole program, each in its place.
* **`Admission.check`** is the decision about a source.
-/

namespace PatchSandbox

namespace Admission

open Script (Node Form Program)
open Text (CodeUnits)

/-- The directive that every source has to open with. -/
def strictDirective : String := "use strict"

/-- The names of what evaluates text as code. -/
def forbiddenCallees : List String :=
  ["eval", "Function", "AsyncFunction", "GeneratorFunction", "AsyncGeneratorFunction"]

/-- The names of the global object. -/
def globalObjects : List String := ["globalThis", "self", "window", "global"]

/-- A node without the parentheses around it. -/
def unparenthesized : Node → Node
  | .mk _ (.paren body) => unparenthesized body
  | n => n

/-- Whether an expression is the global object by one of its names. -/
def isGlobalObject (n : Node) : Bool :=
  match (unparenthesized n).form with
  | .name name => globalObjects.contains name
  | _ => false

/-- The name an expression has as a callee: a variable, or a member of the global object
that is named by a word or a string. -/
def calleeName? (n : Node) : Option String :=
  match (unparenthesized n).form with
  | .name name => some name
  | .member _ target name => if isGlobalObject target then some name else none
  | .index _ target key =>
    if isGlobalObject target then
      match key.form with
      | .string value _ => some value.toStringLossy
      | _ => none
    else none
  | _ => none

/-- The forbidden name an expression has as a callee, if it has one. -/
def forbidden? (n : Node) : Option String :=
  (calleeName? n).filter forbiddenCallees.contains

/-- What is wrong with one node. -/
inductive Offence where
  | importDeclaration (source : String)
  | exportDeclaration
  | exportDefault
  | exportAll (source : String)
  | dynamicImport
  | withStatement
  | debugger
  | metaProperty (object property : String)
  | call (name : String)
  | construction (name : String)
  | taggedTemplate (name : String)
  | notStrict
  deriving DecidableEq, Repr, Inhabited

/-- The kind of finding an offence is. -/
def Offence.kind : Offence → FindingKind
  | .importDeclaration _ => .moduleSyntax
  | .exportDeclaration => .moduleSyntax
  | .exportDefault => .moduleSyntax
  | .exportAll _ => .moduleSyntax
  | .dynamicImport => .moduleSyntax
  | .withStatement => .withStatement
  | .debugger => .debugger
  | .metaProperty _ _ => .metaProperty
  | .call _ => .forbiddenCallee
  | .construction _ => .forbiddenCallee
  | .taggedTemplate _ => .forbiddenCallee
  | .notStrict => .missingStrictMode

/-- The wording of an offence. -/
def Offence.message : Offence → String
  | .importDeclaration source => "import declaration ('" ++ source ++ "') is not allowed"
  | .exportDeclaration => "export declaration is not allowed"
  | .exportDefault => "export default declaration is not allowed"
  | .exportAll source => "export * declaration ('" ++ source ++ "') is not allowed"
  | .dynamicImport => "dynamic import() is not allowed"
  | .withStatement => "'with' statement is not allowed"
  | .debugger => "'debugger' statement is not allowed"
  | .metaProperty object property =>
    "meta property '" ++ object ++ "." ++ property ++ "' is not allowed"
  | .call name => "call to forbidden function '" ++ name ++ "'"
  | .construction name => "construction of forbidden constructor '" ++ name ++ "'"
  | .taggedTemplate name => "tagged template with forbidden function '" ++ name ++ "'"
  | .notStrict => "script must begin with the \"" ++ strictDirective ++ "\" directive"

/-- What is wrong with a node, if anything is. -/
def offence? (form : Form Node) : Option Offence :=
  match form with
  | .importModule source => some (.importDeclaration source.toStringLossy)
  | .exportNamed _ => some .exportDeclaration
  | .exportDefault _ => some .exportDefault
  | .exportAll source => some (.exportAll source.toStringLossy)
  | .importCall _ => some .dynamicImport
  | .withObject _ _ => some .withStatement
  | .debugger => some .debugger
  | .metaProperty object property => some (.metaProperty object property)
  | .call _ callee _ => (forbidden? callee).map .call
  | .new callee _ => (forbidden? callee).map .construction
  | .tagged tag _ => (forbidden? tag).map .taggedTemplate
  | _ => none

/-- An offence and the byte at which the offending node starts. -/
structure Report where
  offence : Offence
  offset : Nat
  deriving DecidableEq, Repr, Inhabited

/-- Whether a program opens with the strict directive. -/
def isStrict (p : Program) : Bool :=
  match p.directives with
  | d :: _ => match d.form with
    | .directive raw _ => raw == strictDirective
    | _ => false
  | [] => false

/-- The report of a program that has contents but does not open with the strict directive. -/
def strictReport (p : Program) : List Report :=
  match p.directives ++ p.statements with
  | [] => []
  | first :: _ => if isStrict p then [] else [⟨.notStrict, first.span.start⟩]

/-- Whether the walk goes on from a node into its parts. -/
def goesOn (form : Form Node) : Bool :=
  match form with
  | .importModule _ => false
  | .exportAll _ => false
  | .debugger => false
  | .metaProperty _ _ => false
  | _ => true

/-- What has been reported after a tree was walked over, a node before its parts. -/
def walk : Node → Array Report → Array Report
  | .mk span form, found =>
    let found := match offence? form with
      | some o => found.push ⟨o, span.start⟩
      | none => found
    if goesOn form then
      form.children.attach.foldl (fun found ⟨n, _⟩ => walk n found) found
    else found
termination_by n => sizeOf n
decreasing_by exact Script.Node.sizeOf_lt_of_mem_children ‹_›

/-- Everything that is wrong with a program. -/
def reports (p : Program) : List Report :=
  ((p.directives ++ p.statements).foldl (fun found n => walk n found)
    (strictReport p).toArray).toList

/-- A report as a finding. -/
def Report.finding (source : List Char) (r : Report) : Finding :=
  ⟨r.offence.kind, r.offence.message, some (Location.ofOffset source r.offset)⟩

/-- Whether one finding stands no later in the text than another. -/
def noLater (a b : Finding) : Bool :=
  match a.location, b.location with
  | some l, some m => l.line < m.line || (l.line == m.line && l.column ≤ m.column)
  | none, _ => true
  | some _, none => false

/-- The findings of a program, in the order of the text. -/
def findings (source : List Char) (p : Program) : List Finding :=
  ((reports p).map (Report.finding source)).mergeSort noLater

/-- The findings of a source that is small and shallow enough. -/
def contents (source : List Char) : List Finding :=
  match Program.read .module source with
  | .error flaw =>
    [⟨.malformed, "syntax error: " ++ flaw.cause.admissionText,
      some (Location.ofOffset source flaw.offset)⟩]
  | .ok p => findings source p

/-- The findings of a source under limits; there are none if it is admitted. -/
def check (limits : SourceLimits) (source : String) : List Finding :=
  let size := source.utf8ByteSize
  if limits.maxBytes < size then
    [⟨.sourceTooLarge, "source is " ++ toString size ++ " bytes; the limit is " ++
      toString limits.maxBytes ++ " bytes", none⟩]
  else
    let cs := source.toList
    match Nesting.excessNesting cs limits.maxNesting with
    | some offset =>
      [⟨.nestingTooDeep, "bracket nesting exceeds the limit of " ++ toString limits.maxNesting,
        some (Location.ofOffset cs offset)⟩]
    | none => contents cs

end Admission

end PatchSandbox
