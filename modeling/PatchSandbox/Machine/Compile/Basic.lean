import PatchSandbox.Machine.Code
import PatchSandbox.Script.Names

/-!
# Making code

* **`C`** is what the makers of code are written in: they see what surrounds a piece of a
  script and add instructions to the function that is being made.
* **Labels** stand for places that are not known yet. A jump names a label, and
  `Draft.finish` puts the place in.
* **Variables** have a slot in their call, or in a scope of the store if a function inside
  may keep them.
-/

namespace PatchSandbox.Machine.Compile

open PatchSandbox.Script
open PatchSandbox.Text (CodeUnits)

/-- Why a script that reads well is still none. -/
inductive EarlyError where
  | redefinition
  | parameterRedefinition
  | repeatedParameter
  | reservedBinding
  | strayBreak
  | strayContinue
  | unknownLabel
  | withStatement
  | octalNumber
  | octalEscape
  | deleteName
  | mixedCoalesce
  | unaryPower
  | straySuper
  | straySuperCall
  | strayNewTarget
  | unknownPrivate (name : String)
  | repeatedPrivate
  | repeatedConstructor
  | strayImportMeta
  | strayYield
  | strayArguments
  | noVariableName
  | noFunctionName
  | noClassName
  | unexpectedWord (word : String)
  | badMemberName
  | badFieldName
  | repeatedLabel
  | strictBody
  | noConstValue
  | loopInitializer (keyword : String)
  | badRegex (message : String)
  | moduleSyntax (keyword : String)
  | decorator
  | tooDeep
  deriving DecidableEq, Repr, Inhabited

/-- The wording of an error. -/
def EarlyError.message : EarlyError → String
  | .redefinition => "invalid redefinition of lexical identifier"
  | .parameterRedefinition => "invalid redefinition of parameter name"
  | .repeatedParameter => "duplicate parameter names not allowed in this context"
  | .reservedBinding => "invalid variable name in strict mode"
  | .strayBreak => "break must be inside loop or switch"
  | .strayContinue => "continue must be inside loop"
  | .unknownLabel => "break/continue label not found"
  | .withStatement => "invalid keyword: with"
  | .octalNumber => "Octal literals are not allowed in strict mode"
  | .octalEscape => "octal escape sequences are not allowed in strict mode"
  | .deleteName => "cannot delete a direct reference in strict mode"
  | .mixedCoalesce => "cannot mix ?? with && or ||"
  | .unaryPower =>
    "unparenthesized unary expression can't appear on the left-hand side of '**'"
  | .straySuper => "'super' is only valid in a method"
  | .straySuperCall => "super() is only valid in a derived class constructor"
  | .strayNewTarget => "new.target only allowed within functions"
  | .unknownPrivate name => "undefined private field '" ++ name ++ "'"
  | .repeatedPrivate => "private class field is already defined"
  | .repeatedConstructor => "property constructor appears more than once"
  | .strayImportMeta => "import.meta only valid in module code"
  | .strayYield => "unexpected 'yield' keyword"
  | .strayArguments => "'arguments' identifier is not allowed in class field initializer"
  | .noVariableName => "variable name expected"
  | .noFunctionName => "function name expected"
  | .noClassName => "class statement requires a name"
  | .unexpectedWord word => "unexpected token in expression: '" ++ word ++ "'"
  | .badMemberName => "invalid method name"
  | .badFieldName => "invalid field name"
  | .repeatedLabel => "duplicate label name"
  | .strictBody =>
    "\"use strict\" not allowed in function with default or destructuring parameter"
  | .noConstValue => "missing initializer for const variable"
  | .loopInitializer keyword =>
    "a declaration in the head of a for-" ++ keyword ++ " loop can't have an initializer"
  | .badRegex message => message
  | .moduleSyntax keyword => "unsupported keyword: " ++ keyword
  | .decorator => "unexpected token in expression: '@'"
  | .tooDeep => "stack overflow"

/-- Where a variable is. -/
inductive Place where
  | slot (i : Nat)
  /-- In a scope of the store; scopes are counted from the outermost. -/
  | inScope (level i : Nat)
  deriving DecidableEq, Repr, Inhabited

/-- A variable. -/
structure Variable where
  place : Place
  isConst : Bool := false
  deriving DecidableEq, Repr, Inhabited

/-- What has to be done before control leaves a piece of code. -/
inductive Control where
  /-- A scope is left. -/
  | scope
  /-- A handler is taken away. -/
  | handler
  /-- A handler is taken away and the end of a `try` runs. -/
  | finalizer (label : Nat)
  /-- A handler is taken away and the iterator in a slot closed. -/
  | iterator (slot : Nat) (isAsync : Bool)
  | loop (labels : List String) (breakTo continueTo : Nat)
  /-- A statement that a `break` can leave: any if it is a `switch`, else one with a label. -/
  | block (labels : List String) (isSwitch : Bool) (breakTo : Nat)
  deriving Repr, Inhabited

/-- What surrounds a piece of a script. -/
structure Context where
  text : String
  /-- Number of functions with code that there are already. -/
  base : Nat
  scopes : List (List (String × Variable)) := []
  /-- Number of scopes of the store around. -/
  level : Nat := 0
  controls : List Control := []
  /-- Labels right before a statement. -/
  labels : List String := []
  /-- Names that functions inside the current one mention. -/
  kept : Std.HashSet String := ∅
  kind : CodeKind := .function
  isAsync : Bool := false
  isGenerator : Bool := false
  /-- The slot of the value that a script completes with. -/
  completion : Option Nat := none
  /-- Where an optional chain goes that is cut short, and the values it leaves. -/
  chainExit : Nat := 0
  chainValues : List Value := []
  superAllowed : Bool := false
  superCallAllowed : Bool := false
  newTargetAllowed : Bool := false
  argumentsAllowed : Bool := true

/-- A function that is being made. -/
structure Draft where
  instrs : Array Instr := #[]
  /-- The places of labels. -/
  labels : Array Nat := #[]
  slots : Nat := 0
  deriving Inhabited

/-- The instructions with places for labels. -/
def Draft.finish (d : Draft) : Array Instr := d.instrs.map (·.mapTarget fun l => d.labels.getD l 0)

/-- What changes while code is made. -/
structure CompileState where
  draft : Draft := {}
  functions : Array FunctionCode := #[]
  sites : Nat := 0
  deriving Inhabited

/-- A maker of code. -/
abbrev C := ReaderT Context (EStateM EarlyError CompileState)

/-- How a pattern treats its variables. -/
inductive BindMode where
  /-- They have been declared, and get another value. -/
  | store
  /-- They get their first value. -/
  | init
  deriving DecidableEq, Repr, Inhabited

/-- What makers of code ask of each other. -/
structure Knot where
  /-- Code that leaves the value of an expression; a function without a name gets this one. -/
  expression : String → Node → C Unit
  /-- Code of a statement. -/
  statement : Node → C Unit
  /-- Code that gives the parts of the value on top to the variables of a pattern. -/
  pattern : BindMode → Node → C Unit

/-! ### Instructions and labels -/

/-- Adds an instruction. -/
def emit (i : Instr) : C Unit :=
  modify fun s => { s with draft := { s.draft with instrs := s.draft.instrs.push i } }

/-- Adds instructions. -/
def emitAll (is : List Instr) : C Unit := is.forM emit

/-- A new label. -/
def newLabel : C Nat :=
  modifyGet fun s =>
    (s.draft.labels.size, { s with draft := { s.draft with labels := s.draft.labels.push 0 } })

/-- Puts a label here. -/
def placeLabel (l : Nat) : C Unit :=
  modify fun s =>
    { s with
      draft := { s.draft with labels := s.draft.labels.setIfInBounds l s.draft.instrs.size } }

/-- A new slot for a variable. -/
def newSlot : C Nat :=
  modifyGet fun s =>
    (s.draft.slots, { s with draft := { s.draft with slots := s.draft.slots + 1 } })

/-- A new number for a template. -/
def newSite : C Nat := do
  let base := (← read).base
  modifyGet fun s => (base * 1048576 + s.sites, { s with sites := s.sites + 1 })

/-- Pushes a text. -/
def pushText (s : String) : C Unit := emit (.push (.text s))

/-- Pushes `undefined`. -/
def pushUndefined : C Unit := emit (.push .undefined)

/-! ### Variables -/

/-- The variable of a name in some scopes. -/
def findVariable (name : String) : List (List (String × Variable)) → Option Variable
  | [] => none
  | scope :: rest => (scope.lookup name).or (findVariable name rest)

/-- The variable of a name, unless it is global. -/
def lookup? (name : String) : C (Option Variable) := do
  return findVariable name (← read).scopes

/-- Adds an instruction about a variable. -/
def emitAccess (v : Variable) (inCall : Nat → Instr) (inScope : Nat → Nat → Instr) : C Unit := do
  match v.place with
  | .slot i => emit (inCall i)
  | .inScope level i => emit (inScope ((← read).level - level) i)

/-- Code that leaves the value of a variable. -/
def loadName (name : String) : C Unit := do
  match ← lookup? name with
  | some v => emitAccess v (.loadLocal · name) (.loadScoped · · name)
  | none => emit (if name == thisName then .globalObject else .loadGlobal (.ofString name))

/-- Code that gives a variable the value on top. -/
def storeName (name : String) : C Unit := do
  match ← lookup? name with
  | some v =>
    if v.isConst then emit (.raise .typeError ("'" ++ name ++ "' is read-only"))
    else emitAccess v (.storeLocal · name) (.storeScoped · · name)
  | none => emit (.storeGlobal (.ofString name))

/-- Code that gives a variable the value on top as its first. -/
def initName (name : String) : C Unit := do
  match ← lookup? name with
  | some v => emitAccess v .initLocal .initScoped
  | none => emit (.initGlobal (.ofString name))

/-- Words that are not names anywhere, although they are read as such. -/
def reservedWords : List String :=
  ["implements", "interface", "let", "package", "private", "protected", "public", "static",
    "yield"]

/-- Refuses a word as a variable that is read. -/
def checkMention (name : String) : C Unit :=
  if name == "yield" then throw .strayYield
  else if reservedWords.contains name then throw (.unexpectedWord name)
  else pure ()

/-- Names that no variable may have. -/
def checkBinding (name : String) : C Unit :=
  if name == "eval" || name == "arguments" then throw .reservedBinding
  else if reservedWords.contains name then throw .noVariableName
  else pure ()

/-- Whether a list has a name twice. -/
def hasRepeated : List String → Bool
  | [] => false
  | n :: rest => rest.contains n || hasRepeated rest

/-- Makes variables and gives them to a maker of code: it is told whether the variables, or
some of them, are in a new scope of the store. -/
def withVariables (names : List LexicalName) (forced : Bool) (clear : Bool)
    (body : Bool → C Unit) : C Unit := do
  let c ← read
  let isKept (n : LexicalName) : Bool := forced || c.kept.contains n.name
  let kept := names.filter isKept
  let own := names.filter fun n => !isKept n
  let level := if kept.isEmpty then c.level else c.level + 1
  let inStore : List (String × Variable) :=
    kept.mapIdx fun i n => (n.name, ⟨.inScope level i, n.isConst⟩)
  let inCall : List (String × Variable) ← own.mapM fun n => do
    let slot ← newSlot
    if clear then emit (.clearLocal slot)
    return (n.name, ⟨.slot slot, n.isConst⟩)
  if !kept.isEmpty then emit (.enterScope kept.length)
  withReader
    (fun c =>
      { c with
        scopes := (inStore ++ inCall) :: c.scopes
        level
        controls := if kept.isEmpty then c.controls else .scope :: c.controls })
    (body !kept.isEmpty)
  if !kept.isEmpty then emit .leaveScope

/-- Makes the variables of a block. -/
def withLexical (names : List LexicalName) (body : Bool → C Unit) : C Unit := do
  if hasRepeated (names.map (·.name)) then throw .redefinition
  if names.isEmpty then body false else withVariables names false true body

/-- Adds something that has to be done before control leaves. -/
def withControl (c : Control) (body : C Unit) : C Unit :=
  withReader (fun ctx => { ctx with controls := c :: ctx.controls }) body

/-- Takes the labels before a statement. -/
def takingLabels (body : List String → C Unit) : C Unit := do
  let labels := (← read).labels
  withReader (fun c => { c with labels := [] }) (body labels)

/-! ### Leaving -/

/-- Code that closes the iterator in a slot. -/
def emitClose (slot : Nat) (isAsync : Bool) : C Unit := do
  if isAsync then
    let skip ← newLabel
    emit (.closeCall slot)
    emit (.jumpUnless skip)
    emit .awaitTop
    emit (.checkResult "not an object")
    placeLabel skip
    emit .drop
  else emit (.close slot)

/-- Code that leaves one piece of code; `carries` tells whether a value goes along on top. -/
def emitLeaving (carries : Bool) : Control → C Unit
  | .scope => emit .leaveScope
  | .handler => emit .unprotect
  | .finalizer label => do
    emit .unprotect
    if carries then
      let slot ← newSlot
      emitAll [.initLocal slot, .gosub label, .loadLocal slot ""]
    else emit (.gosub label)
  | .iterator slot isAsync => do
    emit .unprotect
    emitClose slot isAsync
  | .loop _ _ _ => pure ()
  | .block _ _ _ => pure ()

/-- Code that returns the value on top. A constructor of a class that extends another one
returns an object, if not that one then its receiver. -/
def emitReturn : C Unit := do
  let c ← read
  if c.kind == .derived then
    let given ← newLabel
    emitAll [.pick 0, .isUndefined, .jumpUnless given, .drop]
    loadName thisName
    placeLabel given
    emit (.checkResult "derived class constructor must return an object or undefined")
  c.controls.forM (emitLeaving true)
  emit .returnTop

/-- Where a `break` goes that leaves a control, if it does. -/
def breakTarget? (label : Option String) : Control → Option Nat
  | .loop labels target _ =>
    match label with
    | none => some target
    | some l => if labels.contains l then some target else none
  | .block labels isSwitch target =>
    match label with
    | none => if isSwitch then some target else none
    | some l => if labels.contains l then some target else none
  | _ => none

/-- Where a `continue` goes that goes on with a control, if it does. -/
def continueTarget? (label : Option String) : Control → Option Nat
  | .loop labels _ target =>
    match label with
    | none => some target
    | some l => if labels.contains l then some target else none
  | _ => none

/-- Code that leaves controls up to a target. -/
def emitJump (target? : Control → Option Nat) (otherwise : EarlyError) : List Control → C Unit
  | [] => throw otherwise
  | c :: rest =>
    match target? c with
    | some label => emit (.jump label)
    | none => do
      emitLeaving false c
      emitJump target? otherwise rest

/-! ### Functions -/

/-- The text of a stretch of the source. -/
def textOf (span : Span) : C String := do
  return String.Pos.Raw.extract (← read).text ⟨span.start⟩ ⟨span.stop⟩

/-- Makes a function of its own and gives its number. -/
def makeFunction (describe : Draft → FunctionCode) (body : C Unit) : C Nat := do
  let outer := (← get).draft
  modify fun s => { s with draft := {} }
  body
  let inner := (← get).draft
  let base := (← read).base
  modifyGet fun s =>
    (base + s.functions.size,
      { s with draft := outer, functions := s.functions.push (describe inner) })

/-- Whether an expression is a function or a class without a name of its own. -/
def isAnonymous : Node → Bool
  | .mk _ (.function _ none _ _) => true
  | .mk _ (.classDef _ _ none _ _) => true
  | .mk _ (.paren body) => isAnonymous body
  | _ => false

/-- An expression without the parentheses around it. -/
def unparenthesized : Node → Node
  | .mk _ (.paren body) => unparenthesized body
  | n => n

/-- The value of the completion is `undefined` again. -/
def resetCompletion : C Unit := do
  match (← read).completion with
  | some slot => emitAll [.push .undefined, .initLocal slot]
  | none => pure ()

end PatchSandbox.Machine.Compile
