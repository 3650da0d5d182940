import PatchSandbox.Machine.Compile.Expression

/-!
# Code of statements and scripts

Code of a statement leaves the stack as it was. Loops keep what they go over in a slot, and
make their variables anew in every round, since functions made in a round may keep them.

A script has a value: that of the last expression that was carried out as a statement. A
statement with parts begins with none.

**`compileScript`** makes the code of a script: that of all functions in it, and last that
of the script itself, which leaves the value of the script. What a script declares at its
top belongs to all scripts of a run.
-/

namespace PatchSandbox.Machine.Compile

open PatchSandbox.Script
open PatchSandbox.Text (CodeUnits)

/-- Code of statements in a list, which declares names for itself. -/
def emitBlock (g : Knot) (ns : List Node) : C Unit :=
  withLexical (lexicalNames ns) fun _ => do
    declareFunctions g ns
    ns.forM g.statement

/-- Code of an expression as a statement. -/
def emitExpressionStatement (g : Knot) (body : Node) : C Unit := do
  g.expression "" body
  match (← read).completion with
  | some slot => emit (.initLocal slot)
  | none => emit .drop

/-- Code of declared variables. -/
def emitDeclare (g : Knot) (kind : VarKind) (declarators : List Node) : C Unit := do
  if kind == .using then throw (.moduleSyntax "using")
  declarators.forM fun d => do
    match d.form with
    | .declarator target value =>
      match value with
      | some v =>
        namedValue g target v
        g.pattern (if kind == .var then .store else .init) target
      | none =>
        if kind == .const then throw .noConstValue
        if kind == .var then target.boundNames.forM checkBinding
        else
          pushUndefined
          g.pattern .init target
    | _ => pure ()

/-! ### Conditions -/

/-- Code of a choice between two statements. -/
def emitIf (g : Knot) (test yes : Node) (no : Option Node) : C Unit := do
  let otherwise ← newLabel
  g.expression "" test
  resetCompletion
  emit (.jumpUnless otherwise)
  g.statement yes
  match no with
  | none => placeLabel otherwise
  | some n =>
    let stop ← newLabel
    emit (.jump stop)
    placeLabel otherwise
    g.statement n
    placeLabel stop

/-- The test and the statements of a case. -/
def caseParts (n : Node) : Option Node × List Node :=
  match n.form with
  | .switchCase test statements => (test, statements)
  | _ => (none, [])

/-- Code of a choice by a value. -/
def emitSwitch (g : Knot) (value : Node) (cases : List Node) : C Unit :=
  takingLabels fun labels => do
    let slot ← newSlot
    let stop ← newLabel
    let parts := cases.map caseParts
    let all := parts.flatMap (·.2)
    g.expression "" value
    emit (.initLocal slot)
    resetCompletion
    withLexical (lexicalNames all) fun _ => do
      declareFunctions g all
      let marked ← parts.mapM fun p => do return (← newLabel, p)
      marked.forM fun (label, test, _) => do
        match test with
        | some t =>
          emit (.loadLocal slot "")
          g.expression "" t
          emitAll [.binary .strictEqual, .jumpIf label]
        | none => pure ()
      match marked.find? fun (_, test, _) => test.isNone with
      | some (label, _) => emit (.jump label)
      | none => emit (.jump stop)
      withControl (.block labels true stop) do
        marked.forM fun (label, _, statements) => do
          placeLabel label
          statements.forM g.statement
      placeLabel stop

/-! ### Loops -/

/-- Code of the body of a loop. -/
def emitLoopBody (labels : List String) (stop next : Nat) (body : C Unit) : C Unit :=
  withControl (.loop labels stop next) body

/-- Code of a loop with a condition at its start. -/
def emitWhile (g : Knot) (test body : Node) : C Unit :=
  takingLabels fun labels => do
    let next ← newLabel
    let stop ← newLabel
    resetCompletion
    placeLabel next
    g.expression "" test
    emit (.jumpUnless stop)
    emitLoopBody labels stop next (g.statement body)
    emit (.jump next)
    placeLabel stop

/-- Code of a loop with a condition at its end. -/
def emitDoWhile (g : Knot) (body test : Node) : C Unit :=
  takingLabels fun labels => do
    let again ← newLabel
    let next ← newLabel
    let stop ← newLabel
    resetCompletion
    placeLabel again
    emitLoopBody labels stop next (g.statement body)
    placeLabel next
    g.expression "" test
    emit (.jumpIf again)
    placeLabel stop

/-- Code of a loop that counts. -/
def emitFor (g : Knot) (init test update : Option Node) (body : Node) : C Unit :=
  takingLabels fun labels =>
    withLexical (init.toList.flatMap Node.lexicalNames) fun inStore => do
      let again ← newLabel
      let next ← newLabel
      let stop ← newLabel
      let effect (n : Node) : C Unit := do
        g.expression "" n
        emit .drop
      resetCompletion
      match init with
      | none => pure ()
      | some n =>
        match n.form with
        | .declare kind declarators => emitDeclare g kind declarators
        | _ => effect n
      if inStore then emit .renewScope
      placeLabel again
      match test with
      | none => pure ()
      | some n =>
        g.expression "" n
        emit (.jumpUnless stop)
      emitLoopBody labels stop next (g.statement body)
      placeLabel next
      if inStore then emit .renewScope
      match update with
      | none => pure ()
      | some n => effect n
      emit (.jump again)
      placeLabel stop

/-- Refuses values for what a loop over values declares. -/
def checkLoopTarget (keyword : String) (left : Node) : C Unit := do
  match left.form with
  | .declare _ [.mk _ (.declarator _ (some _))] => throw (.loopInitializer keyword)
  | _ => pure ()

/-- The pattern that a loop over values gives them to, the names it declares, and how. -/
def loopTarget (left : Node) : Node × List LexicalName × BindMode :=
  match left.form with
  | .declare kind [.mk _ (.declarator target _)] =>
    (target, left.lexicalNames, if kind == .var then .store else .init)
  | _ => (left, [], .store)

/-- Code of what a loop goes over. The names it declares have no values yet. -/
def emitIterated (g : Knot) (names : List LexicalName) (right : Node) : C Unit := do
  let used := mentionedIn [right]
  if names.any fun n => used.contains n.name then
    withLexical names fun _ => g.expression "" right
  else g.expression "" right

/-- Code of a loop over names or values. -/
def emitForEach (g : Knot) (start : Instr) (isAsync : Bool) (left right body : Node) : C Unit :=
  takingLabels fun labels => do
    let (target, names, mode) := loopTarget left
    resetCompletion
    emitIterated g names right
    emit start
    withIterator isAsync fun slot => do
      let next ← newLabel
      let stop ← newLabel
      placeLabel next
      if isAsync then emitAll [.nextCall slot, .awaitTop, .nextUnpack slot stop]
      else emit (.next slot stop)
      emitLoopBody labels stop next
        (withLexical names fun _ => do
          g.pattern mode target
          g.statement body)
      emit (.jump next)
      placeLabel stop

/-! ### Exceptions -/

/-- Code of a `catch`, for the thrown value on top. -/
def emitCatch (g : Knot) (n : Node) : C Unit := do
  match n.form with
  | .catchClause param body =>
    match param with
    | none =>
      emit .drop
      g.statement body
    | some p =>
      let names := p.boundNames
      if hasRepeated names then throw .redefinition
      let statements := match body.form with | .block statements => statements | _ => []
      let own := (lexicalNames statements).map (·.name)
      let vars := if (isPatternForm p) then varNames statements else []
      if (own ++ vars).any names.contains then throw .redefinition
      withLexical (names.map ({ name := · })) fun _ => do
        g.pattern .init p
        g.statement body
  | _ => emit .drop

/-- Code of a block, and of a `catch` for what it throws. -/
def emitGuarded (g : Knot) (block : Node) (handler : Option Node) : C Unit := do
  match handler with
  | none => g.statement block
  | some h =>
    let caught ← newLabel
    let stop ← newLabel
    emit (.protect caught)
    withControl .handler (g.statement block)
    emitAll [.unprotect, .jump stop]
    placeLabel caught
    resetCompletion
    emitCatch g h
    placeLabel stop

/-- Code of a `try`. -/
def emitTry (g : Knot) (block : Node) (handler finalizer : Option Node) : C Unit := do
  resetCompletion
  match finalizer with
  | none => emitGuarded g block handler
  | some f =>
    let failed ← newLabel
    let final ← newLabel
    let stop ← newLabel
    let reason ← newSlot
    let place ← newSlot
    emit (.protect failed)
    withControl (.finalizer final) (emitGuarded g block handler)
    emitAll [.unprotect, .gosub final, .jump stop]
    placeLabel failed
    emitAll [.initLocal reason, .gosub final, .loadLocal reason "", .throwTop]
    placeLabel final
    emit (.initLocal place)
    match (← read).completion with
    | none => g.statement f
    | some slot =>
      -- the end of a `try` does not change the value of a script
      let saved ← newSlot
      emitAll [.loadLocal slot "", .initLocal saved]
      g.statement f
      emitAll [.loadLocal saved "", .initLocal slot]
    emitAll [.loadLocal place "", .back]
    placeLabel stop

/-! ### All statements -/

/-- Whether labels before a statement belong to the statement itself. -/
def takesLabels (n : Node) : Bool :=
  match n.form with
  | .forLoop _ _ _ _ => true
  | .forIn _ _ _ => true
  | .forOf _ _ _ _ => true
  | .whileLoop _ _ => true
  | .doWhile _ _ => true
  | .switchOn _ _ => true
  | .labelled _ _ => true
  | _ => false

/-- Code of a statement with a label. -/
def emitLabelled (g : Knot) (label : String) (body : Node) : C Unit := do
  checkMention label
  let c ← read
  let isTaken : Control → Bool := fun
    | .loop labels _ _ => labels.contains label
    | .block labels _ _ => labels.contains label
    | _ => false
  if c.labels.contains label || c.controls.any isTaken then throw .repeatedLabel
  let labels := label :: c.labels
  if takesLabels body then withReader (fun c => { c with labels }) (g.statement body)
  else
    let stop ← newLabel
    withReader (fun c => { c with labels := [] })
      (withControl (.block labels false stop) (g.statement body))
    placeLabel stop

/-- Code of a statement. Functions are declared by the list they are in. -/
def emitStatement (g : Knot) (n : Node) : C Unit := do
  match n.form with
  | .expression body => emitExpressionStatement g body
  | .directive _ body => emitExpressionStatement g body
  | .block statements => emitBlock g statements
  | .declare kind declarators => emitDeclare g kind declarators
  | .ifElse test yes no => emitIf g test yes no
  | .forLoop init test update body => emitFor g init test update body
  | .forIn left right body =>
    checkLoopTarget "in" left
    emitForEach g .enumerate false left right body
  | .forOf isAwait left right body =>
    checkLoopTarget "of" left
    emitForEach g (if isAwait then .iterateAsync else .iterate) isAwait left right body
  | .whileLoop test body => emitWhile g test body
  | .doWhile body test => emitDoWhile g body test
  | .continueTo label =>
    emitJump (continueTarget? label) (if label.isSome then .unknownLabel else .strayContinue)
      (← read).controls
  | .breakTo label =>
    emitJump (breakTarget? label) (if label.isSome then .unknownLabel else .strayBreak)
      (← read).controls
  | .returnValue value =>
    match value with
    | some v => g.expression "" v
    | none => pushUndefined
    let c ← read
    if c.isAsync && c.isGenerator then emit .awaitTop
    emitReturn
  | .withObject _ _ => throw .withStatement
  | .labelled label body => emitLabelled g label body
  | .switchOn value cases => emitSwitch g value cases
  | .throwValue value =>
    g.expression "" value
    emit .throwTop
  | .tryBlock block handler finalizer => emitTry g block handler finalizer
  | .classDef _ decorators name heritage members =>
    let own := name.toList.flatMap Node.boundNames
    if name.isNone || own.any reservedWords.contains then throw .noClassName
    if own.contains "eval" || own.contains argumentsName then throw .reservedBinding
    emitClass g "" n.span decorators name heritage members
    match (name.map Node.boundNames).bind List.head? with
    | some id => initName id
    | none => emit .drop
  | .importModule _ => throw (.moduleSyntax "import")
  | .exportNamed _ => throw (.moduleSyntax "export")
  | .exportDefault _ => throw (.moduleSyntax "export")
  | .exportAll _ => throw (.moduleSyntax "export")
  | _ => pure ()

end PatchSandbox.Machine.Compile

/-! ### Scripts -/

namespace PatchSandbox.Machine

open PatchSandbox.Script
open PatchSandbox.Text (CodeUnits)

namespace Compile

/-- Makers of code for trees that are at most so deep. -/
def knot : Nat → Knot
  | 0 => ⟨fun _ _ => throw .tooDeep, fun _ => throw .tooDeep, fun _ _ => throw .tooDeep⟩
  | depth + 1 =>
    { expression := fun hint n => emitExpression (knot depth) hint n
      statement := fun n => emitStatement (knot depth) n
      pattern := fun mode n => bindPattern (knot depth) mode n }

/-- Code that declares the names of a script. -/
def declareTop (g : Knot) (statements : List Node) : C Unit := do
  let lexical := (lexicalNames statements).filter fun n => !n.isFunction
  let names := lexical.map (·.name)
  let vars := varNames statements
  let functions := ((lexicalNames statements).filter (·.isFunction)).map (·.name)
  if hasRepeated names || names.any vars.contains || names.any functions.contains then
    throw .redefinition
  lexical.forM fun n => emit (.declareLexical (.ofString n.name) n.isConst)
  vars.forM fun n => emit (.declareVar (.ofString n))
  declareFunctions g statements

/-- Code of a script. -/
def emitScript (g : Knot) (p : Program) : C Unit := do
  let slot ← newSlot
  emitAll [.push .undefined, .initLocal slot]
  declareTop g p.statements
  withReader (fun c => { c with completion := some slot }) do
    p.directives.forM g.statement
    p.statements.forM g.statement
  emitAll [.loadLocal slot "", .returnTop]

end Compile

open Compile in
/-- The code of a script, for a run that has `base` functions with code already. -/
def compileScript (text : String) (base : Nat) (p : Program) :
    Except EarlyError (Array FunctionCode) :=
  let depth := 4 * text.utf8ByteSize + 16
  let context : Context := { text, base, kept := keptNames p.statements }
  let describe (d : Draft) : FunctionCode :=
    { name := CodeUnits.ofString "<eval>", arity := 0, locals := d.slots, instrs := d.finish
      kind := .function, isAsync := false, isGenerator := false, text := "" }
  match (makeFunction describe (emitScript (knot depth) p) context).run {} with
  | .ok _ s => .ok s.functions
  | .error e _ => .error e

end PatchSandbox.Machine
