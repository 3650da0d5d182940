import PatchSandbox.Machine.Compile.Function

/-!
# Code of expressions

Code of an expression leaves its value on the stack and nothing else.

* A call needs its receiver below the function, so **`emitCallee`** looks at what is called.
* An optional chain goes on at its end as soon as a link is missing, with the values its
  context asks for instead of the result: one value, or a function with its receiver.
-/

namespace PatchSandbox.Machine.Compile

open PatchSandbox.Script
open PatchSandbox.Text (CodeUnits)

/-! ### Optional chains -/

/-- Code of a chain; `missing` are the values that it leaves when it is cut short. -/
def withChain (missing : List Value) (body : C Unit) : C Unit := do
  let stop ← newLabel
  withReader (fun c => { c with chainExit := stop, chainValues := missing }) body
  placeLabel stop

/-- Code of a link of a chain: where the value on top is missing, the chain drops `n` values
and ends. -/
def emitLink (isOptional : Bool) (n : Nat) : C Unit := do
  if isOptional then
    let c ← read
    let there ← newLabel
    emitAll [.pick 0, .isNullish, .jumpUnless there]
    emitAll (List.replicate n .drop)
    emitAll (c.chainValues.map .push)
    emit (.jump c.chainExit)
    placeLabel there

/-! ### Members -/

/-- Code of a member; `keeps` tells whether the object stays below it. -/
def emitMemberOf (g : Knot) (keeps isOptional : Bool) (target : Node) (key : C Unit)
    (get : Instr) : C Unit := do
  g.expression "" target
  emitLink isOptional 1
  if keeps then emit (.pick 0)
  key
  emit get

/-- Code of a member of `super`; `keeps` tells whether the receiver stays below it. -/
def emitSuperMember (keeps : Bool) (key : C Unit) : C Unit := do
  loadSuper
  if keeps then emitAll [.pick 1, .roll 1]
  key
  emitAll [.toKey, .getSuper]

/-- Code of an expression that is a member of an object. -/
def emitMemberAccess (g : Knot) (keeps : Bool) (n : Node) : C Unit := do
  match n.form with
  | .member isOptional target name =>
    if isSuper target then emitSuperMember keeps (pushText name)
    else emitMemberOf g keeps isOptional target (pure ()) (.getField (.ofString name))
  | .index isOptional target key =>
    if isSuper target then emitSuperMember keeps (g.expression "" key)
    else emitMemberOf g keeps isOptional target (g.expression "" key) .getIndex
  | .privateMember isOptional target name =>
    emitMemberOf g keeps isOptional target (loadPrivate name) .getPrivate
  | _ => g.expression "" n

/-- Whether an expression is a member of an object. -/
def isMember (n : Node) : Bool :=
  match n.form with
  | .member _ _ _ => true
  | .index _ _ _ => true
  | .privateMember _ _ _ => true
  | _ => false

/-! ### Calls -/

/-- Code that leaves the receiver of a call and the function. -/
def emitCallee (g : Knot) (callee : Node) : C Unit := do
  let n := unparenthesized callee
  match n.form with
  | .chain body =>
    if isMember body then withChain [.undefined, .undefined] (emitMemberAccess g true body)
    else
      pushUndefined
      g.expression "" n
  | _ =>
    if isMember n then emitMemberAccess g true n
    else
      pushUndefined
      g.expression "" n

/-- Code that leaves arguments in an array. -/
def emitArgumentArray (g : Knot) (args : List Node) : C Unit := do
  emit .newArray
  args.forM fun a => do
    match a.form with
    | .spread value =>
      g.expression "" value
      emit .appendSpread
    | _ =>
      g.expression "" a
      emit .append

/-- Code that uses arguments: one by one, or in an array if their number is not known. -/
def emitArguments (g : Knot) (args : List Node) (several : Nat → Instr) (spread : Instr) :
    C Unit := do
  if hasSpread args then
    emitArgumentArray g args
    emit spread
  else
    args.forM (g.expression "")
    emit (several args.length)

/-- Code of a call of the constructor that a class extends. -/
def emitSuperCall (g : Knot) (args : List Node) : C Unit := do
  if !(← read).superCallAllowed then throw .straySuperCall
  loadName calleeName
  loadName newTargetName
  emitArgumentArray g args
  emitAll [.superCall, .pick 0]
  match ← lookup? thisName with
  | some v => emitAccess v .initThisLocal .initThisScoped
  | none => emit .drop
  loadName calleeName
  emit .initFields

/-- Code of a call. -/
def emitCall (g : Knot) (isOptional : Bool) (callee : Node) (args : List Node) : C Unit := do
  if isSuper callee then emitSuperCall g args
  else
    emitCallee g callee
    emitLink isOptional 2
    emitArguments g args .call .callSpread

/-! ### Literals -/

/-- Code of a property of the object on top. -/
def emitProperty (g : Knot) (n : Node) : C Unit := do
  match n.form with
  | .spread value =>
    g.expression "" value
    emit .copyProperties
  | .property kind computed isShort key value =>
    if kind == .field || kind == .accessor then
      if computed then
        g.expression "" key
        emit .toKey
        g.expression "" value
        if isAnonymous value then emit .nameFunction
        emit .defineIndex
      else
        let k := staticKey key
        if k == .ofString "__proto__" && !isShort then
          g.expression "" value
          emit .setPrototype
        else
          g.expression (if isAnonymous value then keyHint k else "") value
          emit (.defineField k)
    else
      if computed then
        g.expression "" key
        emit .toKey
      else emit (.push (staticKey key).toValue)
      emitMethod g n.span value
      emit (.defineMethod (methodKind kind) true)
  | _ => pure ()

/-- Code of an array. -/
def emitArray (g : Knot) (items : List Node) : C Unit := do
  emit .newArray
  items.forM fun n => do
    match n.form with
    | .hole => emit .appendHole
    | .spread value =>
      g.expression "" value
      emit .appendSpread
    | _ =>
      g.expression "" n
      emit .append

/-- Code of the pieces and the parts of a template, one after the other: the number of
texts. -/
def emitPieces (g : Knot) : List Quasi → List Node → C Nat
  | [], _ => return 0
  | q :: quasis, parts => do
    let text := q.cooked.getD ∅
    if q.cooked.isNone then throw .octalEscape
    let own ← if text.isEmpty then pure 0 else do
      emit (.push (.string text))
      pure 1
    match parts with
    | [] => return own
    | p :: parts => do
      g.expression "" p
      emit .toText
      return own + 1 + (← emitPieces g quasis parts)

/-- Code of a template. -/
def emitTemplate (g : Knot) (quasis : List Quasi) (parts : List Node) : C Unit := do
  emit (.concat (← emitPieces g quasis parts))

/-- Code of a template with a function. -/
def emitTagged (g : Knot) (tag template : Node) : C Unit := do
  match template.form with
  | .template quasis parts =>
    emitCallee g tag
    emit (.templateObject (← newSite) (quasis.map (·.cooked)) (quasis.map (·.raw)))
    parts.forM (g.expression "")
    emit (.call (parts.length + 1))
  | _ => throw .octalEscape

/-- Code of a regular expression. -/
def emitRegex (pattern flags : String) : C Unit := do
  match Regex.Flags.ofString? flags with
  | none => throw (.badRegex "invalid regular expression flags")
  | some f =>
    match Regex.Program.read (CodeUnits.ofString pattern) f with
    | .ok program =>
      emit (.newRegex (CodeUnits.ofString pattern) (CodeUnits.ofString flags) program)
    | .error message => throw (.badRegex message)

/-! ### Operators -/

/-- Whether an expression is a logical operation of one of some kinds. -/
def isLogical (p : LogicalOp → Bool) (n : Node) : Bool :=
  match n.form with
  | .logical op _ _ => p op
  | _ => false

/-- Code of an operation that may skip its second operand. -/
def emitLogical (g : Knot) (op : LogicalOp) (left right : Node) : C Unit := do
  let isOther : LogicalOp → Bool := fun o => (o == .coalesce) != (op == .coalesce)
  let mixes :=
    if op == .coalesce then isLogical isOther left || isLogical isOther right
    else isLogical (· == .coalesce) left || isLogical (· == .coalesce) right
  if mixes then throw .mixedCoalesce
  let stop ← newLabel
  g.expression "" left
  emit (.pick 0)
  match op with
  | .and => emit (.jumpUnless stop)
  | .or => emit (.jumpIf stop)
  | .coalesce => emitAll [.isNullish, .jumpUnless stop]
  emit .drop
  g.expression "" right
  placeLabel stop

/-- Code that deletes what an expression refers to. -/
def emitDelete (g : Knot) (operand : Node) : C Unit := do
  let n := unparenthesized operand
  let delete (target : Node) (isOptional : Bool) (key : C Unit) : C Unit := do
    if isSuper target then
      loadName thisName
      emit .drop
      key
      emitAll [.drop, .raise .referenceError "unsupported reference to 'super'", .push .undefined]
    else
      g.expression "" target
      emitLink isOptional 1
      key
      emit .delete
  let rest (n : Node) : C Unit := do
    match n.form with
    | .name _ => throw .deleteName
    | .member isOptional target name => delete target isOptional (pushText name)
    | .index isOptional target key => delete target isOptional (g.expression "" key)
    | .privateMember _ _ _ => throw .deleteName
    | _ =>
      g.expression "" n
      emitAll [.drop, .push (.bool true)]
  match n.form with
  | .chain body => withChain [.bool true] (rest body)
  | _ => rest n

/-- Code of an operation with one operand. -/
def emitUnary (g : Knot) (op : UnaryOp) (operand : Node) : C Unit := do
  let plain : C Unit := do
    g.expression "" operand
    emit (.unary op)
  match op with
  | .delete => emitDelete g operand
  | .void =>
    g.expression "" operand
    emitAll [.drop, .push .undefined]
  | .typeOf =>
    match (unparenthesized operand).form with
    | .name text =>
      match ← lookup? text with
      | some _ => plain
      | none => emitAll [.loadGlobalIfAny (.ofString text), .unary .typeOf]
    | _ => plain
  | _ => plain

/-- Whether an expression may not be raised to a power without parentheses. -/
def isUnary (n : Node) : Bool :=
  match n.form with
  | .unary _ _ => true
  | .await _ => true
  | _ => false

/-- Code of an operation with two operands. -/
def emitBinary (g : Knot) (op : BinaryOp) (left right : Node) : C Unit := do
  if op == .pow && isUnary left then throw .unaryPower
  g.expression "" left
  g.expression "" right
  emit (.binary op)

/-! ### Assignments -/

/-- The reference of a target. -/
def targetOf (g : Knot) (converts : Bool) (target : Node) : C Reference := do
  match reference? g converts target with
  | some r => return r
  | none => throw .reservedBinding

/-- Whether an expression is taken apart when it is assigned to. -/
def isPatternForm (n : Node) : Bool :=
  match n.form with
  | .array _ => true
  | .object _ => true
  | _ => false

/-- Code of an assignment. -/
def emitAssign (g : Knot) (op : AssignOp) (target value : Node) : C Unit := do
  match op with
  | .set =>
    if isPatternForm target then
      g.expression "" value
      emit (.pick 0)
      g.pattern .store target
    else
      let r ← targetOf g false target
      r.prepare
      namedValue g target value
      r.store
  | .binary op =>
    let r ← targetOf g true target
    r.prepare
    r.fetch
    g.expression "" value
    emit (.binary op)
    r.store
  | .logical op =>
    let r ← targetOf g true target
    let skip ← newLabel
    let stop ← newLabel
    r.prepare
    r.fetch
    emit (.pick 0)
    match op with
    | .and => emit (.jumpUnless skip)
    | .or => emit (.jumpIf skip)
    | .coalesce => emitAll [.isNullish, .jumpUnless skip]
    emit .drop
    namedValue g target value
    r.store
    emit (.jump stop)
    placeLabel skip
    emitAll (List.replicate r.size (.nip 1))
    placeLabel stop

/-- Code that counts a variable or a member up or down. -/
def emitUpdate (g : Knot) (increment isPrefixed : Bool) (target : Node) : C Unit := do
  let r ← targetOf g true target
  r.prepare
  r.fetch
  emit .toNumeric
  if !isPrefixed then emit (.tuck r.size)
  emit (if increment then .increment else .decrement)
  r.store
  if !isPrefixed then emit .drop

/-! ### Generators -/

/-- Code that gives the value on top and waits for another one. -/
def emitYield : C Unit := do
  let c ← read
  if !c.isGenerator then throw .strayYield
  if c.isAsync then emit .awaitTop
  let goOn ← newLabel
  emitAll [.yieldTop, .jumpUnless goOn]
  if c.isAsync then emit .awaitTop
  emitReturn
  placeLabel goOn

/-- Code that gives all values of the iterable on top. -/
def emitDelegate : C Unit := do
  let c ← read
  if !c.isGenerator then throw .strayYield
  let slot ← newSlot
  let again ← newLabel
  let done ← newLabel
  let goOn ← newLabel
  let returned ← newLabel
  emit (if c.isAsync then .iterateAsync else .iterate)
  emitAll [.initLocal slot, .push .undefined, .push nextMode]
  placeLabel again
  emit (.delegate slot returned)
  if c.isAsync then emit .awaitTop
  emitAll [.delegateDone done, .nip 1]
  if c.isAsync then emit .resultValue
  emit .yieldResult
  if c.isAsync then
    -- a value to return is waited for
    emitAll [.pick 0, .push returnMode, .binary .strictEqual, .jumpUnless again]
    emitAll [.roll 1, .awaitTop, .roll 1]
  emit (.jump again)
  placeLabel done
  emitAll [.roll 1, .push returnMode, .binary .strictEqual, .jumpUnless goOn]
  emitReturn
  placeLabel returned
  if c.isAsync then emit .awaitTop
  emitReturn
  placeLabel goOn

/-! ### All expressions -/

/-- Code of an expression; a function without a name gets the one given. -/
def emitExpression (g : Knot) (hint : String) (n : Node) : C Unit := do
  match n.form with
  | .name text =>
    checkMention text
    if text == argumentsName && !(← read).argumentsAllowed then throw .strayArguments
    match ← lookup? text with
    | some _ => loadName text
    | none => emit (if text == "undefined" then .push .undefined else .loadGlobal (.ofString text))
  | .this => loadName thisName
  | .superRef => throw .straySuper
  | .null => emit (.push .null)
  | .bool value => emit (.push (.bool value))
  | .number value form =>
    if form == .legacy then throw .octalNumber
    emit (.push (.number value))
  | .bigint value => emit (.push (.bigint value))
  | .string value legacy =>
    if legacy then throw .octalEscape
    emit (.push (.string value))
  | .regex pattern flags => emitRegex pattern flags
  | .template quasis parts => emitTemplate g quasis parts
  | .tagged tag template => emitTagged g tag template
  | .array items => emitArray g items
  | .object members =>
    emit .newObject
    members.forM (emitProperty g)
  | .function traits name params body =>
    emitFunctionExpression g hint n.span traits name params body
  | .classDef _ decorators name heritage members =>
    emitClass g hint n.span decorators name heritage members
  | .member _ _ _ => emitMemberAccess g false n
  | .privateMember _ _ _ => emitMemberAccess g false n
  | .index _ _ _ => emitMemberAccess g false n
  | .chain body => withChain [.undefined] (g.expression "" body)
  | .call isOptional callee args => emitCall g isOptional callee args
  | .new callee args =>
    g.expression "" callee
    emitArguments g args .construct .constructSpread
  | .importCall args =>
    args.forM (g.expression "")
    emitAll (List.replicate (args.length - 1) .drop)
    emit .importModule
  | .metaProperty object _ =>
    if object == "import" then throw .strayImportMeta
    if !(← read).newTargetAllowed then throw .strayNewTarget
    loadName newTargetName
  | .unary op operand => emitUnary g op operand
  | .update increment isPrefixed target => emitUpdate g increment isPrefixed target
  | .binary op left right => emitBinary g op left right
  | .logical op left right => emitLogical g op left right
  | .privateIn name right =>
    g.expression "" right
    loadPrivate name
    emit .hasPrivate
  | .conditional test yes no =>
    let otherwise ← newLabel
    let stop ← newLabel
    g.expression "" test
    emit (.jumpUnless otherwise)
    g.expression "" yes
    emit (.jump stop)
    placeLabel otherwise
    g.expression "" no
    placeLabel stop
  | .assign op target value => emitAssign g op target value
  | .sequence items =>
    items.forM fun i => do
      g.expression "" i
      emit .drop
    -- the last value is the result
    modify fun s => { s with draft := { s.draft with instrs := s.draft.instrs.pop } }
  | .yield delegate value =>
    match value with
    | some v => g.expression "" v
    | none => pushUndefined
    if delegate then emitDelegate else emitYield
  | .await value =>
    g.expression "" value
    emit .awaitTop
  | .paren body => g.expression hint body
  | _ => pushUndefined

end PatchSandbox.Machine.Compile
