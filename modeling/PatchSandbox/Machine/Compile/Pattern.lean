import PatchSandbox.Machine.Compile.Basic
import PatchSandbox.Machine.Numeric

/-!
# Code of assignments

* **`Reference`** is something that can be read and written: a variable or a member. Its
  parts are on the stack while it is used.
* **`bindPattern`** takes a value apart.
-/

namespace PatchSandbox.Machine.Compile

open PatchSandbox.Script
open PatchSandbox.Text (CodeUnits)

/-- The key that a name, a text or a number stands for. -/
def staticKey (n : Node) : Key :=
  match n.form with
  | .name text => .ofString text
  | .string value _ => .ofUnits value
  | .number value _ => .ofUnits (CodeUnits.ofString (numberText value))
  | .bigint value => .ofUnits (CodeUnits.ofString (toString value))
  | _ => .name ∅

/-- The name of a function that is the value of a property. -/
def keyHint (k : Key) : String := ((k.toUnits?).getD ∅).toStringLossy

/-- Something that can be read and written. -/
structure Reference where
  /-- Number of its parts. -/
  size : Nat
  /-- `→ parts` -/
  prepare : C Unit
  /-- `parts → parts v` -/
  fetch : C Unit
  /-- `parts v → v` -/
  store : C Unit

/-- Whether an expression is `super`. -/
def isSuper (n : Node) : Bool := match n.form with | .superRef => true | _ => false

/-- Code that leaves what a member of `super` is looked for with: the receiver and the
home. -/
def loadSuper : C Unit := do
  if !(← read).superAllowed then throw .straySuper
  loadName thisName
  loadName homeName

/-- Code that leaves a private name. -/
def loadPrivate (name : String) : C Unit := do
  match ← lookup? (privateKey name) with
  | some _ => loadName (privateKey name)
  | none => throw (.unknownPrivate (privateKey name))

/-- A member of `super`. -/
def superReference (key : C Unit) : Reference where
  size := 3
  prepare := do
    loadSuper
    key
    emit .toKey
  fetch := emitAll [.pick 2, .pick 2, .pick 2, .getSuper]
  store := emit .setSuper

/-- What an expression refers to; `converts` tells whether a computed name is fixed before
anything else is evaluated. -/
def reference? (g : Knot) (converts : Bool) (n : Node) : Option Reference :=
  match (unparenthesized n).form with
  | .name text =>
    some
      { size := 0
        prepare := pure ()
        fetch := loadName text
        store := do
          checkMention text
          checkBinding text
          emit (.pick 0)
          storeName text }
  | .member _ target name =>
    if isSuper target then some (superReference (pushText name))
    else
      some
        { size := 1
          prepare := g.expression "" target
          fetch := emitAll [.pick 0, .getField (.ofString name)]
          store := emit (.setField (.ofString name)) }
  | .index _ target key =>
    if isSuper target then some (superReference (g.expression "" key))
    else
      some
        { size := 2
          prepare := do
            g.expression "" target
            g.expression "" key
            if converts then emit .toKey
          fetch := emitAll [.pick 1, .pick 1, .getIndex]
          store := emit .setIndex }
  | .privateMember _ target name =>
    some
      { size := 2
        prepare := do
          g.expression "" target
          loadPrivate name
        fetch := emitAll [.pick 1, .pick 1, .getPrivate]
        store := emit .setPrivate }
  | _ => none

/-- Code of an expression whose value goes to a target: a function without a name gets that
of the target. -/
def namedValue (g : Knot) (target value : Node) : C Unit :=
  match (unparenthesized target).form with
  | .name text => g.expression (if isAnonymous value then text else "") value
  | _ => g.expression "" value

/-- Code that takes the value on top where it is `undefined` from a default. -/
def bindDefault (g : Knot) (mode : BindMode) (target value : Node) : C Unit := do
  let given ← newLabel
  emitAll [.pick 0, .isUndefined, .jumpUnless given, .drop]
  namedValue g target value
  placeLabel given
  g.pattern mode target

/-- Code that takes a property from the object on top. With a rest, the names that were taken
are in a list above it. -/
def bindProperty (g : Knot) (mode : BindMode) (hasRest : Bool) (member : Node) : C Unit := do
  match member.form with
  | .property _ computed _ key value =>
    if computed then
      if hasRest then
        g.expression "" key
        emitAll [.toKey, .tuck 1, .append, .roll 1, .pick 2, .roll 1, .getIndex]
      else
        emit (.pick 0)
        g.expression "" key
        emit .getIndex
    else
      let k := staticKey key
      if hasRest then emitAll [.push k.toValue, .append, .pick 1, .getField k]
      else emitAll [.pick 0, .getField k]
    g.pattern mode value
  | .spread target =>
    emitAll [.pick 1, .pick 1, .copyRest]
    g.pattern mode target
  | _ => pure ()

/-- Whether one of some nodes is a spread. -/
def hasSpread (ns : List Node) : Bool :=
  ns.any fun n => match n.form with | .spread _ => true | _ => false

/-- Code that takes an object apart. -/
def bindObject (g : Knot) (mode : BindMode) (members : List Node) : C Unit := do
  emit .requireObject
  let hasRest := hasSpread members
  if hasRest then emit .newArray
  members.forM (bindProperty g mode hasRest)
  if hasRest then emit .drop
  emit .drop

/-- Code that uses the iterator on top, and closes it. -/
def withIterator (isAsync : Bool) (body : Nat → C Unit) : C Unit := do
  let slot ← newSlot
  let failed ← newLabel
  let done ← newLabel
  emitAll [.initLocal slot, .protect failed]
  withControl (.iterator slot isAsync) (body slot)
  emit .unprotect
  emitClose slot isAsync
  emit (.jump done)
  placeLabel failed
  if isAsync then
    let quiet ← newLabel
    let skip ← newLabel
    emitAll [.protect quiet, .closeCall slot, .jumpUnless skip, .awaitTop]
    placeLabel skip
    emitAll [.drop, .unprotect, .throwTop]
    placeLabel quiet
    emitAll [.drop, .throwTop]
  else emit (.abandon slot)
  placeLabel done

/-- Code that takes an item of a list. -/
def bindItem (g : Knot) (mode : BindMode) (slot : Nat) (item : Node) : C Unit := do
  match item.form with
  | .hole => emitAll [.nextOrUndefined slot, .drop]
  | .spread target =>
    emit (.nextRest slot)
    g.pattern mode target
  | _ =>
    emit (.nextOrUndefined slot)
    g.pattern mode item

/-- Code that takes a list apart. -/
def bindArray (g : Knot) (mode : BindMode) (items : List Node) : C Unit := do
  emit .iterate
  withIterator false fun slot => items.forM (bindItem g mode slot)

/-- Code that takes the value on top apart. -/
def bindPattern (g : Knot) (mode : BindMode) (n : Node) : C Unit := do
  match n.form with
  | .paren body => g.pattern mode body
  | .assign .set target value => bindDefault g mode target value
  | .object members => bindObject g mode members
  | .array items => bindArray g mode items
  | .name text =>
    checkBinding text
    match mode with
    | .init => initName text
    | .store => storeName text
  | _ =>
    match reference? g false n with
    | some r =>
      r.prepare
      emit (.roll r.size)
      r.store
      emit .drop
    | none => emit .drop

end PatchSandbox.Machine.Compile
