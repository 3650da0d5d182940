import PatchSandbox.Script.Grammar.Basic

/-!
# Patterns

* **`bindingTarget`** reads what a declaration binds.
* **`checkTarget`** tells whether an expression that has been read may be assigned to. It
  looks into arrays and objects; a pattern in parentheses is none.
-/

namespace PatchSandbox.Script.Grammar

/-- Reads a default, if there is one. -/
def withDefault (g : Knot) (start : Nat) (target : Node) : P Node := allowingIn do
  if ← eat .assign then
    let value ← g .assignment
    node start (.assign .set target value)
  else return target

/-- Reads a target with its default. -/
def bindingElement (g : Knot) : P Node := do
  let start ← here
  let target ← g .bindingTarget
  withDefault g start target

/-- Reads a rest element. -/
def restElement (g : Knot) : P Node := do
  let start ← here
  advance
  let target ← g .bindingTarget
  node start (.spread target)

/-- Reads elements up to a closing mark, at most one of them a rest element. -/
def elementsWithRest (close : Punct) (element rest : P Node) : P (List Node) := do
  let items ← commaList close false do
    if ← at? .ellipsis then rest else element
  let rests := items.filter fun n => match n.form with | .spread _ => true | _ => false
  match rests.drop 1 with
  | extra :: _ => report .restNotLast extra.span.start
  | [] => pure ()
  return items

/-- Reads the name of a member and tells whether it is computed. -/
def memberName (g : Knot) : P (Bool × Node) := do
  let t ← current
  match t.kind with
  | .string value legacy =>
    advance
    return (false, ← node t.span.start (.string value legacy))
  | .number value form =>
    advance
    return (false, ← node t.span.start (.number value form))
  | .bigint value =>
    advance
    return (false, ← node t.span.start (.bigint value))
  | .punct .leftBracket =>
    advance
    let key ← allowingIn (g .assignment)
    expect .rightBracket
    return (true, key)
  | _ =>
    let name ← anyName
    return (false, ← node t.span.start (.name name))

/-- Reads a property of a pattern. -/
def bindingProperty (g : Knot) : P Node := do
  let start ← here
  let isName := isIdentifier (← current)
  let (computed, key) ← memberName g
  if isName && !(← at? .colon) then
    match key.form with
    | .name _ =>
      let value ← withDefault g start key
      node start (.property .field false true key value)
    | _ => unexpected
  else
    expect .colon
    let value ← bindingElement g
    node start (.property .field computed false key value)

/-- Reads what a declaration binds. -/
def bindingTarget (g : Knot) : P Node := do
  let start ← here
  if ← at? .leftBrace then
    advance
    let members ← elementsWithRest .rightBrace (bindingProperty g) (restElement g)
    expect .rightBrace
    node start (.object members)
  else if ← at? .leftBracket then
    advance
    let items ← elementsWithRest .rightBracket
      (do if ← at? .comma then node (← here) .hole else bindingElement g) (restElement g)
    expect .rightBracket
    node start (.array items)
  else bindingIdentifier

/-- Whether an expression may be assigned to as a whole. -/
def isSimpleTarget : Form Node → Bool
  | .name _ => true
  | .member false _ _ => true
  | .index false _ _ => true
  | .privateMember false _ _ => true
  | _ => false

/-- The object's shorthands with a default that start at the given place are no flaw any
more. -/
def uncover (start : Nat) : P Unit :=
  modify fun s => { s with covers := s.covers.filter (· != start) }

/-- What is looked at in turn when a target is checked. -/
inductive Check where
  /-- Something that is assigned to as a whole. -/
  | simple (use : TargetUse) (n : Node)
  /-- Something that may be a pattern. -/
  | target (use : TargetUse) (n : Node)
  /-- A target that may have a default. -/
  | element (n : Node)

/-- Ends reading at a node that is no target. -/
def refuse {α : Type} (use : TargetUse) (n : Node) : P α := fail (.badTarget use) n.span.start

/-- Checks the items of a pattern; only the last may be a rest. -/
def checkItems (items : List Node) (element : Node → P (List Check)) : P (List Check) := do
  let last := items.length - 1
  let parts ← (items.zip (List.range items.length)).mapM fun (item, i) => do
    match item.form with
    | .hole => return []
    | .spread n =>
      if i == last then return [.target .item n] else fail .spreadNotLast item.span.start
    | _ => element item
  return parts.flatten

/-- One step of checking a target: what remains to be checked. -/
def checkStep : Check → P (List Check)
  | .simple use n =>
    match n.form with
    | .paren inner =>
      match inner.form with
      | .array _ => refuse use n
      | .object _ => refuse use n
      | _ => return [.simple use inner]
    | form => if isSimpleTarget form then return [] else refuse use n
  | .element n =>
    match n.form with
    | .assign .set target _ => return [.target .item target]
    | _ => return [.target .item n]
  | .target use n =>
    match n.form with
    | .array items => checkItems items fun item => return [.element item]
    | .object members => checkItems members fun member => do
      match member.form with
      | .property _ _ true _ _ =>
        uncover member.span.start
        return []
      | .property _ _ false _ value => return [.element value]
      | _ => refuse .item member
    | _ => return [.simple use n]

/-- Checks targets, the first one first. -/
def checkAll : (fuel : Nat) → List Check → P Unit
  | 0, _ => pure ()
  | _ + 1, [] => pure ()
  | fuel + 1, c :: rest => do checkAll fuel ((← checkStep c) ++ rest)

/-- Ends reading unless an expression may be assigned to, as a pattern or as a whole. -/
def checkTarget (n : Node) : P Unit := do checkAll (4 * (← read).bound) [.target .whole n]

/-- Ends reading unless an expression may be assigned to as a whole. -/
def checkSimpleTarget (use : TargetUse) (n : Node) : P Unit := do
  checkAll (4 * (← read).bound) [.simple use n]

end PatchSandbox.Script.Grammar
