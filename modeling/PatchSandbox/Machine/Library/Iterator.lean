import PatchSandbox.Machine.Library.Member

/-!
# Iterators

The iterators of the standard objects, and what all iterators share.
-/

namespace PatchSandbox.Machine.Library

open PatchSandbox.Text (CodeUnits)

/-- Makes an iterator over the items of a value. -/
def arrayIterator (v : Value) (kind : StepKind) : M Value := do
  let r ← toObject v
  return .object (← alloc
    { kind := .arrayIterator (some r) 0 kind
      prototype := some Intrinsic.arrayIteratorPrototype.ref })

/-- What a step gives: a key, a value or both. -/
def stepValue (kind : StepKind) (key : Value) (value : M Value) : M Value := do
  match kind with
  | .key => return key
  | .value => value
  | .entry => newArray #[key, ← value]

/-- The next step over the items of a list. -/
def nextOfArray (c : Call) : M Value := do
  match c.receiver with
  | .object r =>
    match ← getKind r with
    | .arrayIterator (some target) i kind =>
      let length ← lengthOf target
      if i < length then
        setKind r (.arrayIterator (some target) (i + 1) kind)
        stepResult (← stepValue kind (.nat i) (getProp target (.ofNat i))) false
      else
        setKind r (.arrayIterator none i kind)
        stepResult .undefined true
    | .arrayIterator none _ _ => stepResult .undefined true
    | _ => typeError "not an Array Iterator"
  | _ => typeError "not an Array Iterator"

/-- The next step over the entries of a map or a set. -/
def nextOfTable (name : String) (c : Call) : M Value := do
  let wrong : M Value := typeError ("not a " ++ name)
  match c.receiver with
  | .object r =>
    match ← getKind r with
    | .tableIterator target i kind own =>
      if own != name then wrong
      else
        match target with
        | none => stepResult .undefined true
        | some t =>
          let table := match ← getKind t with
            | .map table => table
            | .set table => table
            | _ => .empty
          match table.next? i with
          | some ((k, v), i) =>
            setKind r (.tableIterator (some t) i kind own)
            stepResult (← stepValue kind k (return v)) false
          | none =>
            setKind r (.tableIterator none i kind own)
            stepResult .undefined true
    | _ => wrong
  | _ => wrong

/-- The next character of a text. -/
def nextOfText (c : Call) : M Value := do
  match c.receiver with
  | .object r =>
    match ← getKind r with
    | .textIterator u i =>
      match u.codePointAt i with
      | some (_, size) =>
        setKind r (.textIterator u (i + size))
        stepResult (.string (u.extract i (i + size))) false
      | none => stepResult .undefined true
    | _ => typeError "not a String Iterator"
  | _ => typeError "not a String Iterator"

/-! ### What all iterators share -/

/-- The iterator that a call goes over. -/
def receiverIterator (c : Call) : M Ref := do
  match c.receiver with
  | .object _ => keepIterator c.receiver
  | _ => typeError "Iterator.prototype method called on incompatible object"

/-- Goes over an iterator until a function gives a result. -/
def seek (r : Ref) (f : Value → Nat → M (Option Value)) (otherwise : Value) : M Value :=
  repeating 0 fun i => do
    match ← stepIterator r with
    | none => return .inr otherwise
    | some v =>
      match ← closing r (f v i) with
      | some result =>
        closeIterator r
        return .inr result
      | none => return .inl (i + 1)

/-- Folds over an iterator. -/
def reduceIterator (c : Call) : M Value := do
  let f := c.arg 0
  requireFunction f
  let r ← receiverIterator c
  let (first, start) ←
    if c.args.size > 1 then pure (c.arg 1, 0)
    else
      match ← stepIterator r with
      | some v => pure (v, 1)
      | none => typeError "empty iterator"
  let (acc, _) ← foldIterator r (first, start) fun (acc, i) v => do
    return (← call f .undefined #[acc, v, .nat i], i + 1)
  return acc

/-- A function that asks about every value. -/
def askAll (ask : Value → Value → Option Value) (otherwise : Value) (c : Call) : M Value := do
  let f := c.arg 0
  requireFunction f
  seek (← receiverIterator c)
    (fun v i => do return ask v (← call f .undefined #[v, .nat i])) otherwise

/-- The prototype of a kind of iterators. -/
def iteratorKind (prototype : Intrinsic) (name : String) (next : Call → M Value) : Holder where
  object := prototype
  parent := some .iteratorPrototype
  members := [.fn "next" 0 next, .tag name]

/-- `Iterator` and the prototypes of iterators. -/
def iteratorHolders : List Holder :=
  [ .ofConstructor .iterator .iteratorPrototype "Iterator" 0 fun c => do
      match c.newTarget with
      | some n =>
        if n == c.self then typeError "abstract class not constructable"
        else return .object (← newObject (some (← prototypeFor n .iteratorPrototype)))
      | none => typeError "constructor requires 'new'"
  , { object := .iteratorPrototype
      members :=
        [ .constructor .iterator
          , .symbolic .iterator "[Symbol.iterator]" 0 fun c => return c.receiver
          , .fn "every" 1
              (askAll (fun _ r => if r.truthy then none else some (.bool false)) (.bool true))
          , .fn "find" 1 (askAll (fun v r => if r.truthy then some v else none) .undefined)
          , .fn "forEach" 1 (askAll (fun _ _ => none) .undefined)
          , .fn "some" 1
              (askAll (fun _ r => if r.truthy then some (.bool true) else none) (.bool false))
          , .fn "reduce" 1 reduceIterator
          , .fn "toArray" 0 fun c => do
              let items ← foldIterator (← receiverIterator c) #[] fun acc v => do
                charge itemCost
                return acc.push v
              newArray items
          , .tag "Iterator" ] }
  , { object := .asyncIteratorPrototype
      members :=
        [.symbolic .asyncIterator "[Symbol.asyncIterator]" 0 fun c => return c.receiver] }
  , iteratorKind .arrayIteratorPrototype "Array Iterator" nextOfArray
  , iteratorKind .mapIteratorPrototype "Map Iterator" (nextOfTable "Map Iterator")
  , iteratorKind .setIteratorPrototype "Set Iterator" (nextOfTable "Set Iterator")
  , iteratorKind .stringIteratorPrototype "String Iterator" nextOfText ]

end PatchSandbox.Machine.Library
