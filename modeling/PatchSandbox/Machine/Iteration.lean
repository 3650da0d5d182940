import PatchSandbox.Machine.Operator

/-!
# Loops and iterators

* **`repeating`** is the only loop of the machine's own functions. Every round takes one of
  the steps that a run has, so a loop ends, at the latest when the run is given up.
* An iterator that is gone over is kept in an object of the store, which knows whether it is
  at its end; **`closing`** closes it when something fails in between.
-/

namespace PatchSandbox.Machine

open PatchSandbox.Text (CodeUnits)

/-- Takes some of the steps that a run has. -/
def takeSteps (n : Nat) : M Unit := do
  let enough ← modifyGet fun s => (decide (n < s.steps), { s with steps := s.steps - n })
  if !enough then throw .interrupted

/-- Repeats at most so many times, until there is a result. -/
def repeatingFor {σ α : Type} (body : σ → M (σ ⊕ α)) : Nat → σ → M α
  | 0, _ => throw .interrupted
  | n + 1, s => do
    takeSteps 1
    match ← body s with
    | .inl s => repeatingFor body n s
    | .inr a => return a

/-- Repeats until there is a result. -/
def repeating {σ α : Type} (start : σ) (body : σ → M (σ ⊕ α)) : M α := do
  repeatingFor body ((← get).steps + 1) start

/-- Does something for every number from `start` up to, but without, `stop`. -/
def forRange (start stop : Nat) (body : Nat → M Unit) : M Unit :=
  repeating start fun i => do
    if i < stop then
      body i
      return .inl (i + 1)
    else return .inr ()

/-- Folds over the numbers from `start` up to, but without, `stop`. -/
def foldRange {σ : Type} (start stop : Nat) (init : σ) (body : σ → Nat → M σ) : M σ :=
  repeating (start, init) fun (i, s) => do
    if i < stop then return .inl (i + 1, ← body s i) else return .inr s

/-- Whether a limit on the number of nested calls is reached. -/
def guardDepth {α : Type} (x : M α) : M α := do
  let allowed ← modifyGet fun s =>
    (decide (s.depth < s.depthLimit), { s with depth := s.depth + 1 })
  if !allowed then
    modify fun s => { s with depth := s.depth - 1 }
    rangeError "Maximum call stack size exceeded"
  try x
  finally modify fun s => { s with depth := s.depth - 1 }

/-! ### Iterators -/

/-- The object that a step of an iterator gives. -/
def stepResult (v : Value) (done : Bool) : M Value := do
  let r ← alloc
    { prototype := some Intrinsic.objectPrototype.ref
      properties :=
        (PropertyMap.empty.insert "value" (.data v .all)).insert "done" (.data (.bool done) .all) }
  return .object r

/-- Keeps an iterator that is gone over. -/
def keepIterator (iterator : Value) : M Ref := do
  let next ← getValue iterator "next"
  alloc { kind := .iteration iterator next false, prototype := none }

/-- The iterator that a function of a value gives. -/
def iteratorFrom (v : Value) (method : Option Value) : M Ref := do
  match method with
  | none => typeError "value is not iterable"
  | some f =>
    let iterator ← call f v #[]
    if iterator.isObject then keepIterator iterator else typeError "not an object"

/-- Starts to go over a value. -/
def getIterator (v : Value) : M Ref := do
  let f ← getValue v WellKnown.iterator.key
  if ← isCallable f then iteratorFrom v (some f) else typeError "value is not iterable"

/-- Notes that an iterator is at its end. -/
def finishIteration (r : Ref) : M Unit :=
  modifyObj r fun o =>
    match o.kind with
    | .iteration iterator next _ => { o with kind := .iteration iterator next true }
    | _ => o

/-- The result object of the next step. -/
def callNext (r : Ref) : M Value := do
  match ← getKind r with
  | .iteration iterator next _ =>
    match ← attempt (call next iterator #[]) with
    | .ok v => return v
    | .error e =>
      finishIteration r
      throwValue e
  | _ => return .undefined

/-- The value in the result object of a step, if it was not the last one. -/
def unpackStep (r : Ref) (result : Value) : M (Option Value) := do
  if !result.isObject then
    finishIteration r
    typeError "iterator must return an object"
  match ← attempt (do
      if (← getValue result "done").truthy then return none
      else return some (← getValue result "value")) with
  | .ok (some v) => return some v
  | .ok none =>
    finishIteration r
    return none
  | .error e =>
    finishIteration r
    throwValue e

/-- Keys of properties over which a loop goes, of an object and its prototypes. -/
def enumerableKeys : Nat → Ref → List Key → List Key → M (List Key)
  | 0, _, _, acc => return acc
  | n + 1, r, seen, acc => do
    let keys := (← ownKeys r).filter fun k => !k.isSymbol
    let fresh := keys.filter fun k => !seen.contains k
    let shown ← fresh.filterM fun k => do
      return match ← getOwn r k with
        | some p => p.isEnumerable
        | none => false
    let acc := acc ++ shown
    match ← prototypeOf r with
    | some p => enumerableKeys n p (keys ++ seen) acc
    | none => return acc

/-- Starts to go over the names of a value's properties. -/
def enumerate (v : Value) : M Ref := do
  let (object, keys) ←
    if v.isNullish then pure (Intrinsic.objectPrototype.ref, [])
    else do
      let r ← toObject v
      pure (r, ← enumerableKeys (← chainBound) r [] [])
  alloc { kind := .enumeration object keys, prototype := none }

/-- The next name that is still one of a property, and the names after it. -/
def nextKey (object : Ref) : List Key → M (Option (Key × List Key))
  | [] => return none
  | k :: rest => do
    if ← hasProperty object k then return some (k, rest) else nextKey object rest

/-- The next value of what is gone over. -/
def stepIterator (r : Ref) : M (Option Value) := do
  match ← getKind r with
  | .enumeration object keys =>
    match ← nextKey object keys with
    | some (k, rest) =>
      setKind r (.enumeration object rest)
      return some k.toValue
    | none =>
      setKind r (.enumeration object [])
      return none
  | .iteration _ _ true => return none
  | _ => unpackStep r (← callNext r)

/-- The function that closes an iterator, if it is not at its end and has one. -/
def closer? (r : Ref) : M (Option (Value × Value)) := do
  match ← getKind r with
  | .iteration iterator _ false =>
    finishIteration r
    return (← getMethod iterator "return").map fun f => (iterator, f)
  | _ => return none

/-- Closes an iterator. -/
def closeIterator (r : Ref) : M Unit := do
  match ← closer? r with
  | some (iterator, f) =>
    if !(← call f iterator #[]).isObject then typeError "not an object"
  | none => return ()

/-- Closes an iterator after a failure, which counts more than one in closing. -/
def abandonIterator {α : Type} (r : Ref) (reason : Value) : M α := do
  let _ ← attempt (closeIterator r)
  throwValue reason

/-- Runs and closes an iterator if that fails. -/
def closing {α : Type} (r : Ref) (x : M α) : M α := do
  match ← attempt x with
  | .ok a => return a
  | .error e => abandonIterator r e

/-- Folds over the values of an iterator. -/
def foldIterator {σ : Type} (r : Ref) (init : σ) (body : σ → Value → M σ) : M σ :=
  repeating init fun s => do
    match ← stepIterator r with
    | some v => return .inl (← closing r (body s v))
    | none => return .inr s

/-- Folds over the values that a value gives one after the other. -/
def foldIterable {σ : Type} (v : Value) (init : σ) (body : σ → Value → M σ) : M σ := do
  foldIterator (← getIterator v) init body

/-- The values that a value gives one after the other. -/
def listOf (v : Value) : M (Array Value) := do
  foldIterable v #[] fun acc v => do
    charge itemCost
    return acc.push v

/-- The items of an object that is gone over like a list. -/
def itemsOf (v : Value) : M (Array Value) := do
  match v with
  | .object r =>
    let n ← lengthOf r
    foldRange 0 n #[] fun acc i => do
      charge itemCost
      return acc.push (← getProp r (.ofNat i))
  | _ => typeError "not an object"

end PatchSandbox.Machine
