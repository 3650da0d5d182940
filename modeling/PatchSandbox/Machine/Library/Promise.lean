import PatchSandbox.Machine.Library.Member
import PatchSandbox.Machine.Iteration

/-!
# Promises

`Promise` and its prototype. The functions that wait for several promises share a cell with
the results so far and the number of promises that are still awaited.
-/

namespace PatchSandbox.Machine.Library

open PatchSandbox.Text (CodeUnits)

/-- Makes a promise. -/
def makePromise (c : Call) : M Value := do
  requireNew c
  requireFunction (c.arg 0)
  let p ← newPromise (some (← c.prototypeOr .promisePrototype))
  let (resolve, reject) ← settlers p
  match ← attempt (call (c.arg 0) .undefined #[resolve, reject]) with
  | .ok _ => pure ()
  | .error e => discard (call reject .undefined #[e])
  return .object p

/-- The class of what a function of a promise makes. -/
def speciesClass (r : Ref) : M Value := do
  match ← getProp r "constructor" with
  | .undefined => return Intrinsic.promise.value
  | .object c =>
    match ← getProp c WellKnown.species.key with
    | .undefined => return Intrinsic.promise.value
    | .null => return Intrinsic.promise.value
    | v => return v
  | _ => typeError "not an object"

/-- Waits for a promise. -/
def promiseThen (c : Call) : M Value := do
  match c.receiver with
  | .object p =>
    match ← getKind p with
    | .promise _ _ =>
      let capability ← newCapability (← speciesClass p)
      let handler (v : Value) : M Value := do
        if ← isCallable v then return v else return .undefined
      let onFulfilled ← handler (c.arg 0)
      let onRejected ← handler (c.arg 1)
      awaitPromise p ⟨onFulfilled, onRejected, some capability⟩
      return capability.promise
    | _ => typeError "not a promise"
  | _ => typeError "not a promise"

/-- Waits for the end of a promise, however it ends. -/
def promiseFinally (c : Call) : M Value := do
  let r ← requireRef c.receiver
  let constructor ← speciesClass r
  let f := c.arg 0
  if ← isCallable f then
    let onFulfilled ← newInner .finallyFulfilled 1 #[constructor, f]
    let onRejected ← newInner .finallyRejected 1 #[constructor, f]
    invoke c.receiver "then" #[onFulfilled, onRejected]
  else invoke c.receiver "then" #[f, f]

/-- A promise that is rejected. -/
def rejectedPromise (c : Call) : M Value := do
  let capability ← newCapability c.receiver
  let _ ← call capability.reject .undefined #[c.arg 0]
  return capability.promise

/-- Rejects the promise of a capability if something fails. -/
def rejecting (capability : Capability) (x : M Unit) : M Value := do
  match ← attempt x with
  | .ok () => return capability.promise
  | .error e =>
    let _ ← call capability.reject .undefined #[e]
    return capability.promise

/-- Waits for the promises that a value gives one after the other: `handlers` makes the two
functions that wait for one of them, given its position and the shared cell. -/
def waitForAll (c : Call) (handlers : Capability → Nat → Ref → M (Value × Value))
    (done : Capability → Array Value → M Unit) : M Value := do
  let capability ← newCapability c.receiver
  rejecting capability do
    let resolve ← getValue c.receiver "resolve"
    requireFunction resolve
    -- the first item of the cell counts the promises that are still awaited
    let cell ← alloc { kind := .cell #[.nat 1], prototype := none }
    let iterator ← getIterator (c.arg 0)
    let _ ← foldIterator iterator 0 fun i v => do
      let next ← call resolve c.receiver #[v]
      match ← getKind cell with
      | .cell values =>
        let left := match values.getD 0 .undefined with | .number x => x + 1 | _ => 1
        setKind cell (.cell ((values.setIfInBounds 0 (.number left)).push .undefined))
      | _ => pure ()
      let (onFulfilled, onRejected) ← handlers capability i cell
      let _ ← invoke next "then" #[onFulfilled, onRejected]
      return i + 1
    match ← getKind cell with
    | .cell values =>
      let left := match values.getD 0 .undefined with | .number x => x - 1 | _ => 0
      setKind cell (.cell (values.setIfInBounds 0 (.number left)))
      if left == 0 then done capability (values.extract 1 values.size)
    | _ => pure ()

/-- Puts a result into a shared cell: all results, if this was the last one. -/
def putResult (cell : Value) (i : Nat) (v : Value) : M (Option (Array Value)) := do
  match cell with
  | .object r =>
    match ← getKind r with
    | .cell values =>
      let left := match values.getD 0 .undefined with | .number x => x - 1 | _ => 0
      let values := (values.setIfInBounds (i + 1) v).setIfInBounds 0 (.number left)
      setKind r (.cell values)
      return if left == 0 then some (values.extract 1 values.size) else none
    | _ => return none
  | _ => return none

/-- A function that hears of one promise of several. -/
def elementFunction (which : Inner) (i : Nat) (cell : Ref) (settle : Value) : M Value := do
  let once ← alloc { kind := .cell #[.bool false], prototype := none }
  newInner which 1 #[.object once, .nat i, .object cell, settle]

/-- The object that tells how a promise ended. -/
def outcomeObject (status field : String) (v : Value) : M Value := do
  let r ← newObject
  createData r "status" (.text status)
  createData r (.ofString field) v
  return .object r

/-- The error that holds the errors of several promises. -/
def aggregateOf (errors : Array Value) : M Value := do
  let r ← alloc { kind := .error, prototype := some Intrinsic.aggregateErrorPrototype.ref }
  let list ← newArray errors
  defineOrThrow r "errors" (.ofValue list .hidden)
  return .object r

/-- What a function that hears of one promise of several does. -/
def runElement (c : Call) (result : M Value) (settle : Array Value → M Value) : M Value := do
  if !(← claim (c.slot 0)) then return .undefined
  let i := match c.slot 1 with | .number x => x.toUInt64.toNat | _ => 0
  match ← putResult (c.slot 2) i (← result) with
  | some values => call (c.slot 3) .undefined #[← settle values]
  | none => return .undefined

/-- `Promise` and its prototype. -/
def promiseHolders : List Holder :=
  [ .ofConstructor .promise .promisePrototype "Promise" 1 makePromise
      [ .fn "resolve" 1 fun c => do
          discard (requireRef c.receiver)
          promiseOf c.receiver (c.arg 0)
        , .fn "reject" 1 rejectedPromise
        , .fn "all" 1 fun c =>
            waitForAll c
              (fun capability i cell => do
                return (← elementFunction .allElement i cell capability.resolve,
                  capability.reject))
              fun capability values => do
                discard (call capability.resolve .undefined #[← newArray values])
        , .fn "allSettled" 1 fun c =>
            waitForAll c
              (fun capability i cell => do
                let once ← alloc { kind := .cell #[.bool false], prototype := none }
                let slots := #[Value.object once, .nat i, .object cell, capability.resolve]
                return (← newInner .allSettledElement 1 slots,
                  ← newInner .allSettledFailure 1 slots))
              fun capability values => do
                discard (call capability.resolve .undefined #[← newArray values])
        , .fn "any" 1 fun c =>
            waitForAll c
              (fun capability i cell => do
                return (capability.resolve,
                  ← elementFunction .anyFailure i cell capability.reject))
              fun capability values => do
                discard (call capability.reject .undefined #[← aggregateOf values])
        , .fn "race" 1 fun c => do
            let capability ← newCapability c.receiver
            rejecting capability do
              let resolve ← getValue c.receiver "resolve"
              requireFunction resolve
              foldIterable (c.arg 0) () fun _ v => do
                let next ← call resolve c.receiver #[v]
                discard (invoke next "then" #[capability.resolve, capability.reject])
        , .fn "withResolvers" 0 fun c => do
            let capability ← newCapability c.receiver
            let r ← newObject
            createData r "promise" capability.promise
            createData r "resolve" capability.resolve
            createData r "reject" capability.reject
            return .object r
        , .fn "try" 1 fun c => do
            let capability ← newCapability c.receiver
            rejecting capability do
              let v ← call (c.arg 0) .undefined (c.args.extract 1 c.args.size)
              discard (call capability.resolve .undefined #[v])
        , .species ]
  , { object := .promisePrototype
      members :=
        [ .constructor .promise
          , .fn "then" 2 promiseThen
          , .fn "catch" 1 fun c => invoke c.receiver "then" #[.undefined, c.arg 0]
          , .fn "finally" 1 promiseFinally
          , .tag "Promise" ] } ]

end PatchSandbox.Machine.Library
