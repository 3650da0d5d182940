import PatchSandbox.Machine.Library.Generator
import PatchSandbox.Machine.Library.Promise

/-!
# Functions that belong to something in the store

What the functions do that settle promises and that wait for them.
-/

namespace PatchSandbox.Machine.Library

/-- Goes on with an asynchronous function that has waited. -/
def resumeCoroutine (v : Value) (how : Resumption) : M Value := do
  match v with
  | .object r =>
    match ← getKind r with
    | .coroutine (some frame) capability =>
      setKind r (.coroutine none capability)
      match frame.resumed how with
      | .ok frame => advanceAsync r frame capability
      | .error e => discard (call capability.reject .undefined #[e])
    | _ => pure ()
  | _ => pure ()
  return .undefined

/-- The promise in a slot. -/
def slotRef (c : Call) (i : Nat) : M Ref := requireRef (c.slot i)

/-- What a function of the machine does. -/
def runInner (which : Inner) (c : Call) : M Value := do
  match which with
  | .resolve =>
    if ← claim (c.slot 1) then resolvePromise (← slotRef c 0) (c.arg 0)
    return .undefined
  | .reject =>
    if ← claim (c.slot 1) then rejectPromise (← slotRef c 0) (c.arg 0)
    return .undefined
  | .executor =>
    let cell ← slotRef c 0
    match ← getKind cell with
    | .cell values =>
      if values.any fun v => !v.isUndefined then typeError "resolving function already set"
      setKind cell (.cell #[c.arg 0, c.arg 1])
    | _ => pure ()
    return .undefined
  | .allElement => runElement c (return c.arg 0) fun values => newArray values
  | .allSettledElement =>
    runElement c (outcomeObject "fulfilled" "value" (c.arg 0)) fun values => newArray values
  | .allSettledFailure =>
    runElement c (outcomeObject "rejected" "reason" (c.arg 0)) fun values => newArray values
  | .anyFailure => runElement c (return c.arg 0) aggregateOf
  | .finallyFulfilled =>
    let result ← call (c.slot 1) .undefined #[]
    let p ← promiseOf (c.slot 0) result
    let give ← newInner .giveValue 0 #[c.arg 0]
    invoke p "then" #[give]
  | .finallyRejected =>
    let result ← call (c.slot 1) .undefined #[]
    let p ← promiseOf (c.slot 0) result
    let thrower ← newInner .throwValue 0 #[c.arg 0]
    invoke p "then" #[thrower]
  | .giveValue => return c.slot 0
  | .throwValue => throwValue (c.slot 0)
  | .resumeNext => resumeCoroutine (c.slot 0) (.next (c.arg 0))
  | .resumeThrow => resumeCoroutine (c.slot 0) (.throw (c.arg 0))
  | .asyncGeneratorNext => resumeAsyncGenerator (c.slot 0) (.next (c.arg 0))
  | .asyncGeneratorThrow => resumeAsyncGenerator (c.slot 0) (.throw (c.arg 0))
  | .asyncGeneratorReturned => endAsyncGenerator (c.slot 0) (.ok (c.arg 0))
  | .asyncGeneratorReturnFailed => endAsyncGenerator (c.slot 0) (.error (c.arg 0))
  | .unwrapResult => stepResult (c.arg 0) (c.slot 0).truthy
  | .closeOnFailure => abandonIterator (← slotRef c 0) (c.arg 0)
  | .revokeProxy =>
    match ← getKind (← slotRef c 0) with
    | .proxy _ _ callable constructible =>
      setKind (← slotRef c 0) (.proxy none none callable constructible)
    | _ => pure ()
    return .undefined

end PatchSandbox.Machine.Library
