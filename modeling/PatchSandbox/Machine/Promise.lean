import PatchSandbox.Machine.Report

/-!
# Promises

* **`resolvePromise`** and **`rejectPromise`** settle a promise; **`awaitPromise`** adds one
  who waits. Whoever waits hears of the outcome in a job of its own.
* A promise that is rejected while nobody waits for it is reported to the host, and so is
  the first one who then waits for it after all.
* **`runJob`** does the work of one job.
-/

namespace PatchSandbox.Machine

open PatchSandbox.Text (CodeUnits)

/-- A new promise that waits. -/
def newPromise (prototype : Option Ref := some Intrinsic.promisePrototype.ref) : M Ref :=
  alloc { kind := .promise (.pending []) false, prototype }

/-- Puts the job that tells an outcome. -/
def scheduleReaction (r : Reaction) (argument : Value) (isFulfilled : Bool) : M Unit :=
  enqueue
    (.reaction (if isFulfilled then r.onFulfilled else r.onRejected) argument isFulfilled
      r.capability)

/-- Those who wait for a promise, and whether any has ever. -/
def waiting (p : Ref) : M (List Reaction × Bool) := do
  match ← getKind p with
  | .promise (.pending reactions) handled => return (reactions, handled)
  | .promise _ handled => return ([], handled)
  | _ => return ([], true)

/-- Fulfils a promise. -/
def fulfillPromise (p : Ref) (v : Value) : M Unit := do
  let (reactions, handled) ← waiting p
  setKind p (.promise (.fulfilled v) handled)
  for r in reactions do
    scheduleReaction r v true

/-- Rejects a promise. -/
def rejectPromise (p : Ref) (reason : Value) : M Unit := do
  let (reactions, handled) ← waiting p
  setKind p (.promise (.rejected reason) handled)
  if !handled then
    note (.rejection (.unhandled (← reasonText reason)))
  for r in reactions do
    scheduleReaction r reason false

/-- Settles a promise with a value, which may have an outcome of its own to wait for. -/
def resolvePromise (p : Ref) (v : Value) : M Unit := do
  match v with
  | .object r =>
    if r == p then
      rejectPromise p (.object (← newError .typeError "promise self resolution"))
    else
      match ← attempt (getProp r "then") with
      | .error e => rejectPromise p e
      | .ok method =>
        if ← isCallable method then enqueue (.follow p v method) else fulfillPromise p v
  | v => fulfillPromise p v

/-- The functions that settle a promise, only one of which has an effect, and only once. -/
def settlers (p : Ref) : M (Value × Value) := do
  let cell ← alloc { kind := .cell #[.bool false], prototype := none }
  let resolve ← newInner .resolve 1 #[.object p, .object cell]
  let reject ← newInner .reject 1 #[.object p, .object cell]
  return (resolve, reject)

/-- Claims the one effect that the functions which settle a promise have. -/
def claim (cell : Value) : M Bool := do
  match cell with
  | .object c =>
    match ← getKind c with
    | .cell values =>
      if (values.getD 0 .undefined).truthy then return false
      else
        setKind c (.cell (values.setIfInBounds 0 (.bool true)))
        return true
    | _ => return false
  | _ => return false

/-- Waits for a promise. -/
def awaitPromise (p : Ref) (reaction : Reaction) : M Unit := do
  match ← getKind p with
  | .promise (.pending reactions) _ =>
    setKind p (.promise (.pending (reactions ++ [reaction])) true)
  | .promise (.fulfilled v) handled =>
    scheduleReaction reaction v true
    setKind p (.promise (.fulfilled v) (handled || true))
  | .promise (.rejected e) handled =>
    if !handled then note (.rejection .handled)
    scheduleReaction reaction e false
    setKind p (.promise (.rejected e) true)
  | _ => return ()

/-- What settles a new promise of a class. -/
def newCapability (constructor : Value) : M Capability := do
  match constructor with
  | .object c =>
    if c == Intrinsic.promise.ref then
      let p ← newPromise
      let (resolve, reject) ← settlers p
      return ⟨.object p, resolve, reject⟩
    else
      if !(← isConstructor c) then typeError "not a constructor"
      let cell ← alloc { kind := .cell #[.undefined, .undefined], prototype := none }
      let executor ← newInner .executor 2 #[.object cell]
      let promise ← construct c #[executor] c
      match ← getKind cell with
      | .cell values =>
        let resolve := values.getD 0 .undefined
        let reject := values.getD 1 .undefined
        if (← isCallable resolve) && (← isCallable reject) then return ⟨promise, resolve, reject⟩
        else typeError "not a function"
      | _ => typeError "not a function"
  | _ => typeError "not a constructor"

/-- A promise of the class that a value is one of already, or is the outcome of. -/
def promiseOf (constructor : Value) (v : Value) : M Value := do
  let isOne ← match v with
    | .object r =>
      match ← getKind r with
      | .promise _ _ => do
        pure ((← getProp r "constructor").strictEquals constructor)
      | _ => pure false
    | _ => pure false
  if isOne then return v
  else
    let c ← newCapability constructor
    let _ ← call c.resolve .undefined #[v]
    return c.promise

/-- Calls a job's function and passes its outcome on. -/
def settleWith (outcome : Except Value Value) (capability : Option Capability) : M Unit := do
  match capability, outcome with
  | some c, .ok v => discard (call c.resolve .undefined #[v])
  | some c, .error e => discard (call c.reject .undefined #[e])
  | none, .ok _ => return ()
  | none, .error e => throwValue e

/-- Does the work of a job. -/
def runJob (j : Job) : M Unit := do
  match j with
  | .reaction handler argument isFulfilled capability =>
    let outcome ←
      if ← isCallable handler then attempt (call handler .undefined #[argument])
      else pure (if isFulfilled then .ok argument else .error argument)
    settleWith outcome capability
  | .follow p thenable method =>
    let (resolve, reject) ← settlers p
    match ← attempt (call method thenable #[resolve, reject]) with
    | .ok _ => return ()
    | .error e => discard (call reject .undefined #[e])
  | .task f => discard (call f .undefined #[])

/-! ### Asynchronous functions -/

/-- Waits for a value and then calls one of two functions of the machine, which get what is
in the slots. -/
def awaitValue (v : Value) (onNext onThrow : Inner) (slots : Array Value) : M Unit := do
  match ← promiseOf Intrinsic.promise.value v with
  | .object p =>
    let next ← newInner onNext 1 slots
    let fail ← newInner onThrow 1 slots
    awaitPromise p ⟨next, fail, none⟩
  | _ => return ()

/-- Carries an asynchronous function on until it waits or ends. -/
def advanceAsync (r : Ref) (frame : Frame) (capability : Capability) : M Unit := do
  match ← attempt (carry frame) with
  | .ok (.awaiting v frame) =>
    setKind r (.coroutine (some frame) capability)
    match ← attempt (awaitValue v .resumeNext .resumeThrow #[.object r]) with
    | .ok () => return ()
    | .error e =>
      -- the value could not be waited for
      setKind r (.coroutine none capability)
      discard (call capability.reject .undefined #[e])
  | .ok (.returned v) =>
    setKind r (.coroutine none capability)
    discard (call capability.resolve .undefined #[v])
  | .ok _ => setKind r (.coroutine none capability)
  | .error e =>
    setKind r (.coroutine none capability)
    discard (call capability.reject .undefined #[e])

/-- Starts an asynchronous function: the promise of its outcome. -/
def startAsync (frame : Frame) : M Value := do
  let capability ← newCapability Intrinsic.promise.value
  let r ← alloc { kind := .coroutine none capability, prototype := none }
  advanceAsync r frame capability
  return capability.promise

end PatchSandbox.Machine
