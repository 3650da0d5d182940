import PatchSandbox.Machine.Library.Member
import PatchSandbox.Machine.Step

/-!
# Generators

The prototypes of generators. An asynchronous generator keeps the requests it was given in a
queue and works on the first one; each request has a promise of its own.
-/

namespace PatchSandbox.Machine.Library

open PatchSandbox.Text (CodeUnits)

/-! ### Generators -/

/-- Carries a generator on until it gives a value or ends. -/
def runGenerator (r : Ref) (frame : Frame) : M Value := do
  setKind r (.generator .running)
  match ← attempt (carry frame) with
  | .ok (.yielded v frame) =>
    setKind r (.generator (.suspended frame))
    stepResult v false
  | .ok (.delegated result frame) =>
    setKind r (.generator (.suspended frame))
    return result
  | .ok (.returned v) =>
    setKind r (.generator .finished)
    stepResult v true
  | .ok (.awaiting _ _) =>
    setKind r (.generator .finished)
    return .undefined
  | .error e =>
    setKind r (.generator .finished)
    throwValue e

/-- Asks a generator that is at its end, or has not begun. -/
def askEnded (how : Resumption) : M Value :=
  match how with
  | .next _ => stepResult .undefined true
  | .throw v => throwValue v
  | .return v => stepResult v true

/-- Asks a generator to go on. -/
def resumeGenerator (v : Value) (how : Resumption) : M Value := do
  let wrong : M Value := typeError "not a generator"
  match v with
  | .object r =>
    match ← getKind r with
    | .generator .running => typeError "generator is already running"
    | .generator .finished => askEnded how
    | .generator (.fresh frame) =>
      match how with
      | .next _ => runGenerator r frame
      | _ =>
        setKind r (.generator .finished)
        askEnded how
    | .generator (.suspended frame) =>
      match frame.resumed how with
      | .ok frame => runGenerator r frame
      | .error e =>
        setKind r (.generator .finished)
        throwValue e
    | _ => wrong
  | _ => wrong

/-! ### Asynchronous generators -/

/-- Takes the first request of a generator. -/
def takeRequest (r : Ref) : M (Option (Resumption × Capability)) := do
  match ← getKind r with
  | .asyncGenerator progress (q :: rest) =>
    setKind r (.asyncGenerator progress rest)
    return some q
  | _ => return none

/-- Replaces what a generator does. -/
def setProgress (r : Ref) (p : Progress) : M Unit :=
  modifyObj r fun o =>
    match o.kind with
    | .asyncGenerator _ queue => { o with kind := .asyncGenerator p queue }
    | _ => o

/-- Answers the first request with a value. -/
def answer (r : Ref) (v : Value) (done : Bool) : M Unit := do
  match ← takeRequest r with
  | some (_, c) => discard (call c.resolve .undefined #[← stepResult v done])
  | none => return ()

/-- Answers the first request with a failure. -/
def answerFailure (r : Ref) (e : Value) : M Unit := do
  match ← takeRequest r with
  | some (_, c) => discard (call c.reject .undefined #[e])
  | none => return ()

/-- Carries an asynchronous generator on until it waits, gives a value or ends. -/
def runAsyncGenerator (r : Ref) (frame : Frame) : M Unit := do
  setProgress r .running
  match ← attempt (carry frame) with
  | .ok (.awaiting v frame) =>
    setProgress r (.suspended frame)
    match ← attempt (awaitValue v .asyncGeneratorNext .asyncGeneratorThrow #[.object r]) with
    | .ok () => return ()
    | .error e =>
      setProgress r .finished
      answerFailure r e
  | .ok (.yielded v frame) =>
    setProgress r (.suspended frame)
    answer r v false
  | .ok (.delegated v frame) =>
    setProgress r (.suspended frame)
    answer r v false
  | .ok (.returned v) =>
    setProgress r .finished
    answer r v true
  | .error e =>
    setProgress r .finished
    answerFailure r e

/-- Works on the first request, unless a generator is at work already; tells whether there may
be more to do. -/
def advanceAsyncGenerator (r : Ref) : M Bool := do
  match ← getKind r with
  | .asyncGenerator progress ((how, _) :: _) =>
    let ended : M Bool := do
      setProgress r .finished
      match how with
      | .next _ =>
        answer r .undefined true
        return true
      | .throw e =>
        answerFailure r e
        return true
      | .return v =>
        setProgress r .running
        match ← attempt
            (awaitValue v .asyncGeneratorReturned .asyncGeneratorReturnFailed #[.object r]) with
        | .ok () => return false
        | .error e =>
          setProgress r .finished
          answerFailure r e
          return true
    match progress with
    | .running => return false
    | .finished => ended
    | .fresh frame =>
      match how with
      | .next _ =>
        runAsyncGenerator r frame
        return true
      | _ => ended
    | .suspended frame =>
      if frame.isYielding || frame.isDelegating then
        match frame.resumed how with
        | .ok frame => runAsyncGenerator r frame
        | .error e =>
          setProgress r .finished
          answerFailure r e
        return true
      else return false
  | _ => return false

/-- Works on requests as long as possible. -/
def drainRequests (r : Ref) : M Unit :=
  repeating () fun _ => do
    if ← advanceAsyncGenerator r then return .inl () else return .inr ()

/-- Goes on with a generator that has waited. -/
def resumeAsyncGenerator (v : Value) (how : Resumption) : M Value := do
  match v with
  | .object r =>
    match ← getKind r with
    | .asyncGenerator (.suspended frame) _ =>
      match frame.resumed how with
      | .ok frame => runAsyncGenerator r frame
      | .error e =>
        setProgress r .finished
        answerFailure r e
      drainRequests r
    | _ => pure ()
  | _ => pure ()
  return .undefined

/-- Ends a generator that was asked to return, once the value is there. -/
def endAsyncGenerator (v : Value) (outcome : Except Value Value) : M Value := do
  match v with
  | .object r =>
    setProgress r .finished
    match outcome with
    | .ok v => answer r v true
    | .error e => answerFailure r e
    drainRequests r
  | _ => pure ()
  return .undefined

/-- Adds a request to a generator: the promise of its answer. -/
def requestAsyncGenerator (v : Value) (how : Resumption) : M Value := do
  let c ← newCapability Intrinsic.promise.value
  let added ← match v with
    | .object r => do
      match ← getKind r with
      | .asyncGenerator progress queue => do
        setKind r (.asyncGenerator progress (queue ++ [(how, c)]))
        drainRequests r
        pure true
      | _ => pure false
    | _ => pure false
  if !added then
    let e ← newError .typeError "not an AsyncGenerator object"
    discard (call c.reject .undefined #[.object e])
  return c.promise

/-! ### Synchronous iterators that are waited for -/

/-- A request to a synchronous iterator whose values are waited for. -/
def requestFromSync (c : Call) (method : Option String) : M Value := do
  let capability ← newCapability Intrinsic.promise.value
  let iteration ← match c.receiver with
    | .object r => do
      match ← getKind r with
      | .asyncFromSync i => pure i
      | _ => typeError "not an Async-from-Sync Iterator"
    | _ => typeError "not an Async-from-Sync Iterator"
  let run : M Unit := do
    match ← getKind iteration with
    | .iteration iterator next _ =>
      let f ← match method with
        | none => pure (some next)
        | some name => getMethod iterator (.ofString name)
      match f, method with
      | none, some "return" =>
        discard (call capability.resolve .undefined #[← stepResult (c.arg 0) true])
      | none, _ =>
        closeIterator iteration
        typeError "throw is not a method"
      | some f, _ =>
        match ← call f iterator c.args with
        | .object result =>
          let done := (← getProp result "done").truthy
          let value ← getProp result "value"
          let closes := !done && method != some "return"
          match ← attempt (promiseOf Intrinsic.promise.value value) with
          | .ok (.object p) =>
            let onFulfilled ← newInner .unwrapResult 1 #[.bool done]
            let onRejected ←
              if closes then newInner .closeOnFailure 1 #[.object iteration] else pure .undefined
            awaitPromise p ⟨onFulfilled, onRejected, some capability⟩
          | .ok _ => return ()
          | .error e => if closes then abandonIterator iteration e else throwValue e
        | _ => typeError "iterator must return an object"
    | _ => return ()
  match ← attempt run with
  | .ok () => return capability.promise
  | .error e =>
    let _ ← call capability.reject .undefined #[e]
    return capability.promise

/-- The prototypes of generators. -/
def generatorHolders : List Holder :=
  [ { object := .generatorPrototype
      parent := some .iteratorPrototype
      members :=
        [ .value "constructor" Intrinsic.generatorFunctionPrototype.value .fixed
          , .fn "next" 1 fun c => resumeGenerator c.receiver (.next (c.arg 0))
          , .fn "return" 1 fun c => resumeGenerator c.receiver (.return (c.arg 0))
          , .fn "throw" 1 fun c => resumeGenerator c.receiver (.throw (c.arg 0))
          , .tag "Generator" ] }
  , { object := .asyncGeneratorPrototype
      parent := some .asyncIteratorPrototype
      members :=
        [ .value "constructor" Intrinsic.asyncGeneratorFunctionPrototype.value .fixed
          , .fn "next" 1 fun c => requestAsyncGenerator c.receiver (.next (c.arg 0))
          , .fn "return" 1 fun c => requestAsyncGenerator c.receiver (.return (c.arg 0))
          , .fn "throw" 1 fun c => requestAsyncGenerator c.receiver (.throw (c.arg 0))
          , .tag "AsyncGenerator" ] }
  , { object := .asyncFromSyncPrototype
      parent := some .asyncIteratorPrototype
      members :=
        [ .fn "next" 1 fun c => requestFromSync c none
          , .fn "return" 1 fun c => requestFromSync c (some "return")
          , .fn "throw" 1 fun c => requestFromSync c (some "throw") ] } ]

end PatchSandbox.Machine.Library
