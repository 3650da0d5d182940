import PatchSandbox.Machine.Native
import PatchSandbox.Machine.Reach
import PatchSandbox.Machine.Step

/-!
# Runs

* **`runLoop`** carries out instructions until the call at its base comes to rest. What is
  thrown goes to the innermost handler of the innermost call that has one.
* **`interp`** ties the machine together: its functions call functions with code, whose
  instructions call functions without code, and so on. The number of such alternations is
  bounded.
-/

namespace PatchSandbox.Machine

open PatchSandbox.Text (CodeUnits)

/-- Takes the next instruction of the call that is carried out. -/
@[inline] def fetch : M Instr := do
  let s ← get
  if s.steps = 0 then
    modify fun s => { s with wasInterrupted := true }
    throw .interrupted
  modifyGet fun s =>
    let f := s.frame
    let s := { s with frame := default, steps := s.steps - 1 }
    let i := f.code.getD f.pc .returnTop
    (i, { s with frame := { f with pc := f.pc + 1 } })

/-- Carries out an instruction of a call that is not further out than the base; tells if the
call at the base comes to rest. -/
@[inline] def turn (base : Nat) : M (Option Rest) := do
  match ← step (← fetch) with
  | none =>
    checkMemory
    return none
  | some (.returned v) =>
    if (← get).depth == base then return some (.returned v)
    else
      leaveFrame
      push v
      return none
  | some r => return some r

/-- Goes to the innermost handler with a thrown value; tells if there is one within the call at
the base. -/
def unwind (base : Nat) (v : Value) : Nat → State → Bool × State
  | 0, s => (false, s)
  | n + 1, s =>
    match s.frame.raised? v with
    | some f => (true, { s with frame := f })
    | none =>
      let atBase := s.depth == base
      let s :=
        match s.callers with
        | f :: rest => { s with frame := f, callers := rest, depth := s.depth - 1 }
        | [] => { s with frame := default, depth := s.depth - 1 }
      if atBase then (false, s) else unwind base v n s

/-- Carries out instructions until the call at the base comes to rest. -/
def runLoop (base : Nat) : Nat → M Rest
  | 0 => throw .interrupted
  | n + 1 => fun i s =>
    match turn base i s with
    | .ok none s => runLoop base n i s
    | .ok (some r) s =>
      match leaveFrame i s with
      | .ok _ s => .ok r s
      | .error e s => .error e s
    | .error (.thrown v) s =>
      match unwind base v (s.depth + 1) s with
      | (true, s) => runLoop base n i s
      | (false, s) => .error (.thrown v) s
    | .error .interrupted s => .error .interrupted s

/-- Carries a call out until it comes to rest. -/
def runFrame (f : Frame) : M Rest := do
  enterFrame f
  let s ← get
  runLoop s.depth (s.steps + 1)

/-- Carries a call out to its end. -/
def runToEnd (f : Frame) : M Value := do
  match ← runFrame f with
  | .returned v => return v
  | _ => return .undefined

variable (native : NativeId → Call → M Value)

/-- Calls a value. -/
def callValue (f receiver : Value) (args : Array Value) : M Value := do
  match f with
  | .object r =>
    match ← getKind r with
    | .closure c =>
      let (frame, isAsync) ← callFrame c r receiver args
      if isAsync then startAsync frame else runToEnd frame
    | .native id slots _ => guardDepth (native id { receiver, args, self := r, slots })
    | .bound target receiver' args' => guardDepth (call (.object target) receiver' (args' ++ args))
    | .proxy target handler true _ =>
      let (t, h) ← proxyParts target handler
      match ← trap h "apply" with
      | some f => call f (.object h) #[.object t, receiver, ← newArray args]
      | none => guardDepth (call (.object t) receiver args)
    | _ => typeError "not a function"
  | _ => typeError "not a function"

/-- Calls a constructor. -/
def constructValue (r : Ref) (args : Array Value) (newTarget : Ref) : M Value := do
  match ← getKind r with
  | .closure c => runToEnd (← constructFrame c r args newTarget)
  | .native id slots true =>
    guardDepth (native id
      { receiver := .undefined, args, newTarget := some newTarget, self := r, slots })
  | .bound target _ args' =>
    guardDepth (construct target (args' ++ args) (if newTarget == r then target else newTarget))
  | .proxy target handler _ true =>
    let (t, h) ← proxyParts target handler
    match ← trap h "construct" with
    | some f =>
      let v ← call f (.object h) #[.object t, ← newArray args, .object newTarget]
      if v.isObject then return v else typeError "not an object"
    | none => guardDepth (construct t args (if newTarget == r then t else newTarget))
  | _ => typeError "not a constructor"

/-- What functions without code may ask of the machine, for so many alternations. -/
def interp : Nat → Interp
  | 0 =>
    { call := fun _ _ _ => throw .interrupted
      construct := fun _ _ _ => throw .interrupted
      carry := fun _ => throw .interrupted }
  | n + 1 =>
    { call := fun f receiver args => callValue native f receiver args (interp n)
      construct := fun f args newTarget => constructValue native f args newTarget (interp n)
      carry := fun f => runFrame f (interp n) }

end PatchSandbox.Machine
