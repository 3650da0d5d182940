import PatchSandbox.Evaluation.Event
import PatchSandbox.Evaluation.Loader
import PatchSandbox.Machine.Intrinsic
import PatchSandbox.Machine.Object

/-!
# The state of a run

* **`State`** holds everything a run changes: the store, the calls under way, the jobs that
  wait, and what the run has left behind for the host.
* **`M`** is what the parts of the machine are written in. A run is left early by a thrown
  value, which scripts can catch, or by an interruption, which they cannot.
* **`Interp`** lets a function without code call one with code. It is handed down by the
  machine and ends at a depth, so that nothing here is defined in terms of itself.
-/

namespace PatchSandbox.Machine

open PatchSandbox.Text (CodeUnits)

/-- Why a run is left early. -/
inductive Abrupt where
  | thrown (v : Value)
  /-- The run is given up. -/
  | interrupted
  deriving Inhabited

/-- Variables that functions inside a piece of code may keep. -/
structure Scope where
  parent : Option Nat
  slots : Array (Option Value)
  deriving Inhabited

/-- A variable of the outermost level that is not a property of the global object. -/
structure Lexical where
  value : Option Value
  isConst : Bool
  deriving Inhabited

/-- Work that is done once no call is under way. -/
inductive Job where
  /-- Tells a promise's outcome to one who waits for it. -/
  | reaction (handler argument : Value) (isFulfilled : Bool) (capability : Option Capability)
  /-- Asks a value that was given to a promise for its own outcome. -/
  | follow (promise : Ref) (thenable method : Value)
  | task (f : Value)
  deriving Inhabited

/-- Jobs in the order in which they were added. -/
structure JobQueue where
  front : List Job := []
  back : List Job := []
  deriving Inhabited

namespace JobQueue

/-- Adds a job at the end. -/
def push (q : JobQueue) (j : Job) : JobQueue := { q with back := j :: q.back }

/-- The jobs in order. -/
def toList (q : JobQueue) : List Job := q.front ++ q.back.reverse

/-- Takes the first job. -/
def pop? (q : JobQueue) : Option (Job × JobQueue) :=
  match q.front with
  | j :: rest => some (j, { q with front := rest })
  | [] =>
    match q.back.reverse with
    | j :: rest => some (j, ⟨rest, []⟩)
    | [] => none

/-- Whether no job waits. -/
def isEmpty (q : JobQueue) : Bool := q.front.isEmpty && q.back.isEmpty

@[simp] theorem toList_push (q : JobQueue) (j : Job) : (q.push j).toList = q.toList ++ [j] := by
  simp [push, toList]

theorem pop?_eq_none_iff {q : JobQueue} : q.pop? = none ↔ q.toList = [] := by
  cases q with
  | mk front back =>
    cases front with
    | cons j rest => simp [pop?, toList]
    | nil =>
      cases h : back.reverse with
      | cons j rest => simp [pop?, toList, h]
      | nil => simp [pop?, toList, h]

theorem toList_of_pop? {q r : JobQueue} {j : Job} (h : q.pop? = some (j, r)) :
    q.toList = j :: r.toList := by
  cases q with
  | mk front back =>
    cases front with
    | cons k rest =>
      simp only [pop?, Option.some.injEq, Prod.mk.injEq] at h
      obtain ⟨rfl, rfl⟩ := h
      simp [toList]
    | nil =>
      cases hb : back.reverse with
      | cons k rest =>
        simp only [pop?, hb, Option.some.injEq, Prod.mk.injEq] at h
        obtain ⟨rfl, rfl⟩ := h
        simp [toList, hb]
      | nil => simp [pop?, hb] at h

end JobQueue

/-- Everything a run changes. -/
structure State where
  objects : Array Obj
  scopes : Array Scope := #[]
  /-- Descriptions of symbols. -/
  symbols : Array (Option CodeUnits)
  /-- Symbols that are found by a name. -/
  registry : Std.HashMap CodeUnits Symbol := ∅
  codes : Array FunctionCode := #[]
  lexicals : Std.HashMap Key Lexical := ∅
  /-- Objects that hold the texts of tagged templates, by the template's place. -/
  templates : Std.HashMap Nat Ref := ∅
  /-- The call that is carried out. -/
  frame : Frame := default
  /-- The calls that wait for it, the innermost first. -/
  callers : List Frame := []
  depth : Nat := 0
  depthLimit : Nat := 1000
  /-- Instructions that may still be carried out. -/
  steps : Nat := 0
  /-- Whether the run was interrupted. -/
  wasInterrupted : Bool := false
  /-- Estimate of the memory in use. -/
  used : Nat := 0
  memoryLimit : Nat := 0
  /-- The estimate at which the machine looks again what can still be reached. -/
  nextLook : Nat := 0
  jobs : JobQueue := {}
  seed : UInt64 := 0x9E3779B97F4A7C15
  /-- What the host has seen. -/
  events : Array Event := #[]
  loader : Loader Value := ⟨⟨[]⟩, {}, [], none⟩
  deriving Inhabited

/-- How a call that was carried on comes to rest. -/
inductive Rest where
  | returned (v : Value)
  /-- A generator gives a value. -/
  | yielded (v : Value) (frame : Frame)
  /-- A generator passes on what another one gave, as it is. -/
  | delegated (result : Value) (frame : Frame)
  | awaiting (v : Value) (frame : Frame)
  deriving Inhabited

/-- What a function without code may ask of the machine. -/
structure Interp where
  /-- Calls a function with a receiver and arguments. -/
  call : Value → Value → Array Value → EStateM Abrupt State Value
  /-- Calls a constructor for a new target. -/
  construct : Ref → Array Value → Ref → EStateM Abrupt State Value
  /-- Carries a frame on until it comes to rest. -/
  carry : Frame → EStateM Abrupt State Rest

/-- What the parts of the machine are written in. -/
abbrev M := ReaderT Interp (EStateM Abrupt State)

/-- Throws a value. -/
def throwValue {α : Type} (v : Value) : M α := throw (.thrown v)

/-- Calls a function. -/
def call (f receiver : Value) (args : Array Value) : M Value := fun i => i.call f receiver args

/-- Calls a constructor. -/
def construct (f : Ref) (args : Array Value) (newTarget : Ref) : M Value :=
  fun i => i.construct f args newTarget

/-- Carries a frame on. -/
def carry (f : Frame) : M Rest := fun i => i.carry f

/-- Runs and gives the thrown value, if there is one. -/
def attempt {α : Type} (x : M α) : M (Except Value α) := fun i s =>
  match x i s with
  | .ok a s => .ok (.ok a) s
  | .error (.thrown v) s => .ok (.error v) s
  | .error .interrupted s => .error .interrupted s

/-- Instructions that stand for a millisecond. -/
def stepsPerMillisecond : Nat := 30000

/-- Instructions until an interrupted run is interrupted again. -/
def graceSteps : Nat := 50000

/-- Runs something for the host, which goes on when it fails, even if the run is interrupted
meanwhile. -/
def attemptForHost {α : Type} (x : M α) : M (Option α) := fun i s =>
  let frame := s.frame
  let callers := s.callers
  let depth := s.depth
  match x i s with
  | .ok a s => .ok (some a) s
  | .error (.thrown _) s => .ok none s
  | .error .interrupted s => .ok none { s with frame, callers, depth, steps := graceSteps }

/-! ### The store -/

/-- The object in a place. -/
@[inline] def getObj (r : Ref) : M Obj := do return (← get).objects.getD r.index default

/-- Changes the object in a place. -/
@[inline] def modifyObj (r : Ref) (f : Obj → Obj) : M Unit :=
  modify fun s => { s with objects := s.objects.modify r.index f }

/-- What the object in a place is. -/
@[inline] def getKind (r : Ref) : M Kind := do return (← getObj r).kind

/-- Replaces what the object in a place is. -/
@[inline] def setKind (r : Ref) (k : Kind) : M Unit := modifyObj r fun o => { o with kind := k }

/-! ### Memory

Memory is estimated and not measured: every object, property, item and text costs a fixed
amount. What is no longer reachable is only subtracted when the estimate passes the limit. -/

/-- Cost of an object. -/
def objectCost : Nat := 96

/-- Cost of a property. -/
def propertyCost : Nat := 40

/-- Cost of an item of an array. -/
def itemCost : Nat := 16

/-- Cost of a text. -/
def textCost (u : CodeUnits) : Nat := 24 + u.size

/-- The prototype of an error. -/
def ErrorKind.prototype : ErrorKind → Intrinsic
  | .error => .errorPrototype
  | .evalError => .evalErrorPrototype
  | .rangeError => .rangeErrorPrototype
  | .referenceError => .referenceErrorPrototype
  | .syntaxError => .syntaxErrorPrototype
  | .typeError => .typeErrorPrototype
  | .uriError => .uriErrorPrototype
  | .aggregateError => .aggregateErrorPrototype
  | .internalError => .internalErrorPrototype

/-- Puts an object into the store. -/
def allocUncharged (o : Obj) : M Ref :=
  modifyGet fun s => (⟨s.objects.size⟩, { s with objects := s.objects.push o })

/-- The text that tells where an error was made. -/
def stackText : CodeUnits := CodeUnits.ofString "    at <anonymous>\n"

/-- Makes an error. -/
def newError (kind : ErrorKind) (message : String) : M Ref :=
  allocUncharged
    { kind := .error
      prototype := some kind.prototype.ref
      properties :=
        (PropertyMap.empty.insert "message" (.data (.text message) .hidden)).insert "stack"
          (.data (.string stackText) .hidden) }

/-- Throws an error. -/
def fail {α : Type} (kind : ErrorKind) (message : String) : M α := do
  throwValue (.object (← newError kind message))

/-- Throws a type error. -/
def typeError {α : Type} (message : String) : M α := fail .typeError message

/-- Throws a range error. -/
def rangeError {α : Type} (message : String) : M α := fail .rangeError message

/-- There is not enough memory. -/
def outOfMemory {α : Type} : M α := fail .internalError "out of memory"

/-- Adds to the estimate of the memory in use. What alone exceeds the limit fails at once,
and so does what is far beyond it before the machine comes to look. -/
def charge (bytes : Nat) : M Unit := do
  let beyond ← modifyGet fun s =>
    let used := s.used + bytes
    let beyond := bytes > s.memoryLimit || used > 8 * s.memoryLimit
    (beyond, if bytes > s.memoryLimit then s else { s with used })
  if beyond then outOfMemory

/-- A new object. -/
def alloc (o : Obj) : M Ref := do
  charge objectCost
  allocUncharged o

/-- A new object without properties. -/
def newObject (prototype : Option Ref := some Intrinsic.objectPrototype.ref) : M Ref :=
  alloc { prototype }

/-- A new array. -/
def newArray (items : Array Value) : M Value := do
  charge (itemCost * items.size)
  return .object (← alloc
    { kind := .array (items.map some) items.size true
      prototype := some Intrinsic.arrayPrototype.ref })

/-- A text that was made. -/
def newText (u : CodeUnits) : M Value := do
  charge (textCost u)
  return .string u

/-- A new function of the machine itself. -/
def newInner (which : Inner) (length : Nat) (slots : Array Value) : M Value := do
  return .object (← alloc
    { kind := .native (.inner which) slots false
      prototype := some Intrinsic.functionPrototype.ref
      properties :=
        (PropertyMap.empty.insert "length" (.data (.nat length) .fixed)).insert "name"
          (.data (.string ∅) .fixed) })

/-- A new symbol. -/
def newSymbol (description : Option CodeUnits) : M Symbol :=
  modifyGet fun s => (⟨s.symbols.size⟩, { s with symbols := s.symbols.push description })

/-- The description of a symbol. -/
def symbolDescription (s : Symbol) : M (Option CodeUnits) := do
  return (← get).symbols.getD s.index none

/-- Adds a job. -/
def enqueue (j : Job) : M Unit := modify fun s => { s with jobs := s.jobs.push j }

/-- Shows the host something. -/
def note (e : Event) : M Unit := modify fun s => { s with events := s.events.push e }

/-- The next of a sequence of random numbers. -/
def nextRandom : M UInt64 :=
  modifyGet fun s =>
    let x : UInt64 := s.seed
    let x : UInt64 := x ^^^ (x >>> 12)
    let x : UInt64 := x ^^^ (x <<< 25)
    let x : UInt64 := x ^^^ (x >>> 27)
    (x * 0x2545F4914F6CDD1D, { s with seed := x })

end PatchSandbox.Machine
