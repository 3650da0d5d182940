import PatchSandbox.Evaluation.Bridge
import PatchSandbox.Machine.Code
import PatchSandbox.Machine.Property
import PatchSandbox.Machine.Table
import PatchSandbox.Regex.Matcher

/-!
# Objects

* **`Frame`** is a call that is under way. Generators and asynchronous functions keep theirs
  while they wait.
* **`Kind`** is what an object is beside its properties: an array with its items, a function,
  a promise, and so on.
-/

namespace PatchSandbox.Machine

open PatchSandbox.Text (CodeUnits)

/-- Where an exception goes. -/
structure Handler where
  target : Nat
  stackSize : Nat
  scope : Option Nat
  deriving Inhabited

/-- A call that is under way. -/
structure Frame where
  code : Array Instr
  pc : Nat := 0
  stack : Array Value := #[]
  locals : Array (Option Value)
  /-- The innermost scope in the store. -/
  scope : Option Nat
  handlers : List Handler := []
  receiver : Value
  callee : Option Ref
  newTarget : Value
  args : Array Value
  /-- The object under construction, which is the result unless another object is returned. -/
  constructing : Option Ref := none
  deriving Inhabited

/-- A function with code. -/
structure Closure where
  code : FunctionCode
  scope : Option Nat
  home : Option Ref := none
  /-- The function that gives new objects the fields of the class. -/
  fields : Option Ref := none
  deriving Inhabited

/-- Functions of the machine that belong to something in the store. -/
inductive Inner where
  /-- Settle a promise: the promise, and a cell that tells whether it is settled already. -/
  | resolve
  | reject
  /-- Receives the functions that settle a promise of a subclass. -/
  | executor
  | allElement
  | allSettledElement
  | allSettledFailure
  | anyFailure
  | finallyFulfilled
  | finallyRejected
  | giveValue
  | throwValue
  /-- Carry an asynchronous function on. -/
  | resumeNext
  | resumeThrow
  | asyncGeneratorNext
  | asyncGeneratorThrow
  | asyncGeneratorReturned
  | asyncGeneratorReturnFailed
  /-- Give the value of a step of a synchronous iterator. -/
  | unwrapResult
  | closeOnFailure
  | revokeProxy
  deriving DecidableEq, Repr, Inhabited

/-- Functions without code. -/
inductive NativeId where
  /-- A member of the standard objects. -/
  | standard (index : Nat)
  | inner (which : Inner)
  /-- An effect on the host. -/
  | bridge (which : BridgeFunction)
  /-- Loads a module. -/
  | require
  deriving DecidableEq, Repr, Inhabited

/-- What settles a promise that someone waits for. -/
structure Capability where
  promise : Value
  resolve : Value
  reject : Value
  deriving Inhabited

/-- What waits for a promise. -/
structure Reaction where
  onFulfilled : Value
  onRejected : Value
  capability : Option Capability
  deriving Inhabited

/-- What is known of a promise. -/
inductive Settlement where
  | pending (reactions : List Reaction)
  | fulfilled (value : Value)
  | rejected (reason : Value)
  deriving Inhabited

/-- Ways to go on with a call that waits. -/
inductive Resumption where
  | next (v : Value)
  | throw (v : Value)
  | return (v : Value)
  deriving Inhabited

/-- What a generator does. -/
inductive Progress where
  | fresh (frame : Frame)
  | suspended (frame : Frame)
  | running
  | finished
  deriving Inhabited

/-- What a step of an iterator gives. -/
inductive StepKind where
  | key
  | value
  | entry
  deriving DecidableEq, Repr, Inhabited

/-- What an object is beside its properties. -/
inductive Kind where
  | plain
  /-- Items from zero on, some of which may be missing; items beyond are properties. -/
  | array (items : Array (Option Value)) (length : Nat) (writable : Bool)
  | closure (c : Closure)
  | native (id : NativeId) (slots : Array Value) (isConstructor : Bool)
  | bound (target : Ref) (receiver : Value) (args : Array Value)
  | boxed (v : Value)
  | error
  | arguments
  | date (time : Float)
  | regex (source flags : CodeUnits) (program : Regex.Program)
  | map (table : Table)
  | set (table : Table)
  | weakMap (table : Table)
  | weakSet (table : Table)
  | weakRef (target : Value)
  | promise (state : Settlement) (handled : Bool)
  | proxy (target handler : Option Ref) (callable constructible : Bool)
  | generator (progress : Progress)
  | asyncGenerator (progress : Progress) (queue : List (Resumption × Capability))
  /-- An asynchronous function that waits. -/
  | coroutine (frame : Option Frame) (capability : Capability)
  /-- An iterator that is gone over. -/
  | iteration (iterator next : Value) (done : Bool)
  | enumeration (object : Ref) (keys : List Key)
  | arrayIterator (target : Option Ref) (position : Nat) (kind : StepKind)
  | tableIterator (target : Option Ref) (position : Nat) (kind : StepKind) (name : String)
  | textIterator (text : CodeUnits) (position : Nat)
  | regexIterator (regex : Ref) (text : CodeUnits) (global byCodePoint done : Bool)
  | asyncFromSync (iteration : Ref)
  /-- Cells that functions of the machine share. -/
  | cell (values : Array Value)
  deriving Inhabited

/-- An object. -/
structure Obj where
  kind : Kind := .plain
  prototype : Option Ref
  extensible : Bool := true
  properties : PropertyMap := .empty
  deriving Inhabited

namespace Kind

/-- Whether an object of this kind may be called. -/
def isCallable : Kind → Bool
  | .closure _ => true
  | .native _ _ _ => true
  | .bound _ _ _ => true
  | .proxy _ _ callable _ => callable
  | _ => false

end Kind

end PatchSandbox.Machine
