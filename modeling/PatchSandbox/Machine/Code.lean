import PatchSandbox.Machine.Value
import PatchSandbox.Regex.Matcher
import PatchSandbox.Script.Tree

/-!
# Code

Functions are carried out as code for a machine with a stack. `Instr` is one instruction;
its comment shows the top of the stack before and after, with the last value on top.

Control leaves a piece of code in one of three ways: by a jump, by an exception, which goes
to the innermost handler, or by `gosub`, which runs the end of a `try` statement and comes
back.
-/

namespace PatchSandbox.Machine

open PatchSandbox.Text (CodeUnits)
open PatchSandbox.Script (BinaryOp UnaryOp)

/-- Kinds of members that have a function of their own. -/
inductive MethodKind where
  | method
  | getter
  | setter
  deriving DecidableEq, Repr, Inhabited

/-- Errors that code raises by itself. -/
inductive ErrorKind where
  | error
  | evalError
  | rangeError
  | referenceError
  | syntaxError
  | typeError
  | uriError
  | aggregateError
  | internalError
  deriving DecidableEq, Repr, Inhabited

/-- An instruction. Targets are positions in the code. -/
inductive Instr where
  -- the stack
  /-- `→ v` -/
  | push (v : Value)
  /-- `a →` -/
  | drop
  /-- Copies the value `n` below the top: `x … a → x … a x`. -/
  | pick (n : Nat)
  /-- Moves the value `n` below the top to the top: `x … a → … a x`. -/
  | roll (n : Nat)
  /-- Puts a copy of the top below `n` more values: `x … a → a x … a`. -/
  | tuck (n : Nat)
  /-- Removes the value `n` below the top: `x … a → … a`. -/
  | nip (n : Nat)
  -- variables
  /-- `→ v`; a variable without a value yet is an error. -/
  | loadLocal (slot : Nat) (name : String)
  /-- `v →`; the variable has to have a value. -/
  | storeLocal (slot : Nat) (name : String)
  /-- `v →`; gives the variable its first value. -/
  | initLocal (slot : Nat)
  /-- Takes the value of a variable away. -/
  | clearLocal (slot : Nat)
  | loadScoped (depth slot : Nat) (name : String)
  | storeScoped (depth slot : Nat) (name : String)
  | initScoped (depth slot : Nat)
  /-- `v →`; the `this` of a constructor, which gets a value once. -/
  | initThisLocal (slot : Nat)
  | initThisScoped (depth slot : Nat)
  /-- Opens a scope of variables that functions inside may keep. -/
  | enterScope (size : Nat)
  | leaveScope
  /-- Replaces the innermost scope by a copy. -/
  | renewScope
  /-- `→ v` -/
  | loadGlobal (name : Key)
  /-- `→ v`; a missing variable is `undefined`. -/
  | loadGlobalIfAny (name : Key)
  /-- `v →` -/
  | storeGlobal (name : Key)
  /-- `v →`; the first value of a declared name. -/
  | initGlobal (name : Key)
  | declareVar (name : Key)
  | declareLexical (name : Key) (isConst : Bool)
  /-- `f →` -/
  | declareFunction (name : Key)
  /-- Raises an error. -/
  | raise (kind : ErrorKind) (message : String)
  -- the call
  /-- `→ v` -/
  | argument (i : Nat)
  /-- `→ array` -/
  | restArguments (start : Nat)
  /-- `→ object` -/
  | argumentsObject
  /-- `→ v` -/
  | receiver
  | callee
  | newTarget
  /-- The object whose member the function is. -/
  | homeObject
  | globalObject
  -- objects
  /-- `→ object` -/
  | newObject
  | newArray
  | newRegex (source flags : CodeUnits) (program : Regex.Program)
  /-- `array v → array` -/
  | append
  /-- `array iterable → array` -/
  | appendSpread
  /-- `array → array` -/
  | appendHole
  /-- `o → v` -/
  | getField (key : Key)
  /-- `o v → v` -/
  | setField (key : Key)
  /-- `o k → v` -/
  | getIndex
  /-- `o k v → v` -/
  | setIndex
  /-- `k → k`, as the name of a property -/
  | toKey
  /-- `o k → b` -/
  | delete
  /-- `this home k → v` -/
  | getSuper
  /-- `this home k v → v` -/
  | setSuper
  /-- `→ name` -/
  | newPrivateName (description : String)
  /-- `o name → v` -/
  | getPrivate
  /-- `o name v → v` -/
  | setPrivate
  /-- `o name v → o` -/
  | definePrivate
  /-- `o name f → o` -/
  | definePrivateMethod (kind : MethodKind)
  /-- `o name → b` -/
  | hasPrivate
  /-- `o v → o` -/
  | defineField (key : Key)
  /-- `o k v → o` -/
  | defineIndex
  /-- `o k f → o` -/
  | defineMethod (kind : MethodKind) (enumerable : Bool)
  /-- `k f → k f`; names the function after the key. -/
  | nameFunction
  /-- `o v → o` -/
  | setPrototype
  /-- `o source → o` -/
  | copyProperties
  /-- `source excluded → object` -/
  | copyRest
  /-- `v → v`; `undefined` and `null` are errors. -/
  | requireObject
  -- functions and classes
  /-- `→ f` -/
  | closure (code : Nat)
  /-- `heritage → constructor prototype` -/
  | makeClass (code : Nat) (derived : Bool)
  /-- `constructor f → constructor`; the function that gives new objects their fields. -/
  | setFields
  /-- `this constructor → this`; gives a new object the fields of the class. -/
  | initFields
  /-- Makes the object `n` below the top the one whose member the function on top is. -/
  | setHome (n : Nat)
  /-- `this f a₁ … aₙ → v` -/
  | call (n : Nat)
  /-- `this f array → v` -/
  | callSpread
  /-- `f a₁ … aₙ → v` -/
  | construct (n : Nat)
  /-- `f array → v` -/
  | constructSpread
  /-- `callee newTarget array → this` -/
  | superCall
  /-- `v → promise` of a module, which never loads -/
  | importModule
  /-- `→ object`; the texts of a tagged template, the same object each time. -/
  | templateObject (site : Nat) (cooked : List (Option CodeUnits)) (raw : List CodeUnits)
  -- operators
  | unary (op : UnaryOp)
  | binary (op : BinaryOp)
  /-- `v → n` -/
  | toNumeric
  | increment
  | decrement
  /-- `v → text` -/
  | toText
  /-- `t₁ … tₙ → text` -/
  | concat (n : Nat)
  /-- `v → b` -/
  | isNullish
  | isUndefined
  -- control
  | jump (target : Nat)
  /-- `b →` -/
  | jumpIf (target : Nat)
  | jumpUnless (target : Nat)
  /-- Exceptions from here on go to the target, with the stack as it is now and the thrown
  value on top. -/
  | protect (target : Nat)
  | unprotect
  /-- `→ place`; the place comes back with `back`. -/
  | gosub (target : Nat)
  /-- `place →` -/
  | back
  /-- `v →` -/
  | throwTop
  | returnTop
  -- iteration; the iterator is in a slot
  /-- `iterable → iteration` -/
  | iterate
  | iterateAsync
  /-- `object → iteration`; goes over the names of properties. -/
  | enumerate
  /-- `→ v`, or jumps at the end -/
  | next (slot target : Nat)
  /-- `→ v`; `undefined` at the end. -/
  | nextOrUndefined (slot : Nat)
  /-- `→ array` -/
  | nextRest (slot : Nat)
  | close (slot : Nat)
  /-- `e →`; closes and throws the value again. -/
  | abandon (slot : Nat)
  /-- `→ result` -/
  | nextCall (slot : Nat)
  /-- `result → v`, or jumps at the end -/
  | nextUnpack (slot target : Nat)
  /-- `→ result b`; whether there was something to be called. -/
  | closeCall (slot : Nat)
  /-- `v → v`; what is no object is an error. -/
  | checkResult (message : String)
  -- generators
  /-- Makes the object that the rest of the code belongs to, and returns it. -/
  | startGenerator
  /-- `v → received b`; whether the generator is asked to return. -/
  | yieldTop
  /-- `result → received mode`; an asynchronous generator gives the value on top and not a
  result. -/
  | yieldResult
  /-- `received mode → mode result`, or jumps with `received` when there is nothing to ask for a
  return -/
  | delegate (slot target : Nat)
  /-- `mode result → mode result`, or jumps with `mode v` at the end -/
  | delegateDone (target : Nat)
  /-- `result → v` -/
  | resultValue
  /-- `v → v` -/
  | awaitTop
  deriving Inhabited

/-- Asks a generator for its next value. -/
def nextMode : Value := .number 0

/-- Asks a generator to throw. -/
def throwMode : Value := .number 1

/-- Asks a generator to return. -/
def returnMode : Value := .number 2

namespace Instr

/-- Renames the targets. -/
def mapTarget (f : Nat → Nat) : Instr → Instr
  | .jump t => .jump (f t)
  | .jumpIf t => .jumpIf (f t)
  | .jumpUnless t => .jumpUnless (f t)
  | .protect t => .protect (f t)
  | .gosub t => .gosub (f t)
  | .next slot t => .next slot (f t)
  | .nextUnpack slot t => .nextUnpack slot (f t)
  | .delegate slot t => .delegate slot (f t)
  | .delegateDone t => .delegateDone (f t)
  | i => i

end Instr

/-- Kinds of functions with code. -/
inductive CodeKind where
  | function
  | arrow
  | method
  | constructor
  /-- The constructor of a class that extends another one. -/
  | derived
  deriving DecidableEq, Repr, Inhabited

/-- The code of a function. -/
structure FunctionCode where
  name : CodeUnits
  /-- Number of parameters before the first with a default. -/
  arity : Nat
  locals : Nat
  instrs : Array Instr
  kind : CodeKind
  isAsync : Bool
  isGenerator : Bool
  /-- The text of the function. -/
  text : String
  deriving Inhabited

namespace FunctionCode

/-- Whether the function may be called with `new`. -/
def isConstructor (c : FunctionCode) : Bool :=
  match c.kind with
  | .function => !c.isAsync && !c.isGenerator
  | .constructor => true
  | .derived => true
  | .arrow => false
  | .method => false

/-- Whether the function may only be called with `new`. -/
def isClass (c : FunctionCode) : Bool := c.kind == .constructor || c.kind == .derived

end FunctionCode

end PatchSandbox.Machine
