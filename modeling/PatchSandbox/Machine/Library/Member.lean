import PatchSandbox.Machine.Native

/-!
# Standard objects by their members

A **`Holder`** describes a standard object by the members it has. The parts of the library
are lists of holders; a realm is built from all of them.
-/

namespace PatchSandbox.Machine.Library

/-- A member of a standard object. -/
inductive Member where
  | method (key : Key) (f : Native)
  | accessor (key : Key) (getter : Native) (setter : Option Native)
  | value (key : Key) (v : Value) (attributes : Attributes)
  /-- The function of another member. -/
  | same (key other : Key)
  /-- A member that scripts may not look at. -/
  | refused (key : Key)

namespace Member

/-- A function. -/
def fn (name : String) (length : Nat) (run : Call → M Value) : Member :=
  .method (.ofString name) ⟨name, length, run, false⟩

/-- A function that is found by a symbol. -/
def symbolic (w : WellKnown) (name : String) (length : Nat) (run : Call → M Value) : Member :=
  .method w.key ⟨name, length, run, false⟩

/-- A value that is computed. -/
def getter (name : String) (run : Call → M Value) : Member :=
  .accessor (.ofString name) ⟨"get " ++ name, 0, run, false⟩ none

/-- The class of derived objects, which is the constructor itself. -/
def species : Member :=
  .accessor WellKnown.species.key
    ⟨"get [Symbol.species]", 0, fun c => return c.receiver, false⟩ none

/-- A value that never changes. -/
def constant (name : String) (v : Value) : Member := .value (.ofString name) v .none

/-- A value that scripts may replace. -/
def hidden (name : String) (v : Value) : Member := .value (.ofString name) v .hidden

/-- What objects are called in texts. -/
def tag (name : String) : Member := .value WellKnown.toStringTag.key (.text name) .fixed

/-- The object whose members the objects of a constructor share. -/
def prototype (i : Intrinsic) : Member := constant "prototype" i.value

/-- The constructor of the objects that share a prototype. -/
def constructor (i : Intrinsic) : Member := hidden "constructor" i.value

end Member

/-- A standard object. -/
structure Holder where
  object : Intrinsic
  kind : Kind := .plain
  /-- What the object does as a function. -/
  function : Option Native := none
  parent : Option Intrinsic := some .objectPrototype
  members : List Member

/-- A constructor. -/
def Holder.ofConstructor (own prototype : Intrinsic) (name : String) (length : Nat)
    (run : Call → M Value) (members : List Member := [])
    (parent : Intrinsic := .functionPrototype) : Holder where
  object := own
  function := some ⟨name, length, run, true⟩
  parent := some parent
  members := .prototype prototype :: members

/-- A function that may only be called with `new`. -/
def requireNew (c : Call) : M Unit := do
  if c.newTarget.isNone then typeError "constructor requires 'new'"

/-- A value that has to be an object. -/
def requireRef (v : Value) : M Ref := do
  match v with
  | .object r => return r
  | _ => typeError "not an object"

/-- A value that has to be a function. -/
def requireFunction (v : Value) : M Unit := do
  if !(← isCallable v) then typeError "not a function"

end PatchSandbox.Machine.Library
