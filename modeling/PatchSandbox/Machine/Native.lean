import PatchSandbox.Machine.Call

/-!
# Functions without code

A function of the machine itself is given a `Call` and gives a value.
-/

namespace PatchSandbox.Machine

/-- A call of a function without code. -/
structure Call where
  receiver : Value
  args : Array Value
  /-- What `new` was applied to. -/
  newTarget : Option Ref := none
  /-- The function itself. -/
  self : Ref
  /-- What belongs to the function. -/
  slots : Array Value := #[]
  deriving Inhabited

namespace Call

/-- An argument; `undefined` if it is not given. -/
@[inline] def arg (c : Call) (i : Nat) : Value := c.args.getD i .undefined

/-- What belongs to the function. -/
@[inline] def slot (c : Call) (i : Nat) : Value := c.slots.getD i .undefined

/-- The prototype that the object under construction gets. -/
def prototypeOr (c : Call) (otherwise : Intrinsic) : M Ref := do
  match c.newTarget with
  | some n => prototypeFor n otherwise
  | none => return otherwise.ref

end Call

/-- A function of the standard objects. -/
structure Native where
  name : String
  length : Nat
  run : Call → M Value
  /-- Whether the function may be called with `new`. -/
  isConstructor : Bool := false
  deriving Inhabited

end PatchSandbox.Machine
