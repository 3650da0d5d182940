import PatchSandbox.Text.CodeUnits

/-!
# Values of a running script

* **`Value`** is what an expression gives. Objects are named by a `Ref`, their place in the
  machine's store.
* **`Key`** names a property. A whole number below 2³² - 1 has a key of its own, so that
  arrays find their items without reading digits; `Key.ofUnits` keeps that form canonical.
-/

namespace PatchSandbox.Machine

open PatchSandbox.Text (CodeUnits)

/-- The place of an object in the store. -/
structure Ref where
  index : Nat
  deriving DecidableEq, Hashable, Repr, Inhabited

/-- The place of a symbol in the store. -/
structure Symbol where
  index : Nat
  deriving DecidableEq, Hashable, Repr, Inhabited

/-- What an expression gives. -/
inductive Value where
  | undefined
  | null
  | bool (value : Bool)
  | number (value : Float)
  | bigint (value : Int)
  | string (text : CodeUnits)
  | symbol (symbol : Symbol)
  | object (ref : Ref)
  deriving Inhabited

namespace Value

/-- A text. -/
def text (s : String) : Value := .string (CodeUnits.ofString s)

/-- A whole number. -/
def nat (n : Nat) : Value := .number (Float.ofNat n)

/-- A whole number with a sign. -/
def int (n : Int) : Value := .number (Float.ofInt n)

/-- Whether the value is `undefined`. -/
def isUndefined : Value → Bool
  | .undefined => true
  | _ => false

/-- Whether the value is `undefined` or `null`. -/
def isNullish : Value → Bool
  | .undefined => true
  | .null => true
  | _ => false

/-- Whether the value is an object. -/
def isObject : Value → Bool
  | .object _ => true
  | _ => false

/-- The object that the value is. -/
def ref? : Value → Option Ref
  | .object r => some r
  | _ => none

/-- Whether a condition on the value holds. -/
def truthy : Value → Bool
  | .undefined => false
  | .null => false
  | .bool b => b
  | .number x => !(x == 0 || x.isNaN)
  | .bigint n => n != 0
  | .string u => !u.isEmpty
  | .symbol _ => true
  | .object _ => true

/-- Equal without conversion; a number that is none equals nothing. -/
def strictEquals : Value → Value → Bool
  | .undefined, .undefined => true
  | .null, .null => true
  | .bool a, .bool b => a == b
  | .number a, .number b => a == b
  | .bigint a, .bigint b => a == b
  | .string a, .string b => a == b
  | .symbol a, .symbol b => a == b
  | .object a, .object b => a == b
  | _, _ => false

/-- Equal as keys of a table: a number that is none equals itself. -/
def sameZero : Value → Value → Bool
  | .number a, .number b => a == b || (a.isNaN && b.isNaN)
  | a, b => a.strictEquals b

/-- Equal, with the zeros told apart. -/
def same : Value → Value → Bool
  | .number a, .number b => (a == b && (a != 0 || a.toBits == b.toBits)) || (a.isNaN && b.isNaN)
  | a, b => a.strictEquals b

end Value

/-- Names a property. -/
inductive Key where
  /-- A whole number below 2³² - 1. -/
  | index (n : Nat)
  | name (text : CodeUnits)
  | symbol (symbol : Symbol)
  /-- A private name of a class. -/
  | hidden (symbol : Symbol)
  deriving DecidableEq, Hashable, Inhabited

namespace Key

/-- Numbers from here on are no indices. -/
def indexBound : Nat := 4294967295

/-- Reads decimal digits from index `i` on, for at most `n` units. -/
def digitsFrom (u : CodeUnits) : Nat → Nat → Nat → Option Nat
  | 0, _, acc => some acc
  | n + 1, i, acc =>
    match u.get? i with
    | none => some acc
    | some c =>
      if 48 ≤ c && c ≤ 57 then digitsFrom u n (i + 1) (acc * 10 + (c.toNat - 48)) else none

/-- The number a text is the decimal form of, if it is an index. -/
def index? (u : CodeUnits) : Option Nat :=
  match u.get? 0 with
  | none => none
  | some c =>
    if u.size > 10 || c < 48 || 57 < c || (c == 48 && u.size > 1) then none
    else
      match digitsFrom u u.size 0 0 with
      | some n => if n < indexBound then some n else none
      | none => none

/-- The key that a text names. -/
def ofUnits (u : CodeUnits) : Key :=
  match index? u with
  | some n => .index n
  | none => .name u

/-- The key that a text names. -/
def ofString (s : String) : Key := ofUnits (CodeUnits.ofString s)

/-- The key of a whole number. -/
def ofNat (n : Nat) : Key :=
  if n < indexBound then .index n else .name (CodeUnits.ofString (toString n))

/-- The key as a value. -/
def toValue : Key → Value
  | .index n => .text (toString n)
  | .name u => .string u
  | .symbol s => .symbol s
  | .hidden s => .symbol s

/-- The text of a key that is none of a symbol. -/
def toUnits? : Key → Option CodeUnits
  | .index n => some (CodeUnits.ofString (toString n))
  | .name u => some u
  | .symbol _ => none
  | .hidden _ => none

/-- Whether the key is a symbol. -/
def isSymbol : Key → Bool
  | .symbol _ => true
  | _ => false

instance : Coe String Key := ⟨ofString⟩

end Key

end PatchSandbox.Machine
