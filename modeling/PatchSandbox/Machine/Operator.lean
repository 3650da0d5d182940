import PatchSandbox.Machine.Convert

/-!
# Operators

What the operators of expressions give. Numbers and whole numbers of any size do not mix,
except in comparisons.
-/

namespace PatchSandbox.Machine

open PatchSandbox.Text (CodeUnits)
open PatchSandbox.Script (BinaryOp UnaryOp)

/-! ### Equality and order -/

/-- Compares a whole number with a number; nothing if that is none. -/
def compareIntFloat (n : Int) (x : Float) : Option Ordering :=
  if x.isNaN then none
  else if x.isInf then some (if x < 0 then .gt else .lt)
  else
    let whole := wholePart x.floor
    some (if n < whole then .lt else if whole < n then .gt
      else if x.floor == x then .eq else .lt)

/-- Equal, after conversion. -/
def looseEquals : Nat → Value → Value → M Bool
  | 0, _, _ => return false
  | fuel + 1, a, b => do
    match a, b with
    | .undefined, _ => return b.isNullish
    | .null, _ => return b.isNullish
    | _, .undefined => return false
    | _, .null => return false
    | .object _, .object _ => return a.strictEquals b
    | .bool x, .bool y => return x == y
    | .bool x, _ => looseEquals fuel (.number (if x then 1 else 0)) b
    | _, .bool y => looseEquals fuel a (.number (if y then 1 else 0))
    | .object _, _ => looseEquals fuel (← toPrimitive a .default) b
    | _, .object _ => looseEquals fuel a (← toPrimitive b .default)
    | .number x, .string u => return x == readNumber u
    | .string u, .number x => return x == readNumber u
    | .bigint n, .string u => return readBigint u == some n
    | .string u, .bigint n => return readBigint u == some n
    | .bigint n, .number x => return compareIntFloat n x == some .eq
    | .number x, .bigint n => return compareIntFloat n x == some .eq
    | _, _ => return a.strictEquals b

/-- Compares two values that are no objects; nothing if they have no order. -/
def compareValues (a b : Value) : M (Option Ordering) := do
  match a, b with
  | .string u, .string v => return some (u.cmp v)
  | .bigint n, .bigint m => return some (compare n m)
  | .bigint n, .string u => return (readBigint u).map fun m => compare n m
  | .string u, .bigint m => return (readBigint u).map fun n => compare n m
  | .bigint n, _ => return compareIntFloat n (← toNumber b)
  | _, .bigint n => return (compareIntFloat n (← toNumber a)).map Ordering.swap
  | _, _ =>
    let x ← toNumber a
    let y ← toNumber b
    return if x < y then some .lt else if y < x then some .gt else if x == y then some .eq
      else none

/-- The outcome of a comparison operator. -/
def comparison (a b : Value) (holds : Ordering → Bool) : M Value := do
  let (a, b) ← match a, b with
    | .number _, .number _ => pure (a, b)
    | _, _ => do
      let a ← toPrimitive a .number
      let b ← toPrimitive b .number
      pure (a, b)
  match ← compareValues a b with
  | some o => return .bool (holds o)
  | none => return .bool false

/-! ### Arithmetic -/

/-- Longest text. -/
def textBound : Nat := 1073741823

/-- One text after the other. -/
def concatTexts (u v : CodeUnits) : M Value := do
  if u.size + v.size > textBound then rangeError "invalid string length"
  charge (textCost u + v.size)
  return .string (u ++ v)

/-- Most bits of a whole number. -/
def bigintBound : Nat := 1048576

/-- A whole number that may be too large. -/
def boundedBigint (n : Int) : M Value := do
  if n.natAbs.log2 ≥ bigintBound then rangeError "BigInt is too large to allocate"
  charge (16 + n.natAbs.log2 / 8)
  return .bigint n

/-- Moves the bits of a whole number. -/
def shiftBigint (n : Int) (bits : Int) : M Value := do
  if 0 ≤ bits then
    if n == 0 then return .bigint 0
    else if bits.toNat ≥ bigintBound then rangeError "BigInt is too large to allocate"
    else boundedBigint (n * Nat.pow 2 bits.toNat)
  else
    let k := (-bits).toNat
    if k > n.natAbs.log2 + 1 then return .bigint (if n < 0 then -1 else 0)
    else return .bigint (Int.fdiv n (Nat.pow 2 k))

/-- Combines the bits of two whole numbers, in as many bits as both need. -/
def bitwiseBigint (op : Nat → Nat → Nat) (a b : Int) : Int :=
  let width := max a.natAbs.log2 b.natAbs.log2 + 2
  let modulus : Int := Nat.pow 2 width
  let r : Int := op (a % modulus).toNat (b % modulus).toNat
  if 2 * r ≥ modulus then r - modulus else r

/-- A power of a whole number. -/
def intPower (a : Int) (n : Nat) : Int :=
  let p : Int := Nat.pow a.natAbs n
  if a < 0 && n % 2 == 1 then -p else p

/-- An operator on whole numbers of any size. -/
def bigintArithmetic (op : BinaryOp) (a b : Int) : M Value := do
  match op with
  | .add => boundedBigint (a + b)
  | .sub => boundedBigint (a - b)
  | .mul => boundedBigint (a * b)
  | .div => if b == 0 then rangeError "division by zero" else return .bigint (Int.tdiv a b)
  | .rem => if b == 0 then rangeError "division by zero" else return .bigint (Int.tmod a b)
  | .pow =>
    if b < 0 then rangeError "exponent must be positive"
    else if a == 0 || a == 1 then return .bigint (if b == 0 then 1 else a)
    else if a == -1 then return .bigint (if b % 2 == 0 then 1 else -1)
    else if a.natAbs.log2 * b.toNat ≥ bigintBound || b.toNat ≥ bigintBound then
      rangeError "BigInt is too large to allocate"
    else boundedBigint (intPower a b.toNat)
  | .shiftLeft => shiftBigint a b
  | .shiftRight => shiftBigint a (-b)
  | .bitAnd => return .bigint (bitwiseBigint Nat.land a b)
  | .bitOr => return .bigint (bitwiseBigint Nat.lor a b)
  | .bitXor => return .bigint (bitwiseBigint Nat.xor a b)
  | _ => typeError "bigint operands are forbidden for >>>"

/-- An operator on numbers. -/
def floatArithmetic (op : BinaryOp) (x y : Float) : Float :=
  match op with
  | .add => x + y
  | .sub => x - y
  | .mul => x * y
  | .div => x / y
  | .rem => remainder x y
  | .pow => power x y
  | .shiftLeft => floatOfInt32 (toInt32 x <<< (toUInt32 y &&& 31).toInt32)
  | .shiftRight => floatOfInt32 (toInt32 x >>> (toUInt32 y &&& 31).toInt32)
  | .shiftRightUnsigned => floatOfUInt32 (toUInt32 x >>> (toUInt32 y &&& 31))
  | .bitAnd => floatOfInt32 (toInt32 x &&& toInt32 y)
  | .bitOr => floatOfInt32 (toInt32 x ||| toInt32 y)
  | .bitXor => floatOfInt32 (toInt32 x ^^^ toInt32 y)
  | _ => notANumber

/-- An operator on two values that are turned into numbers. -/
def arithmetic (op : BinaryOp) (a b : Value) : M Value := do
  match a, b with
  | .number x, .number y => return .number (floatArithmetic op x y)
  | _, _ =>
    match ← toNumeric a, ← toNumeric b with
    | .number x, .number y => return .number (floatArithmetic op x y)
    | .bigint n, .bigint m => bigintArithmetic op n m
    | _, _ => typeError "cannot convert to BigInt"

/-- The sum of two values, or one after the other if one of them is a text. -/
def addValues (a b : Value) : M Value := do
  match a, b with
  | .number x, .number y => return .number (x + y)
  | .string u, .string v => concatTexts u v
  | _, _ =>
    let a ← toPrimitive a .default
    let b ← toPrimitive b .default
    match a, b with
    | .string u, _ => concatTexts u (← primitiveToText b)
    | _, .string v => concatTexts (← primitiveToText a) v
    | _, _ => arithmetic .add a b

/-! ### Objects -/

/-- Whether an object of the given kind has a prototype in its chain. -/
def ordinaryInstance : Nat → Ref → Value → M Bool
  | 0, _, _ => return false
  | n + 1, f, v => do
    match ← getKind f with
    | .bound target _ _ => ordinaryInstance n target v
    | _ =>
      match v with
      | .object r =>
        match ← getProp f "prototype" with
        | .object goal =>
          let rec walk : Nat → Option Ref → M Bool
            | 0, _ => return false
            | _ + 1, none => return false
            | m + 1, some p => do
              if p == goal then return true else walk m (← prototypeOf p)
          walk (← chainBound) (← prototypeOf r)
        | _ => typeError "operand 'prototype' property is not an object"
      | _ => return false

/-- Whether a value is an instance of a class. -/
def instanceOf (v target : Value) : M Bool := do
  match target with
  | .object f =>
    match ← getMethod target WellKnown.hasInstance.key with
    | some m => return (← call m target #[v]).truthy
    | none =>
      if ← isCallable target then ordinaryInstance 1000 f v
      else typeError "invalid 'instanceof' right operand"
  | _ => typeError "invalid 'instanceof' right operand"

/-- What an operator with two operands gives. -/
def binaryOperator (op : BinaryOp) (a b : Value) : M Value := do
  match op with
  | .add => addValues a b
  | .equal => return .bool (← looseEquals 8 a b)
  | .notEqual => return .bool (!(← looseEquals 8 a b))
  | .strictEqual => return .bool (a.strictEquals b)
  | .strictNotEqual => return .bool (!a.strictEquals b)
  | .less => comparison a b (· == .lt)
  | .lessEqual => comparison a b (· != .gt)
  | .greater => comparison a b (· == .gt)
  | .greaterEqual => comparison a b (· != .lt)
  | .instanceOf => return .bool (← instanceOf a b)
  | .isIn =>
    match b with
    | .object r => return .bool (← hasProperty r (← toKey a))
    | _ => typeError "invalid 'in' operand"
  | op => arithmetic op a b

/-- What an operator with one operand gives. -/
def unaryOperator (op : UnaryOp) (v : Value) : M Value := do
  match op with
  | .plus =>
    match v with
    | .bigint _ => typeError "bigint argument with unary +"
    | v => return .number (← toNumber v)
  | .minus =>
    match ← toNumeric v with
    | .bigint n => return .bigint (-n)
    | .number x => return .number (-x)
    | v => return v
  | .not => return .bool (!v.truthy)
  | .bitNot =>
    match ← toNumeric v with
    | .bigint n => return .bigint (-n - 1)
    | .number x => return .number (floatOfInt32 (~~~(toInt32 x)))
    | v => return v
  | .typeOf => return .text (← typeName v)
  | .void => return .undefined
  | .delete => return .bool true

/-- One more, or one less. -/
def stepNumeric (v : Value) (up : Bool) : M Value := do
  match v with
  | .number x => return .number (if up then x + 1 else x - 1)
  | .bigint n => return .bigint (if up then n + 1 else n - 1)
  | v => return v

end PatchSandbox.Machine
