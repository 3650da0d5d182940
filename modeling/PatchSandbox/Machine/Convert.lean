import PatchSandbox.Machine.Access
import PatchSandbox.Machine.Numeric

/-!
# Conversions

How a value of one type is taken for one of another. An object is first turned into a value
that is none, by the functions that it has for this purpose; so every conversion may run
code of the script.
-/

namespace PatchSandbox.Machine

open PatchSandbox.Text (CodeUnits)

/-- What kind of value an object should preferably be turned into. -/
inductive Hint where
  | default
  | number
  | string
  deriving DecidableEq, Repr, Inhabited

/-- The name of a hint. -/
def Hint.name : Hint → String
  | .default => "default"
  | .number => "number"
  | .string => "string"

/-- Tries functions of an object until one gives a value that is no object. -/
def firstPrimitive (r : Ref) : List Key → M Value
  | [] => typeError "toPrimitive"
  | k :: rest => do
    let f ← getProp r k
    if ← isCallable f then
      let v ← call f (.object r) #[]
      if v.isObject then firstPrimitive r rest else return v
    else firstPrimitive r rest

/-- A value that is no object. -/
def toPrimitive (v : Value) (hint : Hint) : M Value := do
  match v with
  | .object r =>
    match ← getMethod v WellKnown.toPrimitive.key with
    | some f =>
      let result ← call f v #[.text hint.name]
      if result.isObject then typeError "toPrimitive" else return result
    | none =>
      let names : List Key :=
        match hint with
        | .string => [.ofString "toString", .ofString "valueOf"]
        | _ => [.ofString "valueOf", .ofString "toString"]
      firstPrimitive r names
  | v => return v

/-- The number that a value is none of whose parts are objects. -/
def primitiveToNumber (v : Value) : M Float := do
  match v with
  | .undefined => return notANumber
  | .null => return 0
  | .bool b => return if b then 1 else 0
  | .number x => return x
  | .bigint _ => typeError "cannot convert bigint to number"
  | .string u => return readNumber u
  | .symbol _ => typeError "cannot convert symbol to number"
  | .object _ => return notANumber

/-- A value as a number. -/
def toNumber (v : Value) : M Float := do
  match v with
  | .number x => return x
  | .object _ => primitiveToNumber (← toPrimitive v .number)
  | v => primitiveToNumber v

/-- A value as a number or a whole number of any size. -/
def toNumeric (v : Value) : M Value := do
  match ← toPrimitive v .number with
  | .bigint n => return .bigint n
  | p => return .number (← primitiveToNumber p)

/-- A value as a number without digits after the point; what is no number is zero. -/
def toInteger (v : Value) : M Float := do
  let x ← toNumber v
  return if x.isNaN then 0 else truncated x + 0

/-- The text of a value that is no object. -/
def primitiveToText (v : Value) : M CodeUnits := do
  match v with
  | .undefined => return "undefined"
  | .null => return "null"
  | .bool b => return if b then "true" else "false"
  | .number x => return CodeUnits.ofString (numberText x)
  | .bigint n => return CodeUnits.ofString (toString n)
  | .string u => return u
  | .symbol _ => typeError "cannot convert symbol to string"
  | .object _ => return ∅

/-- A value as a text. -/
def toText (v : Value) : M CodeUnits := do
  match v with
  | .string u => return u
  | .object _ => primitiveToText (← toPrimitive v .string)
  | v => primitiveToText v

/-- A value as the name of a property. -/
def toKey (v : Value) : M Key := do
  match v with
  | .string u => return .ofUnits u
  | .symbol s => return .symbol s
  | .number x =>
    if x ≥ 0 && x < 4294967295 && x.floor == x then return .index x.toUInt64.toNat
    else return .ofUnits (CodeUnits.ofString (numberText x))
  | v =>
    match ← toPrimitive v .string with
    | .symbol s => return .symbol s
    | p => return .ofUnits (← primitiveToText p)

/-- A value as an object: a value that is none is put into a box. -/
def toObject (v : Value) : M Ref := do
  match v with
  | .object r => return r
  | .undefined => typeError "Cannot convert undefined or null to object"
  | .null => typeError "Cannot convert undefined or null to object"
  | v =>
    alloc
      { kind := .boxed v
        prototype := (prototypeOfPrimitive v).map Intrinsic.ref }

/-- The greatest length that lists have. -/
def lengthBound : Float := 9007199254740991

/-- A value as a length. -/
def toLength (v : Value) : M Nat := do
  let x ← toInteger v
  return if x ≤ 0 then 0 else (min x lengthBound).toUInt64.toNat

/-- The length of an object that is gone over like a list. -/
def lengthOf (r : Ref) : M Nat := do
  let o ← getObj r
  match o.kind with
  | .array _ length _ => return length
  | _ => toLength (← getProp r "length")

/-- A position counted from the start, or from the end if it is negative. -/
def relativeIndex (v : Value) (length : Nat) (otherwise : Nat) : M Nat := do
  match v with
  | .undefined => return otherwise
  | v =>
    let x ← toInteger v
    let n := Float.ofNat length
    return if x < 0 then (max (n + x) 0).toUInt64.toNat else (min x n).toUInt64.toNat

/-- A value as a whole number of any size. -/
def toBigint (v : Value) : M Int := do
  match ← toPrimitive v .number with
  | .bigint n => return n
  | .bool b => return if b then 1 else 0
  | .string u =>
    match readBigint u with
    | some n => return n
    | none => fail .syntaxError "invalid bigint literal"
  | _ => typeError "cannot convert to BigInt"

/-- The name of a value's type. -/
def typeName (v : Value) : M String := do
  match v with
  | .undefined => return "undefined"
  | .null => return "object"
  | .bool _ => return "boolean"
  | .number _ => return "number"
  | .bigint _ => return "bigint"
  | .string _ => return "string"
  | .symbol _ => return "symbol"
  | .object r => return if (← getKind r).isCallable then "function" else "object"

/-- Whether a value is an array, also one that stands for an array. -/
def isArrayFrom : Nat → Value → M Bool
  | 0, _ => return false
  | n + 1, v => do
    match v with
    | .object r =>
      match ← getKind r with
      | .array _ _ _ => return true
      | .proxy target handler _ _ => isArrayFrom n (.object (← proxyParts target handler).1)
      | _ => return false
    | _ => return false

/-- Whether a value is an array, also one that stands for an array. -/
def isArray (v : Value) : M Bool := isArrayFrom 1000 v

/-- Whether a value is one of a primitive type. -/
def Value.isPrimitive (v : Value) : Bool := !v.isObject

end PatchSandbox.Machine
