import PatchSandbox.Machine.Library.Member

/-!
# Numbers, truth values, symbols

The constructors of values that are no objects, and their prototypes.
-/

namespace PatchSandbox.Machine.Library

open PatchSandbox.Text (CodeUnits)

/-- The value that a member of a prototype is called for, of one kind. -/
def unboxed (name : String) (v : Value) (isOne : Value → Bool) : M Value := do
  if isOne v then return v
  match v with
  | .object r =>
    match ← getKind r with
    | .boxed w => if isOne w then return w else typeError ("not a " ++ name)
    | _ => typeError ("not a " ++ name)
  | _ => typeError ("not a " ++ name)

/-- The value itself, or an object that holds it if it is made with `new`. -/
def boxedIfNew (c : Call) (v : Value) (prototype : Intrinsic) : M Value := do
  match c.newTarget with
  | none => return v
  | some _ =>
    return .object (← alloc { kind := .boxed v, prototype := some (← c.prototypeOr prototype) })

/-! ### Numbers -/

/-- The number that a member of the prototype is called for. -/
def receiverNumber (c : Call) : M Float := do
  let isNumber : Value → Bool | .number _ => true | _ => false
  match ← unboxed "number" c.receiver isNumber with
  | .number x => return x
  | _ => return notANumber

/-- The text of what is no finite number. -/
def strangeNumberText (x : Float) : Option String :=
  if x.isNaN then some "NaN"
  else if x.isInf then some (if x < 0 then "-Infinity" else "Infinity")
  else none

/-- A number to a base. -/
def numberToBase (c : Call) : M Value := do
  let x ← receiverNumber c
  let base ← if (c.arg 0).isUndefined then pure 10 else toInteger (c.arg 0)
  if base < 2 || base > 36 then rangeError "radix must be between 2 and 36"
  if base == 10 then return .text (numberText x)
  return .text ((strangeNumberText x).getD (radixText x base.toUInt64.toNat))

/-- A number with a given number of digits after the point. -/
def numberFixed (c : Call) : M Value := do
  let x ← receiverNumber c
  let n ← toInteger (c.arg 0)
  if n < 0 || n > 100 then rangeError "invalid number of digits"
  if x.abs ≥ 1e21 || x.isNaN then return .text (numberText x)
  return .text (fixedText x n.toUInt64.toNat)

/-- A number with an exponent. -/
def numberExponential (c : Call) : M Value := do
  let x ← receiverNumber c
  let n ← toInteger (c.arg 0)
  match strangeNumberText x with
  | some s => return .text s
  | none =>
    if n < 0 || n > 100 then rangeError "invalid number of digits"
    if (c.arg 0).isUndefined then return .text (shortExponentText x)
    return .text (exponentText x n.toUInt64.toNat)

/-- A number with a given number of digits. -/
def numberPrecision (c : Call) : M Value := do
  let x ← receiverNumber c
  if (c.arg 0).isUndefined then return .text (numberText x)
  let n ← toInteger (c.arg 0)
  match strangeNumberText x with
  | some s => return .text s
  | none =>
    if n < 1 || n > 100 then rangeError "invalid number of digits"
    return .text (precisionText x n.toUInt64.toNat)

/-- The greatest whole number below which all whole numbers have doubles of their own. -/
def safeBound : Float := 9007199254740991

/-- A test of numbers; what is no number fails it. -/
def numberTest (name : String) (test : Float → Bool) : Member :=
  .fn name 1 fun c =>
    match c.arg 0 with
    | .number x => return .bool (test x)
    | _ => return .bool false

/-- Reads a whole number to a base at the start of a text. -/
def parseWhole (c : Call) : M Value := do
  let u := (← toText (c.arg 0)).trimStart
  let base := toInt32 (← toNumber (c.arg 1))
  let negative := u.get? 0 == some 45
  let u := if negative || u.get? 0 == some 43 then u.extract 1 u.size else u
  if base != 0 && (base < 2 || base > 36) then return .number notANumber
  let marked := (base == 0 || base == 16) && (hasAt u 0 "0x" || hasAt u 0 "0X")
  let u := if marked then u.extract 2 u.size else u
  let base : Nat := if base == 0 then (if marked then 16 else 10) else base.toInt.toNat
  let digits := u.toArray.toList.map digitValue
  let own := digits.takeWhile fun d => match d with | some d => decide (d < base) | none => false
  if own.isEmpty then return .number notANumber
  let n := own.foldl (fun acc d => acc * base + d.getD 0) 0
  let x := Float.ofNat n
  return .number (if negative then -x else x)

/-- Reads a decimal at the start of a text. -/
def parseDecimal (c : Call) : M Value := do
  let u := (← toText (c.arg 0)).trimStart
  match readDecimalPrefix u with
  | some (x, _) => return .number x
  | none => return .number notANumber

/-- Makes a number. -/
def makeNumber (c : Call) : M Value := do
  let x ←
    if c.args.isEmpty then pure 0
    else
      match ← toNumeric (c.arg 0) with
      | .number x => pure x
      | .bigint n => pure (Float.ofInt n)
      | _ => pure notANumber
  boxedIfNew c (.number x) .numberPrototype

/-- `Number` and its prototype. -/
def numberHolders : List Holder :=
  [ .ofConstructor .number .numberPrototype "Number" 1 makeNumber
      [ .fn "parseInt" 2 parseWhole
        , .fn "parseFloat" 1 parseDecimal
        , numberTest "isNaN" Float.isNaN
        , numberTest "isFinite" Float.isFinite
        , numberTest "isInteger" isIntegral
        , numberTest "isSafeInteger" fun x => isIntegral x && x.abs ≤ safeBound
        , .constant "MAX_VALUE" (.number (Float.ofBits 0x7FEFFFFFFFFFFFFF))
        , .constant "MIN_VALUE" (.number (Float.ofBits 1))
        , .constant "NaN" (.number notANumber)
        , .constant "NEGATIVE_INFINITY" (.number (-infinity))
        , .constant "POSITIVE_INFINITY" (.number infinity)
        , .constant "EPSILON" (.number (Float.ofBits 0x3CB0000000000000))
        , .constant "MAX_SAFE_INTEGER" (.number safeBound)
        , .constant "MIN_SAFE_INTEGER" (.number (-safeBound)) ]
  , { object := .numberPrototype
      kind := .boxed (.number 0)
      members :=
        [ .constructor .number
          , .fn "toExponential" 1 numberExponential
          , .fn "toFixed" 1 numberFixed
          , .fn "toPrecision" 1 numberPrecision
          , .fn "toString" 1 numberToBase
          , .fn "toLocaleString" 0 fun c => do return .text (numberText (← receiverNumber c))
          , .fn "valueOf" 0 fun c => do return .number (← receiverNumber c) ] } ]

/-! ### Truth values -/

/-- The truth value that a member of the prototype is called for. -/
def receiverBool (c : Call) : M Value :=
  unboxed "boolean" c.receiver fun v => match v with | .bool _ => true | _ => false

/-- `Boolean` and its prototype. -/
def booleanHolders : List Holder :=
  [ .ofConstructor .boolean .booleanPrototype "Boolean" 1 fun c =>
      boxedIfNew c (.bool (c.arg 0).truthy) .booleanPrototype
  , { object := .booleanPrototype
      kind := .boxed (.bool false)
      members :=
        [ .constructor .boolean
          , .fn "toString" 0 fun c => do
              return .text (if (← receiverBool c).truthy then "true" else "false")
          , .fn "valueOf" 0 receiverBool ] } ]

/-! ### Symbols -/

/-- The symbol that a member of the prototype is called for. -/
def receiverSymbol (c : Call) : M Symbol := do
  match ← unboxed "symbol" c.receiver fun v => match v with | .symbol _ => true | _ => false with
  | .symbol s => return s
  | _ => typeError "not a symbol"

/-- The text that shows a symbol. -/
def symbolText (s : Symbol) : M CodeUnits := do
  let d := (← symbolDescription s).getD ∅
  return ((CodeUnits.ofString "Symbol(").append d).append (CodeUnits.ofString ")")

/-- The symbol of a name, the same each time. -/
def sharedSymbol (c : Call) : M Value := do
  let name ← toText (c.arg 0)
  match (← get).registry[name]? with
  | some s => return .symbol s
  | none =>
    let s ← newSymbol (some name)
    modify fun st => { st with registry := st.registry.insert name s }
    return .symbol s

/-- The name by which a symbol is shared. -/
def sharedName (c : Call) : M Value := do
  match c.arg 0 with
  | .symbol s =>
    match (← get).registry.toList.find? fun e => e.2 == s with
    | some (name, _) => return .string name
    | none => return .undefined
  | _ => typeError "not a symbol"

/-- The symbols with a meaning of their own. -/
def wellKnownMembers : List Member :=
  WellKnown.names.mapIdx fun i name => .constant name (.symbol ⟨i⟩)

/-- `Symbol` and its prototype. -/
def symbolHolders : List Holder :=
  [ .ofConstructor .symbol .symbolPrototype "Symbol" 0
      (fun c => do
        if c.newTarget.isSome then typeError "not a constructor"
        let d ← if (c.arg 0).isUndefined then pure none else pure (some (← toText (c.arg 0)))
        return .symbol (← newSymbol d))
      ([.fn "for" 1 sharedSymbol, .fn "keyFor" 1 sharedName] ++ wellKnownMembers)
  , { object := .symbolPrototype
      members :=
        [ .constructor .symbol
          , .fn "toString" 0 fun c => do return .string (← symbolText (← receiverSymbol c))
          , .fn "valueOf" 0 fun c => do return .symbol (← receiverSymbol c)
          , .getter "description" fun c => do
              return ((← symbolDescription (← receiverSymbol c)).map Value.string).getD .undefined
          , .value WellKnown.toStringTag.key (.text "Symbol") .fixed
          , .method WellKnown.toPrimitive.key
              ⟨"[Symbol.toPrimitive]", 1, fun c => do
                return .symbol (← receiverSymbol c), false⟩ ] } ]

/-! ### Whole numbers of any size -/

/-- The whole number that a member of the prototype is called for. -/
def receiverBigint (c : Call) : M Int := do
  match ← unboxed "bigint" c.receiver fun v => match v with | .bigint _ => true | _ => false with
  | .bigint n => return n
  | _ => typeError "not a bigint"

/-- Makes a whole number of any size. -/
def makeBigint (c : Call) : M Value := do
  if c.newTarget.isSome then typeError "not a constructor"
  match ← toPrimitive (c.arg 0) .number with
  | .number x =>
    if isIntegral x then return .bigint (wholePart x)
    else rangeError "cannot convert to BigInt: not an integer"
  | v => return .bigint (← toBigint v)

/-- A whole number to a base. -/
def bigintToBase (c : Call) : M Value := do
  let n ← receiverBigint c
  let base ← if (c.arg 0).isUndefined then pure 10 else toInteger (c.arg 0)
  if base < 2 || base > 36 then rangeError "radix must be between 2 and 36"
  let text := naturalRadixText n.natAbs base.toUInt64.toNat
  return .text (if n < 0 then "-" ++ text else text)

/-- A number of bits. -/
def bitCount (v : Value) : M Nat := do
  let x ← toInteger v
  if x < 0 || x > lengthBound then rangeError "invalid array index"
  return x.toUInt64.toNat

/-- `BigInt` and its prototype. -/
def bigintHolders : List Holder :=
  [ .ofConstructor .bigint .bigintPrototype "BigInt" 1 makeBigint
      [ .fn "asUintN" 2 fun c => do
          let bits ← bitCount (c.arg 0)
          let n ← toBigint (c.arg 1)
          if n ≥ 0 && n.natAbs.log2 < bits then return .bigint n
          if bits ≥ bigintBound then rangeError "BigInt is too large to allocate"
          boundedBigint (n % (Nat.pow 2 bits : Nat))
        , .fn "asIntN" 2 fun c => do
          let bits ← bitCount (c.arg 0)
          let n ← toBigint (c.arg 1)
          if n.natAbs.log2 + 2 ≤ bits || n == 0 && bits > 0 then return .bigint n
          let low := n % (Nat.pow 2 bits : Nat)
          return .bigint
            (if bits > 0 && low ≥ (Nat.pow 2 (bits - 1) : Nat) then low - (Nat.pow 2 bits : Nat)
              else low) ]
  , { object := .bigintPrototype
      members :=
        [ .constructor .bigint
          , .fn "toString" 0 bigintToBase
          , .fn "toLocaleString" 0 fun c => bigintToBase { c with args := #[] }
          , .fn "valueOf" 0 fun c => do return .bigint (← receiverBigint c)
          , .tag "BigInt" ] } ]

end PatchSandbox.Machine.Library
