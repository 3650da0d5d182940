import PatchSandbox.Machine.Iteration

/-!
# JSON texts of values

**`serialize`** writes a value as a JSON text, if it has one: functions, symbols and
`undefined` have none. An object may say itself what is written for it, by a function
`toJSON`.
-/

namespace PatchSandbox.Machine

open PatchSandbox.Text (CodeUnits)

/-- How a text is written. -/
structure SerialStyle where
  /-- A function that is asked about every value. -/
  replacer : Option Value := none
  /-- The only names that are written, if there is such a list. -/
  allowed : Option (List Key) := none
  /-- What a level is indented by. -/
  indent : CodeUnits := ∅

/-- Adds a text. -/
def pushText (acc : Array UInt16) (s : String) : Array UInt16 :=
  s.foldl (fun acc c => CodeUnits.pushScalar acc c.toNat) acc

/-- Adds `\u` and four hexadecimal digits. -/
def pushEscape (acc : Array UInt16) (c : UInt16) : Array UInt16 :=
  let digit (n : Nat) : UInt16 := (radixDigit (c.toNat / Nat.pow 16 n % 16)).toNat.toUInt16
  (((((acc.push 92).push 117).push (digit 3)).push (digit 2)).push (digit 1)).push (digit 0)

/-- Adds a unit of a quoted text; `before` and `after` are its neighbours. -/
def pushQuotedUnit (acc : Array UInt16) (before after : Option UInt16) (c : UInt16) :
    Array UInt16 :=
  if c == 34 then (acc.push 92).push 34
  else if c == 92 then (acc.push 92).push 92
  else if c == 8 then (acc.push 92).push 98
  else if c == 9 then (acc.push 92).push 116
  else if c == 10 then (acc.push 92).push 110
  else if c == 12 then (acc.push 92).push 102
  else if c == 13 then (acc.push 92).push 114
  else if c < 32 then pushEscape acc c
  else if CodeUnits.isLead c && !(after.any CodeUnits.isTrail) then pushEscape acc c
  else if CodeUnits.isTrail c && !(before.any CodeUnits.isLead) then pushEscape acc c
  else acc.push c

/-- Adds the units of a quoted text from an index on. -/
def pushQuotedFrom (u : CodeUnits) : Nat → Nat → Array UInt16 → Array UInt16
  | 0, _, acc => acc
  | n + 1, i, acc =>
    match u.get? i with
    | none => acc
    | some c =>
      let before := if i = 0 then none else u.get? (i - 1)
      pushQuotedFrom u n (i + 1) (pushQuotedUnit acc before (u.get? (i + 1)) c)

/-- Adds a quoted text. -/
def pushQuoted (acc : Array UInt16) (u : CodeUnits) : Array UInt16 :=
  (pushQuotedFrom u u.size 0 (acc.push 34)).push 34

/-- What is written in place of a value. -/
def prepareValue (style : SerialStyle) (holder : Value) (key : Key) (v : Value) : M Value := do
  let v ← match v with
    | .object _ => do
      match ← getValue v "toJSON" with
      | .object f =>
        if (← getKind f).isCallable then call (.object f) v #[key.toValue] else pure v
      | _ => pure v
    | .bigint _ => do
      let f ← getValue v "toJSON"
      if ← isCallable f then call f v #[key.toValue] else pure v
    | v => pure v
  let v ← match style.replacer with
    | some f => call f holder #[key.toValue, v]
    | none => pure v
  match v with
  | .object r =>
    match ← getKind r with
    | .boxed (.number _) => return .number (← toNumber v)
    | .boxed (.string _) => return .string (← toText v)
    | .boxed (.bool b) => return .bool b
    | .boxed (.bigint n) => return .bigint n
    | _ => return v
  | v => return v

/-- The names that are written of an object. -/
def writtenKeys (style : SerialStyle) (r : Ref) : M (List Key) := do
  match style.allowed with
  | some keys => return keys
  | none =>
    (← ownKeys r).filterM fun k => do
      if k.isSymbol then return false
      else
        match ← getOwn r k with
        | some p => return p.isEnumerable
        | none => return false

/-- Adds the text of a prepared value, or nothing if it has none, and tells whether it has
one. Objects on the way are in `path`, and `margin` is the indentation. -/
def writeValue (style : SerialStyle) :
    Nat → List Ref → CodeUnits → Array UInt16 → Value → M (Array UInt16 × Bool)
  | 0, _, _, _, _ => rangeError "Maximum call stack size exceeded"
  | fuel + 1, path, margin, acc, v => do
    match v with
    | .null => return (pushText acc "null", true)
    | .bool b => return (pushText acc (if b then "true" else "false"), true)
    | .number x => return (pushText acc (if x.isFinite then numberText x else "null"), true)
    | .string u => return (pushQuoted acc u, true)
    | .bigint _ => typeError "Do not know how to serialize a BigInt"
    | .undefined => return (acc, false)
    | .symbol _ => return (acc, false)
    | .object r =>
      if (← getKind r).isCallable then return (acc, false)
      if path.contains r then typeError "circular reference"
      let inner := margin ++ style.indent
      let line (acc : Array UInt16) (margin : CodeUnits) : Array UInt16 :=
        if style.indent.isEmpty then acc else acc.push 10 ++ margin.toArray
      if ← isArray v then
        let n ← lengthOf r
        let acc ← foldRange 0 n (acc.push 91) fun acc i => do
          let item ← prepareValue style v (.ofNat i) (← getProp r (.ofNat i))
          let start := line (if i = 0 then acc else acc.push 44) inner
          let (acc, written) ← writeValue style fuel (r :: path) inner start item
          return if written then acc else pushText acc "null"
        return ((if n = 0 then acc else line acc margin).push 93, true)
      else
        let keys ← writtenKeys style r
        let (acc, first) ← keys.foldlM (fun (s : Array UInt16 × Bool) k => do
          let (acc, first) := s
          takeSteps 1
          let item ← prepareValue style v k (← getProp r k)
          let before := acc.size
          let start := line (if first then acc else acc.push 44) inner
          let start := (pushQuoted start (k.toUnits?.getD ∅)).push 58
          let start := if style.indent.isEmpty then start else start.push 32
          let (acc, written) ← writeValue style fuel (r :: path) inner start item
          return if written then (acc, false) else (acc.shrink before, first)) (acc.push 123, true)
        return ((if first then acc else line acc margin).push 125, true)

/-- Deepest nesting of a value that is written. -/
def serialDepth : Nat := 2000

/-- The JSON text of a value, if it has one. -/
def serialize (style : SerialStyle) (v : Value) : M (Option CodeUnits) := do
  let holder ← match style.replacer with
    | some _ => do
      let r ← newObject
      putData r (.name ∅) v
      pure (Value.object r)
    | none => pure .undefined
  let v ← prepareValue style holder (.name ∅) v
  let (acc, written) ← writeValue style serialDepth [] ∅ #[] v
  if written then
    charge (textCost ⟨acc⟩)
    return some ⟨acc⟩
  else return none

end PatchSandbox.Machine
