import PatchSandbox.Machine.Library.Primitive

/-!
# The global object

The functions and values that every script finds under a name.
-/

namespace PatchSandbox.Machine.Library

open PatchSandbox.Text (CodeUnits)

/-- Letters and digits of ASCII. -/
def isAlphanumeric (c : UInt16) : Bool :=
  (48 ≤ c && c ≤ 57) || (65 ≤ c && c ≤ 90) || (97 ≤ c && c ≤ 122)

/-- Whether a unit is one of some characters. -/
def isOneOf (chars : String) (c : UInt16) : Bool := chars.any fun d => d.toNat == c.toNat

/-- Characters that a part of an address holds as they are. -/
def isPlainPart (c : UInt16) : Bool := isAlphanumeric c || isOneOf "-_.!~*'()" c

/-- Characters that a whole address holds as they are. -/
def isPlainAddress (c : UInt16) : Bool := isPlainPart c || isOneOf ";/?:@&=+$,#" c

/-- Adds a byte as a percent sign with two digits. -/
def pushPercent (acc : Array UInt16) (b : Nat) : Array UInt16 :=
  let digit (n : Nat) : UInt16 := (radixDigit n).toUpper.toNat.toUInt16
  ((acc.push 37).push (digit (b / 16))).push (digit (b % 16))

/-- The bytes of a code point. -/
def encodedBytes (n : Nat) : List Nat :=
  if n < 0x80 then [n]
  else if n < 0x800 then [0xC0 + n / 64, 0x80 + n % 64]
  else if n < 0x10000 then [0xE0 + n / 4096, 0x80 + n / 64 % 64, 0x80 + n % 64]
  else [0xF0 + n / 262144, 0x80 + n / 4096 % 64, 0x80 + n / 64 % 64, 0x80 + n % 64]

/-- Encodes an address, but for some characters. -/
def encodeAddress (isPlain : UInt16 → Bool) (c : Call) : M Value := do
  let u ← toText (c.arg 0)
  let units ← u.codePoints.foldlM
    (fun acc n => do
      if n < 0x80 && isPlain n.toUInt16 then return acc.push n.toUInt16
      if 0xD800 ≤ n && n ≤ 0xDFFF then fail .uriError "invalid character"
      return (encodedBytes n).foldl pushPercent acc)
    #[]
  newText ⟨units⟩

/-- The byte that a percent sign with two digits stands for. -/
def readPercent (u : CodeUnits) (i : Nat) : M Nat := do
  match u.get? i, (u.get? (i + 1)).bind digitValue, (u.get? (i + 2)).bind digitValue with
  | some 37, some a, some b =>
    if a < 16 && b < 16 then return a * 16 + b else fail .uriError "expecting hex digit"
  | some 37, _, _ => fail .uriError "expecting hex digit"
  | _, _, _ => fail .uriError "expecting %"

/-- Decodes an address from an index on; some characters stay encoded. -/
def decodeFrom (u : CodeUnits) (stays : UInt16 → Bool) : Nat → Nat → Array UInt16 → M (Array UInt16)
  | 0, _, acc => return acc
  | n + 1, i, acc => do
    match u.get? i with
    | none => return acc
    | some 37 =>
      let first ← readPercent u i
      if first < 0x80 then
        if stays first.toUInt16 then
          decodeFrom u stays n (i + 3) (acc ++ (u.extract i (i + 3)).toArray)
        else decodeFrom u stays n (i + 3) (acc.push first.toUInt16)
      else
        let (count, low, least) :=
          if 0xC0 ≤ first && first ≤ 0xDF then (1, first % 32, 0x80)
          else if 0xE0 ≤ first && first ≤ 0xEF then (2, first % 16, 0x800)
          else if 0xF0 ≤ first && first ≤ 0xF7 then (3, first % 8, 0x10000)
          else (0, 0, 0)
        if count = 0 then fail .uriError "malformed UTF-8"
        let value ← (List.range count).foldlM
          (fun value k => do
            let b ← readPercent u (i + 3 * (k + 1))
            if b < 0x80 || 0xBF < b then fail .uriError "malformed UTF-8"
            return value * 64 + b % 64)
          low
        if value < least || 0x10FFFF < value || (0xD800 ≤ value && value ≤ 0xDFFF) then
          fail .uriError "malformed UTF-8"
        decodeFrom u stays n (i + 3 * (count + 1)) (CodeUnits.pushScalar acc value)
    | some c => decodeFrom u stays n (i + 1) (acc.push c)

/-- Decodes an address. -/
def decodeAddress (stays : UInt16 → Bool) (c : Call) : M Value := do
  let u ← toText (c.arg 0)
  newText ⟨← decodeFrom u stays (u.size + 1) 0 #[]⟩

/-- Encodes a text the old way. -/
def escapeText (c : Call) : M Value := do
  let u ← toText (c.arg 0)
  let step (acc : Array UInt16) (c : UInt16) : Array UInt16 :=
    if isAlphanumeric c || isOneOf "@*_+-./" c then acc.push c
    else if c < 256 then pushPercent acc c.toNat
    else
      let digit (n : Nat) : UInt16 := (radixDigit (n % 16)).toUpper.toNat.toUInt16
      let n := c.toNat
      (((((acc.push 37).push 117).push (digit (n / 4096))).push (digit (n / 256))).push
        (digit (n / 16))).push (digit n)
  newText ⟨u.toArray.foldl step #[]⟩

/-- Some hexadecimal digits at an index. -/
def hexAt (u : CodeUnits) (i count : Nat) : Option Nat :=
  (List.range count).foldlM
    (fun n k => do
      let d ← (u.get? (i + k)).bind digitValue
      if d < 16 then some (n * 16 + d) else none)
    0

/-- Decodes a text the old way, from an index on. -/
def unescapeFrom (u : CodeUnits) : Nat → Nat → Array UInt16 → Array UInt16
  | 0, _, acc => acc
  | n + 1, i, acc =>
    match u.get? i with
    | none => acc
    | some c =>
      if c == 37 then
        match if u.get? (i + 1) == some 117 then hexAt u (i + 2) 4 else none with
        | some v => unescapeFrom u n (i + 6) (acc.push v.toUInt16)
        | none =>
          match hexAt u (i + 1) 2 with
          | some v => unescapeFrom u n (i + 3) (acc.push v.toUInt16)
          | none => unescapeFrom u n (i + 1) (acc.push c)
      else unescapeFrom u n (i + 1) (acc.push c)

/-- The names of the constructors and other objects that scripts find. -/
def globalNames : List (String × Intrinsic) :=
  [("Object", .object), ("Function", .function), ("Error", .error), ("EvalError", .evalError),
    ("RangeError", .rangeError), ("ReferenceError", .referenceError),
    ("SyntaxError", .syntaxError), ("TypeError", .typeError), ("URIError", .uriError),
    ("InternalError", .internalError), ("AggregateError", .aggregateError),
    ("Iterator", .iterator), ("Array", .array), ("Number", .number), ("Boolean", .boolean),
    ("String", .string), ("Symbol", .symbol), ("Math", .math), ("Reflect", .reflect),
    ("Date", .date), ("RegExp", .regex), ("JSON", .json), ("Proxy", .proxy), ("Map", .map),
    ("Set", .set), ("WeakMap", .weakMap), ("WeakSet", .weakSet), ("Promise", .promise),
    ("BigInt", .bigint), ("WeakRef", .weakRef)]

/-- The global object. -/
def globalHolders : List Holder :=
  [ { object := .global
      members :=
        (globalNames.map fun e => Member.hidden e.1 e.2.value) ++
        [ .fn "parseInt" 2 parseWhole
          , .fn "parseFloat" 1 parseDecimal
          , .fn "isNaN" 1 fun c => do return .bool (← toNumber (c.arg 0)).isNaN
          , .fn "isFinite" 1 fun c => do return .bool (← toNumber (c.arg 0)).isFinite
          , .fn "queueMicrotask" 1 fun c => do
              requireFunction (c.arg 0)
              enqueue (.task (c.arg 0))
              return .undefined
          , .fn "decodeURI" 1 (decodeAddress fun c => isOneOf ";/?:@&=+$,#" c)
          , .fn "decodeURIComponent" 1 (decodeAddress fun _ => false)
          , .fn "encodeURI" 1 (encodeAddress isPlainAddress)
          , .fn "encodeURIComponent" 1 (encodeAddress isPlainPart)
          , .fn "escape" 1 escapeText
          , .fn "unescape" 1 fun c => do
              let u ← toText (c.arg 0)
              newText ⟨unescapeFrom u (u.size + 1) 0 #[]⟩
          , .constant "Infinity" (.number infinity)
          , .constant "NaN" (.number notANumber)
          , .constant "undefined" .undefined
          , .value WellKnown.toStringTag.key (.text "global") .fixed
          , .fn "eval" 1 fun c => return c.arg 0
          , .hidden "globalThis" Intrinsic.global.value ] } ]

end PatchSandbox.Machine.Library
