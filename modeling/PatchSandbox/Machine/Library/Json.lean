import PatchSandbox.Machine.Library.Member
import PatchSandbox.Machine.Serialize

/-!
# JSON in scripts

`JSON`. Reading tells where a text goes wrong; values that were read may be passed through a
function.
-/

namespace PatchSandbox.Machine.Library

open PatchSandbox.Text (CodeUnits)

/-! ### Reading -/

/-- The line and the column of an index, both from one on. -/
def textPlace (u : CodeUnits) (i : Nat) : Nat × Nat :=
  (u.toArray.extract 0 i).foldl
    (fun ((line, column) : Nat × Nat) (c : UInt16) =>
      if c == 10 then (line + 1, 1) else (line, column + 1))
    (1, 1)

/-- Fails at a place of a text. -/
def failAt {α : Type} (u : CodeUnits) (i : Nat) (message : String) : M α := do
  let (line, column) := textPlace u i
  fail .syntaxError (message ++ " in JSON at position " ++ toString i ++
    " (line " ++ toString line ++ " column " ++ toString column ++ ")")

/-- Fails where a text ends too early. -/
def failEarly {α : Type} : M α := fail .syntaxError "Unexpected end of JSON input"

/-- Whether a unit is a blank between tokens. -/
def isJsonBlank (c : UInt16) : Bool := c == 32 || c == 9 || c == 10 || c == 13

/-- The index of the next unit that is no blank. -/
def skipBlanks (u : CodeUnits) : Nat → Nat → Nat
  | 0, i => i
  | n + 1, i =>
    match u.get? i with
    | some c => if isJsonBlank c then skipBlanks u n (i + 1) else i
    | none => i

/-- The index of the next unit that is no blank. -/
def nextToken (u : CodeUnits) (i : Nat) : Nat := skipBlanks u (u.size - i) i

/-- Reads four hexadecimal digits. -/
def readHex (u : CodeUnits) (i : Nat) : M UInt16 := do
  let digits := (List.range 4).map fun k => (u.get? (i + k)).bind digitValue
  match digits with
  | [some a, some b, some c, some d] =>
    if a < 16 && b < 16 && c < 16 && d < 16 then
      return (((a * 16 + b) * 16 + c) * 16 + d).toUInt16
    else failAt u i "Bad Unicode escape"
  | _ => failAt u i "Bad Unicode escape"

/-- Reads a text after its opening quote: its value and the index after it. -/
def readQuoted (u : CodeUnits) : Nat → Nat → Array UInt16 → M (CodeUnits × Nat)
  | 0, _, _ => failEarly
  | n + 1, i, acc => do
    match u.get? i with
    | none => failEarly
    | some 34 => return (⟨acc⟩, i + 1)
    | some 92 =>
      match u.get? (i + 1) with
      | none => failEarly
      | some 34 => readQuoted u n (i + 2) (acc.push 34)
      | some 92 => readQuoted u n (i + 2) (acc.push 92)
      | some 47 => readQuoted u n (i + 2) (acc.push 47)
      | some 98 => readQuoted u n (i + 2) (acc.push 8)
      | some 102 => readQuoted u n (i + 2) (acc.push 12)
      | some 110 => readQuoted u n (i + 2) (acc.push 10)
      | some 114 => readQuoted u n (i + 2) (acc.push 13)
      | some 116 => readQuoted u n (i + 2) (acc.push 9)
      | some 117 => readQuoted u n (i + 6) (acc.push (← readHex u (i + 2)))
      | some _ => failAt u (i + 1) "Bad escaped character"
    | some c =>
      if c < 32 then failAt u i "Bad control character in string literal"
      else readQuoted u n (i + 1) (acc.push c)

/-- The index after the digits from an index on. -/
def digitsEnd (u : CodeUnits) (i : Nat) : Nat :=
  let rec go : Nat → Nat → Nat
    | 0, i => i
    | n + 1, i =>
      match u.get? i with
      | some c => if 48 ≤ c && c ≤ 57 then go n (i + 1) else i
      | none => i
  go (u.size - i) i

/-- Reads a number: its value and the index after it. -/
def readJsonNumber (u : CodeUnits) (start : Nat) : M (Value × Nat) := do
  let i := if u.get? start == some 45 then start + 1 else start
  let whole := digitsEnd u i
  if whole == i then failAt u i "No number after minus sign"
  if u.get? i == some 48 && whole > i + 1 then failAt u (i + 1) "Unexpected number"
  let fraction ←
    if u.get? whole == some 46 then do
      let stop := digitsEnd u (whole + 1)
      if stop == whole + 1 then failAt u stop "Unterminated fractional number"
      pure stop
    else pure whole
  let stop ←
    match u.get? fraction with
    | some c =>
      if c == 101 || c == 69 then do
        let k := fraction + 1
        let k := if u.get? k == some 43 || u.get? k == some 45 then k + 1 else k
        let stop := digitsEnd u k
        if stop == k then failAt u stop "Exponent part is missing a number"
        pure stop
      else pure fraction
    | none => pure fraction
  return (.number (readNumber (u.extract start stop)), stop)

/-- A word from an index on. -/
def wordAt (u : CodeUnits) (i : Nat) : CodeUnits :=
  ⟨(u.toArray.extract i u.size).takeWhile fun c =>
    (97 ≤ c && c ≤ 122) || (65 ≤ c && c ≤ 90) || (48 ≤ c && c ≤ 57) || c == 95 || c == 36⟩

/-- Fails at a token that does not belong there. -/
def failToken {α : Type} (u : CodeUnits) (i : Nat) : M α := do
  if u.size ≤ i then failEarly
  let word := wordAt u i
  let word := if word.isEmpty then u.extract i (i + 1) else word
  fail .syntaxError ("Unexpected token '" ++ word.toStringLossy ++ "'")

/-- Reads a value at an index, of at most so many levels: the value and the index after it. -/
def readJson (u : CodeUnits) : Nat → Nat → M (Value × Nat)
  | 0, _ => rangeError "Maximum call stack size exceeded"
  | depth + 1, i => do
    takeSteps 1
    let i := nextToken u i
    match u.get? i with
    | none => failEarly
    | some 34 =>
      let (text, i) ← readQuoted u (u.size + 1) (i + 1) #[]
      return (← newText text, i)
    | some 91 =>
      let j := nextToken u (i + 1)
      if u.get? j == some 93 then return (← newArray #[], j + 1)
      repeating ((#[] : Array Value), j) fun (items, j) => do
        let (v, j) ← readJson u depth j
        let items := items.push v
        let j := nextToken u j
        match u.get? j with
        | some 44 => return .inl (items, j + 1)
        | some 93 => return .inr (← newArray items, j + 1)
        | none => failEarly
        | some _ => failAt u j "Expected ',' or ']' after array element"
    | some 123 =>
      let r ← newObject
      let j := nextToken u (i + 1)
      if u.get? j == some 125 then return (.object r, j + 1)
      repeating (j, true) fun (j, first) => do
        let j := nextToken u j
        match u.get? j with
        | some 34 =>
          let (name, j) ← readQuoted u (u.size + 1) (j + 1) #[]
          let j := nextToken u j
          match u.get? j with
          | some 58 =>
            let (v, j) ← readJson u depth (j + 1)
            putData r (.ofUnits name) v
            let j := nextToken u j
            match u.get? j with
            | some 44 => return .inl (j + 1, false)
            | some 125 => return .inr (.object r, j + 1)
            | none => failEarly
            | some _ => failAt u j "Expected ',' or '\x7d' after property value"
          | none => failEarly
          | some _ => failAt u j "Expected ':' after property name"
        | none => failEarly
        | some _ =>
          failAt u j
            (if first then "Expected property name or '\x7d'"
              else "Expected double-quoted property name")
    | some c =>
      if c == 45 || (48 ≤ c && c ≤ 57) then readJsonNumber u i
      else
        let word := wordAt u i
        if word == CodeUnits.ofString "null" then return (.null, i + 4)
        else if word == CodeUnits.ofString "true" then return (.bool true, i + 4)
        else if word == CodeUnits.ofString "false" then return (.bool false, i + 5)
        else failToken u i

/-- Passes a value and the values in it through a function. -/
def revive (f : Value) : Nat → Ref → Key → M Value
  | 0, _, _ => rangeError "Maximum call stack size exceeded"
  | depth + 1, holder, k => do
    let v ← getProp holder k
    match v with
    | .object r =>
      let keys ←
        if ← isArray v then do
          let n ← lengthOf r
          pure ((List.range n).map .ofNat)
        else (← ownKeys r).filterM fun k => do
          if k.isSymbol then return false
          match ← getOwn r k with
          | some p => return p.isEnumerable
          | none => return false
      for k in keys do
        match ← revive f depth r k with
        | .undefined => discard (deleteProp r k)
        | v => discard (define r k (.ofValue v .all))
    | _ => pure ()
    call f (.object holder) #[k.toValue, v]

/-- Levels of values that are read. -/
def jsonDepth : Nat := 2000

/-- Reads a text. -/
def parseJson (c : Call) : M Value := do
  let u ← toText (c.arg 0)
  let (v, i) ← readJson u jsonDepth 0
  let i := nextToken u i
  if i < u.size then failAt u i "Unexpected non-whitespace character after JSON"
  if ← isCallable (c.arg 1) then
    let holder ← newObject
    createData holder (.name ∅) v
    revive (c.arg 1) jsonDepth holder (.name ∅)
  else return v

/-! ### Writing -/

/-- A value that is one or holds one. -/
def unboxValue (v : Value) : M Value := do
  match v with
  | .object r =>
    match ← getKind r with
    | .boxed (.number _) => return .number (← toNumber v)
    | .boxed (.string _) => return .string (← toText v)
    | _ => return v
  | v => return v

/-- The names that a list allows. -/
def allowedKeys (list : Ref) : M (List Key) := do
  let n ← lengthOf list
  let keys ← foldRange 0 n [] fun acc i => do
    match ← unboxValue (← getProp list (.ofNat i)) with
    | .string u => return .ofUnits u :: acc
    | .number x => return .ofUnits (CodeUnits.ofString (numberText x)) :: acc
    | _ => return acc
  return keys.reverse.eraseDups

/-- How a value is to be written. -/
def styleOf (replacer space : Value) : M SerialStyle := do
  let style : SerialStyle ←
    if ← isCallable replacer then pure { replacer := some replacer }
    else
      match replacer, ← isArray replacer with
      | .object r, true => do pure { allowed := some (← allowedKeys r) }
      | _, _ => pure {}
  let indent ← match ← unboxValue space with
    | .number x =>
      pure ((CodeUnits.ofString " ").replicate (min (max (truncated x) 0) 10).toUInt64.toNat)
    | .string u => pure (u.extract 0 10)
    | _ => pure ∅
  return { style with indent }

/-- `JSON`. -/
def jsonHolders : List Holder :=
  [ { object := .json
      members :=
        [ .fn "parse" 2 parseJson
          , .fn "stringify" 3 fun c => do
              match ← serialize (← styleOf (c.arg 1) (c.arg 2)) (c.arg 0) with
              | some u => newText u
              | none => return .undefined
          , .tag "JSON" ] } ]

end PatchSandbox.Machine.Library
