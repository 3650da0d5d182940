import PatchSandbox.Machine.Library.Regex
import PatchSandbox.Text.Case
import PatchSandbox.Text.Normal

/-!
# Texts

`String` and its prototype. Positions count units; characters beyond the basic plane have
two.
-/

namespace PatchSandbox.Machine.Library

open PatchSandbox.Text (CodeUnits NormalForm)

/-- The text that a member of the prototype is called for. -/
def receiverText (c : Call) : M CodeUnits := do
  match c.receiver with
  | .undefined => typeError "null or undefined are forbidden"
  | .null => typeError "null or undefined are forbidden"
  | v => toText v

/-- The text in a value that is one or holds one. -/
def ownText (c : Call) : M Value := do
  match c.receiver with
  | .string u => return .string u
  | .object r =>
    match ← getKind r with
    | .boxed (.string u) => return .string u
    | _ => typeError "not a string"
  | _ => typeError "not a string"

/-- Makes a text. -/
def makeText (c : Call) : M Value := do
  let u ←
    if c.args.isEmpty then pure ∅
    else
      match c.newTarget, c.arg 0 with
      | none, .symbol s => do
        let d := (← symbolDescription s).getD ∅
        pure (((CodeUnits.ofString "Symbol(").append d).append (CodeUnits.ofString ")"))
      | _, v => toText v
  match c.newTarget with
  | none => return .string u
  | some _ =>
    let p ← c.prototypeOr .stringPrototype
    return .object (← alloc { kind := .boxed (.string u), prototype := some p })

/-- A position within a text. -/
def clampPosition (x : Float) (size : Nat) : Nat :=
  (min (max x 0) (Float.ofNat size)).toUInt64.toNat

/-- The text of units with given numbers. -/
def textOfUnits (c : Call) : M Value := do
  let units ← c.args.mapM fun v => do return (toUInt32 (← toNumber v)).toUInt16
  newText ⟨units⟩

/-- The text of characters with given numbers. -/
def textOfCodePoints (c : Call) : M Value := do
  let units ← c.args.foldlM
    (fun acc v => do
      let x ← toNumber v
      if !(isIntegral x && x ≥ 0 && x ≤ 1114111) then rangeError "invalid code point"
      return CodeUnits.pushScalar acc x.toUInt64.toNat)
    #[]
  newText ⟨units⟩

/-- The pieces of a template as they stand, with values between them. -/
def rawText (c : Call) : M Value := do
  let cooked ← toObject (c.arg 0)
  let raw ← toObject (← getProp cooked "raw")
  let n ← lengthOf raw
  let units ← foldRange 0 n #[] fun acc i => do
    let acc := acc ++ (← toText (← getProp raw (.ofNat i))).toArray
    if i + 1 < n && i + 1 < c.args.size then return acc ++ (← toText (c.arg (i + 1))).toArray
    else return acc
  newText ⟨units⟩

/-- Refuses a regular expression where a text is looked for. -/
def refuseRegex (v : Value) : M Unit := do
  if ← isRegex v then typeError "regexp not supported"

/-- Looks for a text. -/
def searchFor (c : Call) (find : CodeUnits → CodeUnits → Nat → Value)
    (otherwise : CodeUnits → Nat) : M Value := do
  let text ← receiverText c
  refuseRegex (c.arg 0)
  let wanted ← toText (c.arg 0)
  let start ←
    if (c.arg 1).isUndefined then pure (otherwise text)
    else do pure (clampPosition (← toInteger (c.arg 1)) text.size)
  return find text wanted start

/-- Pads a text to a length. -/
def padText (atStart : Bool) (c : Call) : M Value := do
  let text ← receiverText c
  let wanted ← toLength (c.arg 0)
  if wanted ≤ text.size then return .string text
  let filler ← if (c.arg 1).isUndefined then pure (CodeUnits.ofString " ") else toText (c.arg 1)
  if filler.isEmpty then return .string text
  if textBound < wanted then rangeError "invalid string length"
  let missing := wanted - text.size
  charge missing
  let fill := (filler.replicate (missing / filler.size + 1)).extract 0 missing
  newText (if atStart then fill.append text else text.append fill)

/-- How far the first code points apart that tell two lists apart; if there are none, how much
longer the first list is. -/
def firstDifference : List Nat → List Nat → Int
  | a :: as, b :: bs => if a == b then firstDifference as bs else (a : Int) - b
  | as, bs => (as.length : Int) - bs.length

/-- Compares two texts in their composed forms. -/
def compareComposed (text other : CodeUnits) : Int :=
  let points (u : CodeUnits) : List Nat := (u.normalize ⟨false, true⟩).codePoints.toList
  firstDifference (points text) (points other)

/-- Repeats a text. -/
def repeatText (c : Call) : M Value := do
  let text ← receiverText c
  let x ← toInteger (c.arg 0)
  if x < 0 || x > 2147483647 then rangeError "invalid repeat count"
  let n := x.toUInt64.toNat
  if text.isEmpty || n = 0 then return .string ∅
  if textBound < text.size * n then rangeError "invalid string length"
  charge (textCost text + text.size * n)
  return .string (text.replicate n)

/-- A stretch of a text, its ends counted from either end. -/
def sliceText (c : Call) : M Value := do
  let text ← receiverText c
  let start ← relativeIndex (c.arg 0) text.size 0
  let stop ← relativeIndex (c.arg 1) text.size text.size
  newText (text.extract start (max start stop))

/-- A stretch of a text, its ends in either order. -/
def substringText (c : Call) : M Value := do
  let text ← receiverText c
  let a := clampPosition (← toInteger (c.arg 0)) text.size
  let b ←
    if (c.arg 1).isUndefined then pure text.size
    else do pure (clampPosition (← toInteger (c.arg 1)) text.size)
  newText (text.extract (min a b) (max a b))

/-- A stretch of a text of a given length. -/
def substrText (c : Call) : M Value := do
  let text ← receiverText c
  let start ← relativeIndex (c.arg 0) text.size 0
  let count ←
    if (c.arg 1).isUndefined then pure (text.size - start)
    else do pure (clampPosition (← toInteger (c.arg 1)) (text.size - start))
  newText (text.extract start (start + count))

/-- Leaves what to do to the function of an argument, if it has one. -/
def delegated (c : Call) (w : WellKnown) (args : Value → Array Value) (otherwise : M Value) :
    M Value := do
  if c.receiver.isNullish then discard (receiverText c)
  let first := c.arg 0
  if first.isNullish then otherwise
  else
    match first with
    | .object _ =>
      match ← getMethod first w.key with
      | some f => call f first (args c.receiver)
      | none => otherwise
    | _ => otherwise

/-- Leaves what to do to a regular expression made of the argument. -/
def byRegex (c : Call) (w : WellKnown) (flags : String) : M Value := do
  let text ← receiverText c
  let source ← if (c.arg 0).isUndefined then pure ∅ else toText (c.arg 0)
  let r ← regexOf source (CodeUnits.ofString flags)
  match ← getMethod (.object r) w.key with
  | some f => call f (.object r) #[.string text]
  | none => typeError "not a function"

/-- Refuses a regular expression that finds only one match. -/
def requireGlobal (v : Value) : M Unit := do
  if ← isRegex v then
    let flags ← getValue v "flags"
    if flags.isNullish then typeError "cannot convert to object"
    if !hasFlag (← toText flags) 'g' then typeError "regexp must have the 'g' flag"

/-- The places of a text in another one. -/
def placesOf (text wanted : CodeUnits) : Nat → Nat → List Nat
  | 0, _ => []
  | n + 1, i =>
    match text.indexOf? wanted i with
    | some k => k :: placesOf text wanted n (k + max wanted.size 1)
    | none => []

/-- Replaces a text by another one: the first, or all. -/
def replaceText (all : Bool) (c : Call) : M Value := do
  if all && !(c.arg 0).isNullish then requireGlobal (c.arg 0)
  delegated c .replace (fun v => #[v, c.arg 1]) do
    let text ← receiverText c
    let wanted ← toText (c.arg 0)
    let by_ ← if ← isCallable (c.arg 1) then pure (c.arg 1) else pure (.string (← toText (c.arg 1)))
    let places :=
      if all then placesOf text wanted (text.size + 1) 0 else (text.indexOf? wanted 0).toList
    let (units, stop) ← places.foldlM
      (fun ((acc, stop) : Array UInt16 × Nat) p => do
        let u ← replacement ⟨text, wanted, p, [], .undefined⟩ by_
        charge u.size
        return (acc ++ (text.extract stop p).toArray ++ u.toArray, p + wanted.size))
      (#[], 0)
    newText ⟨units ++ (text.extract stop text.size).toArray⟩

/-- Splits a text. -/
def splitText (c : Call) : M Value :=
  delegated c .split (fun v => #[v, c.arg 1]) do
    let text ← receiverText c
    let limit ← splitLimit (c.arg 1)
    let separator ← toText (c.arg 0)
    if limit = 0 then return ← newArray #[]
    if (c.arg 0).isUndefined then return ← newArray #[.string text]
    if separator.isEmpty then
      let units := text.toArray.extract 0 limit
      return ← newArray (units.map fun u => .string ⟨#[u]⟩)
    let places := placesOf text separator (text.size + 1) 0
    let (pieces, stop) := places.foldl
      (fun ((acc, stop) : Array Value × Nat) p =>
        (acc.push (.string (text.extract stop p)), p + separator.size))
      (#[], 0)
    newArray ((pieces.push (.string (text.extract stop text.size))).extract 0 limit)

/-- A text without lone surrogates. -/
def wellFormed (u : CodeUnits) : CodeUnits :=
  CodeUnits.ofCodePoints (u.codePoints.map fun c => if 0xD800 ≤ c && c ≤ 0xDFFF then 0xFFFD else c)

/-- A text between marks of a markup language. -/
def markedText (name mark extra : String) : Member :=
  .fn name (if extra.isEmpty then 0 else 1) fun c => do
    let text ← receiverText c
    let own ←
      if extra.isEmpty then pure ∅
      else do
        let v ← toText (c.arg 0)
        let quoted : CodeUnits := ⟨v.toArray.foldl
          (fun acc u =>
            if u == 34 then acc ++ (CodeUnits.ofString "&quot;").toArray else acc.push u)
          #[]⟩
        pure (((CodeUnits.ofString (" " ++ extra ++ "=\"")).append quoted).append
          (CodeUnits.ofString "\""))
    newText ((((((CodeUnits.ofString ("<" ++ mark)).append own).append
      (CodeUnits.ofString ">")).append text).append (CodeUnits.ofString ("</" ++ mark ++ ">"))))

/-- A function of a text alone. -/
def textual (name : String) (f : CodeUnits → CodeUnits) : Member :=
  .fn name 0 fun c => do newText (f (← receiverText c))

/-- The members of the prototype of texts. -/
def textMembers : List Member :=
  [ .constructor .string
    , .fn "at" 1 fun c => do
        let text ← receiverText c
        let x ← toInteger (c.arg 0)
        let x := if x < 0 then Float.ofNat text.size + x else x
        if x < 0 || x ≥ Float.ofNat text.size then return .undefined
        return .string (text.extract x.toUInt64.toNat (x.toUInt64.toNat + 1))
    , .fn "charCodeAt" 1 fun c => do
        let text ← receiverText c
        let x ← toInteger (c.arg 0)
        if x < 0 || x ≥ Float.ofNat text.size then return .number notANumber
        return .nat ((text.get? x.toUInt64.toNat).getD 0).toNat
    , .fn "charAt" 1 fun c => do
        let text ← receiverText c
        let x ← toInteger (c.arg 0)
        if x < 0 || x ≥ Float.ofNat text.size then return .string ∅
        return .string (text.extract x.toUInt64.toNat (x.toUInt64.toNat + 1))
    , .fn "concat" 1 fun c => do
        let text ← receiverText c
        c.args.foldlM
          (fun v a => do
            match v with
            | .string u => concatTexts u (← toText a)
            | v => return v)
          (.string text)
    , .fn "codePointAt" 1 fun c => do
        let text ← receiverText c
        let x ← toInteger (c.arg 0)
        if x < 0 || x ≥ Float.ofNat text.size then return .undefined
        match text.codePointAt x.toUInt64.toNat with
        | some (p, _) => return .nat p
        | none => return .undefined
    , .fn "isWellFormed" 0 fun c => do
        let text ← receiverText c
        return .bool (wellFormed text == text)
    , textual "toWellFormed" wellFormed
    , .fn "indexOf" 1 fun c => do
        let text ← receiverText c
        let wanted ← toText (c.arg 0)
        let start := clampPosition (← toInteger (c.arg 1)) text.size
        return (text.indexOf? wanted start).elim (.number (-1)) .nat
    , .fn "lastIndexOf" 1 fun c => do
        let text ← receiverText c
        let wanted ← toText (c.arg 0)
        let x ← toNumber (c.arg 1)
        let start := if x.isNaN then text.size else clampPosition (truncated x) text.size
        return (text.lastIndexOf? wanted start).elim (.number (-1)) .nat
    , .fn "includes" 1 fun c =>
        searchFor c (fun u v i => .bool (u.indexOf? v i).isSome) fun _ => 0
    , .fn "endsWith" 1 fun c =>
        searchFor c (fun u v i => .bool (decide (v.size ≤ i) && u.matchesAt v (i - v.size)))
          fun u => u.size
    , .fn "startsWith" 1 fun c =>
        searchFor c (fun u v i => .bool (u.matchesAt v i)) fun _ => 0
    , .fn "match" 1 fun c => delegated c .matchOne (#[·]) (byRegex c .matchOne "")
    , .fn "matchAll" 1 fun c => do
        if !(c.arg 0).isNullish then requireGlobal (c.arg 0)
        delegated c .matchAll (#[·]) (byRegex c .matchAll "g")
    , .fn "search" 1 fun c => delegated c .search (#[·]) (byRegex c .search "")
    , .fn "split" 2 splitText
    , .fn "substring" 2 substringText
    , .fn "substr" 2 substrText
    , .fn "slice" 2 sliceText
    , .fn "repeat" 1 repeatText
    , .fn "replace" 2 (replaceText false)
    , .fn "replaceAll" 2 (replaceText true)
    , .fn "padEnd" 1 (padText false)
    , .fn "padStart" 1 (padText true)
    , textual "trim" CodeUnits.trim
    , textual "trimEnd" CodeUnits.trimEnd
    , .same "trimRight" "trimEnd"
    , textual "trimStart" CodeUnits.trimStart
    , .same "trimLeft" "trimStart"
    , .fn "toString" 0 ownText
    , .fn "valueOf" 0 ownText
    , textual "toLowerCase" CodeUnits.toLower
    , textual "toUpperCase" CodeUnits.toUpper
    , textual "toLocaleLowerCase" CodeUnits.toLower
    , textual "toLocaleUpperCase" CodeUnits.toUpper
    , .fn "localeCompare" 1 fun c => do
        let text ← receiverText c
        let other ← toText (c.arg 0)
        return .int (compareComposed text other)
    , .fn "normalize" 0 fun c => do
        let text ← receiverText c
        let name ← if (c.arg 0).isUndefined then pure "NFC" else do
          pure (← toText (c.arg 0)).toStringLossy
        match NormalForm.ofName? name with
        | some form => newText (text.normalize form)
        | none => rangeError "bad normalization form"
    , .method WellKnown.iterator.key
        ⟨"[Symbol.iterator]", 0, fun c => do
          let text ← receiverText c
          return .object (← alloc
            { kind := .textIterator text 0
              prototype := some Intrinsic.stringIteratorPrototype.ref }), false⟩
    , markedText "anchor" "a" "name"
    , markedText "big" "big" ""
    , markedText "blink" "blink" ""
    , markedText "bold" "b" ""
    , markedText "fixed" "tt" ""
    , markedText "fontcolor" "font" "color"
    , markedText "fontsize" "font" "size"
    , markedText "italics" "i" ""
    , markedText "link" "a" "href"
    , markedText "small" "small" ""
    , markedText "strike" "strike" ""
    , markedText "sub" "sub" ""
    , markedText "sup" "sup" "" ]

/-- `String` and its prototype. -/
def textHolders : List Holder :=
  [ .ofConstructor .string .stringPrototype "String" 1 makeText
      [ .fn "fromCharCode" 1 textOfUnits
        , .fn "fromCodePoint" 1 textOfCodePoints
        , .fn "raw" 1 rawText ]
  , { object := .stringPrototype, kind := .boxed (.string ∅), members := textMembers } ]

end PatchSandbox.Machine.Library
