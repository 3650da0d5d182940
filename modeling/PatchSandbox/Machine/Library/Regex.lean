import PatchSandbox.Machine.Library.Iterator
import PatchSandbox.Machine.Step

/-!
# Regular expressions

`RegExp` and its prototype. **`execute`** looks for a match as the function `exec` of the
object says; **`expand`** fills in a text that replaces a match.
-/

namespace PatchSandbox.Machine.Library

open PatchSandbox.Text (CodeUnits)

/-- Makes a regular expression from its texts. -/
def regexOf (source flags : CodeUnits) (prototype : Ref := Intrinsic.regexPrototype.ref) :
    M Ref := do
  match Regex.Flags.ofString? flags.toStringLossy with
  | none => fail .syntaxError "invalid regular expression flags"
  | some f =>
    match Regex.Program.read source f with
    | .ok program => newRegex source flags program prototype
    | .error message => fail .syntaxError message

/-- The parts of a regular expression. -/
def regexParts (v : Value) : M (Ref × CodeUnits × CodeUnits × Regex.Program) := do
  match v with
  | .object r =>
    match ← getKind r with
    | .regex source flags program => return (r, source, flags, program)
    | _ => typeError "RegExp object expected"
  | _ => typeError "RegExp object expected"

/-- The texts of the groups of a match. -/
def capturedTexts (text : CodeUnits) (captures : Array (Option Nat)) (groups : Nat) : List Value :=
  (List.range groups).map fun i =>
    match captures.getD (2 * i) none, captures.getD (2 * i + 1) none with
    | some a, some b => .string (text.extract a b)
    | _, _ => .undefined

/-- The object of the named groups of a match. -/
def namedGroups (names : List (CodeUnits × Nat)) (values : List Value) : M Value := do
  if names.isEmpty then return .undefined
  let r ← newObject none
  for (name, i) in names do
    let v := values.getD i .undefined
    let k : Key := .ofUnits name
    let present := (ownOf (← getObj r) k).isSome
    if !present || !v.isUndefined then createData r k v
  return .object r

/-- The stretches of the groups of a match. -/
def groupIndices (program : Regex.Program) (captures : Array (Option Nat)) : M Value := do
  let items ← (List.range program.groups).mapM fun i => do
    match captures.getD (2 * i) none, captures.getD (2 * i + 1) none with
    | some a, some b => newArray #[.nat a, .nat b]
    | _, _ => return .undefined
  let list ← requireRef (← newArray items.toArray)
  createData list "groups" (← namedGroups program.names items)
  return .object list

/-- The object that tells of a match. -/
def matchResult (program : Regex.Program) (text : CodeUnits) (captures : Array (Option Nat)) :
    M Value := do
  let values := capturedTexts text captures program.groups
  let list ← requireRef (← newArray values.toArray)
  createData list "index" (.nat ((captures.getD 0 none).getD 0))
  createData list "input" (.string text)
  createData list "groups" (← namedGroups program.names values)
  if program.flags.hasIndices then
    createData list "indices" (← groupIndices program captures)
  return .object list

/-- Looks for a match from where the last one ended, if the expression keeps that. -/
def matchNext (v : Value) (text : CodeUnits) : M Value := do
  let (r, _, _, program) ← regexParts v
  let last ← toLength (← getProp r "lastIndex")
  let keeps := program.flags.global || program.flags.sticky
  let start := if keeps then last else 0
  let missed : M Value := do
    if keeps then setProp r "lastIndex" (.number 0)
    return .null
  takeSteps 8
  if text.size < start then missed
  else
    let outcome :=
      if program.flags.sticky then program.matchAt text start else program.search text start
    match outcome with
    | .failed => missed
    | .exhausted => throw .interrupted
    | .matched captures _ =>
      if keeps then setProp r "lastIndex" (.nat ((captures.getD 1 none).getD 0))
      matchResult program text captures

/-- Looks for a match by the function `exec` of an object. -/
def execute (r : Ref) (text : CodeUnits) : M Value := do
  let exec ← getProp r "exec"
  if ← isCallable exec then
    match ← call exec (.object r) #[.string text] with
    | .object m => return .object m
    | .null => return .null
    | _ => typeError "object or null expected"
  else matchNext (.object r) text

/-- The position after a match of nothing. -/
def advancePosition (text : CodeUnits) (i : Nat) (byCodePoint : Bool) : Nat :=
  if byCodePoint then i + ((text.codePointAt i).elim 1 (·.2)) else i + 1

/-- Whether a text of flags has one. -/
def hasFlag (flags : CodeUnits) (c : Char) : Bool := flags.toArray.contains c.toNat.toUInt16

/-- Steps over a match of nothing. -/
def stepOver (r : Ref) (text : CodeUnits) (byCodePoint : Bool) : M Unit := do
  let i ← toLength (← getProp r "lastIndex")
  setProp r "lastIndex" (.nat (advancePosition text i byCodePoint))

/-- All matches, or the first one. -/
def matchesOf (r : Ref) (text : CodeUnits) (all byCodePoint : Bool) : M (List Ref) := do
  let found ← repeating ([] : List Ref) fun acc => do
    match ← execute r text with
    | .object m =>
      if !all then return .inr [m]
      else
        if (← toText (← getProp m "0")).isEmpty then stepOver r text byCodePoint
        return .inl (m :: acc)
    | _ => return .inr acc
  return found.reverse

/-- The flags that count for a loop over matches. -/
def loopFlags (r : Ref) : M (Bool × Bool) := do
  let flags ← toText (← getProp r "flags")
  return (hasFlag flags 'g', hasFlag flags 'u' || hasFlag flags 'v')

/-! ### Replacing -/

/-- A match that is to be replaced. -/
structure Replaced where
  text : CodeUnits
  matched : CodeUnits
  position : Nat
  captures : List Value
  groups : Value

/-- The text of a group; nothing if the group has none. -/
def groupText (v : Value) : M CodeUnits := if v.isUndefined then return ∅ else toText v

/-- Fills in a text that replaces a match, from an index on. -/
def expandFrom (m : Replaced) (template : CodeUnits) : Nat → Nat → Array UInt16 → M (Array UInt16)
  | 0, _, acc => return acc
  | n + 1, i, acc => do
    let plain (c : UInt16) : M (Array UInt16) := expandFrom m template n (i + 1) (acc.push c)
    match template.get? i with
    | none => return acc
    | some 36 =>
      match template.get? (i + 1) with
      | some 36 => expandFrom m template n (i + 2) (acc.push 36)
      | some 38 => expandFrom m template n (i + 2) (acc ++ m.matched.toArray)
      | some 0x60 =>
        expandFrom m template n (i + 2) (acc ++ (m.text.extract 0 m.position).toArray)
      | some 39 =>
        let rest := m.text.extract (m.position + m.matched.size) m.text.size
        expandFrom m template n (i + 2) (acc ++ rest.toArray)
      | some 60 =>
        match m.groups, template.indexOf? (CodeUnits.ofString ">") (i + 2) with
        | .undefined, _ => plain 36
        | _, none => plain 36
        | groups, some stop =>
          let name := template.extract (i + 2) stop
          let v ← getValue groups (.ofUnits name)
          expandFrom m template n (stop + 1) (acc ++ (← groupText v).toArray)
      | some d =>
        let digit? (c : Option UInt16) : Option Nat :=
          c.bind fun c => if 48 ≤ c && c ≤ 57 then some (c.toNat - 48) else none
        let count := m.captures.length
        match digit? (some d), digit? (template.get? (i + 2)) with
        | none, _ => plain 36
        | some a, some b =>
          let two := 10 * a + b
          if 1 ≤ two && two ≤ count then
            let u ← groupText (m.captures.getD (two - 1) .undefined)
            expandFrom m template n (i + 3) (acc ++ u.toArray)
          else if 1 ≤ a && a ≤ count then
            let u ← groupText (m.captures.getD (a - 1) .undefined)
            expandFrom m template n (i + 2) (acc ++ u.toArray)
          else plain 36
        | some a, none =>
          if 1 ≤ a && a ≤ count then
            let u ← groupText (m.captures.getD (a - 1) .undefined)
            expandFrom m template n (i + 2) (acc ++ u.toArray)
          else plain 36
      | none => plain 36
    | some c => plain c

/-- Fills in a text that replaces a match. -/
def expand (m : Replaced) (template : CodeUnits) : M CodeUnits := do
  return ⟨← expandFrom m template (template.size + 1) 0 #[]⟩

/-- What a match is replaced by: what a function gives, or a text. -/
def replacement (m : Replaced) (by_ : Value) : M CodeUnits := do
  if ← isCallable by_ then
    let extra := if m.groups.isUndefined then #[] else #[m.groups]
    let args := #[Value.string m.matched] ++ m.captures.toArray ++
      #[.nat m.position, .string m.text] ++ extra
    toText (← call by_ .undefined args)
  else
    match by_ with
    | .string template => expand m template
    | v => expand m (← toText v)

/-- Reads what a match was. -/
def readMatch (text : CodeUnits) (r : Ref) : M Replaced := do
  let count ← lengthOf r
  let matched ← toText (← getProp r "0")
  let position ← toInteger (← getProp r "index")
  let captures ← (List.range (count - 1)).mapM fun i => do
    match ← getProp r (.ofNat (i + 1)) with
    | .undefined => return .undefined
    | v => return .string (← toText v)
  let groups ← getProp r "groups"
  let position := (min (max position 0) (Float.ofNat text.size)).toUInt64.toNat
  return ⟨text, matched, position, captures, groups⟩

/-- Replaces the matches of an expression. -/
def replaceMatches (c : Call) : M Value := do
  let r ← requireRef c.receiver
  let text ← toText (c.arg 0)
  let by_ ← if ← isCallable (c.arg 1) then pure (c.arg 1) else pure (.string (← toText (c.arg 1)))
  let (all, byCodePoint) ← loopFlags r
  if all then setProp r "lastIndex" (.number 0)
  let found ← matchesOf r text all byCodePoint
  let (units, stop) ← found.foldlM
    (fun ((acc, stop) : Array UInt16 × Nat) m => do
      let m ← readMatch text m
      let u ← replacement m by_
      if stop ≤ m.position then
        charge u.size
        return (acc ++ (text.extract stop m.position).toArray ++ u.toArray,
          m.position + m.matched.size)
      else return (acc, stop))
    (#[], 0)
  newText ⟨units ++ (text.extract stop text.size).toArray⟩

/-! ### Further uses of matches -/

/-- The matches in a text. -/
def matchTexts (c : Call) : M Value := do
  let r ← requireRef c.receiver
  let text ← toText (c.arg 0)
  let (all, byCodePoint) ← loopFlags r
  if !all then return ← execute r text
  setProp r "lastIndex" (.number 0)
  let found ← matchesOf r text true byCodePoint
  if found.isEmpty then return .null
  let items ← found.mapM fun m => do return Value.string (← toText (← getProp m "0"))
  newArray items.toArray

/-- A regular expression of the same class as another one. -/
def speciesRegex (r : Ref) (flags : CodeUnits) : M Ref := do
  let chosen ← match ← getProp r "constructor" with
    | .object c => getProp c WellKnown.species.key
    | v => pure v
  match chosen with
  | .object c =>
    requireRef (← construct c #[.object r, .string flags] c)
  | _ =>
    requireRef (← construct Intrinsic.regex.ref #[.object r, .string flags] Intrinsic.regex.ref)

/-- Goes over the matches in a text. -/
def matchAllTexts (c : Call) : M Value := do
  let r ← requireRef c.receiver
  let text ← toText (c.arg 0)
  let flags ← toText (← getProp r "flags")
  let matcher ← speciesRegex r flags
  setProp matcher "lastIndex" (.nat (← toLength (← getProp r "lastIndex")))
  return .object (← alloc
    { kind :=
        .regexIterator matcher text (hasFlag flags 'g') (hasFlag flags 'u' || hasFlag flags 'v')
          false
      prototype := some Intrinsic.regexIteratorPrototype.ref })

/-- The next match that is gone over. -/
def nextOfRegex (c : Call) : M Value := do
  match c.receiver with
  | .object it =>
    match ← getKind it with
    | .regexIterator r text all byCodePoint done =>
      if done then return ← stepResult .undefined true
      match ← execute r text with
      | .object m =>
        if all then
          if (← toText (← getProp m "0")).isEmpty then stepOver r text byCodePoint
        else setKind it (.regexIterator r text all byCodePoint true)
        stepResult (.object m) false
      | _ =>
        setKind it (.regexIterator r text all byCodePoint true)
        stepResult .undefined true
    | _ => typeError "not a RegExp String Iterator"
  | _ => typeError "not a RegExp String Iterator"

/-- The position of the first match. -/
def searchText (c : Call) : M Value := do
  let r ← requireRef c.receiver
  let text ← toText (c.arg 0)
  let previous ← getProp r "lastIndex"
  if !previous.same (.number 0) then setProp r "lastIndex" (.number 0)
  let result ← execute r text
  if !(← getProp r "lastIndex").same previous then setProp r "lastIndex" previous
  match result with
  | .object m => getProp m "index"
  | _ => return .number (-1)

/-- The limit on the number of pieces that a text is split into. -/
def splitLimit (v : Value) : M Nat := do
  if v.isUndefined then return 4294967295 else return (toUInt32 (← toNumber v)).toNat

/-- Splits a text at the matches. -/
def splitAtMatches (c : Call) : M Value := do
  let r ← requireRef c.receiver
  let text ← toText (c.arg 0)
  let flags ← toText (← getProp r "flags")
  let byCodePoint := hasFlag flags 'u' || hasFlag flags 'v'
  let own := if hasFlag flags 'y' then flags else flags.push 121
  let splitter ← speciesRegex r own
  let limit ← splitLimit (c.arg 1)
  if limit = 0 then return ← newArray #[]
  if text.isEmpty then
    match ← execute splitter text with
    | .null => return ← newArray #[.string text]
    | _ => return ← newArray #[]
  -- the pieces so far, the end of the last match, and where the next one is looked for
  let (pieces, stop) ← repeating ((#[] : Array Value), 0, 0) fun (pieces, p, q) => do
    if text.size ≤ q then return .inr (pieces, p)
    else
      setProp splitter "lastIndex" (.nat q)
      match ← execute splitter text with
      | .object m =>
        let e := min (← toLength (← getProp splitter "lastIndex")) text.size
        if e == p then return .inl (pieces, p, advancePosition text q byCodePoint)
        else
          let pieces := pieces.push (.string (text.extract p q))
          let count ← lengthOf m
          let groups ← (List.range (count - 1)).mapM fun i => getProp m (.ofNat (i + 1))
          let pieces := pieces ++ groups.toArray
          if limit ≤ pieces.size then return .inr (pieces.extract 0 limit, text.size + 1)
          else return .inl (pieces, e, e)
      | _ => return .inl (pieces, p, advancePosition text q byCodePoint)
  if text.size < stop then newArray pieces
  else newArray (pieces.push (.string (text.extract stop text.size)))

/-! ### Making and describing -/

/-- Whether a value counts as a regular expression. -/
def isRegex (v : Value) : M Bool := do
  match v with
  | .object r =>
    match ← getProp r WellKnown.matchOne.key with
    | .undefined =>
      match ← getKind r with
      | .regex _ _ _ => return true
      | _ => return false
    | m => return m.truthy
  | _ => return false

/-- Makes a regular expression. -/
def makeRegex (c : Call) : M Value := do
  let pattern := c.arg 0
  let isOne ← isRegex pattern
  if c.newTarget.isNone && isOne && (c.arg 1).isUndefined then
    let made ← getValue pattern "constructor"
    if made.strictEquals (.object c.self) then return pattern
  let textOf (v : Value) : M CodeUnits := if v.isUndefined then return ∅ else toText v
  let (source, flags) ← match pattern with
    | .object r => do
      match ← getKind r with
      | .regex source flags _ => do
        let flags ← if (c.arg 1).isUndefined then pure flags else toText (c.arg 1)
        pure (source, flags)
      | _ =>
        if isOne then do
          let source ← textOf (← getProp r "source")
          let flags ←
            if (c.arg 1).isUndefined then textOf (← getProp r "flags") else toText (c.arg 1)
          pure (source, flags)
        else pure (← toText pattern, ← textOf (c.arg 1))
    | v => pure (← textOf v, ← textOf (c.arg 1))
  return .object (← regexOf source flags (← c.prototypeOr .regexPrototype))

/-- The text of a pattern between slashes. -/
def patternText (u : CodeUnits) : CodeUnits :=
  if u.isEmpty then CodeUnits.ofString "(?:)"
  else
    let step (s : Array UInt16 × Bool × Bool) (c : UInt16) : Array UInt16 × Bool × Bool :=
      let (acc, escaped, inClass) := s
      if escaped then (acc.push c, false, inClass)
      else if c == 92 then (acc.push c, true, inClass)
      else if c == 91 then (acc.push c, false, true)
      else if c == 93 then (acc.push c, false, false)
      else if c == 47 && !inClass then ((acc.push 92).push c, false, inClass)
      else if c == 10 then ((acc.push 92).push 110, false, inClass)
      else if c == 13 then ((acc.push 92).push 114, false, inClass)
      else (acc.push c, false, inClass)
    ⟨(u.toArray.foldl step (#[], false, false)).1⟩

/-- The flags of an object, from its properties. -/
def flagsText (c : Call) : M Value := do
  let r ← requireRef c.receiver
  let all := [("hasIndices", 'd'), ("global", 'g'), ("ignoreCase", 'i'), ("multiline", 'm'),
    ("dotAll", 's'), ("unicode", 'u'), ("unicodeSets", 'v'), ("sticky", 'y')]
  let mut text := ""
  for (name, c) in all do
    if (← getProp r (.ofString name)).truthy then text := text.push c
  return .text text

/-- A flag of a regular expression. -/
def flagGetter (name : String) (flag : Regex.Flags → Bool) : Member :=
  .getter name fun c => do
    match c.receiver with
    | .object r =>
      if r == Intrinsic.regexPrototype.ref then return .undefined
      let (_, _, _, program) ← regexParts c.receiver
      return .bool (flag program.flags)
    | _ => typeError "RegExp object expected"

/-- `RegExp` and its prototype. -/
def regexHolders : List Holder :=
  [ .ofConstructor .regex .regexPrototype "RegExp" 2 makeRegex [.species]
  , { object := .regexPrototype
      members :=
        [ .constructor .regex
          , .getter "flags" flagsText
          , .getter "source" fun c => do
              match c.receiver with
              | .object r =>
                if r == Intrinsic.regexPrototype.ref then return .text "(?:)"
                let (_, source, _, _) ← regexParts c.receiver
                return .string (patternText source)
              | _ => typeError "RegExp object expected"
          , flagGetter "global" (·.global)
          , flagGetter "ignoreCase" (·.ignoreCase)
          , flagGetter "multiline" (·.multiline)
          , flagGetter "dotAll" (·.dotAll)
          , flagGetter "unicode" (·.unicode)
          , flagGetter "unicodeSets" (·.unicodeSets)
          , flagGetter "sticky" (·.sticky)
          , flagGetter "hasIndices" (·.hasIndices)
          , .fn "exec" 1 fun c => do matchNext c.receiver (← toText (c.arg 0))
          , .fn "compile" 2 fun c => do
              let (r, _, _, _) ← regexParts c.receiver
              let other ← requireRef (← makeRegex { c with newTarget := some c.self })
              setKind r (← getKind other)
              setProp r "lastIndex" (.number 0)
              return c.receiver
          , .fn "test" 1 fun c => do
              let r ← requireRef c.receiver
              return .bool (← execute r (← toText (c.arg 0))).isObject
          , .fn "toString" 0 fun c => do
              let r ← requireRef c.receiver
              let source ← toText (← getProp r "source")
              let flags ← toText (← getProp r "flags")
              return .string ((((CodeUnits.ofString "/").append source).append
                (CodeUnits.ofString "/")).append flags)
          , .symbolic .replace "[Symbol.replace]" 2 replaceMatches
          , .symbolic .matchOne "[Symbol.match]" 1 matchTexts
          , .symbolic .matchAll "[Symbol.matchAll]" 1 matchAllTexts
          , .symbolic .search "[Symbol.search]" 1 searchText
          , .symbolic .split "[Symbol.split]" 2 splitAtMatches ] }
  , iteratorKind .regexIteratorPrototype "RegExp String Iterator" nextOfRegex ]

end PatchSandbox.Machine.Library
