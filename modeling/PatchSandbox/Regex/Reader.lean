import PatchSandbox.Regex.Pattern

/-!
# Reading patterns

**`Pattern.read`** reads the text of a regular expression. Without the flags `u` and `v` the
grammar is lenient: a brace or a bracket that opens nothing stands for itself, and so does
an escaped letter without a meaning.
-/

namespace PatchSandbox.Regex

open PatchSandbox.Text

/-- What changes while a pattern is read. -/
structure ReaderState where
  rest : List Nat
  /-- Number of groups opened so far. -/
  groups : Nat := 0
  /-- Names of groups, with their numbers. -/
  names : List (CodeUnits × Nat) := []
  deriving Inhabited

/-- What a reader knows. -/
structure ReaderContext where
  flags : Flags
  /-- Number of groups in the whole pattern. -/
  total : Nat
  /-- Names of the groups of the whole pattern, with their numbers. -/
  allNames : List (CodeUnits × Nat)
  /-- Bound of every repetition. -/
  bound : Nat

/-- A reader of patterns. -/
abbrev R := ReaderT ReaderContext (EStateM String ReaderState)

namespace Reader

/-- The code of a character. -/
@[inline] def code (c : Char) : Nat := c.toNat

/-- The next code point. -/
def peek : R (Option Nat) := do return (← get).rest.head?

/-- Whether the next code point is a character. -/
def at? (c : Char) : R Bool := do return (← peek) == some (code c)

/-- Goes on by one code point. -/
def skip : R Unit := modify fun s => { s with rest := s.rest.tail }

/-- Goes on if the next code point is a character. -/
def eat (c : Char) : R Bool := do
  if ← at? c then
    skip
    return true
  else return false

/-- Goes on if a text follows. -/
def eatAll (text : String) : R Bool := do
  let cs := text.toList.map code
  let s ← get
  if cs.isPrefixOf s.rest then
    set { s with rest := s.rest.drop cs.length }
    return true
  else return false

/-- The grammar is the strict one. -/
def strict : R Bool := do return (← read).flags.byCodePoint

/-- Repeats until there is no further item, at most so many times. -/
def manyUpTo {α : Type} (step : R (Option α)) : Nat → List α → R (List α)
  | 0, acc => return acc.reverse
  | n + 1, acc => do
    match ← step with
    | some a => manyUpTo step n (a :: acc)
    | none => return acc.reverse

/-- Repeats until there is no further item. -/
def many {α : Type} (step : R (Option α)) : R (List α) := do manyUpTo step (← read).bound []

/-- Reads a digit below a base. -/
def digitOf (base : Nat) : R (Option Nat) := do
  match ← peek with
  | none => return none
  | some c =>
    let d :=
      if 48 ≤ c && c ≤ 57 then c - 48
      else if 97 ≤ c && c ≤ 102 then c - 87
      else if 65 ≤ c && c ≤ 70 then c - 55
      else 99
    if d < base then
      skip
      return some d
    else return none

/-- The number with the given digits. -/
def numberOf (base : Nat) (ds : List Nat) : Nat := ds.foldl (fun acc d => acc * base + d) 0

/-- Reads a decimal number. -/
def decimal : R (Option Nat) := do
  match ← many (digitOf 10) with
  | [] => return none
  | ds => return some (numberOf 10 ds)

/-- Reads exactly so many hexadecimal digits, or nothing. -/
def hex (n : Nat) : R (Option Nat) := do
  let before ← get
  let ds ← manyUpTo (digitOf 16) n []
  if ds.length == n then return some (numberOf 16 ds)
  else
    set before
    return none

/-- Reads what follows `\u`. -/
def unicodeEscape : R (Option Nat) := do
  if (← strict) && (← at? '\x7b') then
    let before ← get
    skip
    let ds ← many (digitOf 16)
    let n := numberOf 16 ds
    if !ds.isEmpty && n ≤ 0x10FFFF && (← eat '\x7d') then return some n
    else
      set before
      return none
  else
    match ← hex 4 with
    | none => return none
    | some lead =>
      if (← strict) && 0xD800 ≤ lead && lead < 0xDC00 then
        let before ← get
        if ← eatAll "\\u" then
          match ← hex 4 with
          | some trail =>
            if 0xDC00 ≤ trail && trail < 0xE000 then
              return some (0x10000 + (lead - 0xD800) * 0x400 + (trail - 0xDC00))
          | none => pure ()
        set before
        return some lead
      else return some lead

/-- Reads the name of a group up to its closing angle. -/
def groupName : R CodeUnits := do
  let cs ← many do
    match ← peek with
    | none => return none
    | some c =>
      if c == code '>' then return none
      else
        skip
        if c == code '\\' then
          if !(← eat 'u') then throw "invalid group name"
          match ← unicodeEscape with
          | some n => return some n
          | none => throw "invalid group name"
        else return some c
  if !(← eat '>') || cs.isEmpty then throw "invalid group name"
  let name := CodeUnits.ofCodePoints cs.toArray
  let points := name.codePoints
  let valid := isIdentifierStart (points.getD 0 0) && points.all isIdentifierPart
  if valid then return name else throw "invalid group name"

/-- The class that an escaped letter stands for. -/
def classEscape (c : Nat) : Option Item :=
  if c == code 'd' then some (.digit false)
  else if c == code 'D' then some (.digit true)
  else if c == code 'w' then some (.word false)
  else if c == code 'W' then some (.word true)
  else if c == code 's' then some (.space false)
  else if c == code 'S' then some (.space true)
  else none

/-- The class of a property of characters. -/
def propertyClass (negated : Bool) (name : String) : Option (List Item) :=
  let name := ((name.splitOn "=").getLast?).getD name
  if ["L", "Letter", "Alphabetic", "Alpha"].contains name then some [.letter negated]
  else if ["Lu", "Uppercase_Letter", "Uppercase", "Upper"].contains name then
    some [.upper negated]
  else if ["Ll", "Lowercase_Letter", "Lowercase", "Lower"].contains name then
    some [.lower negated]
  else if ["Nd", "N", "Number", "Decimal_Number"].contains name then some [.digit negated]
  else if ["White_Space", "space"].contains name then some [.space negated]
  else if name == "ASCII" then some (if negated then [.range 128 0x10FFFF] else [.range 0 127])
  else if name == "Any" then some (if negated then [] else [.range 0 0x10FFFF])
  else none

/-- Reads what follows `\p` or `\P`. -/
def property (negated : Bool) : R (List Item) := do
  if !(← eat '\x7b') then throw "expecting '\x7b' after \\p"
  let cs ← many do
    match ← peek with
    | some c => if c == code '\x7d' then return none else do skip; return some (Char.ofNat c)
    | none => return none
  if !(← eat '\x7d') then throw "expecting '\x7d'"
  match propertyClass negated (String.ofList cs) with
  | some items => return items
  | none => throw "unknown unicode property name"

/-- Reads the rest of an escape that stands for one code point, given its first one. -/
def characterEscape (c : Nat) (inClass : Bool) : R Nat := do
  if c == code 't' then return 9
  else if c == code 'n' then return 10
  else if c == code 'v' then return 11
  else if c == code 'f' then return 12
  else if c == code 'r' then return 13
  else if c == code 'b' && inClass then return 8
  else if c == code 'x' then
    match ← hex 2 with
    | some n => return n
    | none => if ← strict then throw "invalid escape sequence in regular expression" else return c
  else if c == code 'u' then
    match ← unicodeEscape with
    | some n => return n
    | none => if ← strict then throw "invalid escape sequence in regular expression" else return c
  else if c == code 'c' then
    match ← peek with
    | some d =>
      if isAsciiWord d && !isDigit d || (inClass && !(← strict) && isWord d) then
        skip
        return d % 32
      else if ← strict then throw "invalid escape sequence in regular expression"
      else
        modify fun s => { s with rest := c :: s.rest }
        return code '\\'
    | none =>
      if ← strict then throw "invalid escape sequence in regular expression"
      else
        modify fun s => { s with rest := c :: s.rest }
        return code '\\'
  else if isDigit c then
    if ← strict then
      let more := (← peek).map isDigit
      if c == 48 && more != some true then return 0
      else throw "invalid escape sequence in regular expression"
    else if c ≥ 56 then return c
    else
      let second ← digitOf 8
      match second with
      | none => return c - 48
      | some d =>
        if c ≤ 51 then
          match ← digitOf 8 with
          | none => return (c - 48) * 8 + d
          | some e => return ((c - 48) * 8 + d) * 8 + e
        else return (c - 48) * 8 + d
  else if ← strict then
    if "^$\\.*+?()[]\x7b\x7d|/".toList.any (fun d => code d == c) || (inClass && c == code '-') then
      return c
    else throw "invalid escape sequence in regular expression"
  else return c

/-- Reads one member of a class: a code point or a set of them. -/
def classAtom : R (Nat ⊕ List Item) := do
  match ← peek with
  | none => throw "unterminated character class"
  | some c =>
    skip
    if c == code '\\' then
      match ← peek with
      | none => throw "unterminated character class"
      | some d =>
        skip
        match classEscape d with
        | some item => return .inr [item]
        | none =>
          if (d == code 'p' || d == code 'P') && (← strict) then
            return .inr (← property (d == code 'P'))
          else return .inl (← characterEscape d true)
    else return .inl c

/-- What a member of a class stands for. -/
def itemsOf : Nat ⊕ List Item → List Item
  | .inl c => [.range c c]
  | .inr items => items

/-- Reads a member of a class or a range of them. -/
def classRange : R (Option (List Item)) := do
  if ← at? ']' then return none
  if (← peek).isNone then return none
  let low ← classAtom
  let before ← get
  if ← eat '-' then
    if (← at? ']') || (← peek).isNone then
      set before
      return some (itemsOf low)
    let high ← classAtom
    match low, high with
    | .inl a, .inl b =>
      if b < a then throw "invalid class range" else return some [.range a b]
    | _, _ =>
      if ← strict then throw "invalid class range"
      else return some (itemsOf low ++ [.range 45 45] ++ itemsOf high)
  else return some (itemsOf low)

/-- Reads a class after its opening bracket. -/
def characterClass : R Pattern := do
  let negated ← eat '^'
  let items ← many classRange
  if !(← eat ']') then throw "unterminated character class"
  return .set negated items.flatten

/-- Reads an escape outside of a class. -/
def atomEscape : R Pattern := do
  match ← peek with
  | none => throw "unexpected end of regular expression"
  | some c =>
    skip
    if c == code 'b' then return .boundary false
    else if c == code 'B' then return .boundary true
    else if (c == code 'p' || c == code 'P') && (← strict) then
      return .set false (← property (c == code 'P'))
    else if c == code 'k' && ((← strict) || !(← read).allNames.isEmpty) then
      if !(← eat '<') then throw "expecting group name"
      let name ← groupName
      match (← read).allNames.filter (·.1 == name) with
      | [] => throw "group name not defined"
      | found => return .back (found.map (·.2))
    else
      match classEscape c with
      | some item => return .set false [item]
      | none =>
        if isDigit c && c != 48 then
          let before ← get
          let ds ← many (digitOf 10)
          let n := numberOf 10 ((c - 48) :: ds)
          if n ≤ (← read).total then return .back [n]
          else if ← strict then throw "back reference out of range in regular expression"
          else
            set before
            return .char (← characterEscape c false)
        else return .char (← characterEscape c false)

/-- Reads the bounds of a repetition between braces, if they are some. -/
def braces : R (Option (Nat × Option Nat)) := do
  let before ← get
  if ← eat '\x7b' then
    match ← decimal with
    | some low =>
      if ← eat '\x7d' then return some (low, some low)
      else if ← eat ',' then
        if ← eat '\x7d' then return some (low, none)
        match ← decimal with
        | some high => if ← eat '\x7d' then return some (low, some high)
        | none => pure ()
    | none => pure ()
  set before
  return none

/-- Reads how often the last term is repeated. -/
def quantifier : R (Option (Nat × Option Nat)) := do
  if ← eat '*' then return some (0, none)
  else if ← eat '+' then return some (1, none)
  else if ← eat '?' then return some (0, some 1)
  else if ← at? '\x7b' then braces
  else return none

/-- Repeats a term as the text after it says. -/
def quantified (repeatable : Bool) (firstGroup : Nat) (term : Pattern) : R Pattern := do
  match ← quantifier with
  | none => return term
  | some (low, high) =>
    if !repeatable then throw "nothing to repeat"
    if high.any (· < low) then throw "invalid repetition count"
    let greedy := !(← eat '?')
    return .repeated term low high greedy (firstGroup + 1) ((← get).groups + 1)

/-- Closes a group. -/
def closing (p : R Pattern) : R Pattern := do
  let body ← p
  if ← eat ')' then return body else throw "expecting ')'"

/-- Reads a group after its opening parenthesis: the term and whether it may be repeated. -/
def group (body : R Pattern) : R (Pattern × Bool) := do
  if ← eatAll "?:" then return (← closing body, true)
  else if ← eatAll "?=" then return (.look false false (← closing body), !(← strict))
  else if ← eatAll "?!" then return (.look false true (← closing body), !(← strict))
  else if ← eatAll "?<=" then return (.look true false (← closing body), false)
  else if ← eatAll "?<!" then return (.look true true (← closing body), false)
  else
    let named ← eatAll "?<"
    if !named && (← at? '?') then throw "invalid group"
    modify fun s => { s with groups := s.groups + 1 }
    let index := (← get).groups
    if named then
      let name ← groupName
      if (← get).names.any (·.1 == name) then throw "duplicate group name"
      modify fun s => { s with names := (name, index) :: s.names }
    return (.capture index (← closing body), true)

/-- Reads a term. -/
def term (body : R Pattern) : R (Option Pattern) := do
  let firstGroup := (← get).groups
  match ← peek with
  | none => return none
  | some c =>
    if c == code '|' || c == code ')' then return none
    else if c == code '^' then do
      skip
      return some (← quantified false firstGroup .lineStart)
    else if c == code '$' then do
      skip
      return some (← quantified false firstGroup .lineEnd)
    else if c == code '(' then do
      skip
      let (p, repeatable) ← group body
      return some (← quantified repeatable firstGroup p)
    else if c == code '[' then do
      skip
      return some (← quantified true firstGroup (← characterClass))
    else if c == code '.' then do
      skip
      return some (← quantified true firstGroup .any)
    else if c == code '\\' then do
      skip
      let p ← atomEscape
      let repeatable := match p with | .boundary _ => false | _ => true
      return some (← quantified repeatable firstGroup p)
    else if c == code '*' || c == code '+' || c == code '?' then throw "nothing to repeat"
    else if c == code '\x7b' then do
      if (← strict) || (← braces).isSome then throw "nothing to repeat"
      skip
      return some (← quantified true firstGroup (.char c))
    else if (c == code '\x7d' || c == code ']') && (← strict) then
      throw "syntax error in regular expression"
    else do
      skip
      return some (← quantified true firstGroup (.char c))

/-- Reads terms one after the other. -/
def alternative (body : R Pattern) : R Pattern := do
  match (← many (term body)).reverse with
  | [] => return .empty
  | last :: before => return before.foldl (fun acc p => .both p acc) last

/-- Reads alternatives, with groups nested at most so deep. -/
def disjunction : Nat → R Pattern
  | 0 => throw "stack overflow"
  | depth + 1 => do
    let body := disjunction depth
    let first ← alternative body
    let rest ← many do
      if ← eat '|' then return some (← alternative body) else return none
    match (first :: rest).reverse with
    | [] => return first
    | last :: before => return before.foldl (fun acc p => .either p acc) last

/-- Reads a whole pattern. -/
def whole : R Pattern := do
  let p ← disjunction (← read).bound
  match ← peek with
  | none => return p
  | some _ => throw "extraneous characters at the end"

/-- Counts groups and collects their names, without reading the pattern: the number of
groups, and the names in the order of their numbers. -/
def scanGroups : List Nat → (inClass : Bool) → Nat → List (CodeUnits × Nat) →
    Nat × List (CodeUnits × Nat)
  | [], _, n, names => (n, names)
  | 92 :: _ :: rest, inClass, n, names => scanGroups rest inClass n names
  | 91 :: rest, _, n, names => scanGroups rest true n names
  | 93 :: rest, _, n, names => scanGroups rest false n names
  | 40 :: 63 :: 60 :: c :: rest, false, n, names =>
    if c == 61 || c == 33 then scanGroups rest false n names
    else
      let name := (c :: rest).takeWhile (· != 62)
      scanGroups rest false (n + 1) ((CodeUnits.ofCodePoints name.toArray, n + 1) :: names)
  | 40 :: 63 :: rest, false, n, names => scanGroups rest false n names
  | 40 :: rest, false, n, names => scanGroups rest false (n + 1) names
  | _ :: rest, inClass, n, names => scanGroups rest inClass n names

end Reader

/-- A pattern that was read: its tree, the number of its groups and their names. -/
structure Parsed where
  pattern : Pattern
  groups : Nat
  names : List (CodeUnits × Nat)
  deriving Inhabited

/-- Reads a pattern. -/
def Pattern.read (source : CodeUnits) (flags : Flags) : Except String Parsed :=
  let points :=
    if flags.byCodePoint then source.codePoints.toList
    else source.toArray.toList.map (·.toNat)
  let (total, allNames) := Reader.scanGroups points false 0 []
  let context : ReaderContext := ⟨flags, total, allNames, points.length + 1⟩
  match (Reader.whole context).run { rest := points } with
  | .ok pattern s => .ok ⟨pattern, s.groups, s.names.reverse⟩
  | .error message _ => .error message

end PatchSandbox.Regex
