import PatchSandbox.Script.Flaw
import PatchSandbox.Text.Blank
import PatchSandbox.Text.Word
import PatchSandbox.Decimal

/-!
# Reading tokens

* **`Lexer.next`** skips blanks and comments and reads one token. A slash is always read as
  a punctuator and a closing brace too; where the grammar wants something else there, the
  parser asks **`Lexer.regex`** or **`Lexer.templateTail`** to read on from that token.
* The two **goals** differ in one point here: a script, but not a module, knows the comments
  `<!--` and `-->`.

Every reader takes the byte offset of the characters it is given.
-/

namespace PatchSandbox.Script

open PatchSandbox.Text

/-- What a text is read as. -/
inductive Goal where
  | module
  | script
  deriving DecidableEq, Repr, Inhabited

namespace Lexer

/-- Reads with a flaw. -/
abbrev Read (α : Type) := Except Flaw α

/-- Blanks between tokens. -/
def isBlank (c : Char) : Bool :=
  isScriptSpace c || c.toNat == 0x85 || c.toNat == 0x200B

/-! ### Blanks and comments -/

/-- What the blanks between two tokens are made of at some point. -/
inductive GapMode where
  | blank
  | lineComment
  | blockComment (start : Nat)
  deriving DecidableEq, Repr, Inhabited

/-- Where the next token begins. -/
structure Gap where
  newLine : Bool
  offset : Nat
  rest : List Char
  deriving Inhabited

/-- Skips blanks and comments. `fresh` says that nothing but blanks and comments stand
before on the line. -/
def gap (goal : Goal) : GapMode → (newLine fresh : Bool) → Nat → List Char → Read Gap
  | .blockComment start, _, _, _, [] => .error ⟨.unterminatedComment, start⟩
  | _, newLine, _, offset, [] => .ok ⟨newLine, offset, []⟩
  | .lineComment, newLine, fresh, offset, c :: rest =>
    if isLineTerminator c then gap goal .blank true true (offset + c.utf8Size) rest
    else gap goal .lineComment newLine fresh (offset + c.utf8Size) rest
  | .blockComment _, newLine, fresh, offset, '*' :: '/' :: rest =>
    gap goal .blank newLine fresh (offset + 2) rest
  | .blockComment start, newLine, fresh, offset, c :: rest =>
    gap goal (.blockComment start) (newLine || isLineTerminator c) (fresh || isLineTerminator c)
      (offset + c.utf8Size) rest
  | .blank, newLine, fresh, offset, '/' :: '/' :: rest =>
    gap goal .lineComment newLine fresh (offset + 2) rest
  | .blank, newLine, fresh, offset, '/' :: '*' :: rest =>
    gap goal (.blockComment offset) newLine fresh (offset + 2) rest
  | .blank, newLine, fresh, offset, '<' :: '!' :: '-' :: '-' :: rest =>
    if goal = .script then gap goal .lineComment newLine fresh (offset + 4) rest
    else .ok ⟨newLine, offset, '<' :: '!' :: '-' :: '-' :: rest⟩
  | .blank, newLine, fresh, offset, '-' :: '-' :: '>' :: rest =>
    if goal = .script ∧ fresh then gap goal .lineComment newLine fresh (offset + 3) rest
    else .ok ⟨newLine, offset, '-' :: '-' :: '>' :: rest⟩
  | .blank, newLine, fresh, offset, c :: rest =>
    if isLineTerminator c then gap goal .blank true true (offset + c.utf8Size) rest
    else if isBlank c then gap goal .blank newLine fresh (offset + c.utf8Size) rest
    else .ok ⟨newLine, offset, c :: rest⟩

/-! ### Numbers -/

/-- The value of a digit in bases up to sixteen. -/
def digitValue? (c : Char) : Option Nat :=
  if '0' ≤ c ∧ c ≤ '9' then some (c.toNat - 48)
  else if 'a' ≤ c ∧ c ≤ 'f' then some (c.toNat - 87)
  else if 'A' ≤ c ∧ c ≤ 'F' then some (c.toNat - 55)
  else none

/-- The value of a digit of a base. -/
def digit? (base : Nat) (c : Char) : Option Nat :=
  match digitValue? c with
  | some d => if d < base then some d else none
  | none => none

/-- Digits that have been read. -/
structure Digits where
  value : Nat
  count : Nat
  offset : Nat
  rest : List Char
  deriving Inhabited

/-- The flaw of a number that does not go on with a digit where it has to. -/
def digitMissing (offset : Nat) : List Char → Flaw
  | [] => ⟨.cutOffNumber, offset⟩
  | c :: _ => ⟨.badCharacter c, offset⟩

/-- Reads digits with single underscores between them. -/
def digits (base : Nat) : (value count offset : Nat) → List Char → Read Digits
  | value, count, offset, '_' :: d :: rest =>
    match digit? base d with
    | some v =>
      if count = 0 then .ok ⟨value, count, offset, '_' :: d :: rest⟩
      else digits base (value * base + v) (count + 1) (offset + 2) rest
    | none =>
      if count = 0 then .ok ⟨value, count, offset, '_' :: d :: rest⟩
      else .error (digitMissing (offset + 1) (d :: rest))
  | value, count, offset, ['_'] =>
    if count = 0 then .ok ⟨value, count, offset, ['_']⟩
    else .error (digitMissing (offset + 1) [])
  | value, count, offset, d :: rest =>
    match digit? base d with
    | some v => digits base (value * base + v) (count + 1) (offset + 1) rest
    | none => .ok ⟨value, count, offset, d :: rest⟩
  | value, count, offset, [] => .ok ⟨value, count, offset, []⟩

/-- Reads digits; there has to be one. -/
def someDigits (base offset : Nat) (cs : List Char) : Read Digits := do
  let ds ← digits base 0 0 offset cs
  if ds.count = 0 then .error (digitMissing ds.offset ds.rest) else .ok ds

/-- A number that has been read. -/
structure Numeral where
  kind : TokenKind
  offset : Nat
  rest : List Char
  deriving Inhabited

/-- A number may not run into a digit or an identifier. -/
def separated (n : Numeral) : Read Numeral :=
  match n.rest with
  | [] => .ok n
  | c :: _ =>
    if c.isDigit || isIdentifierStart c.toNat then .error ⟨.afterNumber, n.offset⟩ else .ok n

/-- Reads an exponent part, if there is one: its value, the offset after it and the rest. -/
def exponentPart (offset : Nat) : List Char → Read (Option (Int × Nat × List Char))
  | c :: rest =>
    if c = 'e' ∨ c = 'E' then do
      let (negative, width, rest) := match rest with
        | '-' :: r => (true, 2, r)
        | '+' :: r => (false, 2, r)
        | r => (false, 1, r)
      let ds ← someDigits 10 (offset + width) rest
      .ok (some (if negative then -(ds.value : Int) else ds.value, ds.offset, ds.rest))
    else .ok none
  | [] => .ok none

/-- The double of a decimal. -/
def decimalValue (value : Nat) (exponent : Int) : Float :=
  (Decimal.Scientific.mk value exponent).toFloat

/-- Reads what follows the point of a number. -/
def fractionTail (whole : Nat) (offset : Nat) (cs : List Char) : Read Numeral := do
  let ds ← digits 10 whole 0 offset cs
  match ← exponentPart ds.offset ds.rest with
  | some (e, offset, rest) =>
    separated ⟨.number (decimalValue ds.value (e - ds.count)) .float, offset, rest⟩
  | none =>
    separated ⟨.number (decimalValue ds.value (-(ds.count : Int))) .float, ds.offset, ds.rest⟩

/-- Reads what follows the whole digits of a number. -/
def wholeTail (ds : Digits) (form : NumberForm) : Read Numeral :=
  match ds.rest with
  | '.' :: rest => fractionTail ds.value (ds.offset + 1) rest
  | 'n' :: rest =>
    if form = .legacy then
      separated ⟨.number (decimalValue ds.value 0) form, ds.offset, ds.rest⟩
    else separated ⟨.bigint ds.value, ds.offset + 1, rest⟩
  | _ => do
    match ← exponentPart ds.offset ds.rest with
    | some (e, offset, rest) =>
      separated ⟨.number (decimalValue ds.value e) .exponential, offset, rest⟩
    | none => separated ⟨.number (decimalValue ds.value 0) form, ds.offset, ds.rest⟩

/-- Reads a number of a given base, after its mark. -/
def based (base : Nat) (form : NumberForm) (offset : Nat) (cs : List Char) : Read Numeral := do
  let ds ← someDigits base offset cs
  match ds.rest with
  | 'n' :: rest => separated ⟨.bigint ds.value, ds.offset + 1, rest⟩
  | _ => separated ⟨.number (Decimal.nearest ds.value 1) form, ds.offset, ds.rest⟩

/-- Reads a number that starts with a zero and another digit: octal, unless a digit is too
large for that. -/
def legacy (offset : Nat) (cs : List Char) : Read Numeral :=
  let ds := cs.takeWhile Char.isDigit
  let rest := cs.dropWhile Char.isDigit
  let value (base : Nat) := ds.foldl (fun n c => n * base + (c.toNat - 48)) 0
  if ds.all (· < '8') then
    separated ⟨.number (Decimal.nearest (value 8) 1) .legacy, offset + ds.length, rest⟩
  else wholeTail ⟨value 10, ds.length, offset + ds.length, rest⟩ .legacy

/-- Reads a number that starts with a digit. -/
def number (offset : Nat) (cs : List Char) : Read Numeral :=
  match cs with
  | '0' :: c :: rest =>
    if c = 'b' ∨ c = 'B' then based 2 .binary (offset + 2) rest
    else if c = 'o' ∨ c = 'O' then based 8 .octal (offset + 2) rest
    else if c = 'x' ∨ c = 'X' then based 16 .hexadecimal (offset + 2) rest
    else if c.isDigit then legacy offset cs
    else wholeTail ⟨0, 1, offset + 1, c :: rest⟩ .decimal
  | _ => do wholeTail (← digits 10 0 0 offset cs) .decimal

/-! ### Escapes -/

/-- What an escape sequence stands for. -/
inductive Escape where
  /-- A scalar value or a surrogate. -/
  | scalar (n : Nat)
  /-- A line that goes on. -/
  | nothing
  /-- An octal number, or a digit for itself. -/
  | legacy (n : Nat)
  | invalid
  deriving DecidableEq, Repr, Inhabited

/-- An escape sequence that has been read: its meaning, its length in bytes without the
backslash, and the rest. -/
structure EscapeRead where
  meaning : Escape
  width : Nat
  rest : List Char
  deriving Inhabited

/-- Exactly four hexadecimal digits. -/
def fourDigits? : List Char → Option (Nat × List Char)
  | a :: b :: c :: d :: rest =>
    match digit? 16 a, digit? 16 b, digit? 16 c, digit? 16 d with
    | some a, some b, some c, some d => some (((a * 16 + b) * 16 + c) * 16 + d, rest)
    | _, _, _, _ => none
  | _ => none

/-- What follows `\u`: four digits, or digits in braces. Also tells how many characters
there are. -/
def codePoint? : List Char → Option (Nat × Nat × List Char)
  | '\x7b' :: rest =>
    let ds := rest.takeWhile fun c => (digitValue? c).isSome
    match rest.dropWhile fun c => (digitValue? c).isSome with
    | '\x7d' :: after =>
      let n := ds.foldl (fun n c => n * 16 + (digitValue? c).getD 0) 0
      if ds.isEmpty || 0x10FFFF < n then none else some (n, ds.length + 2, after)
    | _ => none
  | cs => (fourDigits? cs).map fun (n, rest) => (n, 4, rest)

/-- Reads octal digits onto a number, up to the bound of one byte. -/
def octalTail : (more value width : Nat) → List Char → EscapeRead
  | 0, value, width, cs => ⟨.legacy value, width, cs⟩
  | _ + 1, value, width, [] => ⟨.legacy value, width, []⟩
  | more + 1, value, width, c :: rest =>
    match digit? 8 c with
    | some d =>
      if value * 8 + d < 256 then octalTail more (value * 8 + d) (width + 1) rest
      else ⟨.legacy value, width, c :: rest⟩
    | none => ⟨.legacy value, width, c :: rest⟩

/-- Reads what follows a backslash in a string. -/
def escape : List Char → EscapeRead
  | [] => ⟨.invalid, 0, []⟩
  | '\r' :: '\n' :: rest => ⟨.nothing, 2, rest⟩
  | 'u' :: rest =>
    match codePoint? rest with
    | some (n, width, rest) => ⟨.scalar n, width + 1, rest⟩
    | none => ⟨.invalid, 1, rest⟩
  | 'x' :: rest =>
    match rest with
    | a :: b :: after =>
      match digit? 16 a, digit? 16 b with
      | some a, some b => ⟨.scalar (a * 16 + b), 3, after⟩
      | _, _ => ⟨.invalid, 1, rest⟩
    | _ => ⟨.invalid, 1, rest⟩
  | 'b' :: rest => ⟨.scalar 8, 1, rest⟩
  | 'f' :: rest => ⟨.scalar 12, 1, rest⟩
  | 'n' :: rest => ⟨.scalar 10, 1, rest⟩
  | 'r' :: rest => ⟨.scalar 13, 1, rest⟩
  | 't' :: rest => ⟨.scalar 9, 1, rest⟩
  | 'v' :: rest => ⟨.scalar 11, 1, rest⟩
  | '0' :: rest =>
    match rest with
    | d :: _ => if d.isDigit then octalTail 2 0 1 rest else ⟨.scalar 0, 1, rest⟩
    | [] => ⟨.scalar 0, 1, []⟩
  | c :: rest =>
    if isLineTerminator c then ⟨.nothing, c.utf8Size, rest⟩
    else if '1' ≤ c ∧ c ≤ '7' then octalTail 2 (c.toNat - 48) 1 rest
    else if c = '8' ∨ c = '9' then ⟨.legacy c.toNat, 1, rest⟩
    else ⟨.scalar c.toNat, c.utf8Size, rest⟩

/-! ### Strings and templates -/

/-- Text that ends a token, and where. -/
structure Quoted where
  kind : TokenKind
  offset : Nat
  rest : List Char
  deriving Inhabited

/-- Reads a string after its opening quote. -/
def string (quote : Char) (start : Nat) :
    (fuel : Nat) → (value : Array UInt16) → (legacy : Bool) → Nat → List Char → Read Quoted
  | 0, _, _, _, _ => .error ⟨.unterminatedString, start⟩
  | _ + 1, _, _, _, [] => .error ⟨.unterminatedString, start⟩
  | fuel + 1, value, legacy, offset, c :: rest =>
    if c = quote then .ok ⟨.string ⟨value⟩ legacy, offset + 1, rest⟩
    else if c = '\n' ∨ c = '\r' then .error ⟨.unterminatedString, start⟩
    else if c = '\\' then
      match rest with
      | [] => .error ⟨.unterminatedString, start⟩
      | _ :: _ =>
        let e := escape rest
        let next := offset + 1 + e.width
        match e.meaning with
        | .scalar n => string quote start fuel (CodeUnits.pushScalar value n) legacy next e.rest
        | .nothing => string quote start fuel value legacy next e.rest
        | .legacy n => string quote start fuel (value.push n.toUInt16) true next e.rest
        | .invalid => .error ⟨.badEscape, offset⟩
    else
      string quote start fuel (CodeUnits.pushScalar value c.toNat) legacy (offset + c.utf8Size) rest

/-- Adds the given number of characters, with line feeds for other ends of lines. -/
def pushSome (acc : Array UInt16) : List Char → (more : Nat) → Array UInt16
  | '\r' :: '\n' :: rest, more + 2 => pushSome (acc.push 10) rest more
  | c :: rest, more + 1 =>
    pushSome (if c = '\r' then acc.push 10 else CodeUnits.pushScalar acc c.toNat) rest more
  | _, _ => acc

/-- Reads a piece of a template, after the mark that opens it. -/
def template (opens : Bool) (start : Nat) :
    (fuel : Nat) → (cooked : Option (Array UInt16)) → (raw : Array UInt16) → Nat → List Char →
      Read Quoted
  | 0, _, _, _, _ => .error ⟨.unterminatedTemplate, start⟩
  | _ + 1, _, _, _, [] => .error ⟨.unterminatedTemplate, start⟩
  | _ + 1, cooked, raw, offset, '\x60' :: rest =>
    .ok ⟨.template ⟨cooked.map CodeUnits.mk, ⟨raw⟩⟩ opens true, offset + 1, rest⟩
  | _ + 1, cooked, raw, offset, '$' :: '\x7b' :: rest =>
    .ok ⟨.template ⟨cooked.map CodeUnits.mk, ⟨raw⟩⟩ opens false, offset + 2, rest⟩
  | fuel + 1, cooked, raw, offset, '\r' :: '\n' :: rest =>
    template opens start fuel (cooked.map (·.push 10)) (raw.push 10) (offset + 2) rest
  | fuel + 1, cooked, raw, offset, '\r' :: rest =>
    template opens start fuel (cooked.map (·.push 10)) (raw.push 10) (offset + 1) rest
  | fuel + 1, cooked, raw, offset, '\\' :: rest =>
    match rest with
    | [] => .error ⟨.unterminatedTemplate, start⟩
    | _ :: _ =>
      let e := escape rest
      let raw := pushSome (raw.push 0x5C) rest (rest.length - e.rest.length)
      let next := offset + 1 + e.width
      let cooked := match e.meaning with
        | .scalar n => cooked.map (CodeUnits.pushScalar · n)
        | .nothing => cooked
        | .legacy _ => none
        | .invalid => none
      template opens start fuel cooked raw next e.rest
  | fuel + 1, cooked, raw, offset, c :: rest =>
    template opens start fuel (cooked.map (CodeUnits.pushScalar · c.toNat))
      (CodeUnits.pushScalar raw c.toNat) (offset + c.utf8Size) rest

/-! ### Words -/

/-- A word that has been read. -/
structure WordRead where
  name : String
  escaped : Bool
  offset : Nat
  rest : List Char
  deriving Inhabited

/-- Reads a word from some point on. -/
def word : (fuel : Nat) → (name : String) → (escaped : Bool) → Nat → List Char → Read WordRead
  | 0, name, escaped, offset, cs => .ok ⟨name, escaped, offset, cs⟩
  | _ + 1, name, escaped, offset, [] => .ok ⟨name, escaped, offset, []⟩
  | fuel + 1, name, escaped, offset, c :: rest =>
    if c = '\\' then
      match rest with
      | 'u' :: after =>
        match codePoint? after with
        | some (n, width, after) =>
          let fits := if name.isEmpty then isIdentifierStart n else isIdentifierPart n
          if fits ∧ ¬ (0xD800 ≤ n ∧ n < 0xE000) then
            word fuel (name.push (Char.ofNat n)) true (offset + 2 + width) after
          else .error ⟨.badUnicodeEscape, offset + 1⟩
        | none => .error ⟨.badUnicodeEscape, offset + 1⟩
      | _ => .error ⟨.badUnicodeEscape, offset + 1⟩
    else if (if name.isEmpty then isIdentifierStart c.toNat else isIdentifierPart c.toNat) then
      word fuel (name.push c) escaped (offset + c.utf8Size) rest
    else .ok ⟨name, escaped, offset, c :: rest⟩

/-! ### Tokens -/

/-- Reads the token that starts at the given characters. -/
def token (newLine : Bool) (offset : Nat) (cs : List Char) : Read Token :=
  let make (kind : TokenKind) (stop : Nat) (rest : List Char) : Token :=
    ⟨kind, ⟨offset, stop⟩, newLine, cs, rest⟩
  match cs with
  | [] => .ok (make .eof offset [])
  | c :: rest =>
    let punct : Read Token :=
      match Punct.longest? cs with
      | some (p, rest) => .ok (make (.punct p) (offset + p.text.length) rest)
      | none => .error ⟨.badCharacter c, offset⟩
    if c = '"' ∨ c = '\'' then do
      let q ← string c offset (rest.length + 1) #[] false (offset + 1) rest
      .ok (make q.kind q.offset q.rest)
    else if c = '\x60' then do
      let q ← template true offset (rest.length + 1) (some #[]) #[] (offset + 1) rest
      .ok (make q.kind q.offset q.rest)
    else if c.isDigit then do
      let n ← number offset cs
      .ok (make n.kind n.offset n.rest)
    else if c = '.' then
      match rest with
      | d :: _ =>
        if d.isDigit then do
          let n ← fractionTail 0 (offset + 1) rest
          .ok (make n.kind n.offset n.rest)
        else punct
      | [] => punct
    else if c = '#' then do
      let w ← word (rest.length + 1) "" false (offset + 1) rest
      if w.name.isEmpty then
        match rest with
        | [] => .error ⟨.cutOffNumber, offset + 1⟩
        | d :: _ => .error ⟨.badCharacter d, offset + 1⟩
      else .ok (make (.privateName w.name) w.offset w.rest)
    else if c = '\\' ∨ isIdentifierStart c.toNat then do
      let w ← word (cs.length + 1) "" false offset cs
      .ok (make (.word w.name w.escaped) w.offset w.rest)
    else punct

/-- Skips blanks and comments, then reads one token. -/
def next (goal : Goal) (offset : Nat) (cs : List Char) : Read Token := do
  let g ← gap goal .blank false (offset == 0) offset cs
  token g.newLine g.offset g.rest

/-- A regular expression: its pattern, its flags and where it ends. -/
structure RegexRead where
  pattern : String
  flags : String
  offset : Nat
  rest : List Char
  deriving Inhabited

/-- Reads the pattern of a regular expression after the opening slash. -/
def regexBody (start : Nat) : (inClass escaped : Bool) → String → Nat → List Char →
    Read (String × Nat × List Char)
  | _, _, _, _, [] => .error ⟨.unterminatedRegex, start⟩
  | inClass, escaped, pattern, offset, c :: rest =>
    if isLineTerminator c then .error ⟨.unterminatedRegex, start⟩
    else if escaped then regexBody start inClass false (pattern.push c) (offset + c.utf8Size) rest
    else if c = '\\' then regexBody start inClass true (pattern.push c) (offset + 1) rest
    else if c = '[' then regexBody start true false (pattern.push c) (offset + 1) rest
    else if c = ']' then regexBody start false false (pattern.push c) (offset + 1) rest
    else if c = '/' ∧ !inClass then .ok (pattern, offset + 1, rest)
    else regexBody start inClass false (pattern.push c) (offset + c.utf8Size) rest

/-- Reads the flags of a regular expression. -/
def regexFlags : String → Nat → List Char → Read (String × Nat × List Char)
  | flags, offset, [] => .ok (flags, offset, [])
  | flags, offset, c :: rest =>
    if c.isAlphanum || c == '$' || c == '_' then
      if !"dgimsuvy".contains c then .error ⟨.badRegexFlag c, offset⟩
      else if flags.contains c then .error ⟨.repeatedRegexFlag c, offset⟩
      else regexFlags (flags.push c) (offset + 1) rest
    else .ok (flags, offset, c :: rest)

/-- Reads a regular expression from the slash that a token starts with. -/
def regex (slash : Token) : Read RegexRead := do
  let start := slash.span.start
  let body := if slash.isPunct .slashAssign then '=' :: slash.rest else slash.rest
  let (pattern, offset, rest) ← regexBody start false false "" (start + 1) body
  let (flags, offset, rest) ← regexFlags "" offset rest
  .ok ⟨pattern, flags, offset, rest⟩

/-- Reads on from the brace that ends a substitution of a template. -/
def templateTail (brace : Token) : Read Token := do
  let start := brace.span.start
  let q ← template false start (brace.rest.length + 1) (some #[]) #[] (start + 1) brace.rest
  .ok ⟨q.kind, ⟨start, q.offset⟩, brace.newLine, brace.text, q.rest⟩

/-- The source without the line that names its interpreter. -/
def skipHashbang : List Char → Nat × List Char
  | '#' :: '!' :: rest =>
    let line := rest.takeWhile fun c => !isLineTerminator c
    (2 + line.foldl (fun n c => n + c.utf8Size) 0, rest.dropWhile fun c => !isLineTerminator c)
  | cs => (0, cs)

/-- Reads the first token of a source. -/
def first (goal : Goal) (cs : List Char) : Read Token :=
  let (offset, rest) := skipHashbang cs
  next goal offset rest

end Lexer

end PatchSandbox.Script
