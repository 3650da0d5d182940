import PatchSandbox.Decimal
import PatchSandbox.Json.Reader
import PatchSandbox.Toml.Table

/-!
# Quoted texts and scalars

* A text between quotation marks has escapes, one between apostrophes has none. Three marks in
  a row begin a text of several lines, whose first line break is left out if nothing stands
  before it.
* Truth values, numbers, dates and times are written without quotes. **`Scalar.read`** reads
  the whole word, or tells that it is none of them. An underscore may stand between two digits. A
  whole number may have a sign, but does not start with a zero that other digits follow; with
  another base than ten it has no sign.
-/

/-! ### Quoted texts -/

namespace PatchSandbox.Toml.Quoted

/-- What a reader of text gives: the text and what follows. -/
abbrev Read := Option (List Char × List Char)

/-- Adds a character to the text that is read. -/
def Read.cons (c : Char) (r : Read) : Read := r.map fun (text, rest) => (c :: text, rest)

/-- Whether a character may not be written as it is. -/
def isControl (c : Char) : Bool := (c.toNat < 0x20 && c != '\t') || c.toNat = 0x7F

/-- The character of an escape with one letter. -/
def letterEscape? : Char → Option Char
  | 'b' => some '\x08'
  | 't' => some '\t'
  | 'n' => some '\n'
  | 'f' => some '\x0c'
  | 'r' => some '\r'
  | 'e' => some '\x1b'
  | '"' => some '"'
  | '\\' => some '\\'
  | _ => none

/-- The number of digits of an escape that gives the number of a character. -/
def escapeDigits? : Char → Option Nat
  | 'x' => some 2
  | 'u' => some 4
  | 'U' => some 8
  | _ => none

/-- The character that hexadecimal digits stand for. -/
def scalar? (digits : List Char) (count : Nat) : Option Char :=
  if digits.length = count ∧ digits.all (fun c => (Json.hexDigit? c).isSome) then
    let n := digits.foldl (fun n c => n * 16 + (Json.hexDigit? c).getD 0) 0
    if h : n.isValidChar then some (Char.ofNatAux n h) else none
  else none

/-- Reads the escape after a backslash. -/
def escape : List Char → Option (Char × List Char)
  | [] => none
  | c :: rest =>
    match letterEscape? c with
    | some d => some (d, rest)
    | none => do
      let count ← escapeDigits? c
      let d ← scalar? (rest.take count) count
      return (d, rest.drop count)

/-- Reads a text of one line up to its closing mark. -/
def line (mark : Char) (escapes : Bool) : Nat → List Char → Read
  | 0, _ => none
  | _, [] => none
  | n + 1, c :: rest =>
    if c = mark then some ([], rest)
    else if c = '\\' ∧ escapes then
      match escape rest with
      | some (d, rest) => (line mark escapes n rest).cons d
      | none => none
    else if isControl c then none
    else (line mark escapes n rest).cons c

/-- Skips blanks and line breaks. -/
def skipSpace (cs : List Char) : List Char :=
  cs.dropWhile fun c => c == ' ' || c == '\t' || c == '\n' || c == '\r'

/-- Takes a line break. -/
def lineBreak? : List Char → Option (List Char)
  | '\n' :: rest => some rest
  | '\r' :: '\n' :: rest => some rest
  | _ => none

/-- What follows a backslash at the end of a line: the rest from the next character that is no
blank. -/
def joinedLine? (cs : List Char) : Option (List Char) :=
  (lineBreak? (cs.dropWhile fun c => c == ' ' || c == '\t')).map skipSpace

/-- Reads the end of a text of several lines: up to two marks more belong to the text. -/
def closing (mark : Char) (rest : List Char) : List Char × List Char :=
  let more := min (rest.takeWhile (· == mark)).length 2
  (List.replicate more mark, rest.drop more)

/-- Reads a text of several lines up to its closing marks. -/
def lines (mark : Char) (escapes : Bool) : Nat → List Char → Read
  | 0, _ => none
  | _, [] => none
  | n + 1, c :: rest =>
    if c = mark then
      match rest with
      | d :: e :: rest =>
        if d = mark ∧ e = mark then some (closing mark rest)
        else (lines mark escapes n (d :: e :: rest)).cons c
      | _ => none
    else if c = '\\' ∧ escapes then
      match joinedLine? rest with
      | some rest => lines mark escapes n rest
      | none =>
        match escape rest with
        | some (d, rest) => (lines mark escapes n rest).cons d
        | none => none
    else
      match lineBreak? (c :: rest) with
      | some rest => (lines mark escapes n rest).cons '\n'
      | none => if isControl c then none else (lines mark escapes n rest).cons c

/-- Reads a text from its opening mark on, of one line. -/
def single : List Char → Read
  | '"' :: rest => line '"' true (rest.length + 1) rest
  | '\'' :: rest => line '\'' false (rest.length + 1) rest
  | _ => none

/-- Reads a text from its opening mark on. -/
def read (cs : List Char) : Read :=
  match cs with
  | '"' :: '"' :: '"' :: rest =>
    let rest := (lineBreak? rest).getD rest
    lines '"' true (rest.length + 1) rest
  | '\'' :: '\'' :: '\'' :: rest =>
    let rest := (lineBreak? rest).getD rest
    lines '\'' false (rest.length + 1) rest
  | cs => single cs

end PatchSandbox.Toml.Quoted

/-! ### Values without quotes -/

namespace PatchSandbox.Toml.Scalar

/-- The digits of a word, of which underscores may separate two; there has to be one. -/
def digits (isDigit : Char → Bool) : List Char → Option (List Char)
  | [] => none
  | [c] => if isDigit c then some [c] else none
  | c :: '_' :: rest => if isDigit c then (digits isDigit rest).map (c :: ·) else none
  | c :: rest => if isDigit c then (digits isDigit rest).map (c :: ·) else none

/-- The number that digits stand for. -/
def valueOf (base : Nat) (ds : List Char) : Nat :=
  ds.foldl (fun n c => n * base + (Json.hexDigit? c).getD 0) 0

/-- Whether a character is a digit to a base. -/
def isDigitOf (base : Nat) (c : Char) : Bool :=
  match Json.hexDigit? c with
  | some d => d < base
  | none => false

/-- A number to a base. -/
def natural (base : Nat) (cs : List Char) : Option Nat :=
  (digits (isDigitOf base) cs).map (valueOf base)

/-- Takes a sign. -/
def sign : List Char → Bool × List Char
  | '-' :: cs => (true, cs)
  | '+' :: cs => (false, cs)
  | cs => (false, cs)

/-- Whether digits start with a zero that is not the only one. -/
def hasLeadingZero : List Char → Bool
  | '0' :: _ :: _ => true
  | _ => false

/-- A whole number to the base ten. -/
def integer (cs : List Char) : Option Int := do
  let (negative, cs) := sign cs
  let ds ← digits Char.isDigit cs
  if hasLeadingZero ds then none
  else
    let n := valueOf 10 ds
    return if negative then -(n : Int) else n

/-- A whole number. -/
def anyInteger : List Char → Option Int
  | '0' :: 'x' :: cs => (natural 16 cs).map Int.ofNat
  | '0' :: 'o' :: cs => (natural 8 cs).map Int.ofNat
  | '0' :: 'b' :: cs => (natural 2 cs).map Int.ofNat
  | cs => integer cs

/-- Takes what comes before one of some characters, and what comes after it. -/
def splitAt? (isSplit : Char → Bool) (cs : List Char) : List Char × Option (List Char) :=
  match cs.dropWhile (!isSplit ·) with
  | [] => (cs, none)
  | _ :: rest => (cs.takeWhile (!isSplit ·), some rest)

/-- The exponent of a number, which may have leading zeros. -/
def exponent (cs : List Char) : Option Int := do
  let (negative, cs) := sign cs
  let n := valueOf 10 (← digits Char.isDigit cs)
  return if negative then -(n : Int) else n

/-- A number with a fraction or an exponent. -/
def fractional (cs : List Char) : Option Value := do
  let (negative, cs) := sign cs
  let (mantissa, power) := splitAt? (fun c => c == 'e' || c == 'E') cs
  let (whole, fraction) := splitAt? (· == '.') mantissa
  if power.isNone && fraction.isNone then none
  else
    let whole ← digits Char.isDigit whole
    if hasLeadingZero whole then none
    else
      let fraction ← match fraction with
        | none => some []
        | some cs => digits Char.isDigit cs
      let e ← match power with
        | none => some 0
        | some cs => exponent cs
      let digits := valueOf 10 (whole ++ fraction)
      let f := (Decimal.Scientific.mk digits (e - fraction.length)).toFloat
      return if f.isInf then .hugeFloat else .float (if negative then -f else f)

/-- A number that is none, or one without bounds. -/
def special (cs : List Char) : Option Float :=
  let (negative, word) := sign cs
  match word with
  | ['i', 'n', 'f'] => some (if negative then -1.0 / 0.0 else 1.0 / 0.0)
  | ['n', 'a', 'n'] => some (if negative then -(0.0 / 0.0) else 0.0 / 0.0)
  | _ => none

/-! ### Dates and times -/

/-- Exactly so many digits. -/
def fixed : Nat → List Char → Option (Nat × List Char)
  | n, cs =>
    let ds := cs.take n
    if ds.length = n ∧ ds.all Char.isDigit then some (valueOf 10 ds, cs.drop n) else none

/-- A character that has to be there. -/
def mark (c : Char) : List Char → Option (List Char)
  | d :: rest => if c = d then some rest else none
  | [] => none

/-- The number of days of a month. -/
def daysOf (year month : Nat) : Nat :=
  if month = 2 then
    if year % 4 = 0 ∧ (year % 100 ≠ 0 ∨ year % 400 = 0) then 29 else 28
  else if month = 4 ∨ month = 6 ∨ month = 9 ∨ month = 11 then 30
  else 31

/-- Takes a date. -/
def date (cs : List Char) : Option (List Char) := do
  let (year, cs) ← fixed 4 cs
  let (month, cs) ← fixed 2 (← mark '-' cs)
  let (day, cs) ← fixed 2 (← mark '-' cs)
  if 1 ≤ month ∧ month ≤ 12 ∧ 1 ≤ day ∧ day ≤ daysOf year month then some cs else none

/-- Takes a time of the day. Seconds may be left out. -/
def time (cs : List Char) : Option (List Char) := do
  let (hour, cs) ← fixed 2 cs
  let (minute, cs) ← fixed 2 (← mark ':' cs)
  if 24 ≤ hour ∨ 60 ≤ minute then none
  else
    match cs with
    | ':' :: cs =>
      let (second, cs) ← fixed 2 cs
      if 61 ≤ second then none
      else
        match cs with
        | '.' :: cs =>
          if (cs.takeWhile Char.isDigit).isEmpty then none else some (cs.dropWhile Char.isDigit)
        | cs => some cs
    | cs => some cs

/-- Takes the offset of a time, if there is one, and tells if nothing follows. -/
def endsWithOffset : List Char → Bool
  | [] => true
  | ['Z'] => true
  | ['z'] => true
  | c :: cs =>
    if c = '+' ∨ c = '-' then
      match fixed 2 cs with
      | some (hour, ':' :: cs) =>
        match fixed 2 cs with
        | some (minute, []) => hour < 24 && minute < 60
        | _ => false
      | _ => false
    else false

/-- Whether a character stands between a date and a time. -/
def isDateEnd (c : Char) : Bool := c == 'T' || c == 't' || c == ' '

/-- Whether a word is a date, a time, or both. -/
def isDatetime (cs : List Char) : Bool :=
  match date cs with
  | some [] => true
  | some (c :: rest) => isDateEnd c && ((time rest).map endsWithOffset).getD false
  | none => time cs == some []

/-- What a word stands for. -/
def read (word : List Char) : Option Value :=
  if word = "true".toList then some (.boolean true)
  else if word = "false".toList then some (.boolean false)
  else
    match anyInteger word with
    | some i => some (.integer i)
    | none =>
      match special word with
      | some f => some (.float f)
      | none =>
        match fractional word with
        | some v => some v
        | none => if isDatetime word then some (.datetime (String.ofList word)) else none

/-- Whether a character may be part of a word. -/
def isWordChar (c : Char) : Bool :=
  c.isAlphanum || c == '_' || c == '-' || c == '+' || c == '.' || c == ':'

/-- Takes a word. A blank between a date and a time belongs to it. -/
def takeWord (cs : List Char) : List Char × List Char :=
  let word := cs.takeWhile isWordChar
  match date word, cs.dropWhile isWordChar with
  | some [], ' ' :: d :: rest =>
    if d.isDigit then
      (word ++ ' ' :: (d :: rest).takeWhile isWordChar, (d :: rest).dropWhile isWordChar)
    else (word, ' ' :: d :: rest)
  | _, rest => (word, rest)

end PatchSandbox.Toml.Scalar
