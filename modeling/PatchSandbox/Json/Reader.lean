import PatchSandbox.Json.Value
import PatchSandbox.Decimal

/-!
# Reading JSON text

A strict reader: the grammar of RFC 8259 and nothing else. Numbers beyond the range
of doubles, lone surrogate escapes and too deep nesting are refused.

* **`ReadError`** tells a text that ended too early from one that is wrong.
* **`Json.parse depth`** admits `depth` nested arrays and objects.
-/

namespace PatchSandbox

/-- Why a text is not JSON. -/
inductive ReadError where
  /-- The text ended inside a value. -/
  | cutOff
  /-- A character does not fit the grammar, or a limit is exceeded. -/
  | malformed
  deriving DecidableEq, Repr, Inhabited

namespace Json

/-- Reads characters with an error. -/
abbrev Read (α : Type) := Except ReadError (α × List Char)

/-- The four blanks of JSON. -/
def isBlank (c : Char) : Bool := c == ' ' || c == '\n' || c == '\r' || c == '\t'

/-- The rest after leading blanks. -/
def skipBlanks (cs : List Char) : List Char := cs.dropWhile isBlank

/-- The error at the head of a text that does not go on as it must. -/
def stop {α : Type} : List Char → Except ReadError α
  | [] => .error .cutOff
  | _ :: _ => .error .malformed

/-- Reads exactly the given characters. -/
def word : List Char → List Char → Except ReadError (List Char)
  | [], cs => .ok cs
  | w :: ws, c :: cs => if w = c then word ws cs else .error .malformed
  | _ :: _, [] => .error .cutOff

/-- The value of a hexadecimal digit. -/
def hexDigit? (c : Char) : Option Nat :=
  if '0' ≤ c ∧ c ≤ '9' then some (c.toNat - 48)
  else if 'a' ≤ c ∧ c ≤ 'f' then some (c.toNat - 87)
  else if 'A' ≤ c ∧ c ≤ 'F' then some (c.toNat - 55)
  else none

/-- Reads `n` hexadecimal digits. -/
def hex : Nat → Nat → List Char → Read Nat
  | 0, acc, cs => .ok (acc, cs)
  | n + 1, acc, cs =>
    match cs with
    | [] => .error .cutOff
    | c :: rest =>
      match hexDigit? c with
      | some d => hex n (acc * 16 + d) rest
      | none => .error .malformed

/-- The character of a `\u` escape whose `\u` has been read. A leading surrogate needs
its trailing one. -/
def unicodeEscape (cs : List Char) : Except ReadError (Char × List Char) := do
  let (n, rest) ← hex 4 0 cs
  if 0xDC00 ≤ n ∧ n < 0xE000 then .error .malformed
  else if 0xD800 ≤ n ∧ n < 0xDC00 then
    let rest ← word ['\\', 'u'] rest
    let (m, rest) ← hex 4 0 rest
    if 0xDC00 ≤ m ∧ m < 0xE000 then
      .ok (Char.ofNat (0x10000 + (n - 0xD800) * 0x400 + (m - 0xDC00)), rest)
    else .error .malformed
  else .ok (Char.ofNat n, rest)

/-- The character of a one-letter escape. -/
def simpleEscape? : Char → Option Char
  | '"' => some '"'
  | '\\' => some '\\'
  | '/' => some '/'
  | 'b' => some '\x08'
  | 'f' => some '\x0c'
  | 'n' => some '\n'
  | 'r' => some '\r'
  | 't' => some '\t'
  | _ => none

/-- Reads a string whose opening quote has been read. -/
def stringTail : Nat → String → List Char → Read String
  | 0, _, _ => .error .cutOff
  | _ + 1, _, [] => .error .cutOff
  | _ + 1, acc, '"' :: rest => .ok (acc, rest)
  | _ + 1, _, ['\\'] => .error .cutOff
  | n + 1, acc, '\\' :: 'u' :: rest =>
    match unicodeEscape rest with
    | .ok (c, rest) => stringTail n (acc.push c) rest
    | .error e => .error e
  | n + 1, acc, '\\' :: c :: rest =>
    match simpleEscape? c with
    | some d => stringTail n (acc.push d) rest
    | none => .error .malformed
  | n + 1, acc, c :: rest =>
    if c.toNat < 0x20 then .error .malformed else stringTail n (acc.push c) rest

/-- Reads decimal digits onto a number; also tells how many there are. -/
def digits : List Char → Nat → Nat → Nat × Nat × List Char
  | c :: cs, acc, count =>
    if c.isDigit then digits cs (acc * 10 + (c.toNat - 48)) (count + 1) else (acc, count, c :: cs)
  | [], acc, count => (acc, count, [])

/-- Reads an exponent part, if there is one. -/
def exponentPart (cs : List Char) : Read (Option Int) :=
  match cs with
  | c :: rest =>
    if c = 'e' ∨ c = 'E' then
      let (negative, rest) := match rest with
        | '-' :: r => (true, r)
        | '+' :: r => (false, r)
        | r => (false, r)
      let (value, count, rest) := digits rest 0 0
      if count = 0 then stop rest
      else .ok (some (if negative then -(value : Int) else value), rest)
    else .ok (none, c :: rest)
  | [] => .ok (none, [])

/-- Reads a fraction part onto the digits so far; also tells how many digits it has. -/
def fractionPart (acc : Nat) (cs : List Char) : Read (Nat × Nat) :=
  match cs with
  | '.' :: rest =>
    let (value, count, rest) := digits rest acc 0
    if count = 0 then stop rest else .ok ((value, count), rest)
  | rest => .ok ((acc, 0), rest)

/-- A number from its parts. Whole texts that fit sixty-four bits are integers; minus
zero is a double. -/
def numberOf (negative : Bool) (value places : Nat) (exponent : Option Int) :
    Except ReadError Number :=
  let asFloat : Except ReadError Number :=
    let f := (Decimal.Scientific.mk value (exponent.getD 0 - places)).toFloat
    if f.isInf then .error .malformed else .ok (.float (if negative then -f else f))
  match places, exponent with
  | 0, none =>
    if negative then
      if value = 0 ∨ Nat.pow 2 63 < value then asFloat else .ok (.int (-(value : Int)))
    else if value < Nat.pow 2 64 then .ok (.int value) else asFloat
  | _, _ => asFloat

/-- Reads a number. -/
def number (cs : List Char) : Except ReadError (Number × List Char) := do
  let (negative, cs) := match cs with
    | '-' :: r => (true, r)
    | r => (false, r)
  let (value, rest) ← match cs with
    | '0' :: d :: rest => if d.isDigit then .error .malformed else .ok (0, d :: rest)
    | _ =>
      let (value, count, rest) := digits cs 0 0
      if count = 0 then stop rest else .ok (value, rest)
  let ((value, places), rest) ← fractionPart value rest
  let (exponent, rest) ← exponentPart rest
  let n ← numberOf negative value places exponent
  .ok (n, rest)

mutual

/-- Reads one value; `depth` more containers may open. -/
def value : Nat → Nat → List Char → Read Json
  | 0, _, _ => .error .malformed
  | fuel + 1, depth, cs =>
    match skipBlanks cs with
    | [] => .error .cutOff
    | 'n' :: rest => (word ['u', 'l', 'l'] rest).map (Json.null, ·)
    | 't' :: rest => (word ['r', 'u', 'e'] rest).map (Json.bool true, ·)
    | 'f' :: rest => (word ['a', 'l', 's', 'e'] rest).map (Json.bool false, ·)
    | '"' :: rest => (stringTail (rest.length + 1) "" rest).map fun (s, r) => (Json.str s, r)
    | '[' :: rest =>
      if depth = 0 then .error .malformed
      else
        match skipBlanks rest with
        | ']' :: rest => .ok (.arr [], rest)
        | rest => elements fuel (depth - 1) [] rest
    | '\x7b' :: rest =>
      if depth = 0 then .error .malformed
      else
        match skipBlanks rest with
        | '\x7d' :: rest => .ok (.obj [], rest)
        | rest => members fuel (depth - 1) [] rest
    | c :: rest =>
      if c = '-' ∨ c.isDigit then (number (c :: rest)).map fun (n, r) => (Json.num n, r)
      else .error .malformed

/-- Reads the elements of an array up to its end. -/
def elements : Nat → Nat → List Json → List Char → Read Json
  | 0, _, _, _ => .error .malformed
  | fuel + 1, depth, acc, cs =>
    match value fuel depth cs with
    | .error e => .error e
    | .ok (v, rest) =>
      match skipBlanks rest with
      | ',' :: rest => elements fuel depth (v :: acc) rest
      | ']' :: rest => .ok (.arr (v :: acc).reverse, rest)
      | rest => stop rest

/-- Reads the members of an object up to its end. -/
def members : Nat → Nat → List (String × Json) → List Char → Read Json
  | 0, _, _, _ => .error .malformed
  | fuel + 1, depth, acc, cs =>
    match skipBlanks cs with
    | '"' :: rest =>
      match stringTail (rest.length + 1) "" rest with
      | .error e => .error e
      | .ok (key, rest) =>
        match skipBlanks rest with
        | ':' :: rest =>
          match value fuel depth rest with
          | .error e => .error e
          | .ok (v, rest) =>
            match skipBlanks rest with
            | ',' :: rest => members fuel depth ((key, v) :: acc) rest
            | '\x7d' :: rest => .ok (Json.object ((key, v) :: acc).reverse, rest)
            | rest => stop rest
        | rest => stop rest
    | rest => stop rest

end

/-- Reads characters as one JSON value with at most `depth` nested containers. -/
def parseList (depth : Nat) (cs : List Char) : Except ReadError Json :=
  match value (2 * cs.length + 2) depth cs with
  | .error e => .error e
  | .ok (v, rest) => if (skipBlanks rest).isEmpty then .ok v else .error .malformed

/-- The nesting that texts from outside may have. -/
def maxDepth : Nat := 127

/-- Reads a text as one JSON value. -/
def parse (s : String) (depth : Nat := maxDepth) : Except ReadError Json :=
  parseList depth s.toList

end Json

end PatchSandbox
