import PatchSandbox.Decimal
import PatchSandbox.Text.CodeUnits

/-!
# Numbers of scripts

* Reading: **`readNumber`** takes a whole text, **`readDecimalPrefix`** as much of it as is a
  decimal.
* Writing: **`numberText`** with the fewest digits that read back; **`fixedText`**,
  **`exponentText`** and **`precisionText`** with a given number of digits, where a half goes
  up; **`radixText`** to another base.
* Arithmetic that doubles do not bring along: the whole part, the remainder of a division,
  the bits of a whole number.
-/

namespace PatchSandbox.Machine

open PatchSandbox.Text (CodeUnits)
open PatchSandbox.Decimal (Dyadic Scientific)

/-- What is no number. -/
def notANumber : Float := Float.ofBits 0x7FF8000000000000

/-- Beyond all numbers. -/
def infinity : Float := Float.ofBits 0x7FF0000000000000

/-- Whether the sign of a number is negative, also of a zero. -/
def isNegative (x : Float) : Bool := x.toBits ≥ 0x8000000000000000

/-- Without the digits after the point. -/
def truncated (x : Float) : Float := if x < 0 then x.ceil else x.floor

/-- Whether a number has no digits after the point. -/
def isIntegral (x : Float) : Bool := x.isFinite && x.floor == x

/-- The whole part of a number, exactly; what is not finite counts as zero. -/
def wholePart (x : Float) : Int :=
  if x.isFinite then
    if x.abs < 4611686018427387904 then x.toInt64.toInt
    else
      let d := Dyadic.ofBits x.toBits
      let n : Int := d.mantissa * Nat.pow 2 d.exponent.toNat
      if x < 0 then -n else n
  else 0

/-- The low bits of a whole number. -/
def toUInt32 (x : Float) : UInt32 := UInt32.ofNat ((wholePart x) % 4294967296).toNat

/-- The low bits of a whole number, with a sign. -/
def toInt32 (x : Float) : Int32 := (toUInt32 x).toInt32

/-- The double of a whole number. -/
def floatOfInt32 (n : Int32) : Float := Float.ofInt n.toInt

/-- The double of a whole number. -/
def floatOfUInt32 (n : UInt32) : Float := Float.ofNat n.toNat

/-- The remainder of a division that is rounded towards zero. -/
def remainder (x y : Float) : Float :=
  if x.isNaN || y.isNaN || x.isInf || y == 0 then notANumber
  else if y.isInf || x == 0 then x
  else
    let a := Dyadic.ofBits x.toBits
    let b := Dyadic.ofBits y.toBits
    let e := min a.exponent b.exponent
    let m := a.mantissa * Nat.pow 2 (a.exponent - e).toNat
    let n := b.mantissa * Nat.pow 2 (b.exponent - e).toNat
    let r := m % n
    let value :=
      if 0 ≤ e then Decimal.nearest (r * Nat.pow 2 e.toNat) 1
      else Decimal.nearest r (Nat.pow 2 (-e).toNat)
    if isNegative x then -value else value

/-- A power; one raised to what is not finite is no number. -/
def power (x y : Float) : Float :=
  if y.isNaN then notANumber
  else if y == 0 then 1
  else if x.abs == 1 && y.isInf then notANumber
  else x.pow y

/-! ### Writing -/

/-- The text of a number with the fewest digits that read back. -/
def numberText (x : Float) : String :=
  if x.isNaN then "NaN"
  else if x.isInf then (if x < 0 then "-Infinity" else "Infinity")
  else if x == 0 then "0"
  else Decimal.Layout.script.writeFloat x

/-- The quotient rounded to the nearest whole number, a half up. -/
def roundHalfUp (num den : Nat) : Nat := (2 * num + den) / (2 * den)

/-- The magnitude of a finite number as a fraction. -/
def fractionOf (x : Float) : Nat × Nat :=
  let d := Dyadic.ofBits x.toBits
  if 0 ≤ d.exponent then (d.mantissa * Nat.pow 2 d.exponent.toNat, 1)
  else (d.mantissa, Nat.pow 2 (-d.exponent).toNat)

/-- Digits with a point before the last `n` of them. -/
def withPoint (digits n : Nat) : String :=
  let ds := Nat.toDigits 10 digits
  let ds := List.replicate (n + 1 - ds.length) '0' ++ ds
  if n = 0 then String.ofList ds
  else String.ofList (ds.take (ds.length - n)) ++ "." ++ String.ofList (ds.drop (ds.length - n))

/-- The text with `n` digits after the point. -/
def fixedText (x : Float) (n : Nat) : String :=
  let (num, den) := fractionOf x
  let digits := roundHalfUp (num * Nat.pow 10 n) den
  (if x < 0 then "-" else "") ++ withPoint digits n

/-- The exponent of the first digit of a positive fraction, found from a guess. -/
def leadingExponent (num den : Nat) : Int :=
  let guess : Int := (((num.log2 : Int) - den.log2) * 30103) / 100000
  let atLeast (e : Int) : Bool :=
    if 0 ≤ e then den * Nat.pow 10 e.toNat ≤ num else den ≤ num * Nat.pow 10 (-e).toNat
  if atLeast (guess + 1) then guess + 1 else if atLeast guess then guess else guess - 1

/-- The first `n` digits of a positive fraction, rounded, and the exponent of the first. -/
def leadingDigits (num den n : Nat) : Nat × Int :=
  if num = 0 then (0, 0)
  else
    let e := leadingExponent num den
    let shift : Int := (n : Int) - 1 - e
    let digits :=
      if 0 ≤ shift then roundHalfUp (num * Nat.pow 10 shift.toNat) den
      else roundHalfUp num (den * Nat.pow 10 (-shift).toNat)
    if Nat.pow 10 n ≤ digits then (digits / 10, e + 1) else (digits, e)

/-- An exponent with its sign. -/
def exponentPart (e : Int) : String :=
  "e" ++ (if e < 0 then "-" else "+") ++ toString e.natAbs

/-- The text with an exponent and `n` digits after the point. -/
def exponentText (x : Float) (n : Nat) : String :=
  let (num, den) := fractionOf x
  let (digits, e) := leadingDigits num den (n + 1)
  (if x < 0 then "-" else "") ++ withPoint digits n ++ exponentPart e

/-- The text with an exponent and the fewest digits that read back. -/
def shortExponentText (x : Float) : String :=
  let s := Decimal.shortest x
  let n := (Nat.toDigits 10 s.digits).length - 1
  (if x < 0 then "-" else "") ++ withPoint s.digits n ++
    exponentPart (if s.digits = 0 then 0 else s.exponent + n)

/-- The text with `n` digits in all. -/
def precisionText (x : Float) (n : Nat) : String :=
  let (num, den) := fractionOf x
  let (digits, e) := leadingDigits num den n
  let sign := if x < 0 then "-" else ""
  if e < -6 || (n : Int) ≤ e then sign ++ withPoint digits (n - 1) ++ exponentPart e
  else if 0 ≤ e then sign ++ withPoint digits ((n : Int) - 1 - e).toNat
  else
    sign ++ "0." ++ String.ofList (List.replicate (-e - 1).toNat '0') ++
      withPoint digits 0

/-- A digit of a base up to thirty-six. -/
def radixDigit (d : Nat) : Char := Char.ofNat (if d < 10 then 48 + d else 87 + d)

/-- The digits of a whole number to a base, from the last on. -/
def radixDigits (base : Nat) : Nat → Nat → List Char → List Char
  | 0, _, acc => acc
  | n + 1, x, acc =>
    if x = 0 then acc else radixDigits base n (x / base) (radixDigit (x % base) :: acc)

/-- A whole number to a base. -/
def naturalRadixText (x base : Nat) : String :=
  if x = 0 then "0" else String.ofList (radixDigits base (x.log2 + 1) x [])

/-- Digits after the point to a base, the last first, as many as tell the number from its
neighbours, and whether what follows them rounds up. -/
def radixFraction (base : Float) : Nat → Float → Float → List Nat → List Nat × Bool
  | 0, _, _, acc => (acc, false)
  | n + 1, fraction, delta, acc =>
    let delta := delta * base
    let digit := (fraction * base).floor
    let acc := digit.toUInt64.toNat :: acc
    let fraction := fraction * base - digit
    let up := fraction > 0.5 || (fraction == 0.5 && digit.toUInt64 % 2 == 1)
    if up && fraction + delta > 1 then (acc, true)
    else if fraction ≥ delta then radixFraction base n fraction delta acc
    else (acc, false)

/-- Adds one to the last of some digits, the last first: the digits, and what is carried. -/
def incrementDigits (base : Nat) : List Nat → List Nat × Nat
  | [] => ([], 1)
  | d :: rest => if d + 1 < base then ((d + 1) :: rest, 0) else incrementDigits base rest

/-- A number to a base. -/
def radixText (x : Float) (base : Nat) : String :=
  if x.isNaN then "NaN"
  else if x.isInf then (if x < 0 then "-Infinity" else "Infinity")
  else
    let sign := if x < 0 then "-" else ""
    let a := x.abs
    let whole := (wholePart a).toNat
    let fraction := a - a.floor
    let next := Float.ofBits (a.toBits + 1)
    let delta := max (0.5 * (next - a)) (Float.ofBits 1)
    if fraction < delta then sign ++ naturalRadixText whole base
    else
      let (digits, up) := radixFraction (Float.ofNat base) 1100 fraction delta []
      let (digits, carried) := if up then incrementDigits base digits else (digits, 0)
      let digits := digits.reverse
      sign ++ naturalRadixText (whole + carried) base ++
        (if digits.isEmpty then "" else "." ++ String.ofList (digits.map radixDigit))

/-! ### Reading -/

/-- The value of a digit to a base up to thirty-six. -/
def digitValue (c : UInt16) : Option Nat :=
  let n := c.toNat
  if 48 ≤ n && n ≤ 57 then some (n - 48)
  else if 97 ≤ n && n ≤ 122 then some (n - 87)
  else if 65 ≤ n && n ≤ 90 then some (n - 55)
  else none

/-- Reads digits of a base from an index on: their value, how many there are, and the index
after them. -/
def readDigits (u : CodeUnits) (base : Nat) : Nat → Nat → Nat → Nat → Nat × Nat × Nat
  | 0, i, value, count => (value, count, i)
  | n + 1, i, value, count =>
    match (u.get? i).bind digitValue with
    | some d =>
      if d < base then readDigits u base n (i + 1) (value * base + d) (count + 1)
      else (value, count, i)
    | none => (value, count, i)

/-- Whether a text stands at an index. -/
def hasAt (u : CodeUnits) (i : Nat) (text : String) : Bool :=
  u.matchesAt (CodeUnits.ofString text) i

/-- Reads a decimal without a sign at an index: its value and the index after it. -/
def readUnsigned (u : CodeUnits) (i : Nat) : Option (Float × Nat) :=
  if hasAt u i "Infinity" then some (infinity, i + 8)
  else
    let n := u.size
    let (whole, count, j) := readDigits u 10 n i 0 0
    let (digits, places, count, j) :=
      if u.get? j == some 46 then
        let (value, more, k) := readDigits u 10 n (j + 1) whole 0
        (value, more, count + more, k)
      else (whole, 0, count, j)
    if count = 0 then none
    else
      let (exponent, j) : Int × Nat :=
        if u.get? j == some 101 || u.get? j == some 69 then
          let negative := u.get? (j + 1) == some 45
          let signed := negative || u.get? (j + 1) == some 43
          let (value, more, k) := readDigits u 10 n (if signed then j + 2 else j + 1) 0 0
          if more = 0 then (0, j) else (if negative then -(value : Int) else value, k)
        else (0, j)
      some ((Scientific.mk digits (exponent - places)).toFloat, j)

/-- Reads a decimal at the start of a text: its value and the index after it. -/
def readDecimalPrefix (u : CodeUnits) : Option (Float × Nat) :=
  if u.get? 0 == some 45 then (readUnsigned u 1).map fun (x, i) => (-x, i)
  else if u.get? 0 == some 43 then readUnsigned u 1
  else readUnsigned u 0

/-- The base that a mark at the start of a text announces. -/
def markedBase (u : CodeUnits) : Option Nat :=
  if u.get? 0 != some 48 then none
  else
    match u.get? 1 with
    | some c =>
      if c == 120 || c == 88 then some 16
      else if c == 111 || c == 79 then some 8
      else if c == 98 || c == 66 then some 2
      else none
    | none => none

/-- Reads a whole text, but for blanks around it, as a number. -/
def readNumber (u : CodeUnits) : Float :=
  let u := u.trim
  if u.isEmpty then 0
  else
    match markedBase u with
    | some base =>
      let (value, count, i) := readDigits u base u.size 2 0 0
      if count > 0 && i == u.size then Decimal.nearest value 1 else notANumber
    | none =>
      match readDecimalPrefix u with
      | some (x, i) => if i == u.size then x else notANumber
      | none => notANumber

/-- Reads a whole text, but for blanks around it, as a whole number of any size. -/
def readBigint (u : CodeUnits) : Option Int :=
  let u := u.trim
  if u.isEmpty then some 0
  else
    match markedBase u with
    | some base =>
      let (value, count, i) := readDigits u base u.size 2 0 0
      if count > 0 && i == u.size then some value else none
    | none =>
      let negative := u.get? 0 == some 45
      let start := if negative || u.get? 0 == some 43 then 1 else 0
      let (value, count, i) := readDigits u 10 u.size start 0 0
      if count > 0 && i == u.size then some (if negative then -(value : Int) else value) else none

end PatchSandbox.Machine
