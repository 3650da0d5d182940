/-!
# Decimals

The decimal text of a double is the one with the fewest digits that reads back as
the same double, and of those the nearest to it.

* **`Dyadic`** is a positive value `mantissa · 2 ^ exponent`, together with the
  information how far its neighbours are.
* **`Dyadic.shortest`** tests, for one digit, two digits and so on, the two points
  of that decimal grid around the value. The first grid with a point inside the
  rounding interval wins; of two such points the nearer does, and an exact tie goes
  to the even digit.
* **`nearest num den`** is the double nearest to the fraction `num / den`, ties to the even
  mantissa. **`Scientific.toFloat`** applies it to a decimal.
* How a decimal is written is a choice of the text it goes into. One **`Layout`** holds
  those choices, and each text that contains numbers names its own.

Everything is exact arithmetic on natural numbers.
-/

/-! ### Shortest decimals -/

namespace PatchSandbox.Decimal

/-- The value `digits · 10 ^ exponent`. -/
structure Scientific where
  digits : Nat
  exponent : Int
  deriving DecidableEq, Repr, Inhabited

/-- The same value without trailing zeros, at most `n` of them. -/
def Scientific.strip : Nat → Scientific → Scientific
  | 0, s => s
  | n + 1, s =>
    if s.digits ≠ 0 ∧ s.digits % 10 = 0 then strip n ⟨s.digits / 10, s.exponent + 1⟩ else s

/-- The value `mantissa · 2 ^ exponent`; `narrow` says that the next double below is
only half as far away as the next one above. -/
structure Dyadic where
  mantissa : Nat
  exponent : Int
  narrow : Bool
  deriving DecidableEq, Repr, Inhabited

namespace Dyadic

/-- The finite magnitude that the bits of a double stand for. -/
def ofBits (bits : UInt64) : Dyadic :=
  let fraction : Nat := bits.toNat % Nat.pow 2 52
  let biased : Nat := bits.toNat / Nat.pow 2 52 % Nat.pow 2 11
  if biased = 0 then ⟨fraction, -1074, false⟩
  else ⟨fraction + Nat.pow 2 52, (biased : Int) - 1075, fraction == 0 && biased != 1⟩

/-- The quotient `n / d` with `n / d = mantissa · 4 · 2 ^ (exponent - 2) / 10 ^ e`
kept as a fraction: four times the mantissa is multiplied by the first part, and the
second part divides. -/
def scale (x : Dyadic) (e : Int) : Nat × Nat :=
  let two := x.exponent - 2
  ((if 0 ≤ two then Nat.pow 2 two.toNat else 1) * (if e < 0 then Nat.pow 10 (-e).toNat else 1),
   (if 0 ≤ two then 1 else Nat.pow 2 (-two).toNat) * (if e < 0 then 1 else Nat.pow 10 e.toNat))

/-- The decimal exponent of the leading digit. -/
def magnitude (x : Dyadic) : Int :=
  let guess := ((x.mantissa.log2 : Int) + x.exponent) * 30103 / 100000
  let (n, d) := x.scale (guess + 1)
  if 4 * x.mantissa * n ≥ d then guess + 1
  else
    let (n, d) := x.scale guess
    if 4 * x.mantissa * n ≥ d then guess else guess - 1

/-- Whether the grid point `g` of spacing `10 ^ e` rounds to the value, where
`(n, d) = x.scale e`. The ends of the interval round to it iff the mantissa is even. -/
def rounds (x : Dyadic) (n d g : Nat) : Bool :=
  let low := (4 * x.mantissa - (if x.narrow then 1 else 2)) * n
  let high := (4 * x.mantissa + 2) * n
  if x.mantissa % 2 = 0 then low ≤ g * d && g * d ≤ high else low < g * d && g * d < high

/-- The better of the two points around the value on the grid of spacing `10 ^ e`. -/
def pick (x : Dyadic) (e : Int) : Option Scientific :=
  let (n, d) := x.scale e
  let v := 4 * x.mantissa * n
  let g := v / d
  let below := 0 < g && x.rounds n d g
  let above := x.rounds n d (g + 1)
  let up := above && (!below || (let r := 2 * (v - g * d); d < r || (d = r && g % 2 = 1)))
  if up then some ⟨g + 1, e⟩ else if below then some ⟨g, e⟩ else none

/-- Tries grids of ever more digits; seventeen always suffice. -/
def search (x : Dyadic) : Nat → Int → Scientific
  | 0, e => (x.pick e).getD ⟨x.mantissa, 0⟩
  | n + 1, e =>
    match x.pick e with
    | some s => s
    | none => search x n (e - 1)

/-- The shortest decimal of a nonzero value. The upper point of a grid may be the next
power of ten, so trailing zeros go last. -/
def shortest (x : Dyadic) : Scientific :=
  Scientific.strip 18 (x.search 18 x.magnitude)

end Dyadic

/-- The shortest decimal of a finite double's magnitude. -/
def shortest (f : Float) : Scientific :=
  let x := Dyadic.ofBits f.toBits
  if x.mantissa = 0 then ⟨0, 0⟩ else x.shortest

/-! ### Reading decimals -/

/-- `num / den` rounded to the nearest integer, a half to the even one. -/
def roundHalfEven (num den : Nat) : Nat :=
  let q := num / den
  let r := 2 * (num % den)
  if den < r || (r = den && q % 2 = 1) then q + 1 else q

/-- Bits of the positive double nearest to `num / den`. -/
def nearestBits (num den : Nat) : UInt64 :=
  if num = 0 then 0
  else
    let guess : Int := (num.log2 : Int) - den.log2 - 52
    let shifted (q : Int) : Nat × Nat :=
      if 0 ≤ q then (num, den * Nat.pow 2 q.toNat) else (num * Nat.pow 2 (-q).toNat, den)
    let (n, d) := shifted guess
    let q := max (if n / d < Nat.pow 2 52 then guess - 1 else guess) (-1074)
    let (n, d) := shifted q
    let m := roundHalfEven n d
    let bits := if m < Nat.pow 2 52 then m
      else (q + 1075).toNat * Nat.pow 2 52 + (m - Nat.pow 2 52)
    if 0x7FF * Nat.pow 2 52 ≤ bits then 0x7FF0000000000000 else bits.toUInt64

/-- The double nearest to `num / den`. -/
def nearest (num den : Nat) : Float := Float.ofBits (nearestBits num den)

/-- Number of decimal digits. -/
def digitCount (n : Nat) : Nat := (Nat.toDigits 10 n).length

/-- The double nearest to a decimal. Exponents far outside the range of doubles are
settled without computing the power. -/
def Scientific.toFloat (s : Scientific) : Float :=
  if s.digits = 0 then 0
  else if 400 < s.exponent then Float.ofBits 0x7FF0000000000000
  else if s.exponent + digitCount s.digits < -400 then 0
  else if 0 ≤ s.exponent then nearest (s.digits * Nat.pow 10 s.exponent.toNat) 1
  else nearest s.digits (Nat.pow 10 (-s.exponent).toNat)

/-- The double nearest to an integer. -/
def ofInt (i : Int) : Float :=
  let f := nearest i.natAbs 1
  if i < 0 then -f else f

/-! ### Layouts -/

/-- The decisions of one written form. A value whose leading digit has an exponent
between `positionalFrom` and `positionalTo` is written without an exponent part. -/
structure Layout where
  positionalFrom : Int
  positionalTo : Int
  /-- What follows the digits of a whole number. -/
  wholeMark : String
  /-- The sign of an exponent that is not negative. -/
  exponentPlus : String

/-- Numbers inside JSON text: always marked as fractions, positional from `1e-5` to
below `1e16`. -/
def Layout.json : Layout := ⟨-5, 15, ".0", "+"⟩

/-- Numbers a script turns into text: positional from `1e-6` to below `1e21`. -/
def Layout.script : Layout := ⟨-6, 20, "", "+"⟩

/-- Numbers quoted in messages: always positional. -/
def Layout.message : Layout := ⟨-400, 400, ".0", ""⟩

/-- `n` zeros. -/
def zeros (n : Nat) : String := String.ofList (List.replicate n '0')

/-- Writes digits whose leading one has exponent `e`. -/
def Layout.place (l : Layout) (ds : List Char) (e : Int) : String :=
  if l.positionalFrom ≤ e ∧ e ≤ l.positionalTo then
    if e < 0 then "0." ++ zeros (-e - 1).toNat ++ String.ofList ds
    else
      let whole := e.toNat + 1
      if ds.length ≤ whole then
        String.ofList ds ++ zeros (whole - ds.length) ++ l.wholeMark
      else String.ofList (ds.take whole) ++ "." ++ String.ofList (ds.drop whole)
  else
    let head := match ds with
      | [] => "0"
      | [d] => String.singleton d
      | d :: rest => String.singleton d ++ "." ++ String.ofList rest
    head ++ "e" ++ (if e < 0 then "-" else l.exponentPlus) ++ toString e.natAbs

/-- Writes a decimal. -/
def Layout.write (l : Layout) (s : Scientific) : String :=
  let ds := Nat.toDigits 10 s.digits
  l.place ds (if s.digits = 0 then 0 else s.exponent + (ds.length - 1 : Nat))

/-- Writes a finite double with the fewest digits that read back. -/
def Layout.writeFloat (l : Layout) (f : Float) : String :=
  (if f.toBits ≥ 0x8000000000000000 then "-" else "") ++ l.write (shortest f)

end PatchSandbox.Decimal
