/-!
# Texts of sixteen-bit units

A script works on sequences of UTF-16 code units, and such a sequence need not be
text: a surrogate may stand alone. `CodeUnits` is that sequence.

* **`CodeUnits.ofString`** writes every character as one or two units.
* **`CodeUnits.toString?`** reads the characters back and refuses a lone surrogate, so
  whatever leaves the sandbox as text is text.
-/

namespace PatchSandbox.Text

/-- A sequence of sixteen-bit units. -/
structure CodeUnits where
  toArray : Array UInt16
  deriving DecidableEq, Hashable, Inhabited

namespace CodeUnits

instance : BEq CodeUnits := ⟨fun a b => a.toArray == b.toArray⟩

/-- The empty text. -/
def empty : CodeUnits := ⟨#[]⟩

instance : EmptyCollection CodeUnits := ⟨empty⟩

/-- Number of units. -/
@[inline] def size (u : CodeUnits) : Nat := u.toArray.size

/-- Whether there is no unit. -/
@[inline] def isEmpty (u : CodeUnits) : Bool := u.toArray.isEmpty

/-- The unit at an index. -/
@[inline] def get? (u : CodeUnits) (i : Nat) : Option UInt16 := u.toArray[i]?

/-- One unit more at the end. -/
@[inline] def push (u : CodeUnits) (c : UInt16) : CodeUnits := ⟨u.toArray.push c⟩

/-- One text after the other. -/
@[inline] def append (u v : CodeUnits) : CodeUnits := ⟨u.toArray ++ v.toArray⟩

instance : Append CodeUnits := ⟨append⟩

/-- The units from `start` up to, but without, `stop`. -/
def extract (u : CodeUnits) (start stop : Nat) : CodeUnits := ⟨u.toArray.extract start stop⟩

@[simp] theorem size_empty : (empty : CodeUnits).size = 0 := rfl

@[simp] theorem size_append (u v : CodeUnits) : (u ++ v).size = u.size + v.size :=
  Array.size_append

@[simp] theorem size_push (u : CodeUnits) (c : UInt16) : (u.push c).size = u.size + 1 :=
  Array.size_push c

/-! ### Characters and units -/

/-- The units of one scalar value: itself below U+10000, a surrogate pair above. -/
def pushScalar (acc : Array UInt16) (n : Nat) : Array UInt16 :=
  if n < 0x10000 then acc.push n.toUInt16
  else
    let m := n - 0x10000
    (acc.push (0xD800 + m / 0x400).toUInt16).push (0xDC00 + m % 0x400).toUInt16

/-- The units of a list of characters. -/
def ofList (cs : List Char) : CodeUnits :=
  ⟨cs.foldl (fun acc c => pushScalar acc c.toNat) #[]⟩

/-- The units of a text. -/
def ofString (s : String) : CodeUnits :=
  ⟨s.foldl (fun acc c => pushScalar acc c.toNat) #[]⟩

instance : Coe String CodeUnits := ⟨ofString⟩

/-- The first half of a surrogate pair. -/
def isLead (c : UInt16) : Bool := 0xD800 ≤ c && c < 0xDC00

/-- The second half of a surrogate pair. -/
def isTrail (c : UInt16) : Bool := 0xDC00 ≤ c && c < 0xE000

/-- The scalar value of a surrogate pair. -/
def pairScalar (lead trail : UInt16) : Nat :=
  0x10000 + (lead.toNat - 0xD800) * 0x400 + (trail.toNat - 0xDC00)

/-- Reads from index `i`: the scalar value or lone surrogate there, and how many
units it takes. -/
def codePointAt (u : CodeUnits) (i : Nat) : Option (Nat × Nat) :=
  match u.get? i with
  | none => none
  | some c =>
    if isLead c then
      match u.get? (i + 1) with
      | some d => if isTrail d then some (pairScalar c d, 2) else some (c.toNat, 1)
      | none => some (c.toNat, 1)
    else some (c.toNat, 1)

/-- Decodes `n` more units at most, from index `i`. -/
def decodeFrom (u : CodeUnits) : Nat → Nat → String → Option String
  | 0, _, acc => some acc
  | n + 1, i, acc =>
    match u.codePointAt i with
    | none => some acc
    | some (c, w) =>
      if 0xD800 ≤ c && c < 0xE000 then none
      else decodeFrom u n (i + w) (acc.push (Char.ofNat c))

/-- The text, or nothing when a surrogate stands alone. -/
def toString? (u : CodeUnits) : Option String := decodeFrom u u.size 0 ""

/-- How many bytes the text takes before the first surrogate that stands alone; at most `n`
more units, from index `i`. -/
def soundBytesFrom (u : CodeUnits) : Nat → Nat → Nat → Nat
  | 0, _, acc => acc
  | n + 1, i, acc =>
    match u.codePointAt i with
    | none => acc
    | some (c, w) =>
      if 0xD800 ≤ c && c < 0xE000 then acc
      else soundBytesFrom u n (i + w) (acc + (Char.ofNat c).utf8Size)

/-- How many bytes the text takes before the first surrogate that stands alone. -/
def soundBytes (u : CodeUnits) : Nat := soundBytesFrom u u.size 0 0

/-- Decodes like `decodeFrom`, with U+FFFD for a lone surrogate. -/
def decodeLossy (u : CodeUnits) : Nat → Nat → String → String
  | 0, _, acc => acc
  | n + 1, i, acc =>
    match u.codePointAt i with
    | none => acc
    | some (c, w) =>
      decodeLossy u n (i + w)
        (acc.push (if 0xD800 ≤ c && c < 0xE000 then Char.ofNat 0xFFFD else Char.ofNat c))

/-- The text, with U+FFFD where a surrogate stands alone. -/
def toStringLossy (u : CodeUnits) : String := decodeLossy u u.size 0 ""

/-! ### Order and search -/

/-- Compares from index `i` on, for at most `n` units. -/
def compareFrom (u v : CodeUnits) : Nat → Nat → Ordering
  | 0, _ => compare u.size v.size
  | n + 1, i =>
    match u.get? i, v.get? i with
    | some a, some b => if a < b then .lt else if b < a then .gt else compareFrom u v n (i + 1)
    | none, some _ => .lt
    | some _, none => .gt
    | none, none => .eq

/-- Order by units, which is the order of a script's `<`. -/
def cmp (u v : CodeUnits) : Ordering := compareFrom u v (min u.size v.size) 0

/-- Whether `v` stands in `u` at index `i`. -/
def matchesAt (u v : CodeUnits) (i : Nat) : Bool :=
  let rec go : Nat → Nat → Bool
    | 0, _ => true
    | n + 1, j => u.get? (i + j) == v.get? j && go n (j + 1)
  i + v.size ≤ u.size && go v.size 0

/-- First index at or after `start` where `v` stands in `u`. -/
def indexOf? (u v : CodeUnits) (start : Nat) : Option Nat :=
  let rec go : Nat → Nat → Option Nat
    | 0, _ => none
    | n + 1, i => if u.matchesAt v i then some i else go n (i + 1)
  go (u.size + 1 - start) start

/-- Last index at or before `start` where `v` stands in `u`. -/
def lastIndexOf? (u v : CodeUnits) (start : Nat) : Option Nat :=
  let rec go : Nat → Option Nat
    | 0 => if u.matchesAt v 0 then some 0 else none
    | n + 1 => if u.matchesAt v (n + 1) then some (n + 1) else go n
  go (min start u.size)

/-- The text `n` times over. -/
def replicate (u : CodeUnits) (n : Nat) : CodeUnits :=
  let rec go : Nat → Array UInt16 → Array UInt16
    | 0, acc => acc
    | n + 1, acc => go n (acc ++ u.toArray)
  ⟨go n (Array.mkEmpty (u.size * n))⟩

/-- Texts with a separator between them. -/
def join (separator : CodeUnits) : List CodeUnits → CodeUnits
  | [] => ∅
  | u :: us => us.foldl (fun acc v => acc ++ separator ++ v) u

/-- Whether a unit is WhiteSpace or LineTerminator of the ECMAScript grammar. -/
def isSpace (c : UInt16) : Bool :=
  c == 0x20 || (9 ≤ c && c ≤ 13) || c == 0xA0 || c == 0xFEFF || c == 0x1680 ||
    (0x2000 ≤ c && c ≤ 0x200A) || c == 0x2028 || c == 0x2029 || c == 0x202F || c == 0x205F ||
    c == 0x3000

/-- Without the leading spaces. -/
def trimStart (u : CodeUnits) : CodeUnits :=
  match u.toArray.findIdx? (fun c => !isSpace c) with
  | some i => u.extract i u.size
  | none => ∅

/-- Without the trailing spaces. -/
def trimEnd (u : CodeUnits) : CodeUnits :=
  ⟨u.toArray.popWhile isSpace⟩

/-- Without the spaces at either end. -/
def trim (u : CodeUnits) : CodeUnits := u.trimEnd.trimStart

/-! ### Code points -/

/-- The code points of a text, with lone surrogates as they are. -/
def codePointsFrom (u : CodeUnits) : Nat → Nat → Array Nat → Array Nat
  | 0, _, acc => acc
  | n + 1, i, acc =>
    match u.codePointAt i with
    | none => acc
    | some (c, w) => codePointsFrom u n (i + w) (acc.push c)

/-- The code points of a text, with lone surrogates as they are. -/
def codePoints (u : CodeUnits) : Array Nat := codePointsFrom u u.size 0 #[]

/-- The text of code points. -/
def ofCodePoints (cs : Array Nat) : CodeUnits := ⟨cs.foldl pushScalar #[]⟩

end CodeUnits

end PatchSandbox.Text
