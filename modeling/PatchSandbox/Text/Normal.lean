import PatchSandbox.Text.CanonicalTable
import PatchSandbox.Text.CodeUnits
import PatchSandbox.Text.CompatibleTable
import Std.Data.HashMap

/-!
# Normal forms

**`CodeUnits.normalize`** brings a text into one of the four Unicode normal forms: characters
are taken apart as far as they go, the marks after a character are put in order, and the
composed forms put together again what belongs together. Syllables of Hangul are computed,
all else is looked up.
-/

namespace PatchSandbox.Text

/-- A normal form. -/
structure NormalForm where
  /-- Characters are also taken apart when they then look different. -/
  isCompatible : Bool
  /-- What belongs together is put together in the end. -/
  isComposed : Bool
  deriving DecidableEq, Repr, Inhabited

/-- The form of a name. -/
def NormalForm.ofName? : String → Option NormalForm
  | "NFC" => some ⟨false, true⟩
  | "NFD" => some ⟨false, false⟩
  | "NFKC" => some ⟨true, true⟩
  | "NFKD" => some ⟨true, false⟩
  | _ => none

namespace NormalForm

/-! ### Reading the tables -/

/-- A number in hexadecimal digits. -/
def readHex (s : String) : Nat :=
  s.foldl (fun n c =>
    16 * n + (if c.isDigit then c.toNat - '0'.toNat else c.toNat - 'A'.toNat + 10)) 0

/-- The rows of a table that are written with a separator. -/
def readRows (separator : String) (tables : List String) : List (Nat × List Nat) :=
  (tables.flatMap (·.splitOn " ")).filterMap fun row =>
    match row.splitOn separator with
    | [c, parts] => some (readHex c, (parts.splitOn "+").map readHex)
    | _ => none

/-- The decompositions after which a character can be put together again. -/
def pairRows : List (Nat × List Nat) := readRows "=" canonicalRows

/-- The canonical decompositions. -/
def canonicalParts : Std.HashMap Nat (List Nat) :=
  Std.HashMap.ofList (pairRows ++ readRows ">" canonicalRows)

/-- The decompositions that only keep the meaning. -/
def compatibleParts : Std.HashMap Nat (List Nat) :=
  Std.HashMap.ofList (readRows "=" compatibleRows)

/-- The characters that two others make up. -/
def wholes : Std.HashMap (Nat × Nat) Nat :=
  Std.HashMap.ofList (pairRows.filterMap fun (c, parts) =>
    match parts with
    | [a, b] => some ((a, b), c)
    | _ => none)

/-- The classes of code points that have another than 0. -/
def classes : Std.HashMap Nat Nat :=
  Std.HashMap.ofList ((classRows.flatMap (·.splitOn " ")).flatMap fun row =>
    match row.splitOn ":" with
    | [range, number] =>
      match (range.splitOn "-").map readHex with
      | [first, last] => (List.range' first (last + 1 - first)).map (·, number.toNat?.getD 0)
      | [c] => [(c, number.toNat?.getD 0)]
      | _ => []
    | _ => [])

/-- The class of a code point. -/
def classOf (c : Nat) : Nat := (classes[c]?).getD 0

/-! ### Taking apart -/

/-- The parts of a syllable of Hangul. -/
def hangulParts (c : Nat) : List Nat :=
  let i := c - 0xAC00
  let final := i % 28
  [0x1100 + i / 588, 0x1161 + i % 588 / 28] ++ (if final = 0 then [] else [0x11A7 + final])

/-- The parts of a code point, at most so many steps deep. -/
def partsOf (isCompatible : Bool) : (fuel : Nat) → Nat → List Nat
  | 0, c => [c]
  | fuel + 1, c =>
    if 0xAC00 ≤ c && c < 0xD7A4 then hangulParts c
    else
      let parts := (canonicalParts[c]?).or (if isCompatible then compatibleParts[c]? else none)
      match parts with
      | some cs => cs.flatMap (partsOf isCompatible fuel)
      | none => [c]

/-- Puts the marks after every character in the order of their classes. -/
def orderMarks (cs : List Nat) : List Nat :=
  let place (marks : List Nat) : List Nat :=
    marks.mergeSort fun a b => classOf a ≤ classOf b
  let (done, marks) := cs.foldl
    (fun (done, marks) c =>
      if classOf c = 0 then (c :: ((place marks.reverse).reverse ++ done), [])
      else (done, c :: marks))
    (([] : List Nat), ([] : List Nat))
  done.reverse ++ place marks.reverse

/-! ### Putting together -/

/-- What two code points make up, if anything. -/
def whole? (a b : Nat) : Option Nat :=
  if 0x1100 ≤ a && a < 0x1113 && 0x1161 ≤ b && b < 0x1176 then
    some (0xAC00 + ((a - 0x1100) * 21 + (b - 0x1161)) * 28)
  else if 0xAC00 ≤ a && a < 0xD7A4 && (a - 0xAC00) % 28 = 0 && 0x11A8 ≤ b && b < 0x11C3 then
    some (a + (b - 0x11A7))
  else wholes[(a, b)]?

/-- What is put together so far. -/
structure Composed where
  /-- What is finished, the last first. -/
  done : List Nat := []
  /-- The character that marks may still join. -/
  base : Option Nat := none
  /-- The marks that did not join it, the last first. -/
  marks : List Nat := []

/-- Goes on with a code point. A mark joins the character before it unless one of its own
class, or of a higher one, stands between them. -/
def Composed.add (s : Composed) (c : Nat) : Composed :=
  let k := classOf c
  let isBlocked : Bool := match s.marks with | m :: _ => k ≤ classOf m | [] => false
  match s.base with
  | none => if k = 0 then { s with base := some c } else { s with done := c :: s.done }
  | some b =>
    match (if isBlocked then none else whole? b c) with
    | some w => { s with base := some w }
    | none =>
      if k = 0 then ⟨s.marks ++ b :: s.done, some c, []⟩ else { s with marks := c :: s.marks }

/-- Everything in order. -/
def Composed.toList (s : Composed) : List Nat :=
  (s.marks ++ s.base.toList ++ s.done).reverse

/-- Puts together what belongs together. -/
def compose (cs : List Nat) : List Nat := (cs.foldl Composed.add {}).toList

end NormalForm

open NormalForm in
/-- A text in a normal form. -/
def CodeUnits.normalize (u : CodeUnits) (form : NormalForm) : CodeUnits :=
  if u.toArray.all (· < 0x80) then u
  else
    let apart := orderMarks (u.codePoints.toList.flatMap (partsOf form.isCompatible 8))
    ofCodePoints (if form.isComposed then compose apart else apart).toArray

end PatchSandbox.Text
