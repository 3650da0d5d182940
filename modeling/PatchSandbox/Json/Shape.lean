import PatchSandbox.Json.Value
import PatchSandbox.Decimal

/-!
# Values of a fixed shape

How a JSON value is read as a number, a text, a record or a tagged choice, and why it may
fail to be one.

* **`ShapeError`** is the cause; `ShapeError.message` words it.
* **`Shape.record`** reads an object or, field by field, an array. Unknown fields do not
  matter. In an object the first ill-shaped field in key order is the error, and a missing
  field only when all fields that are there are well shaped.
* **`Shape.tagged`** reads a choice whose alternative is named by a tag field, or by the
  first element of an array. What follows the tag is read as a buffered record, which
  words one error differently: an array that is too long.
-/

namespace PatchSandbox

/-- What was found where something else was expected. -/
inductive Found where
  | null
  | boolean (value : Bool)
  | integer (value : Int)
  | floating (value : Float)
  /-- An integer that does not fit sixty-four bits. -/
  | wide (value : Int)
  | text (value : String)
  | sequence
  | map
  deriving Inhabited, Repr

/-- Why a value does not have a shape. -/
inductive ShapeError where
  | wrongType (found : Found) (expected : String)
  | wrongValue (found : Found) (expected : String)
  | missingField (name : String)
  | unknownVariant (name : String) (known : List String)
  | wrongLength (found : Nat) (expected : String)
  /-- An integer that does not even fit one hundred and twenty-eight bits. -/
  | overflow
  /-- A number beyond the range of doubles. -/
  | floatOverflow
  deriving Inhabited, Repr

namespace Shape

/-- Whether a character stands for itself inside a quoted text. Controls, spaces other
than the usual one, combining marks and private characters do not. -/
def isPlain (c : Char) : Bool :=
  let n := c.toNat
  !(n < 0x20 || (0x7F ≤ n && n ≤ 0xA0) || n == 0xAD || (0x300 ≤ n && n ≤ 0x36F) ||
    (0x483 ≤ n && n ≤ 0x489) || n == 0x1680 || (0x2000 ≤ n && n ≤ 0x200F) ||
    (0x2028 ≤ n && n ≤ 0x202F) || (0x205F ≤ n && n ≤ 0x206F) || (0x20D0 ≤ n && n ≤ 0x20F0) ||
    n == 0x3000 || (0xE000 ≤ n && n ≤ 0xF8FF) || (0xFE00 ≤ n && n ≤ 0xFE0F) ||
    (0xFE20 ≤ n && n ≤ 0xFE2F) || n == 0xFEFF || (0xFFF0 ≤ n && n ≤ 0xFFFB) ||
    0xE0000 ≤ n)

/-- A quoted text: quotes, backslashes and characters that are not plain are escaped. -/
def quote (s : String) : String :=
  (s.foldl (fun acc c =>
    match c with
    | '"' => acc ++ "\\\""
    | '\\' => acc ++ "\\\\"
    | '\n' => acc ++ "\\n"
    | '\r' => acc ++ "\\r"
    | '\t' => acc ++ "\\t"
    | '\x00' => acc ++ "\\0"
    | c =>
      if isPlain c then acc.push c
      else acc ++ "\\u\x7b" ++ String.ofList (Nat.toDigits 16 c.toNat) ++ "\x7d") "\"").push '"'

end Shape

/-- How a message names what was found. -/
def Found.phrase : Found → String
  | .null => "null"
  | .boolean b => "boolean `" ++ (if b then "true" else "false") ++ "`"
  | .integer i => "integer `" ++ toString i ++ "`"
  | .floating f =>
    "floating point `" ++
      (if f.isNaN then "NaN" else if f.isInf then (if f < 0 then "-inf" else "inf")
        else Decimal.Layout.message.writeFloat f) ++ "`"
  | .wide i =>
    "integer `" ++ toString i ++ "` as " ++ (if i < (Nat.pow 2 127 : Nat) then "i128" else "u128")
  | .text s => "string " ++ Shape.quote s
  | .sequence => "sequence"
  | .map => "map"

/-- The list of known names in a message. -/
def ShapeError.listed (known : List String) : String :=
  match known with
  | [] => "there are no variants"
  | [a] => "expected `" ++ a ++ "`"
  | [a, b] => "expected `" ++ a ++ "` or `" ++ b ++ "`"
  | names => "expected one of " ++ String.intercalate ", " (names.map fun n => "`" ++ n ++ "`")

/-- The wording of a cause. -/
def ShapeError.message : ShapeError → String
  | .wrongType found expected => "invalid type: " ++ found.phrase ++ ", expected " ++ expected
  | .wrongValue found expected => "invalid value: " ++ found.phrase ++ ", expected " ++ expected
  | .missingField name => "missing field `" ++ name ++ "`"
  | .unknownVariant name known => "unknown variant `" ++ name ++ "`, " ++ listed known
  | .wrongLength found expected =>
    "invalid length " ++ toString found ++ ", expected " ++ expected
  | .overflow => "integer number overflowed"
  | .floatOverflow => "floating-point number overflowed"

namespace Shape

/-- The result of reading a shape. -/
abbrev Result (α : Type) := Except ShapeError α

/-- What a value is called when it is not what was expected. -/
def found : Json → Found
  | .null => .null
  | .bool b => .boolean b
  | .num (.int i) => .integer i
  | .num (.float f) => .floating f
  | .str s => .text s
  | .arr _ => .sequence
  | .obj _ => .map

/-- Anything. -/
def any (j : Json) : Result Json := .ok j

/-- A text. -/
def text : Json → Result String
  | .str s => .ok s
  | j => .error (.wrongType (found j) "a string")

/-- A truth value. -/
def bool : Json → Result Bool
  | .bool b => .ok b
  | j => .error (.wrongType (found j) "a boolean")

/-- An integer from zero up to, but without, `2 ^ bits`. -/
def natural (bits : Nat) (expected : String) : Json → Result Nat
  | .num (.int i) =>
    if 0 ≤ i ∧ i < (Nat.pow 2 bits : Nat) then .ok i.toNat
    else if i < -(Nat.pow 2 127 : Nat) ∨ (Nat.pow 2 128 : Nat) ≤ i then .error .overflow
    else if i < -(Nat.pow 2 63 : Nat) ∨ (Nat.pow 2 64 : Nat) ≤ i then
      .error (.wrongType (.wide i) expected)
    else .error (.wrongValue (.integer i) expected)
  | j => .error (.wrongType (found j) expected)

/-- A number as a double. -/
def float : Json → Result Float
  | .num n => .ok n.toFloat
  | j => .error (.wrongType (found j) "f64")

/-- A list. -/
def list {α : Type} (item : Json → Result α) : Json → Result (List α)
  | .arr items => items.mapM item
  | j => .error (.wrongType (found j) "a sequence")

/-- A map from texts. -/
def map {α : Type} (item : Json → Result α) : Json → Result (List (String × α))
  | .obj fields => fields.mapM fun (k, v) => (item v).map fun a => (k, a)
  | j => .error (.wrongType (found j) "a map")

/-- A value that may be `null`. -/
def nullable {α : Type} (item : Json → Result α) : Json → Result (Option α)
  | .null => .ok none
  | j => (item j).map some

/-- The fields of a record while it is read. -/
structure Fields where
  get? : String → Option Json
  /-- The error for a field that has to be there and is not. -/
  absent : String → ShapeError
  /-- Whether an optional field may be left out. -/
  mayOmit : Bool

/-- A field that has to be there. -/
def Fields.required {α : Type} (r : Fields) (name : String) (item : Json → Result α) :
    Result α :=
  match r.get? name with
  | some j => item j
  | none => .error (r.absent name)

/-- A field that an object may leave out, but not an array. -/
def Fields.optional {α : Type} (r : Fields) (name : String) (item : Json → Result (Option α)) :
    Result (Option α) :=
  match r.get? name with
  | some j => item j
  | none => if r.mayOmit then .ok none else .error (r.absent name)

/-- A field with a default. -/
def Fields.defaulted {α : Type} (r : Fields) (name : String) (item : Json → Result α)
    (default : α) : Result α :=
  match r.get? name with
  | some j => item j
  | none => .ok default

/-- Says that a value has to have a shape, whatever it is. -/
def check {α : Type} (item : Json → Result α) (j : Json) : Result Unit := (item j).map fun _ => ()

/-- The number of fields in a message. -/
def elementCount (n : Nat) : String := toString n ++ (if n = 1 then " element" else " elements")

/-- What becomes of elements of an array beyond the fields of the record it stands for. -/
inductive Surplus where
  | refused
  /-- Refused, in the words for a record that has been buffered. -/
  | refusedBuffered
  | ignored
  deriving DecidableEq, Repr, Inhabited

/-- The error for an array that is too long, if it is one. -/
def Surplus.error? (s : Surplus) (fields found : Nat) : Option ShapeError :=
  if found ≤ fields then none
  else
    match s with
    | .refused => some (.wrongLength found "fewer elements in array")
    | .refusedBuffered => some (.wrongLength found (elementCount fields ++ " in sequence"))
    | .ignored => none

/-- Reads the record called `what`. `checks` names the fields in their order with the shape
of each; `build` puts the record together and asks for the fields in that order. -/
def record {α : Type} (what : String) (surplus : Surplus)
    (checks : List (String × (Json → Result Unit))) (build : Fields → Result α) :
    Json → Result α
  | .obj fields => do
    for (key, j) in fields do
      match checks.find? (·.1 == key) with
      | some (_, item) => item j
      | none => pure ()
    build ⟨fun name => (fields.find? (·.1 == name)).map (·.2), .missingField, true⟩
  | .arr items => do
    let named := (checks.map (·.1)).zip items
    let a ← build ⟨fun name => (named.find? (·.1 == name)).map (·.2), fun _ =>
      .wrongLength items.length (what ++ " with " ++ elementCount checks.length), false⟩
    match surplus.error? checks.length items.length with
    | some e => .error e
    | none => .ok a
  | j => .error (.wrongType (found j) what)

/-- The alternative that a tag names. -/
def variant (tag : Json) (known : List String) : Result String :=
  match tag with
  | .str s => if known.contains s then .ok s else .error (.unknownVariant s known)
  | j => .error (.wrongType (found j) "variant identifier")

/-- Reads a tagged choice: which alternative it is, and the record that goes with it. -/
def tagged {α : Type} (what tag : String) (known : List String)
    (build : String → Json → Result α) : Json → Result α
  | .obj fields =>
    match fields.find? (·.1 == tag) with
    | none => .error (.missingField tag)
    | some (_, j) => do build (← variant j known) (.obj (fields.filter (·.1 != tag)))
  | .arr [] => .error (.missingField tag)
  | .arr (j :: items) => do build (← variant j known) (.arr items)
  | j => .error (.wrongType (found j) ("internally tagged enum " ++ what))

/-- Reads an alternative that has no fields. -/
def unit {α : Type} (a : α) : Json → Result α
  | .arr (j :: items) => .error (.wrongLength (j :: items).length "0 elements in sequence")
  | _ => .ok a

end Shape

end PatchSandbox
