import PatchSandbox.Json.Value
import PatchSandbox.Decimal

/-!
# Writing JSON text

* **`Json.compact`** writes without blanks.
* **`Json.pretty`** indents by two spaces; empty containers stay on one line.

Characters outside ASCII are written as they are. Both printers add to a text that is
passed along, so they take time linear in what they write.
-/

namespace PatchSandbox.Json

/-- A hexadecimal digit in lower case. -/
def hexChar (n : Nat) : Char := Char.ofNat (if n < 10 then 48 + n else 87 + n)

/-- Adds one character of a string in its written form. -/
def writeChar (acc : String) (c : Char) : String :=
  match c with
  | '"' => acc ++ "\\\""
  | '\\' => acc ++ "\\\\"
  | '\x08' => acc ++ "\\b"
  | '\x0c' => acc ++ "\\f"
  | '\n' => acc ++ "\\n"
  | '\r' => acc ++ "\\r"
  | '\t' => acc ++ "\\t"
  | c =>
    if c.toNat < 0x20 then
      ((acc ++ "\\u00").push (hexChar (c.toNat / 16))).push (hexChar (c.toNat % 16))
    else acc.push c

/-- Adds a quoted string. -/
def writeString (acc : String) (s : String) : String :=
  (s.foldl writeChar (acc.push '"')).push '"'

/-- The text of a number. A double that is no number has no JSON form and is written
as `null`. -/
def numberText : Number → String
  | .int i => toString i
  | .float f => if f.isNaN || f.isInf then "null" else Decimal.Layout.json.writeFloat f

mutual

/-- Adds a value without blanks. -/
def writeCompact (acc : String) : Json → String
  | .null => acc ++ "null"
  | .bool b => acc ++ (if b then "true" else "false")
  | .num n => acc ++ numberText n
  | .str s => writeString acc s
  | .arr items => (writeItems (acc.push '[') true items).push ']'
  | .obj fields => (writeFields (acc.push '\x7b') true fields).push '\x7d'

/-- Adds the elements of an array. -/
def writeItems (acc : String) (first : Bool) : List Json → String
  | [] => acc
  | j :: rest => writeItems (writeCompact (if first then acc else acc.push ',') j) false rest

/-- Adds the fields of an object. -/
def writeFields (acc : String) (first : Bool) : List (String × Json) → String
  | [] => acc
  | (key, j) :: rest =>
    writeFields
      (writeCompact ((writeString (if first then acc else acc.push ',') key).push ':') j) false rest

end

/-- The text of a value without blanks. -/
def compact (j : Json) : String := writeCompact "" j

/-- Adds a line break and the indentation of a level. -/
def newLine (acc : String) (level : Nat) : String :=
  level.repeat (fun s => s ++ "  ") (acc.push '\n')

mutual

/-- Adds an indented value. -/
def writePretty (acc : String) (level : Nat) : Json → String
  | .arr [] => acc ++ "[]"
  | .obj [] => acc ++ "\x7b\x7d"
  | .arr items => (newLine (prettyItems (acc.push '[') (level + 1) true items) level).push ']'
  | .obj fields =>
    (newLine (prettyFields (acc.push '\x7b') (level + 1) true fields) level).push '\x7d'
  | .null => acc ++ "null"
  | .bool b => acc ++ (if b then "true" else "false")
  | .num n => acc ++ numberText n
  | .str s => writeString acc s

/-- Adds the elements of an array, each on its own line. -/
def prettyItems (acc : String) (level : Nat) (first : Bool) : List Json → String
  | [] => acc
  | j :: rest =>
    prettyItems (writePretty (newLine (if first then acc else acc.push ',') level) level j)
      level false rest

/-- Adds the fields of an object, each on its own line. -/
def prettyFields (acc : String) (level : Nat) (first : Bool) : List (String × Json) → String
  | [] => acc
  | (key, j) :: rest =>
    prettyFields
      (writePretty (writeString (newLine (if first then acc else acc.push ',') level) key ++ ": ")
        level j)
      level false rest

end

/-- The indented text of a value. -/
def pretty (j : Json) : String := writePretty "" 0 j

end PatchSandbox.Json
