import PatchSandbox.Text.Case
import PatchSandbox.Text.Word

/-!
# Patterns of regular expressions

* **`Pattern`** is the tree of a pattern. Groups are numbered from one, in the order of their
  opening parentheses.
* **`Item.holds`** decides which code points a class has.
-/

namespace PatchSandbox.Regex

open PatchSandbox.Text

/-- What a regular expression is asked to do. -/
structure Flags where
  hasIndices : Bool := false
  global : Bool := false
  ignoreCase : Bool := false
  multiline : Bool := false
  dotAll : Bool := false
  unicode : Bool := false
  unicodeSets : Bool := false
  sticky : Bool := false
  deriving DecidableEq, Repr, Inhabited

namespace Flags

/-- Whether the text is read in code points and not in units. -/
def byCodePoint (f : Flags) : Bool := f.unicode || f.unicodeSets

/-- Adds a flag, which may not be there already. -/
def add (f : Flags) (c : Char) : Option Flags :=
  match c with
  | 'd' => if f.hasIndices then none else some { f with hasIndices := true }
  | 'g' => if f.global then none else some { f with global := true }
  | 'i' => if f.ignoreCase then none else some { f with ignoreCase := true }
  | 'm' => if f.multiline then none else some { f with multiline := true }
  | 's' => if f.dotAll then none else some { f with dotAll := true }
  | 'u' => if f.byCodePoint then none else some { f with unicode := true }
  | 'v' => if f.byCodePoint then none else some { f with unicodeSets := true }
  | 'y' => if f.sticky then none else some { f with sticky := true }
  | _ => none

/-- Reads flags. -/
def ofString? (s : String) : Option Flags := s.toList.foldlM add {}

end Flags

/-- A part of a class. -/
inductive Item where
  | range (low high : Nat)
  | digit (negated : Bool)
  | word (negated : Bool)
  | space (negated : Bool)
  | letter (negated : Bool)
  | upper (negated : Bool)
  | lower (negated : Bool)
  deriving DecidableEq, Repr, Inhabited

/-- A digit of ASCII. -/
def isDigit (c : Nat) : Bool := 48 ≤ c && c ≤ 57

/-- A letter or digit of ASCII or an underscore. -/
def isWord (c : Nat) : Bool := isAsciiWord c || c == 95

/-- A blank or a line end. -/
def isSpace (c : Nat) : Bool := c < 0x10000 && CodeUnits.isSpace c.toUInt16

/-- A code point at which a line ends. -/
def isLineEnd (c : Nat) : Bool := c == 10 || c == 13 || c == 0x2028 || c == 0x2029

/-- Whether a code point belongs to a part of a class. -/
def Item.holds (c : Nat) : Item → Bool
  | .range low high => low ≤ c && c ≤ high
  | .digit negated => isDigit c != negated
  | .word negated => isWord c != negated
  | .space negated => isSpace c != negated
  | .letter negated =>
    (isIdentifierStart c && c != 36 && c != 95) != negated
  | .upper negated => (lowerAll c != [c]) != negated
  | .lower negated => (upperAll c != [c]) != negated

/-- A code point as it is compared when case does not matter. -/
def fold (f : Flags) (c : Nat) : Nat :=
  if !f.ignoreCase then c
  else if f.byCodePoint then lowerOf (upperOf c)
  else
    match upperAll c with
    | [d] => if c ≥ 128 && d < 128 then c else d
    | _ => c

/-- Whether a code point belongs to a class. -/
def inClass (f : Flags) (negated : Bool) (items : List Item) (c : Nat) : Bool :=
  let direct (c : Nat) := items.any (·.holds c)
  let found :=
    direct c ||
      (f.ignoreCase &&
        [lowerOf c, upperOf c].any fun d => fold f d == fold f c && direct d)
  found != negated

/-- The tree of a pattern. -/
inductive Pattern where
  | empty
  | char (c : Nat)
  | any
  | set (negated : Bool) (items : List Item)
  | both (first second : Pattern)
  | either (first second : Pattern)
  | capture (group : Nat) (body : Pattern)
  | back (groups : List Nat)
  | lineStart
  | lineEnd
  | boundary (negated : Bool)
  | look (behind negated : Bool) (body : Pattern)
  /-- Repeats the body; the groups from `first` up to, but without, `stop` are in it. -/
  | repeated (body : Pattern) (min : Nat) (max : Option Nat) (greedy : Bool) (first stop : Nat)
  deriving Inhabited

end PatchSandbox.Regex
