import PatchSandbox.Text.Blank
import PatchSandbox.Text.Word

/-!
# Bracket nesting before parsing

A source is scanned for too deeply nested brackets before anything recursive sees it.
The scan keeps its own stack of modes, so it needs no more memory for deep nesting than
for long text.

* **`Mode`** says what the next character belongs to: code, a comment, a quoted string, a
  regular expression, a template, or code inside a template's substitution.
* **`startsRegex`** decides by the preceding text whether a slash opens a regular
  expression or divides.
* **`excessNesting`** gives the byte offset of the first bracket beyond the limit. Where
  the modes turn out inconsistent — a literal cut off by a line feed or by the end of the
  text — it counts every bracket instead, whatever it stands in.
-/

namespace PatchSandbox.Nesting

/-- What the scan is in the middle of. -/
inductive Mode where
  | code
  | lineComment
  | blockComment
  | quoted (quote : Char)
  | regex (inClass : Bool)
  | template
  /-- Code inside a template; the depth is the one its opener led to. -/
  | substitution (depth : Nat)
  deriving DecidableEq, Repr, Inhabited

/-- The words after which a slash starts a regular expression. -/
def regexKeywords : List String :=
  ["return", "typeof", "instanceof", "in", "of", "new", "delete", "void", "throw", "case", "do",
    "else", "yield", "await"]

/-- A character of a word, for the purpose of finding the word before a slash. -/
def isWord (c : Char) : Bool := Text.isWordChar c || c == '_' || c == '$'

/-- Whether a slash after the given text, last character first, opens a regular
expression. -/
def startsRegex (before : List Char) : Bool :=
  match before.dropWhile Text.isBlank with
  | [] => true
  | last :: rest =>
    if last = ')' ∨ last = ']' then false
    else if isWord last then
      regexKeywords.contains (String.ofList ((last :: rest).takeWhile isWord).reverse)
    else true

/-- An opening bracket. -/
def isOpener (c : Char) : Bool := c == '(' || c == '[' || c == '\x7b'

/-- A closing bracket. -/
def isCloser (c : Char) : Bool := c == ')' || c == ']' || c == '\x7d'

/-- The state between two characters. The innermost mode comes first; `skip` says that
the next character has been read together with the one before. -/
structure Scan where
  modes : List Mode := [.code]
  depth : Nat := 0
  skip : Bool := false
  deriving DecidableEq, Repr, Inhabited

/-- The mode the next character is read in. -/
def Scan.mode (s : Scan) : Mode := s.modes.headD .code

/-- Enters a mode. -/
def Scan.enter (s : Scan) (m : Mode) (skip : Bool := false) : Scan :=
  { s with modes := m :: s.modes, skip }

/-- Leaves the innermost mode. -/
def Scan.leave (s : Scan) (skip : Bool := false) : Scan :=
  { s with modes := s.modes.tail, skip }

/-- Replaces the innermost mode. -/
def Scan.replace (s : Scan) (m : Mode) : Scan :=
  match s.modes with
  | [] => s
  | _ :: rest => { s with modes := m :: rest }

/-- What one character leads to. -/
inductive Step where
  | go (next : Scan)
  /-- The bracket at this character is one too many. -/
  | excess
  /-- The modes do not fit the text. -/
  | inconsistent
  deriving DecidableEq, Repr, Inhabited

/-- Opens a bracket under a limit. -/
def Scan.descend (s : Scan) (limit : Nat) (next : Scan → Scan) : Step :=
  if limit < s.depth + 1 then .excess else .go (next { s with depth := s.depth + 1 })

/-- A character of code. -/
def codeStep (limit : Nat) (s : Scan) (before : List Char) (c : Char) (next : Option Char) :
    Step :=
  if c = '/' ∧ next = some '/' then .go (s.enter .lineComment true)
  else if c = '/' ∧ next = some '*' then .go (s.enter .blockComment true)
  else if c = '/' ∧ startsRegex before then .go (s.enter (.regex false))
  else if c = '\'' ∨ c = '"' then .go (s.enter (.quoted c))
  else if c = '\x60' then .go (s.enter .template)
  else if isOpener c then s.descend limit id
  else if c = ')' ∨ c = ']' then .go { s with depth := s.depth - 1 }
  else if c = '\x7d' then
    let s := if s.mode = .substitution s.depth then s.leave else s
    .go { s with depth := s.depth - 1 }
  else .go s

/-- One character that is not skipped. -/
def step (limit : Nat) (s : Scan) (before : List Char) (c : Char) (next : Option Char) : Step :=
  match s.mode with
  | .code => codeStep limit s before c next
  | .substitution _ => codeStep limit s before c next
  | .lineComment => .go (if c = '\n' then s.leave else s)
  | .blockComment => .go (if c = '*' ∧ next = some '/' then s.leave true else s)
  | .quoted quote =>
    if c = '\\' then .go { s with skip := true }
    else if c = '\n' then .inconsistent
    else .go (if c = quote then s.leave else s)
  | .regex inClass =>
    if c = '\\' then .go { s with skip := true }
    else if c = '\n' then .inconsistent
    else if c = '[' then .go (s.replace (.regex true))
    else if c = ']' ∧ inClass then .go (s.replace (.regex false))
    else .go (if c = '/' ∧ !inClass then s.leave else s)
  | .template =>
    if c = '\\' then .go { s with skip := true }
    else if c = '\x60' then .go s.leave
    else if c = '$' ∧ next = some '\x7b' then
      s.descend limit fun s => s.enter (.substitution s.depth) true
    else .go s

/-- How a scan ends. -/
inductive Outcome where
  | excess (offset : Nat)
  | inconsistent
  | finished (last : Scan)
  deriving DecidableEq, Repr, Inhabited

/-- Scans characters from a state; `before` holds the text so far, last character first,
and `offset` its length in bytes. -/
def run (limit : Nat) : Scan → (before : List Char) → (offset : Nat) → List Char → Outcome
  | s, _, _, [] => .finished s
  | s, before, offset, c :: rest =>
    if s.skip then run limit { s with skip := false } (c :: before) (offset + c.utf8Size) rest
    else
      match step limit s before c rest.head? with
      | .go s => run limit s (c :: before) (offset + c.utf8Size) rest
      | .excess => .excess offset
      | .inconsistent => .inconsistent

/-- The first bracket beyond the limit when every bracket counts. -/
def countExcess (limit : Nat) : (depth offset : Nat) → List Char → Option Nat
  | _, _, [] => none
  | depth, offset, c :: rest =>
    if isOpener c then
      if limit < depth + 1 then some offset
      else countExcess limit (depth + 1) (offset + c.utf8Size) rest
    else
      countExcess limit (if isCloser c then depth - 1 else depth) (offset + c.utf8Size) rest

/-- Whether a scan may end in this mode: nothing but a line comment is left open. -/
def Scan.closed (s : Scan) : Bool :=
  match s.modes with
  | [] => true
  | .code :: _ => true
  | .lineComment :: _ => true
  | _ => false

/-- Byte offset of the first bracket that nests deeper than the limit. -/
def excessNesting (source : List Char) (limit : Nat) : Option Nat :=
  match run limit {} [] 0 source with
  | .excess offset => some offset
  | .inconsistent => countExcess limit 0 0 source
  | .finished s => if s.closed then none else countExcess limit 0 0 source

end PatchSandbox.Nesting
