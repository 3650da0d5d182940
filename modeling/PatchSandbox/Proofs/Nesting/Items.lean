import Mathlib.Data.List.Infix
import PatchSandbox.Proofs.Nesting.Course

/-!
# Sources without ambiguity

A source in which everything is what it looks like to a scan that knows no grammar: it is a sequence
of characters, comments, strings, regular expressions that stand where no division can, and
templates, whose substitutions are such sequences again.

* **`Items`** and **`Parts`** are the trees of such sources, `text` is what they are written like,
  and `Fits` says that every item is one, which can be computed.
* **`Items.marks`** are the brackets that count, each with its place in the text: those that stand
  as characters of their own, and those of substitutions.
* **`depthFrom`** is the depth after some brackets, where a closing one without a partner counts for
  nothing.
-/

namespace PatchSandbox.Nesting

/-! ### Letters -/

/-- A character for itself, or a backslash and the character after it. -/
inductive Letter where
  | plain (c : Char)
  | escaped (c : Char)
  deriving DecidableEq, Repr, Inhabited

namespace Letter

def text : Letter → List Char
  | .plain c => [c]
  | .escaped c => ['\\', c]

/-- A letter that is none of the characters that mean something among letters. -/
def Fits (stops : List Char) : Letter → Prop
  | .plain c => c ≠ '\\' ∧ c ∉ stops
  | .escaped _ => True

instance (stops : List Char) : (l : Letter) → Decidable (l.Fits stops)
  | .plain c => inferInstanceAs (Decidable (c ≠ '\\' ∧ c ∉ stops))
  | .escaped _ => .isTrue trivial

end Letter

/-- Letters one after the other. -/
def spell (ls : List Letter) : List Char := ls.flatMap Letter.text

/-- A piece of a regular expression. -/
inductive RegexPiece where
  | letter (l : Letter)
  | characterClass (body : List Letter)
  deriving DecidableEq, Repr, Inhabited

namespace RegexPiece

def text : RegexPiece → List Char
  | .letter l => l.text
  | .characterClass body => '[' :: spell body ++ [']']

/-- A slash closes the regular expression, except in a class. -/
def Fits : RegexPiece → Prop
  | .letter l => l.Fits ['/', '[', '\n']
  | .characterClass body => ∀ l ∈ body, l.Fits [']', '\n']

instance : (p : RegexPiece) → Decidable p.Fits
  | .letter l => inferInstanceAs (Decidable (l.Fits ['/', '[', '\n']))
  | .characterClass body => inferInstanceAs (Decidable (∀ l ∈ body, l.Fits [']', '\n']))

end RegexPiece

/-- The pieces of a regular expression one after the other. -/
def patternText (ps : List RegexPiece) : List Char := ps.flatMap RegexPiece.text

/-! ### Items -/

mutual

/-- A sequence of items. -/
inductive Items where
  | nil
  | char (c : Char) (rest : Items)
  | lineComment (body : List Char) (rest : Items)
  | blockComment (body : List Char) (rest : Items)
  | quoted (quote : Char) (body : List Letter) (rest : Items)
  | regex (body : List RegexPiece) (rest : Items)
  | template (parts : Parts) (rest : Items)

/-- What a template is made of. -/
inductive Parts where
  | nil
  | letter (l : Letter) (rest : Parts)
  | substitution (items : Items) (rest : Parts)

end

mutual

def Items.text : Items → List Char
  | .nil => []
  | .char c rest => c :: rest.text
  | .lineComment body rest => '/' :: '/' :: body ++ ['\n'] ++ rest.text
  | .blockComment body rest => '/' :: '*' :: body ++ ['*', '/'] ++ rest.text
  | .quoted quote body rest => quote :: spell body ++ [quote] ++ rest.text
  | .regex body rest => '/' :: patternText body ++ ['/'] ++ rest.text
  | .template parts rest => '\x60' :: parts.text ++ ['\x60'] ++ rest.text

def Parts.text : Parts → List Char
  | .nil => []
  | .letter l rest => l.text ++ rest.text
  | .substitution items rest => '$' :: '\x7b' :: items.text ++ ['\x7d'] ++ rest.text

end

/-- What stands before, last character first, once a text has been read. -/
def past (text before : List Char) : List Char := text.reverse ++ before

@[simp] theorem past_nil (before : List Char) : past [] before = before := rfl

@[simp] theorem past_cons (c : Char) (cs before : List Char) :
    past (c :: cs) before = past cs (c :: before) := by
  simp [past]

@[simp] theorem past_append (as bs before : List Char) :
    past (as ++ bs) before = past bs (past as before) := by
  simp [past]

/-! ### Brackets that count -/

/-- A bracket that counts. One that opens has an offset in the text. -/
inductive Mark where
  | opens (offset : Nat)
  | closes
  deriving DecidableEq, Repr, Inhabited

/-- A character as a bracket, if it is one. -/
def charMarks (before : List Char) (c : Char) : List Mark :=
  if isOpener c then [.opens (byteLength before.reverse)]
  else if isCloser c then [.closes]
  else []

mutual

/-- The brackets of a sequence of items that comes after some text. -/
def Items.marks (before : List Char) : Items → List Mark
  | .nil => []
  | .char c rest => charMarks before c ++ rest.marks (c :: before)
  | .lineComment body rest => rest.marks (past ('/' :: '/' :: body ++ ['\n']) before)
  | .blockComment body rest => rest.marks (past ('/' :: '*' :: body ++ ['*', '/']) before)
  | .quoted quote body rest => rest.marks (past (quote :: spell body ++ [quote]) before)
  | .regex body rest => rest.marks (past ('/' :: patternText body ++ ['/']) before)
  | .template parts rest =>
    parts.marks ('\x60' :: before) ++ rest.marks (past ('\x60' :: parts.text ++ ['\x60']) before)

/-- The brackets of a piece of a template that comes after some text. -/
def Parts.marks (before : List Char) : Parts → List Mark
  | .nil => []
  | .letter l rest => rest.marks (past l.text before)
  | .substitution items rest =>
    .opens (byteLength before.reverse) :: items.marks ('\x7b' :: '$' :: before) ++
      .closes :: rest.marks (past ('$' :: '\x7b' :: items.text ++ ['\x7d']) before)

end

/-- The number of brackets that open. -/
def opened (ms : List Mark) : Nat := ms.countP fun m => m != .closes

/-- The number of brackets that close. -/
def closed (ms : List Mark) : Nat := ms.countP fun m => m == .closes

/-- There are never more closing brackets than opening ones before them, and as many in all. -/
structure Balanced (ms : List Mark) : Prop where
  within : ∀ pre, pre <+: ms → closed pre ≤ opened pre
  total : closed ms = opened ms

instance (p : List Mark → Prop) [DecidablePred p] (ms : List Mark) :
    Decidable (∀ pre, pre <+: ms → p pre) :=
  decidable_of_iff (∀ pre ∈ ms.inits, p pre) (by simp only [List.mem_inits])

instance (ms : List Mark) : Decidable (Balanced ms) :=
  decidable_of_iff ((∀ pre, pre <+: ms → closed pre ≤ opened pre) ∧ closed ms = opened ms)
    ⟨fun h => ⟨h.1, h.2⟩, fun h => ⟨h.within, h.total⟩⟩

/-- The depth after some brackets. -/
def depthFrom (depth : Nat) (ms : List Mark) : Nat :=
  ms.foldl (fun d m => match m with | .opens _ => d + 1 | .closes => d - 1) depth

/-! ### What fits -/

/-- No division can stand here: what stands before, blanks apart, is nothing or ends in a
character after which there is nothing to divide. -/
def noDivision (before : List Char) : Bool :=
  (before.dropWhile Text.isBlank).head?.all fun last =>
    !isWord last && last != ')' && last != ']'

mutual

/-- Every item is one where it stands after some text. -/
def Items.Fits (before : List Char) : Items → Prop
  | .nil => True
  | .char c rest => c ∉ ['\'', '"', '\x60', '/'] ∧ rest.Fits (c :: before)
  | .lineComment body rest =>
    '\n' ∉ body ∧ rest.Fits (past ('/' :: '/' :: body ++ ['\n']) before)
  | .blockComment body rest =>
    ¬ ['*', '/'] <:+: body ∧ rest.Fits (past ('/' :: '*' :: body ++ ['*', '/']) before)
  | .quoted quote body rest =>
    quote ∈ ['\'', '"'] ∧ (∀ l ∈ body, l.Fits [quote, '\n']) ∧
      rest.Fits (past (quote :: spell body ++ [quote]) before)
  | .regex body rest =>
    (patternText body ≠ [] ∧ (patternText body).head? ∉ [some '/', some '*']) ∧
      (∀ p ∈ body, p.Fits) ∧ noDivision before ∧
      rest.Fits (past ('/' :: patternText body ++ ['/']) before)
  | .template parts rest =>
    parts.Fits ('\x60' :: before) ∧ rest.Fits (past ('\x60' :: parts.text ++ ['\x60']) before)

/-- Every part of a template is one where it stands after some text. A dollar sign is a letter
unless an opening brace follows, and the brackets of a substitution are balanced. -/
def Parts.Fits (before : List Char) : Parts → Prop
  | .nil => True
  | .letter l rest =>
    l.Fits ['\x60'] ∧ (l = .plain '$' → rest.text.head? ≠ some '\x7b') ∧
      rest.Fits (past l.text before)
  | .substitution items rest =>
    items.Fits ('\x7b' :: '$' :: before) ∧ Balanced (items.marks ('\x7b' :: '$' :: before)) ∧
      rest.Fits (past ('$' :: '\x7b' :: items.text ++ ['\x7d']) before)

end

mutual

/-- Whether a sequence of items fits can be computed. -/
def Items.decideFits : (items : Items) → (before : List Char) → Decidable (items.Fits before)
  | .nil, _ => .isTrue trivial
  | .char c rest, before =>
    have := rest.decideFits (c :: before)
    inferInstanceAs (Decidable (_ ∧ _))
  | .lineComment body rest, before =>
    have := rest.decideFits (past ('/' :: '/' :: body ++ ['\n']) before)
    inferInstanceAs (Decidable (_ ∧ _))
  | .blockComment body rest, before =>
    have := rest.decideFits (past ('/' :: '*' :: body ++ ['*', '/']) before)
    inferInstanceAs (Decidable (_ ∧ _))
  | .quoted quote body rest, before =>
    have := rest.decideFits (past (quote :: spell body ++ [quote]) before)
    inferInstanceAs (Decidable (_ ∧ _ ∧ _))
  | .regex body rest, before =>
    have := rest.decideFits (past ('/' :: patternText body ++ ['/']) before)
    inferInstanceAs (Decidable (_ ∧ _ ∧ _ ∧ _))
  | .template parts rest, before =>
    have := parts.decideFits ('\x60' :: before)
    have := rest.decideFits (past ('\x60' :: parts.text ++ ['\x60']) before)
    inferInstanceAs (Decidable (_ ∧ _))

/-- Whether the parts of a template fit can be computed. -/
def Parts.decideFits : (parts : Parts) → (before : List Char) → Decidable (parts.Fits before)
  | .nil, _ => .isTrue trivial
  | .letter l rest, before =>
    have := rest.decideFits (past l.text before)
    inferInstanceAs (Decidable (_ ∧ _ ∧ _))
  | .substitution items rest, before =>
    have := items.decideFits ('\x7b' :: '$' :: before)
    have := rest.decideFits (past ('$' :: '\x7b' :: items.text ++ ['\x7d']) before)
    inferInstanceAs (Decidable (_ ∧ _ ∧ _))

end

instance (items : Items) (before : List Char) : Decidable (items.Fits before) :=
  items.decideFits before

end PatchSandbox.Nesting
