import PatchSandbox.Script.Lexer

/-!
# Readings of a source

The grammar decides whether a slash divides or starts a regular expression, and whether a
closing brace ends a block or a substitution.

* **`TokenKind.around`** tells what a token does to the brackets that stand open.
* **`Reads`** goes from one token to another with any such decisions. So what is shown of
  all of its readings is shown of the one the parser takes.
* **`Stage`** is a point of a source that has been read so far, **`Whole`** its end.
-/

namespace PatchSandbox.Script

/-! ### Brackets -/

/-- A bracket that stands open. -/
inductive Bracket where
  | paren
  | square
  | brace
  /-- A template goes on after it. -/
  | substitution
  deriving DecidableEq, Repr, Inhabited

/-- Closes a bracket of one kind. -/
def closing (b : Bracket) : List Bracket → Option (List Bracket)
  | [] => none
  | c :: σ => if b = c then some σ else none

theorem closing_eq_some {b : Bracket} {σ σ' : List Bracket} (h : closing b σ = some σ') :
    σ = b :: σ' := by
  unfold closing at h
  split at h
  · cases h
  · split at h
    · rename_i hb
      cases h
      rw [hb]
    · cases h

/-- The brackets that stand open after a token, if it may stand where it does. -/
def TokenKind.around : TokenKind → List Bracket → Option (List Bracket)
  | .punct .leftParen, σ => some (.paren :: σ)
  | .punct .leftBracket, σ => some (.square :: σ)
  | .punct .leftBrace, σ => some (.brace :: σ)
  | .punct .rightParen, σ => closing .paren σ
  | .punct .rightBracket, σ => closing .square σ
  | .punct .rightBrace, σ => closing .brace σ
  | .template _ opens closes, σ =>
    (if opens then some σ else closing .substitution σ).map fun σ =>
      if closes then σ else .substitution :: σ
  | _, σ => some σ

/-- A slash, for a division. -/
def Token.isSlash (t : Token) : Bool := t.isPunct .slash || t.isPunct .slashAssign

/-! ### Readings -/

/-- Something that has been read: its first token, whether that slash starts a regular
expression, and what stands after it. -/
structure Lexeme where
  token : Token
  regex : Bool
  rest : List Char
  deriving Inhabited

/-- Reading on from a token that stands between some brackets to another one. -/
inductive Reads : List Bracket → Token → List Lexeme → List Bracket → Token → Prop where
  | refl (σ : List Bracket) (t : Token) : Reads σ t [] σ t
  | token {σ σ' τ : List Bracket} {t u v : Token} {ls : List Lexeme} :
      t.kind.around σ = some σ' → Lexer.next .module t.span.stop t.rest = .ok u →
      Reads σ' u ls τ v → Reads σ t (⟨t, false, t.rest⟩ :: ls) τ v
  | regex {σ τ : List Bracket} {t u v : Token} {ls : List Lexeme} {r : Lexer.RegexRead} :
      t.isSlash = true → Lexer.regex t = .ok r → Lexer.next .module r.offset r.rest = .ok u →
      Reads σ u ls τ v → Reads σ t (⟨t, true, r.rest⟩ :: ls) τ v
  /-- A brace is read again as what follows a substitution. -/
  | resume {σ τ : List Bracket} {t u v : Token} {ls : List Lexeme} :
      t.isPunct .rightBrace = true → Lexer.templateTail t = .ok u → Reads σ u ls τ v →
      Reads σ t ls τ v

/-- A source has been read so far: what has been read, the brackets that stand open and the
token that comes next. -/
def Stage (source : List Char) (ls : List Lexeme) (σ : List Bracket) (t : Token) : Prop :=
  ∃ first, Lexer.first .module source = .ok first ∧ Reads [] first ls σ t

/-- A source has been read to its end, and no bracket stands open there. -/
def Whole (source : List Char) (ls : List Lexeme) : Prop :=
  ∃ t, Stage source ls [] t ∧ t.isEof = true

end PatchSandbox.Script
