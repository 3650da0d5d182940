import PatchSandbox.Proofs.Nesting.Gaps
import PatchSandbox.Proofs.Script.Reading
import PatchSandbox.Proofs.Script.Spelling

/-!
# Texts that are the same to modules and to scripts

A lexer that reads a script knows comments that one that reads a module does not, and a few words
are names in scripts and operators in modules.

* **`Meets`** — the tokens that the reading of a module may come to, whichever way it takes
  slashes and closing braces.
* **`Neutral`** — a source none of whose tokens is such a comment or such a word.
* **`next_script_eq`** — from there on both lexers read the same.
* **`neutral_of_isNeutral`** — whether a source is neutral can be computed.
-/

namespace PatchSandbox.Script

/-- A token that the reading of a module may come to, whatever it takes slashes and closing
braces for. -/
inductive Meets (source : List Char) : Token → Prop where
  | first {t : Token} : Lexer.first .module source = .ok t → Meets source t
  | next {t u : Token} :
      Meets source t → Lexer.next .module t.span.stop t.rest = .ok u → Meets source u
  | regex {t u : Token} {r : Lexer.RegexRead} :
      Meets source t → t.isSlash = true → Lexer.regex t = .ok r →
      Lexer.next .module r.offset r.rest = .ok u → Meets source u
  | resume {t u : Token} :
      Meets source t → t.isPunct .rightBrace = true → Lexer.templateTail t = .ok u →
      Meets source u

/-- A text that does not begin with a comment of scripts. -/
structure Unmarked (text : List Char) : Prop where
  opening : ¬ "<!--".toList <+: text
  closing : ¬ "-->".toList <+: text

/-- A token that is the same to modules and to scripts. -/
structure Token.Neutral (t : Token) : Prop where
  unmarked : Unmarked t.text
  noAwait : t.isWord "await" = false
  /-- A statement of a module that begins with such a `let` needs no end. -/
  noLet : t.isWord "let" = true → ∀ u, Lexer.next .module t.span.stop t.rest = .ok u →
    u.isPunct .dot = false ∧ u.isPunct .leftParen = false

/-- A source whose tokens are the same to modules and to scripts. -/
class Neutral (source : List Char) : Prop where
  token : ∀ t, Meets source t → t.Neutral

/-! ### The lexer -/

section

variable {source cs : List Char} {t : Token}

/-- Up to a token that is no comment of scripts, the blanks are the same. -/
theorem gap_script_eq {mode : Lexer.GapMode} {newLine fresh : Bool} {offset : Nat}
    (h : ∀ g, Lexer.gap .module mode newLine fresh offset cs = .ok g → Unmarked g.rest) :
    Lexer.gap .script mode newLine fresh offset cs =
      Lexer.gap .module mode newLine fresh offset cs := by
  fun_induction Lexer.gap Goal.module mode newLine fresh offset cs
  case case1 => rfl
  case case2 hm =>
      rw [Lexer.gap]
      exact hm
  case case3 hc ih =>
      rw [Lexer.gap, if_pos hc]
      exact ih h
  case case4 hc ih =>
      rw [Lexer.gap, if_neg hc]
      exact ih h
  case case5 ih | case7 ih | case8 ih =>
      rw [Lexer.gap]
      exact ih h
  case case6 hstar ih =>
      rw [Lexer.gap]
      · exact ih h
      · exact hstar
  case case9 hg _ => cases hg
  case case11 hg _ => cases hg.1
  -- a module goes on with the token here, and a script with a comment
  case case10 => exact absurd ⟨_, rfl⟩ (h _ rfl).opening
  case case12 => exact absurd ⟨_, rfl⟩ (h _ rfl).closing
  case case13 hc ih =>
      rw [Lexer.gap, if_pos hc]
      · exact ih h
      all_goals assumption
  case case14 hc hb ih =>
      rw [Lexer.gap, if_neg hc, if_pos hb]
      · exact ih h
      all_goals assumption
  case case15 hc hb =>
      rw [Lexer.gap, if_neg hc, if_neg hb]
      all_goals assumption

/-- The comments of scripts begin with a mark, so a token is read from them. -/
theorem ok_of_not_unmarked (newLine : Bool) (offset : Nat) (h : ¬ Unmarked cs) :
    ∃ t, Lexer.token newLine offset cs = .ok t := by
  by_cases ho : "<!--".toList <+: cs
  · obtain ⟨rest, rfl⟩ := ho
    exact ⟨_, rfl⟩
  · by_cases hc : "-->".toList <+: cs
    · obtain ⟨rest, rfl⟩ := hc
      exact ⟨_, rfl⟩
    · exact absurd ⟨ho, hc⟩ h

/-- Where the next token of a module is no comment of scripts, a script has the same one. -/
theorem next_script_eq {offset : Nat}
    (h : ∀ u, Lexer.next .module offset cs = .ok u → Unmarked u.text) :
    Lexer.next .script offset cs = Lexer.next .module offset cs := by
  unfold Lexer.next
  rw [gap_script_eq fun g hg => Classical.byContradiction fun hm => ?_]
  obtain ⟨t, ht⟩ := ok_of_not_unmarked g.newLine g.offset hm
  have hu : Lexer.next .module offset cs = .ok t := by rw [Lexer.next, hg]; exact ht
  exact hm ((shape_of_token ht).1 ▸ h t hu)

theorem first_script_eq [hs : Neutral source] :
    Lexer.first .script source = Lexer.first .module source :=
  next_script_eq fun u hu => (hs.token u (.first hu)).unmarked

theorem Meets.next_script_eq [hs : Neutral source] (h : Meets source t) :
    Lexer.next .script t.span.stop t.rest = Lexer.next .module t.span.stop t.rest :=
  Script.next_script_eq fun u hu => (hs.token u (h.next hu)).unmarked

theorem Meets.regex_script_eq [hs : Neutral source] {r : Lexer.RegexRead} (h : Meets source t)
    (ht : t.isSlash = true) (hr : Lexer.regex t = .ok r) :
    Lexer.next .script r.offset r.rest = Lexer.next .module r.offset r.rest :=
  Script.next_script_eq fun u hu => (hs.token u (h.regex ht hr hu)).unmarked

theorem Meets.ne_await [hs : Neutral source] {name : String} {escaped : Bool}
    (h : Meets source t) (hk : t.kind = .word name escaped) : name ≠ "await" := by
  have hn := (hs.token t h).noAwait
  simpa [Token.isWord, hk] using hn

end

/-! ### Computing it -/

instance decidableUnmarked (text : List Char) : Decidable (Unmarked text) :=
  decidable_of_iff (¬ "<!--".toList <+: text ∧ ¬ "-->".toList <+: text)
    ⟨fun h => ⟨h.1, h.2⟩, fun h => ⟨h.opening, h.closing⟩⟩

instance decidableOfRead {r : Lexer.Read Token} {p : Token → Prop} [DecidablePred p] :
    Decidable (∀ u, r = .ok u → p u) :=
  match r with
  | .ok t => decidable_of_iff (p t) ⟨fun h _ hu => Except.ok.inj hu ▸ h, fun h => h t rfl⟩
  | .error _ => isTrue nofun

instance decidableNeutralToken (t : Token) : Decidable t.Neutral :=
  decidable_of_iff (Unmarked t.text ∧ t.isWord "await" = false ∧
      (t.isWord "let" = true → ∀ u, Lexer.next .module t.span.stop t.rest = .ok u →
        u.isPunct .dot = false ∧ u.isPunct .leftParen = false))
    ⟨fun h => ⟨h.1, h.2.1, h.2.2⟩, fun h => ⟨h.unmarked, h.noAwait, h.noLet⟩⟩

/-- Whether a token that was read is neutral, and all that may come after it, up to a bound. -/
def neutralFrom : Nat → Lexer.Read Token → Bool
  | _, .error _ => true
  | 0, .ok _ => false
  | n + 1, .ok t =>
    decide t.Neutral && (t.rest.isEmpty || neutralFrom n (Lexer.next .module t.span.stop t.rest)) &&
      (!t.isSlash || match Lexer.regex t with
        | .ok r => neutralFrom n (Lexer.next .module r.offset r.rest)
        | .error _ => true) &&
      (!t.isPunct .rightBrace || neutralFrom n (Lexer.templateTail t))

/-- Whether the tokens of a source are the same to modules and to scripts. -/
def isNeutral (source : List Char) : Bool :=
  neutralFrom (source.length + 2) (Lexer.first .module source)

/-- The end of a source. -/
structure Token.AtEnd (t : Token) : Prop where
  kind : t.kind = .eof
  text : t.text = []
  rest : t.rest = []

theorem atEnd_of_next {offset : Nat} {u : Token} (h : Lexer.next .module offset [] = .ok u) :
    u.AtEnd := by
  cases h
  exact ⟨rfl, rfl, rfl⟩

theorem Token.AtEnd.neutral {t : Token} (h : t.AtEnd) : t.Neutral := by
  have hw (name : String) : t.isWord name = false := by simp [Token.isWord, h.kind]
  refine ⟨?_, hw _, fun hl => absurd hl (by simp [hw])⟩
  rw [h.text]
  decide

/-- What a source was found neutral by is passed on from token to token. -/
theorem neutralFrom_of_meets {source : List Char} (h : isNeutral source = true) {t : Token}
    (hm : Meets source t) : (∃ n, neutralFrom n (.ok t) = true) ∨ t.AtEnd := by
  induction hm with
  | first ht =>
      rw [isNeutral, ht] at h
      exact .inl ⟨_, h⟩
  | @next t u _ hu ih =>
      rcases ih with ⟨n, hn⟩ | he
      · cases n with
        | zero => cases hn
        | succ n =>
            simp only [neutralFrom, Bool.and_eq_true, Bool.or_eq_true, hu] at hn
            rcases hn.1.1.2 with he | hn
            · rw [List.isEmpty_iff.mp he] at hu
              exact .inr (atEnd_of_next hu)
            · exact .inl ⟨n, hn⟩
      · rw [he.rest] at hu
        exact .inr (atEnd_of_next hu)
  | @regex t u r _ ht hr hu ih =>
      rcases ih with ⟨n, hn⟩ | he
      · cases n with
        | zero => cases hn
        | succ n =>
            simp only [neutralFrom, Bool.and_eq_true, Bool.or_eq_true, ht, hr, hu] at hn
            exact .inl ⟨n, by simpa using hn.1.2⟩
      · simp [Token.isSlash, Token.isPunct, he.kind] at ht
  | @resume t u _ ht hu ih =>
      rcases ih with ⟨n, hn⟩ | he
      · cases n with
        | zero => cases hn
        | succ n =>
            simp only [neutralFrom, Bool.and_eq_true, Bool.or_eq_true, ht, hu] at hn
            exact .inl ⟨n, by simpa using hn.2⟩
      · simp [Token.isPunct, he.kind] at ht

/-- Whether a source is neutral can be computed. -/
theorem neutral_of_isNeutral {source : List Char} (h : isNeutral source = true) :
    Neutral source := by
  refine ⟨fun t hm => ?_⟩
  rcases neutralFrom_of_meets h hm with ⟨n, hn⟩ | he
  · cases n with
    | zero => cases hn
    | succ n =>
        simp only [neutralFrom, Bool.and_eq_true, decide_eq_true_eq] at hn
        exact hn.1.1.1
  · exact he.neutral

example : isNeutral "let n = 2; `$\x7bn\x7d` < !(--n) / 3".toList = true := by decide +kernel

example : isNeutral "let n = 2; n <!--n".toList = false := by decide +kernel

end PatchSandbox.Script
