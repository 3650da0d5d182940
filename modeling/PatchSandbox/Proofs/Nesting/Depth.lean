import PatchSandbox.Proofs.Nesting.Tokens
import PatchSandbox.Proofs.Script.Balance.Statement

/-!
# How deep a source nests

* **`Plain`** says that the scan takes everything in a reading of a source for what it is.
* **`depth_le_limit`** — a module in which the scan finds no excess has a whole reading, and at
  no stage of a plain one do more brackets stand open than the limit.

The scan follows a reading token by token: `Reached` says that it stands where the next token
begins, in the state for code between the brackets that stand open there.
-/

namespace PatchSandbox.Nesting

open Script (Token Bracket Through ok_of_bind shape_of_token kind_of_template spelling Lexeme Reads
  Stage Whole Token.isSlash TokenKind.around Lexer.RegexRead Lexer.first Lexer.next Lexer.regex
  Lexer.templateTail Lexer.gap Lexer.token Lexer.skipHashbang)

/-! ### What the scan knows -/

/-- What stands before a token, last character first. -/
def before (source : List Char) (t : Token) : List Char :=
  (source.take (source.length - t.text.length)).reverse

/-- The scan takes this for what it is: a slash for a division or for a regular expression by
what stands before it, no line ends with two characters in a string, and line comments
after it end with line feeds. -/
structure PlainLexeme (source : List Char) (l : Lexeme) : Prop where
  slash : l.token.isSlash = true → startsRegex (before source l.token) = l.regex
  string : ∀ value legacy, l.token.kind = .string value legacy → ¬ crlf <:+: spelling l.token
  gap : tame .blank l.rest = true

/-- The scan takes all this for what it is, and a line that names an interpreter means
nothing to it. -/
structure Plain (source : List Char) (ls : List Lexeme) : Prop where
  interpreter : Through isNeutral source (Lexer.skipHashbang source).2
  gap : tame .blank (Lexer.skipHashbang source).2 = true
  lexemes : ∀ l ∈ ls, PlainLexeme source l

/-! ### The scan follows a reading -/

/-- Tokens as the lexer gives them. -/
inductive Lexed : Token → Prop where
  | token {newLine : Bool} {offset : Nat} {t : Token} :
      Lexer.token newLine offset t.text = .ok t → NoComment t.text → Lexed t
  | tail {newLine : Bool} {offset : Nat} {t u : Token} :
      Lexer.token newLine offset t.text = .ok t → t.isPunct .rightBrace = true →
      Lexer.templateTail t = .ok u → Lexed u

/-- The scan gets to a token between some brackets. -/
structure Reached (limit : Nat) (source : List Char) (σ : List Bracket) (t : Token) : Prop where
  lexed : Lexed t
  leads : Leads limit ⟨outside [], [], source⟩ ⟨outside σ, before source t, t.text⟩

section

variable {limit : Nat} {source : List Char} {σ σ' τ : List Bracket} {t u : Token}

/-- What stands before a token is what comes before it. -/
theorem before_eq {b : List Char}
    (h : Leads limit ⟨outside [], [], source⟩ ⟨outside σ, b, t.text⟩) : before source t = b := by
  have ht : source = b.reverse ++ t.text := h.text
  simp [before, ht]

/-- The scan gets to the next token. -/
theorem reached_next {offset : Nat} {b rest : List Char}
    (hl : Leads limit ⟨outside [], [], source⟩ ⟨outside σ, b, rest⟩)
    (ht : tame .blank rest = true) (h : Lexer.next .module offset rest = .ok u) :
    Reached limit source σ u := by
  obtain ⟨g, hg, hu⟩ := ok_of_bind h
  obtain ⟨hn, hg⟩ := gap_leads limit σ hg ht
  obtain ⟨b', hb⟩ := hg b
  have he : u.text = g.rest := (shape_of_token hu).1
  rw [← he] at hu hn hb
  have hl' := hl.trans hb
  exact ⟨.token hu hn, before_eq hl' ▸ hl'⟩

/-- A token that is taken as it is. -/
theorem Reached.token (h : Reached limit source σ t) (ha : t.kind.around σ = some σ')
    (hp : PlainLexeme source ⟨t, false, t.rest⟩)
    (hu : Lexer.next .module t.span.stop t.rest = .ok u) : Reached limit source σ' u := by
  obtain ⟨lexed, leads⟩ := h
  suffices hl : ∃ b, Leads limit ⟨outside σ, before source t, t.text⟩ ⟨outside σ', b, t.rest⟩ by
    obtain ⟨b, hl⟩ := hl
    exact reached_next (leads.trans hl) hp.gap hu
  cases lexed with
  | token ht hn => exact token_leads ht hn ha hp.slash hp.string
  | tail ht hb hu =>
      obtain ⟨he, hl⟩ := templateTail_leads ht hb hu ha
      exact he ▸ hl

/-- What follows a substitution is no punctuator. -/
theorem not_isPunct_of_tail (h : Lexer.templateTail t = .ok u) (p : Script.Punct) :
    u.isPunct p = false := by
  obtain ⟨q, hq, h⟩ := ok_of_bind h
  cases h
  obtain ⟨quasi, closes, hk, -⟩ := template_leads hq
  simp [Token.isPunct, hk]

/-- A slash that is taken for a regular expression. -/
theorem Reached.regex {r : Lexer.RegexRead} (h : Reached limit source σ t)
    (hs : t.isSlash = true) (hr : Lexer.regex t = .ok r)
    (hp : PlainLexeme source ⟨t, true, r.rest⟩)
    (hu : Lexer.next .module r.offset r.rest = .ok u) : Reached limit source σ u := by
  obtain ⟨lexed, leads⟩ := h
  cases lexed with
  | token ht hn =>
      obtain ⟨b, hl⟩ := regex_leads ht hs hr hn (hp.slash hs)
      exact reached_next (leads.trans hl) hp.gap hu
  | tail _ _ ht =>
      simp [Token.isSlash, not_isPunct_of_tail ht] at hs

/-- A brace that is read again. -/
theorem Reached.resume (h : Reached limit source σ t) (hb : t.isPunct .rightBrace = true)
    (hu : Lexer.templateTail t = .ok u) : Reached limit source σ u := by
  obtain ⟨lexed, leads⟩ := h
  cases lexed with
  | token ht hn =>
      have he : u.text = t.text := by
        obtain ⟨q, hq, h⟩ := ok_of_bind hu
        cases h
        rfl
      refine ⟨.tail ht hb hu, ?_⟩
      simpa only [before, he] using leads
  | tail _ _ ht => simp [not_isPunct_of_tail ht] at hb

/-- The scan follows a reading to its end. -/
theorem Reached.reads {ls : List Lexeme} (h : Reached limit source σ t)
    (hr : Reads σ t ls τ u) (hp : ∀ l ∈ ls, PlainLexeme source l) : Reached limit source τ u := by
  induction hr with
  | refl => exact h
  | token ha hu _ ih =>
      exact ih (h.token ha (hp _ (List.mem_cons_self ..)) hu) fun l hl => hp l (.tail _ hl)
  | regex hs hr hu _ ih =>
      exact ih (h.regex hs hr (hp _ (List.mem_cons_self ..)) hu) fun l hl => hp l (.tail _ hl)
  | resume hb hu _ ih => exact ih (h.resume hb hu) hp

end

/-- At no stage of a plain reading do more brackets stand open than the limit, if the scan
finds no excess. -/
theorem length_le_of_plain {limit : Nat} {source : List Char} {ls : List Lexeme}
    {σ : List Bracket} {t : Token} (hn : excessNesting source limit = none)
    (hs : Stage source ls σ t) (hp : Plain source ls) : σ.length ≤ limit := by
  obtain ⟨first, hf, hr⟩ := hs
  obtain ⟨interpreter, gap, lexemes⟩ := hp
  have line : Gets limit [] [] source (Lexer.skipHashbang source).2 := gets_of_through interpreter
  obtain ⟨b, hl⟩ := line []
  have hreached := (reached_next hl gap hf).reads hr lexemes
  rcases hreached.leads.run 0 with ⟨o, he⟩ | ⟨hd, -⟩
  · have : run limit {} [] 0 source = .excess o := he
    simp [excessNesting, this] at hn
  · have : σ.length ≤ limit ∨ σ.length ≤ 0 := hd
    omega

/-- **A module in which the scan finds no excess can be read to its end, and at no stage of a
plain reading of it do more brackets stand open than the limit.** -/
theorem depth_le_limit {limit : Nat} {source : List Char} {p : Script.Program}
    (hp : Script.Program.read .module source = .ok p) (hn : excessNesting source limit = none) :
    (∃ ls, Whole source ls) ∧
      ∀ ls σ t, Stage source ls σ t → Plain source ls → σ.length ≤ limit :=
  ⟨Script.whole_of_read hp, fun _ _ _ hs hplain => length_le_of_plain hn hs hplain⟩

/-- A source with a bracket in a regular expression, a division and a comment. -/
def tidy : List Char :=
  ['[', '/', '[', '(', ']', '/', ',', ' ', 'x', ' ', '/', ' ', 'y', ']', ' ', '/', '/', '\n']

theorem tidy_depth_le :
    (∃ p, Script.Program.read .module tidy = .ok p ∧ excessNesting tidy 1 = none) ∧
      ∃ ls σ t, (Stage tidy ls σ t ∧ Plain tidy ls) ∧ σ.length = 1 ∧ σ.length ≤ 1 := by
  obtain ⟨p, hp⟩ : ∃ p, Script.Program.read .module tidy = .ok p := by
    have h : (Script.Program.read .module tidy).toOption.isSome = true := by decide +kernel
    obtain ⟨p, hp⟩ := Option.isSome_iff_exists.mp h
    refine ⟨p, ?_⟩
    cases hr : Script.Program.read .module tidy with
    | error flaw =>
        rw [hr] at hp
        cases hp
    | ok q =>
        rw [hr] at hp
        cases hp
        rfl
  have hn : excessNesting tidy 1 = none := by decide
  obtain ⟨ls, σ, t, hs, hplain, hσ⟩ :
      ∃ ls σ t, Stage tidy ls σ t ∧ Plain tidy ls ∧ σ.length = 1 := by
    refine ⟨_, _, _, ⟨_, rfl, .token rfl rfl (.regex rfl rfl rfl (.token rfl rfl
      (.token rfl rfl (.token rfl rfl (.token rfl rfl (.refl _ _))))))⟩, ⟨.refl _, rfl, ?_⟩, rfl⟩
    have other {s : Bool} {p : Prop} (h : s = false) (hs : s = true) : p := by
      rw [h] at hs
      cases hs
    refine List.forall_mem_cons.mpr ⟨⟨other rfl, nofun, rfl⟩, ?_⟩
    refine List.forall_mem_cons.mpr ⟨⟨fun _ => rfl, nofun, rfl⟩, ?_⟩
    refine List.forall_mem_cons.mpr ⟨⟨other rfl, nofun, rfl⟩, ?_⟩
    refine List.forall_mem_cons.mpr ⟨⟨other rfl, nofun, rfl⟩, ?_⟩
    refine List.forall_mem_cons.mpr ⟨⟨fun _ => rfl, nofun, rfl⟩, ?_⟩
    refine List.forall_mem_cons.mpr ⟨⟨other rfl, nofun, rfl⟩, ?_⟩
    exact nofun
  exact ⟨⟨p, hp, hn⟩, ls, σ, t, ⟨hs, hplain⟩, hσ, (depth_le_limit hp hn).2 ls σ t hs hplain⟩

/-- A source with a line comment that ends with a carriage return. -/
def unseen : List Char := ['/', '/', '\r', '[', '[', ']', ']']

/-- The scan takes the line after a carriage return for a part of the comment. -/
theorem carriage_return_hides : (Script.Program.read .module unseen).toOption.isSome = true ∧
    excessNesting unseen 1 = none ∧ ∃ ls σ t, Stage unseen ls σ t ∧ 1 < σ.length := by
  refine ⟨by decide +kernel, by decide, ?_⟩
  exact ⟨_, _, _, ⟨_, rfl, .token rfl rfl (.token rfl rfl (.refl _ _))⟩, by decide⟩

end PatchSandbox.Nesting
