import PatchSandbox.Proofs.Nesting.Scan
import PatchSandbox.Script.Lexer

/-!
# The scan in literals

What the lexer reads as a string, a piece of a template or a regular expression, the scan goes
over in the mode for it, and leaves that mode where the lexer stops.

A backslash is followed by a whole escape sequence for the lexer, and for the scan by a single
character. What else there is in the sequence is **dull** to the scan. Only the line feed of a
line continuation in a string is not, if it comes after a carriage return.
-/

namespace PatchSandbox.Nesting

open Script (Bracket Through through_takeWhile isHex isHex_of_digit TokenKind Lexer.Quoted
  Lexer.string Lexer.template Lexer.regexBody Lexer.regexFlags)
open Script.Lexer (digitValue? digit? fourDigits? codePoint? octalTail escape)
open Text (isLineTerminator)

/-! ### Escapes -/

/-- A character that means nothing to the scan in a string or a template. -/
def isDull (c : Char) : Bool :=
  !(c == '\\' || c == '\n' || c == '\'' || c == '"' || c == '\x60' || c == '$')

theorem isDull_of_isHex {c : Char} (h : isHex c = true) : isDull c = true := by
  cases hn : isDull c with
  | true => rfl
  | false =>
      simp only [isDull, Bool.not_eq_false', Bool.or_eq_true, beq_iff_eq] at hn
      rcases hn with ((((rfl | rfl) | rfl) | rfl) | rfl) | rfl <;> exact absurd h (by decide)

theorem isNeutral_of_isHex {c : Char} (h : isHex c = true) : isNeutral c = true :=
  isNeutral_of_sort isHex (by decide) h

theorem through_of_fourDigits {cs rest : List Char} {n : Nat}
    (h : fourDigits? cs = some (n, rest)) : Through isHex cs rest := by
  unfold fourDigits? at h
  split at h
  · split at h
    · rename_i ha hb hc hd
      simp only [Option.some.injEq, Prod.mk.injEq] at h
      obtain ⟨-, rfl⟩ := h
      exact .cons (isHex_of_digit ha) (.cons (isHex_of_digit hb) (.cons (isHex_of_digit hc)
        (.cons (isHex_of_digit hd) (.refl _))))
    · cases h
  · cases h

/-- A code point is given by digits, perhaps in braces. -/
theorem codePoint_cases {cs rest : List Char} {n width : Nat}
    (h : codePoint? cs = some (n, width, rest)) :
    (∃ inner, cs = '\x7b' :: inner ∧ Through isHex inner ('\x7d' :: rest)) ∨
      Through isHex cs rest := by
  unfold codePoint? at h
  split at h
  · rename_i inner
    dsimp only at h
    split at h
    · rename_i after hd
      split at h
      · cases h
      · simp only [Option.some.injEq, Prod.mk.injEq] at h
        obtain ⟨-, -, rfl⟩ := h
        have digits : Through isHex inner (inner.dropWhile isHex) := through_takeWhile inner
        rw [show inner.dropWhile isHex = '\x7d' :: after from hd] at digits
        exact .inl ⟨inner, rfl, digits⟩
    · cases h
  · obtain ⟨⟨m, r⟩, hf, he⟩ := Option.map_eq_some_iff.mp h
    simp only [Prod.mk.injEq] at he
    obtain ⟨-, -, rfl⟩ := he
    exact .inr (through_of_fourDigits hf)

theorem through_octalTail (more value width : Nat) (cs : List Char) :
    Through isHex cs (octalTail more value width cs).rest := by
  fun_induction octalTail
  case case3 hd _ ih => exact .cons (isHex_of_digit hd) ih
  all_goals exact .refl _

/-- What follows a backslash: a line ends with two characters, or there is a single character
and then dull ones. -/
theorem escape_cases (c : Char) (cs : List Char) :
    (c = '\r' ∧ cs = '\n' :: (escape (c :: cs)).rest) ∨
      Through isDull cs (escape (c :: cs)).rest := by
  have hex {as bs : List Char} (h : Through isHex as bs) : Through isDull as bs :=
    h.mono fun _ => isDull_of_isHex
  generalize hx : c :: cs = xs
  fun_cases escape xs
  case case1 => cases hx
  case case2 rest =>
    obtain ⟨rfl, rfl⟩ := List.cons.inj hx
    exact .inl ⟨rfl, rfl⟩
  case case3 hp =>
    obtain ⟨rfl, rfl⟩ := List.cons.inj hx
    rcases codePoint_cases hp with ⟨inner, rfl, hi⟩ | hi
    · exact .inr (.cons rfl ((hex hi).trans (.cons rfl (.refl _))))
    · exact .inr (hex hi)
  case case5 hb ha =>
    obtain ⟨rfl, rfl⟩ := List.cons.inj hx
    exact .inr (hex (.cons (isHex_of_digit ha) (.cons (isHex_of_digit hb) (.refl _))))
  case case14 =>
    obtain ⟨rfl, rfl⟩ := List.cons.inj hx
    exact .inr (hex (through_octalTail _ _ _ _))
  case case18 =>
    obtain ⟨rfl, rfl⟩ := List.cons.inj hx
    exact .inr (hex (through_octalTail _ _ _ _))
  all_goals
    obtain ⟨rfl, rfl⟩ := List.cons.inj hx
    exact .inr (.refl _)

/-! ### Strings -/

/-- The modes in which dull characters mean nothing. -/
def Mode.IsText (m : Mode) : Prop := m = .quoted '"' ∨ m = .quoted '\'' ∨ m = .template

section

variable {limit : Nat} {σ : List Bracket} {m : Mode} {before cs rest : List Char} {c : Char}

theorem leads_dull (hm : m.IsText) (hc : isDull c = true) :
    Leads limit ⟨within m σ, before, c :: rest⟩ ⟨within m σ, c :: before, rest⟩ := by
  simp only [isDull, Bool.not_eq_true', Bool.or_eq_false_iff, beq_eq_false_iff_ne] at hc
  refine leads_of_step rfl ?_ (.inr (Nat.le_refl _))
  rcases hm with rfl | rfl | rfl <;> simp [step, hc]

theorem leads_within (hm : m.IsText) (h : Through isDull cs rest) :
    ∀ before, ∃ before', Leads limit ⟨within m σ, before, cs⟩ ⟨within m σ, before', rest⟩ := by
  obtain ⟨text, rfl, ht⟩ := h
  induction text with
  | nil => exact fun before => ⟨before, .refl _⟩
  | cons c text ih =>
      intro before
      simp only [List.all_cons, Bool.and_eq_true] at ht
      obtain ⟨before', hl⟩ := ih ht.2 (c :: before)
      exact ⟨before', (leads_dull hm ht.1).trans hl⟩

/-- A backslash and the character after it. -/
theorem leads_backslash (hm : m.IsText) :
    Leads limit ⟨within m σ, before, '\\' :: c :: rest⟩
      ⟨within m σ, c :: '\\' :: before, rest⟩ := by
  have hs : step limit (within m σ) before '\\' (c :: rest).head? =
      .go { within m σ with skip := true } := by
    rcases hm with rfl | rfl | rfl <;> simp [step]
  exact (leads_of_step rfl hs (.inr (Nat.le_refl _))).trans (leads_of_skip rfl)

end

/-- The end of a line that the scan takes for two. -/
def crlf : List Char := ['\r', '\n']

section

variable {limit : Nat} {σ : List Bracket} {quote : Char} {before cs rest : List Char} {c : Char}

/-- The scan gets to the end of a string, unless a line ends with two characters in it. -/
def Quotes (limit : Nat) (σ : List Bracket) (quote : Char) (cs rest : List Char) : Prop :=
  ∃ text, cs = text ++ rest ∧ (¬ crlf <:+: text → ∀ before, ∃ before',
    Leads limit ⟨within (.quoted quote) σ, before, cs⟩ ⟨outside σ, before', rest⟩)

/-- The closing quote. -/
theorem quotes_close (hq : quote = '"' ∨ quote = '\'') :
    Quotes limit σ quote (quote :: rest) rest := by
  refine ⟨[quote], rfl, fun _ before => ⟨quote :: before, ?_⟩⟩
  refine leads_of_step rfl ?_ (.inr (Nat.le_refl _))
  rcases hq with rfl | rfl <;> simp [step]

/-- A character for itself. -/
theorem Quotes.cons (hc : c ≠ quote ∧ c ≠ '\n' ∧ c ≠ '\\') (h : Quotes limit σ quote cs rest) :
    Quotes limit σ quote (c :: cs) rest := by
  obtain ⟨text, rfl, hl⟩ := h
  refine ⟨c :: text, rfl, fun hn before => ?_⟩
  obtain ⟨before', hl⟩ := hl (fun hi => hn (hi.trans (List.suffix_cons c text).isInfix))
    (c :: before)
  refine ⟨before', Leads.trans (leads_of_step rfl ?_ (.inr (Nat.le_refl _))) hl⟩
  simp [step, hc]

/-- An escape sequence. -/
theorem Quotes.escape (hq : quote = '"' ∨ quote = '\'')
    (h : Quotes limit σ quote (escape (c :: cs)).rest rest) :
    Quotes limit σ quote ('\\' :: c :: cs) rest := by
  have hm : (Mode.quoted quote).IsText := by
    rcases hq with rfl | rfl
    · exact .inl rfl
    · exact .inr (.inl rfl)
  obtain ⟨text, ht, hl⟩ := h
  rcases escape_cases c cs with ⟨rfl, he⟩ | ⟨dull, he, hd⟩
  · refine ⟨'\\' :: '\r' :: '\n' :: text, by rw [he, ht]; rfl, fun hn => absurd ?_ hn⟩
    exact ⟨['\\'], text, rfl⟩
  · refine ⟨'\\' :: c :: dull ++ text, by rw [he, ht]; simp, fun hn before => ?_⟩
    have tail : Through isDull cs (Script.Lexer.escape (c :: cs)).rest := ⟨dull, he, hd⟩
    obtain ⟨before₁, h₁⟩ := leads_within hm tail (c :: '\\' :: before)
    obtain ⟨before₂, h₂⟩ := hl (fun hi => hn (hi.trans (List.suffix_append _ _).isInfix)) before₁
    exact ⟨before₂, (leads_backslash hm).trans (h₁.trans h₂)⟩

theorem string_leads {start fuel offset : Nat} {value : Array UInt16} {legacy : Bool}
    {q : Lexer.Quoted} (hq : quote = '"' ∨ quote = '\'')
    (h : Lexer.string quote start fuel value legacy offset cs = .ok q) :
    Quotes limit σ quote cs q.rest := by
  fun_induction Lexer.string
  case case3 =>
    cases h
    exact quotes_close hq
  case case6 hm ih | case7 hm ih | case8 hm ih =>
    simp only [show (Script.Lexer.escape (_ :: _)).meaning = _ from hm] at h
    exact (ih h).escape hq
  case case9 hm =>
    simp only [show (Script.Lexer.escape (_ :: _)).meaning = _ from hm] at h
    cases h
  case case10 hc hn hb ih => exact (ih h).cons ⟨hc, fun he => hn (.inl he), hb⟩
  all_goals cases h

end

/-! ### Templates -/

section

variable {limit : Nat} {σ : List Bracket} {before cs rest : List Char} {c : Char}

/-- A character of a template for itself. -/
theorem leads_in_template (hb : c ≠ '\x60') (hd : c = '$' → rest.head? ≠ some '\x7b')
    (hs : c ≠ '\\') :
    Leads limit ⟨within .template σ, before, c :: rest⟩
      ⟨within .template σ, c :: before, rest⟩ := by
  refine leads_of_step rfl ?_ (.inr (Nat.le_refl _))
  have hn : ¬(c = '$' ∧ rest.head? = some '\x7b') := fun h => hd h.1 h.2
  simp only [step, mode_within, if_neg hb, if_neg hs, if_neg hn]

/-- The scan gets to the end of a piece of a template. -/
def Pieces (limit : Nat) (σ : List Bracket) (closes : Bool) (cs rest : List Char) : Prop :=
  ∀ before, ∃ before', Leads limit ⟨within .template σ, before, cs⟩
    ⟨outside (if closes then σ else .substitution :: σ), before', rest⟩

theorem pieces_substitution : Pieces limit σ false ('$' :: '\x7b' :: rest) rest := by
  intro before
  have hs : step limit (within .template σ) before '$' ('\x7b' :: rest).head? =
      (within .template σ).descend limit fun s => s.enter (.substitution s.depth) true := by
    simp [step]
  exact ⟨_, (leads_of_descend rfl hs fun _ => rfl).trans (leads_of_skip rfl)⟩

theorem pieces_backtick : Pieces limit σ true ('\x60' :: rest) rest :=
  fun _ => ⟨_, leads_of_step rfl (by simp [step]) (.inr (Nat.le_refl _))⟩

theorem Pieces.cons {closes : Bool} (hb : c ≠ '\x60') (hd : c = '$' → cs.head? ≠ some '\x7b')
    (hs : c ≠ '\\') (h : Pieces limit σ closes cs rest) :
    Pieces limit σ closes (c :: cs) rest := by
  intro before
  obtain ⟨before', hl⟩ := h (c :: before)
  exact ⟨before', (leads_in_template hb hd hs).trans hl⟩

/-- An escape sequence in a template. -/
theorem Pieces.escape {closes : Bool} (h : Pieces limit σ closes (escape (c :: cs)).rest rest) :
    Pieces limit σ closes ('\\' :: c :: cs) rest := by
  intro before
  have hm : Mode.template.IsText := .inr (.inr rfl)
  suffices hc : ∃ before₁, Leads limit ⟨within .template σ, before, '\\' :: c :: cs⟩
      ⟨within .template σ, before₁, (Script.Lexer.escape (c :: cs)).rest⟩ by
    obtain ⟨before₁, hl⟩ := hc
    obtain ⟨before₂, hl'⟩ := h before₁
    exact ⟨before₂, hl.trans hl'⟩
  rcases escape_cases c cs with ⟨-, he⟩ | he
  · generalize (Script.Lexer.escape (c :: cs)).rest = after at he
    subst he
    exact ⟨_, (leads_backslash hm).trans
      (leads_in_template (by decide) (fun h => absurd h (by decide)) (by decide))⟩
  · obtain ⟨before', hl⟩ := leads_within hm he (c :: '\\' :: before)
    exact ⟨before', (leads_backslash hm).trans hl⟩

theorem template_leads {opens : Bool} {start fuel offset : Nat} {cooked : Option (Array UInt16)}
    {raw : Array UInt16} {q : Lexer.Quoted}
    (h : Lexer.template opens start fuel cooked raw offset cs = .ok q) :
    ∃ quasi closes, q.kind = .template quasi opens closes ∧
      ∀ limit σ, Pieces limit σ closes cs q.rest := by
  fun_induction Lexer.template
  case case3 =>
    cases h
    exact ⟨_, true, rfl, fun _ _ => pieces_backtick⟩
  case case4 =>
    cases h
    exact ⟨_, false, rfl, fun _ _ => pieces_substitution⟩
  case case5 ih =>
    obtain ⟨quasi, closes, hk, hp⟩ := ih h
    have lineFeed (limit : Nat) (σ : List Bracket) : Pieces limit σ closes ('\n' :: _) q.rest :=
      (hp limit σ).cons (by decide) (fun h => absurd h (by decide)) (by decide)
    exact ⟨quasi, closes, hk, fun limit σ =>
      (lineFeed limit σ).cons (by decide) (fun h => absurd h (by decide)) (by decide)⟩
  case case6 ih =>
    obtain ⟨quasi, closes, hk, hp⟩ := ih h
    exact ⟨quasi, closes, hk, fun limit σ =>
      (hp limit σ).cons (by decide) (fun h => absurd h (by decide)) (by decide)⟩
  case case8 ih =>
    obtain ⟨quasi, closes, hk, hp⟩ := ih h
    exact ⟨quasi, closes, hk, fun limit σ => (hp limit σ).escape⟩
  case case9 rest hb hd _ _ hs ih =>
    obtain ⟨quasi, closes, hk, hp⟩ := ih h
    refine ⟨quasi, closes, hk, fun limit σ => (hp limit σ).cons hb (fun hc hh => ?_) hs⟩
    obtain ⟨more, rfl⟩ : ∃ more, rest = '\x7b' :: more := by
      cases rest with
      | nil => cases hh
      | cons d more => exact ⟨more, by simpa using hh⟩
    exact hd more hc rfl
  all_goals cases h

end

/-! ### Regular expressions -/

section

variable {limit : Nat} {σ : List Bracket} {cs : List Char}

/-- The scan in a regular expression. -/
def inRegex (σ : List Bracket) (inClass escaped : Bool) : Scan :=
  { within (.regex inClass) σ with skip := escaped }

theorem inRegex_false (inClass : Bool) : inRegex σ inClass false = within (.regex inClass) σ := rfl

/-- The scan gets to the slash that closes a regular expression. -/
theorem regexBody_leads (limit : Nat) (σ : List Bracket) {start offset stop : Nat}
    {inClass escaped : Bool}
    {pattern pattern' : String} {rest : List Char}
    (h : Lexer.regexBody start inClass escaped pattern offset cs = .ok (pattern', stop, rest)) :
    ∀ before, ∃ before', Leads limit ⟨inRegex σ inClass escaped, before, cs⟩
      ⟨outside σ, before', rest⟩ := by
  fun_induction Lexer.regexBody
  case case3 ih =>
    intro before
    obtain ⟨before', hl⟩ := ih h (_ :: before)
    exact ⟨before', (leads_of_skip rfl).trans hl⟩
  case case4 inClass _ _ _ rest he _ ih =>
    intro before
    obtain ⟨before', hl⟩ := ih h ('\\' :: before)
    have hk : step limit (within (.regex inClass) σ) before '\\' rest.head? =
        .go (inRegex σ inClass true) := by
      simp [step, inRegex]
    rw [eq_false_of_ne_true he, inRegex_false]
    exact ⟨before', (leads_of_step rfl hk (.inr (Nat.le_refl _))).trans hl⟩
  case case5 inClass _ _ _ rest he _ _ ih =>
    intro before
    obtain ⟨before', hl⟩ := ih h ('[' :: before)
    have hk : step limit (within (.regex inClass) σ) before '[' rest.head? =
        .go (within (.regex true) σ) := by
      simp [step]
    rw [eq_false_of_ne_true he, inRegex_false]
    exact ⟨before', (leads_of_step rfl hk (.inr (Nat.le_refl _))).trans hl⟩
  case case6 inClass _ _ _ rest he _ _ _ ih =>
    intro before
    obtain ⟨before', hl⟩ := ih h (']' :: before)
    have hk : step limit (within (.regex inClass) σ) before ']' rest.head? =
        .go (within (.regex false) σ) := by
      cases inClass <;> simp [step]
    rw [eq_false_of_ne_true he, inRegex_false]
    exact ⟨before', (leads_of_step rfl hk (.inr (Nat.le_refl _))).trans hl⟩
  case case7 inClass _ _ _ _ rest _ he _ _ _ hc =>
    cases h
    intro before
    obtain ⟨rfl, hi⟩ := hc
    have hk : step limit (within (.regex inClass) σ) before '/' rest.head? = .go (outside σ) := by
      simp only [Bool.not_eq_true'] at hi
      simp [step, hi]
    rw [eq_false_of_ne_true he, inRegex_false]
    exact ⟨_, leads_of_step rfl hk (.inr (Nat.le_refl _))⟩
  case case8 inClass _ _ _ c rest ht he hb ho hc hs ih =>
    intro before
    obtain ⟨before', hl⟩ := ih h (_ :: before)
    rw [eq_false_of_ne_true he, inRegex_false]
    have hn : c ≠ '\n' := by
      rintro rfl
      exact ht rfl
    have hk : step limit (within (.regex inClass) σ) before c rest.head? =
        .go (within (.regex inClass) σ) := by
      simp only [step, mode_within, if_neg hb, if_neg hn, if_neg ho, hc, false_and, if_neg hs,
        if_false]
    exact ⟨before', Leads.trans (leads_of_step rfl hk (.inr (Nat.le_refl _))) hl⟩
  all_goals cases h

theorem isNeutral_of_alphanum {c : Char} (h : (c.isAlphanum || c == '$' || c == '_') = true) :
    isNeutral c = true :=
  isNeutral_of_sort (fun c => c.isAlphanum || c == '$' || c == '_') (by decide) h

/-- The flags of a regular expression mean nothing to the scan. -/
theorem through_of_regexFlags {offset stop : Nat} {flags flags' : String} {rest : List Char}
    (h : Lexer.regexFlags flags offset cs = .ok (flags', stop, rest)) :
    Through isNeutral cs rest := by
  fun_induction Lexer.regexFlags
  case case1 =>
    cases h
    exact .refl _
  case case4 hc _ _ ih => exact .cons (isNeutral_of_alphanum hc) (ih h)
  case case5 =>
    cases h
    exact .refl _
  all_goals cases h

end

end PatchSandbox.Nesting
