import PatchSandbox.Proofs.Nesting.Gaps
import PatchSandbox.Proofs.Nesting.Literals

/-!
# The scan over a token

**`around`** tells what a token does to the brackets that stand open. The scan does the same
over every token, if a slash is to it what it is to the grammar: **`token_leads`**,
**`templateTail_leads`** and **`regex_leads`**.
-/

namespace PatchSandbox.Nesting

open Script (Token TokenKind Punct Bracket Through Shape closing closing_eq_some ok_of_bind
  isNumeric eq_of_longest shape_of_token kind_of_string kind_of_isPunct eq_of_isPunct spelling
  spelling_eq Token.isSlash TokenKind.around)
open Script.Lexer (WordRead RegexRead codePoint? word token regex templateTail)
open Text (isIdentifierStart isIdentifierPart)

/-! ### Words -/

section

variable {limit offset : Nat} {σ : List Bracket} {cs rest : List Char} {c : Char}

theorem isNeutral_of_isNumeric (h : isNumeric c = true) : isNeutral c = true :=
  isNeutral_of_sort isNumeric (by decide) h

theorem isNeutral_of_identifierStart (h : isIdentifierStart c.toNat = true) : isNeutral c = true :=
  isNeutral_of_sort (fun c => isIdentifierStart c.toNat) (by decide) h

theorem isNeutral_of_identifierPart (h : isIdentifierPart c.toNat = true) : isNeutral c = true :=
  isNeutral_of_sort (fun c => isIdentifierPart c.toNat) (by decide) h

/-- Where the scan does not know an escape, it finds a pair of braces. -/
theorem codePoint_gets {n width : Nat} (h : codePoint? cs = some (n, width, rest)) :
    Gets limit σ σ cs rest := by
  rcases codePoint_cases h with ⟨inner, rfl, hi⟩ | hi
  · have hl : Gets limit (.brace :: σ) (.brace :: σ) inner ('\x7d' :: rest) :=
      gets_of_through (hi.mono fun _ => isNeutral_of_isHex)
    have opens : Gets limit σ (.brace :: σ) ('\x7b' :: inner) inner :=
      fun _ => ⟨_, leads_open rfl nofun⟩
    exact opens.trans (hl.trans fun _ => ⟨_, leads_closeBrace⟩)
  · exact gets_of_through (hi.mono fun _ => isNeutral_of_isHex)

theorem word_gets {fuel : Nat} {name : String} {escaped : Bool} {w : WordRead}
    (h : word fuel name escaped offset cs = .ok w) : Gets limit σ σ cs w.rest := by
  fun_induction word
  case case1 | case2 =>
    cases h
    exact .refl
  case case3 hp _ _ ih =>
    have hu (cs : List Char) : Through isNeutral ('\\' :: 'u' :: cs) cs :=
      .cons (by decide) (.cons (by decide) (.refl _))
    exact (gets_of_through (hu _)).trans ((codePoint_gets hp).trans (ih h))
  case case7 name _ _ c _ _ hc ih =>
    have hn : isNeutral c = true := by
      split at hc
      · exact isNeutral_of_identifierStart hc
      · exact isNeutral_of_identifierPart hc
    exact (gets_of_through (.cons hn (.refl _))).trans (ih h)
  case case8 =>
    cases h
    exact .refl
  all_goals cases h

end

/-! ### Punctuators -/

/-- The punctuators that mean something to the scan. -/
def marked : List Punct :=
  [.leftParen, .rightParen, .leftBracket, .rightBracket, .leftBrace, .rightBrace, .slash,
    .slashAssign]

theorem isNeutral_text {p : Punct} (h : p ∉ marked) : p.text.toList.all isNeutral = true := by
  cases p <;> first | rfl | exact absurd (by decide) h

theorem around_of_not_marked {p : Punct} (h : p ∉ marked) (σ : List Bracket) :
    TokenKind.around (.punct p) σ = some σ := by
  cases p <;> first | rfl | exact absurd (by decide) h

/-- A slash that does not open anything. -/
theorem leads_slash {limit : Nat} {σ : List Bracket} {before rest : List Char}
    (hn : NoComment ('/' :: rest)) (hd : startsRegex before = false) :
    Leads limit ⟨outside σ, before, '/' :: rest⟩ ⟨outside σ, '/' :: before, rest⟩ := by
  refine leads_of_step rfl ?_ (.inr (Nat.le_refl _))
  simp [step_outside, codeStep, hn.head, hd, isOpener]

theorem punct_leads {limit : Nat} {σ σ' : List Bracket} {before cs rest : List Char} {p : Punct}
    (h : Punct.longest? cs = some (p, rest)) (ha : TokenKind.around (.punct p) σ = some σ')
    (hn : NoComment cs) (hd : p = .slash ∨ p = .slashAssign → startsRegex before = false) :
    ∃ before', Leads limit ⟨outside σ, before, cs⟩ ⟨outside σ', before', rest⟩ := by
  by_cases hm : p ∈ marked
  · have hcs := eq_of_longest h
    subst hcs
    simp only [marked, List.mem_cons, List.not_mem_nil, or_false] at hm
    rcases hm with rfl | rfl | rfl | rfl | rfl | rfl | rfl | rfl
    · cases ha
      exact ⟨_, leads_open rfl nofun⟩
    · cases closing_eq_some ha
      exact ⟨_, leads_close (.inl rfl) nofun⟩
    · cases ha
      exact ⟨_, leads_open rfl nofun⟩
    · cases closing_eq_some ha
      exact ⟨_, leads_close (.inr rfl) nofun⟩
    · cases ha
      exact ⟨_, leads_open rfl nofun⟩
    · cases closing_eq_some ha
      exact ⟨_, leads_closeBrace⟩
    · cases ha
      exact ⟨_, leads_slash hn (hd (.inl rfl))⟩
    · cases ha
      exact ⟨_, (leads_slash hn (hd (.inr rfl))).trans (leads_neutral_cons (by decide))⟩
  · rw [around_of_not_marked hm] at ha
    cases ha
    exact gets_of_through ⟨_, eq_of_longest h, isNeutral_text hm⟩ before

/-! ### Tokens -/

/-- A template opens. -/
theorem leads_template {limit : Nat} {σ : List Bracket} {before rest : List Char} :
    Leads limit ⟨outside σ, before, '\x60' :: rest⟩ ⟨within .template σ, '\x60' :: before, rest⟩ :=
  leads_of_step rfl (by simp [step_outside, codeStep]) (.inr (Nat.le_refl _))

/-- A string is plain to the scan. -/
theorem Quotes.leads {limit : Nat} {σ : List Bracket} {quote : Char} {before cs rest : List Char}
    (hq : quote = '"' ∨ quote = '\'') (h : Quotes limit σ quote cs rest)
    (hn : ∀ text, quote :: cs = text ++ rest → ¬ crlf <:+: text) :
    ∃ before', Leads limit ⟨outside σ, before, quote :: cs⟩ ⟨outside σ, before', rest⟩ := by
  obtain ⟨text, rfl, hl⟩ := h
  have hi : ¬ crlf <:+: text := fun hi =>
    hn (quote :: text) rfl (hi.trans (List.suffix_cons quote text).isInfix)
  obtain ⟨before', hl⟩ := hl hi (quote :: before)
  have opens : Leads limit ⟨outside σ, before, quote :: (text ++ rest)⟩
      ⟨within (.quoted quote) σ, quote :: before, text ++ rest⟩ := by
    refine leads_of_step rfl ?_ (.inr (Nat.le_refl _))
    rcases hq with rfl | rfl <;> simp [step_outside, codeStep]
  exact ⟨before', opens.trans hl⟩

theorem shape_leads {limit : Nat} {σ σ' : List Bracket} {before cs rest : List Char}
    {k : TokenKind} (h : Shape cs k rest) (hn : NoComment cs) (ha : k.around σ = some σ')
    (slash : k = .punct .slash ∨ k = .punct .slashAssign → startsRegex before = false)
    (string : ∀ v l, k = .string v l → ∀ text, cs = text ++ rest → ¬ crlf <:+: text) :
    ∃ before', Leads limit ⟨outside σ, before, cs⟩ ⟨outside σ', before', rest⟩ := by
  cases h with
  | eof =>
      cases ha
      exact ⟨_, .refl _⟩
  | punct hl =>
      refine punct_leads hl ha hn fun hp => slash ?_
      rcases hp with rfl | rfl
      · exact .inl rfl
      · exact .inr rfl
  | string hq hs =>
      obtain ⟨v, l, hv⟩ := kind_of_string hs
      rw [hv] at ha
      cases ha
      exact (string_leads hq hs).leads hq (string v l hv)
  | template hs =>
      obtain ⟨quasi, closes, hv, hl⟩ := template_leads hs
      rw [hv] at ha
      cases ha
      obtain ⟨before', hl⟩ := hl limit σ ('\x60' :: before)
      exact ⟨before', leads_template.trans hl⟩
  | number hn =>
      obtain ⟨ht, hv⟩ := hn
      have hσ : σ = σ' := by
        rcases hv with ⟨v, f, hv⟩ | ⟨v, hv⟩
        all_goals
          rw [hv] at ha
          exact Option.some.inj ha
      exact hσ ▸ gets_of_through (ht.mono fun _ => isNeutral_of_isNumeric) before
  | privateName hw =>
      cases ha
      have mark (cs : List Char) : Gets limit σ σ ('#' :: cs) cs :=
        gets_of_through (.cons (by decide) (.refl _))
      exact (mark _).trans (word_gets hw) before
  | word hw =>
      cases ha
      exact word_gets hw before

/-! ### Readings of a token -/

/-- A token that is the same to the scan as to the grammar. -/
theorem token_leads {limit offset : Nat} {newLine : Bool} {σ σ' : List Bracket}
    {before cs : List Char} {t : Token} (h : token newLine offset cs = .ok t) (hn : NoComment cs)
    (ha : t.kind.around σ = some σ') (slash : t.isSlash = true → startsRegex before = false)
    (string : ∀ v l, t.kind = .string v l → ¬ crlf <:+: spelling t) :
    ∃ before', Leads limit ⟨outside σ, before, cs⟩ ⟨outside σ', before', t.rest⟩ := by
  obtain ⟨rfl, hs⟩ := shape_of_token h
  refine shape_leads hs hn ha (fun hk => slash ?_) (fun v l hk text ht => ?_)
  · rcases hk with hk | hk <;> simp [Token.isSlash, Token.isPunct, hk]
  · rw [← spelling_eq ht]
    exact string v l hk

/-- A slash that opens a regular expression. -/
theorem leads_regex {limit : Nat} {σ : List Bracket} {before rest : List Char}
    (hn : NoComment ('/' :: rest)) (hb : startsRegex before = true) :
    Leads limit ⟨outside σ, before, '/' :: rest⟩
      ⟨within (.regex false) σ, '/' :: before, rest⟩ := by
  refine leads_of_step rfl ?_ (.inr (Nat.le_refl _))
  simp [step_outside, codeStep, hn.head, hb]

/-- A regular expression that the scan expects. -/
theorem regex_leads {limit offset : Nat} {newLine : Bool} {σ : List Bracket}
    {before cs : List Char} {t : Token} {r : RegexRead} (ht : token newLine offset cs = .ok t)
    (hs : t.isSlash = true) (h : regex t = .ok r) (hn : NoComment cs)
    (hb : startsRegex before = true) :
    ∃ before', Leads limit ⟨outside σ, before, cs⟩ ⟨outside σ, before', r.rest⟩ := by
  obtain ⟨⟨pattern, stop, after⟩, hbody, h⟩ := ok_of_bind h
  obtain ⟨⟨flags, last, rest⟩, hflags, h⟩ := ok_of_bind h
  cases h
  have hc : cs = '/' :: (if t.isPunct .slashAssign then '=' :: t.rest else t.rest) := by
    rcases (Bool.or_eq_true _ _).mp hs with hs | hs
    · have hk := kind_of_isPunct hs
      have hne : t.isPunct .slashAssign = false := by simp [Token.isPunct, hk]
      rw [hne]
      exact eq_of_isPunct ht hs
    · rw [if_pos hs]
      exact eq_of_isPunct ht hs
  subst hc
  obtain ⟨before₁, hl⟩ := regexBody_leads limit σ hbody ('/' :: before)
  have flags : Gets limit σ σ after rest := gets_of_through (through_of_regexFlags hflags)
  obtain ⟨before₂, hl'⟩ := flags before₁
  exact ⟨before₂, (leads_regex hn hb).trans (hl.trans hl')⟩

/-- What follows a substitution. -/
theorem templateTail_leads {limit offset : Nat} {newLine : Bool} {σ σ' : List Bracket}
    {before cs : List Char} {t u : Token} (ht : token newLine offset cs = .ok t)
    (hb : t.isPunct .rightBrace = true) (h : templateTail t = .ok u)
    (ha : u.kind.around σ = some σ') :
    u.text = cs ∧ ∃ before', Leads limit ⟨outside σ, before, cs⟩ ⟨outside σ', before', u.rest⟩ := by
  obtain ⟨q, hq, h⟩ := ok_of_bind h
  cases h
  refine ⟨(shape_of_token ht).1, ?_⟩
  obtain rfl := eq_of_isPunct ht hb
  obtain ⟨quasi, closes, hk, hl⟩ := template_leads hq
  obtain ⟨τ, hτ, rfl⟩ : ∃ τ, closing .substitution σ = some τ ∧
      (if closes then τ else .substitution :: τ) = σ' := by
    simpa [hk, TokenKind.around] using ha
  cases closing_eq_some hτ
  obtain ⟨before', hl⟩ := hl limit τ ('\x7d' :: before)
  exact ⟨before', leads_resume.trans hl⟩

end PatchSandbox.Nesting
