import PatchSandbox.Proofs.Text.Lines
import PatchSandbox.Script.Lexer

/-!
# How tokens are spelled

What the lexer reads as a token consists of certain characters.

* **`Through`** — the characters of a stretch of text are of one sort. A number, for one, is
  made of the characters of numbers.
* **`isOneLine_of_word`** — no character of a word is a line feed, not even one that an escape
  stands for.
* **`Shape`** and **`shape_of_token`** — what a token can be. Whatever is shown of all tokens
  is shown from there, not from the branches of the lexer.
-/

namespace PatchSandbox.Script

open Text (IsOneLine isIdentifierStart isIdentifierPart)
open Lexer (Digits Numeral WordRead digitValue? digit? digits someDigits separated exponentPart
  fractionTail wholeTail based legacy number word token)

/-- Characters of one sort up to a rest. -/
def Through (sort : Char → Bool) (cs rest : List Char) : Prop :=
  ∃ text, cs = text ++ rest ∧ text.all sort = true

section

variable {sort : Char → Bool}

theorem Through.refl (cs : List Char) : Through sort cs cs := ⟨[], rfl, rfl⟩

theorem Through.cons {c : Char} {cs rest : List Char} (hc : sort c = true)
    (h : Through sort cs rest) : Through sort (c :: cs) rest := by
  obtain ⟨text, rfl, ht⟩ := h
  exact ⟨c :: text, rfl, by simp [hc, ht]⟩

theorem Through.trans {as bs cs : List Char} (h : Through sort as bs) (h' : Through sort bs cs) :
    Through sort as cs := by
  obtain ⟨s, rfl, hs⟩ := h
  obtain ⟨t, rfl, ht⟩ := h'
  exact ⟨s ++ t, by simp, by simp [hs, ht]⟩

theorem Through.mono {other : Char → Bool} (hsort : ∀ c, sort c = true → other c = true)
    {cs rest : List Char} (h : Through sort cs rest) : Through other cs rest := by
  obtain ⟨text, rfl, ht⟩ := h
  refine ⟨text, rfl, List.all_eq_true.mpr fun c hc => hsort c ?_⟩
  exact List.all_eq_true.mp ht c hc

theorem through_takeWhile (cs : List Char) : Through sort cs (cs.dropWhile sort) :=
  ⟨cs.takeWhile sort, List.takeWhile_append_dropWhile.symm, List.all_takeWhile⟩

end

/-- What a bind gives comes from what its first part gives. -/
theorem ok_of_bind {α β : Type} {x : Except Flaw α} {f : α → Except Flaw β} {b : β}
    (h : (x >>= f) = .ok b) : ∃ a, x = .ok a ∧ f a = .ok b := by
  cases x with
  | error e => cases h
  | ok a => exact ⟨a, rfl, h⟩

/-- A digit in bases up to sixteen. -/
def isHex (c : Char) : Bool := (digitValue? c).isSome

theorem isHex_of_digit {base : Nat} {c : Char} {d : Nat} (h : digit? base c = some d) :
    isHex c = true := by
  unfold digit? at h
  cases hv : digitValue? c with
  | none => simp [hv] at h
  | some v => simp [isHex, hv]

/-! ### Numbers -/

/-- A character of a number. -/
def isNumeric (c : Char) : Bool :=
  isHex c || c.isDigit || ['_', '.', '+', '-', 'n', 'o', 'O', 'x', 'X'].contains c

section

variable {base offset whole : Nat} {form : NumberForm} {cs rest : List Char} {c : Char}

theorem isNumeric_of_digit {d : Nat} (h : digit? base c = some d) : isNumeric c = true := by
  simp [isNumeric, isHex_of_digit h]

theorem through_of_digits {value count : Nat} {ds : Digits}
    (h : digits base value count offset cs = .ok ds) : Through isNumeric cs ds.rest := by
  fun_induction digits
  case case2 hd _ ih => exact .cons (by decide) (.cons (isNumeric_of_digit hd) (ih h))
  case case7 hd ih => exact .cons (isNumeric_of_digit hd) (ih h)
  case case4 => cases h
  case case6 => cases h
  all_goals
    cases h
    exact .refl _

theorem through_of_someDigits {ds : Digits} (h : someDigits base offset cs = .ok ds) :
    Through isNumeric cs ds.rest := by
  obtain ⟨ds', hd, hk⟩ := ok_of_bind h
  split at hk
  · cases hk
  · cases hk
    exact through_of_digits hd

theorem through_of_exponentPart {e : Int} {stop : Nat}
    (h : exponentPart offset cs = .ok (some (e, stop, rest))) : Through isNumeric cs rest := by
  unfold exponentPart at h
  split at h
  · rename_i c cs
    split at h
    · rename_i hc
      have hn : isNumeric c = true := by rcases hc with rfl | rfl <;> decide
      split at h
      rename_i hs
      obtain ⟨ds, hd, hk⟩ := ok_of_bind h
      cases hk
      have hr := through_of_someDigits hd
      split at hs
      all_goals cases hs
      · exact .cons hn (.cons (by decide) hr)
      · exact .cons hn (.cons (by decide) hr)
      · exact .cons hn hr
    · cases h
  · cases h

/-- What is read as a number is one, and has the characters of one. -/
structure IsNumber (cs : List Char) (n : Numeral) : Prop where
  through : Through isNumeric cs n.rest
  kind : (∃ v f, n.kind = .number v f) ∨ ∃ v, n.kind = .bigint v

theorem isNumber_of_separated {n m : Numeral} (h : separated n = .ok m) (hn : IsNumber cs n) :
    IsNumber cs m := by
  unfold separated at h
  split at h
  · cases h
    exact hn
  · split at h
    · cases h
    · cases h
      exact hn

theorem isNumber_of_fractionTail {n : Numeral} (h : fractionTail whole offset cs = .ok n) :
    IsNumber cs n := by
  obtain ⟨ds, hd, h⟩ := ok_of_bind h
  obtain ⟨e, he, h⟩ := ok_of_bind h
  have hc := through_of_digits hd
  split at h
  · exact isNumber_of_separated h ⟨hc.trans (through_of_exponentPart he), .inl ⟨_, _, rfl⟩⟩
  · exact isNumber_of_separated h ⟨hc, .inl ⟨_, _, rfl⟩⟩

theorem isNumber_of_wholeTail {ds : Digits} {n : Numeral} (h : wholeTail ds form = .ok n) :
    IsNumber ds.rest n := by
  unfold wholeTail at h
  split at h
  · rename_i rest hr
    obtain ⟨ht, hk⟩ := isNumber_of_fractionTail h
    exact ⟨hr ▸ .cons (by decide) ht, hk⟩
  · rename_i rest hr
    split at h
    · exact isNumber_of_separated h ⟨.refl _, .inl ⟨_, _, rfl⟩⟩
    · exact isNumber_of_separated h ⟨hr ▸ .cons (by decide) (.refl _), .inr ⟨_, rfl⟩⟩
  · obtain ⟨e, he, h⟩ := ok_of_bind h
    split at h
    · exact isNumber_of_separated h ⟨through_of_exponentPart he, .inl ⟨_, _, rfl⟩⟩
    · exact isNumber_of_separated h ⟨.refl _, .inl ⟨_, _, rfl⟩⟩

theorem isNumber_of_based {n : Numeral} (h : based base form offset cs = .ok n) :
    IsNumber cs n := by
  obtain ⟨ds, hd, h⟩ := ok_of_bind h
  have hc := through_of_someDigits hd
  split at h
  · rename_i rest hr
    have hn : Through isNumeric ds.rest rest := hr ▸ .cons (by decide) (.refl _)
    exact isNumber_of_separated h ⟨hc.trans hn, .inr ⟨_, rfl⟩⟩
  · exact isNumber_of_separated h ⟨hc, .inl ⟨_, _, rfl⟩⟩

theorem isNumber_of_legacy {n : Numeral} (h : legacy offset cs = .ok n) : IsNumber cs n := by
  have hc : Through isNumeric cs (cs.dropWhile Char.isDigit) :=
    (through_takeWhile cs).mono fun c hc => by simp [isNumeric, hc]
  unfold legacy at h
  dsimp only at h
  split at h
  · exact isNumber_of_separated h ⟨hc, .inl ⟨_, _, rfl⟩⟩
  · obtain ⟨ht, hk⟩ := isNumber_of_wholeTail h
    exact ⟨hc.trans ht, hk⟩

theorem isNumber_of_number {n : Numeral} (h : number offset cs = .ok n) : IsNumber cs n := by
  unfold number at h
  split at h
  · rename_i c rest
    have mark (hc : isNumeric c = true) (hn : IsNumber rest n) : IsNumber ('0' :: c :: rest) n :=
      ⟨.cons (by decide) (.cons hc hn.through), hn.kind⟩
    split at h
    · rename_i hc
      exact mark (by rcases hc with rfl | rfl <;> decide) (isNumber_of_based h)
    split at h
    · rename_i hc
      exact mark (by rcases hc with rfl | rfl <;> decide) (isNumber_of_based h)
    split at h
    · rename_i hc
      exact mark (by rcases hc with rfl | rfl <;> decide) (isNumber_of_based h)
    split at h
    · exact isNumber_of_legacy h
    · obtain ⟨ht, hk⟩ := isNumber_of_wholeTail h
      exact ⟨.cons (by decide) ht, hk⟩
  · obtain ⟨ds, hd, h⟩ := ok_of_bind h
    obtain ⟨ht, hk⟩ := isNumber_of_wholeTail h
    exact ⟨(through_of_digits hd).trans ht, hk⟩

end

/-! ### Strings and templates -/

theorem kind_of_string {quote : Char} {start fuel offset : Nat} {value : Array UInt16}
    {legacy : Bool} {cs : List Char} {q : Lexer.Quoted}
    (h : Lexer.string quote start fuel value legacy offset cs = .ok q) :
    ∃ v l, q.kind = .string v l := by
  fun_induction Lexer.string
  case case3 =>
    cases h
    exact ⟨_, _, rfl⟩
  case case6 hm ih | case7 hm ih | case8 hm ih =>
    simp only [show (Lexer.escape (_ :: _)).meaning = _ from hm] at h
    exact ih h
  case case9 hm =>
    simp only [show (Lexer.escape (_ :: _)).meaning = _ from hm] at h
    cases h
  case case10 ih => exact ih h
  all_goals cases h

theorem kind_of_template {opens : Bool} {start fuel offset : Nat}
    {cooked : Option (Array UInt16)} {raw : Array UInt16} {cs : List Char} {q : Lexer.Quoted}
    (h : Lexer.template opens start fuel cooked raw offset cs = .ok q) :
    ∃ quasi closes, q.kind = .template quasi opens closes := by
  fun_induction Lexer.template
  case case3 | case4 =>
    cases h
    exact ⟨_, _, rfl⟩
  case case5 ih | case6 ih | case8 ih | case9 ih => exact ih h
  all_goals cases h

/-! ### Punctuators -/

theorem eq_of_after {ws cs rest : List Char} (h : Punct.after? ws cs = some rest) :
    cs = ws ++ rest := by
  fun_induction Punct.after?
  case case1 =>
    cases h
    rfl
  case case2 ih =>
    rw [ih h]
    rfl
  all_goals cases h

/-- A punctuator is what it is spelled. -/
theorem eq_of_longest {cs rest : List Char} {p : Punct} (h : Punct.longest? cs = some (p, rest)) :
    cs = p.text.toList ++ rest := by
  obtain ⟨⟨q, after⟩, hf, he⟩ := Option.map_eq_some_iff.mp h
  obtain ⟨⟨ws, q'⟩, hm, hw⟩ := List.exists_of_findSome?_eq_some hf
  obtain ⟨p', -, hp⟩ := List.mem_map.mp hm
  obtain ⟨rfl, rfl⟩ := Prod.mk.inj hp
  obtain ⟨r, hr, hq⟩ := Option.map_eq_some_iff.mp hw
  obtain ⟨rfl, rfl⟩ := Prod.mk.inj hq
  have hc := eq_of_after hr
  dsimp only at he
  split at he
  · split at he
    · cases he
      rw [hc]
      rfl
    · cases he
      exact hc
  · cases he
    exact hc

/-! ### Words -/

theorem isOneLine_push {name : String} {c : Char} (hn : IsOneLine name) (hc : c ≠ '\n') :
    IsOneLine (name.push c) := by
  simp only [IsOneLine, String.toList_push, List.mem_append, List.mem_singleton, not_or] at hn ⊢
  exact ⟨hn, hc.symm⟩

/-- A line feed belongs to no identifier. -/
theorem ne_of_fits {isFirst : Bool} {n : Nat}
    (h : (if isFirst then isIdentifierStart n else isIdentifierPart n) = true) : n ≠ 10 := by
  rintro rfl
  cases isFirst <;> exact absurd h (by decide)

theorem ofNat_ne {n : Nat} (h : n ≠ 10) : Char.ofNat n ≠ '\n' := by
  intro he
  by_cases hv : n.isValidChar
  · have same : Char.ofNat n = Char.ofNatAux n hv := dif_pos hv
    exact h (congrArg Char.toNat (same.symm.trans he))
  · have zero : Char.ofNat n = '\x00' := dif_neg hv
    exact absurd (zero.symm.trans he) (by decide)

/-- No word has a line feed, however it is spelled. -/
theorem isOneLine_of_word {fuel offset : Nat} {name : String} {escaped : Bool} {cs : List Char}
    {w : WordRead} (h : word fuel name escaped offset cs = .ok w)
    (hn : IsOneLine name) : IsOneLine w.name := by
  fun_induction word
  case case3 hf ih => exact ih h (isOneLine_push hn (ofNat_ne (ne_of_fits hf.1)))
  case case7 hf ih =>
      refine ih h (isOneLine_push hn fun hc => ?_)
      subst hc
      exact ne_of_fits hf rfl
  case case1 | case2 | case8 =>
      cases h
      exact hn
  all_goals cases h

/-! ### Tokens -/

/-- What a token can be: its characters with all that follow, its kind and what follows it. -/
inductive Shape : List Char → TokenKind → List Char → Prop where
  | eof : Shape [] .eof []
  | punct {cs rest : List Char} {p : Punct} : Punct.longest? cs = some (p, rest) →
      Shape cs (.punct p) rest
  | string {quote : Char} {start fuel offset : Nat} {cs : List Char} {q : Lexer.Quoted} :
      quote = '"' ∨ quote = '\'' →
      Lexer.string quote start fuel #[] false offset cs = .ok q →
      Shape (quote :: cs) q.kind q.rest
  | template {start fuel offset : Nat} {cs : List Char} {q : Lexer.Quoted} :
      Lexer.template true start fuel (some #[]) #[] offset cs = .ok q →
      Shape ('\x60' :: cs) q.kind q.rest
  | number {cs : List Char} {n : Numeral} : IsNumber cs n → Shape cs n.kind n.rest
  | privateName {fuel offset : Nat} {cs : List Char} {w : WordRead} :
      word fuel "" false offset cs = .ok w → Shape ('#' :: cs) (.privateName w.name) w.rest
  | word {fuel offset : Nat} {cs : List Char} {w : WordRead} :
      word fuel "" false offset cs = .ok w → Shape cs (.word w.name w.escaped) w.rest

/-- Invert the reading of a token. Whatever is shown of a token is shown from this, not from
the branches of the lexer. -/
theorem shape_of_token {newLine : Bool} {offset : Nat} {cs : List Char} {t : Token}
    (h : token newLine offset cs = .ok t) : t.text = cs ∧ Shape cs t.kind t.rest := by
  unfold token at h
  split at h
  · cases h
    exact ⟨rfl, .eof⟩
  · rename_i c rest
    dsimp only at h
    have punct {r : Except Flaw Token} (h : r = .ok t)
        (hr : r = (Punct.longest? (c :: rest)).elim (.error ⟨.badCharacter c, offset⟩) fun p =>
          .ok ⟨.punct p.1, ⟨offset, offset + p.1.text.length⟩, newLine, c :: rest, p.2⟩) :
        t.text = c :: rest ∧ Shape (c :: rest) t.kind t.rest := by
      rw [hr] at h
      cases hl : Punct.longest? (c :: rest) with
      | none =>
          rw [hl] at h
          cases h
      | some p =>
          rw [hl] at h
          cases h
          exact ⟨rfl, .punct hl⟩
    split at h
    · rename_i hq
      obtain ⟨q, hs, hk⟩ := ok_of_bind h
      cases hk
      exact ⟨rfl, .string hq hs⟩
    split at h
    · rename_i hc
      subst hc
      obtain ⟨q, hs, hk⟩ := ok_of_bind h
      cases hk
      exact ⟨rfl, .template hs⟩
    split at h
    · obtain ⟨n, hm, hk⟩ := ok_of_bind h
      cases hk
      exact ⟨rfl, .number (isNumber_of_number hm)⟩
    split at h
    · rename_i hc
      subst hc
      split at h
      · split at h
        · obtain ⟨n, hm, hk⟩ := ok_of_bind h
          cases hk
          obtain ⟨ht, hv⟩ := isNumber_of_fractionTail hm
          exact ⟨rfl, .number ⟨.cons (by decide) ht, hv⟩⟩
        · exact punct h (by cases Punct.longest? _ <;> rfl)
      · exact punct h (by cases Punct.longest? _ <;> rfl)
    split at h
    · rename_i hc
      subst hc
      obtain ⟨w, hw, hk⟩ := ok_of_bind h
      split at hk
      · split at hk <;> cases hk
      · cases hk
        exact ⟨rfl, .privateName hw⟩
    split at h
    · obtain ⟨w, hw, hk⟩ := ok_of_bind h
      cases hk
      exact ⟨rfl, .word hw⟩
    · exact punct h (by cases Punct.longest? _ <;> rfl)

/-- A punctuator is where it is spelled. -/
theorem Shape.eq_of_punct {cs rest : List Char} {p : Punct} (h : Shape cs (.punct p) rest) :
    cs = p.text.toList ++ rest := by
  generalize hk : TokenKind.punct p = k at h
  cases h with
  | eof => cases hk
  | punct hl =>
      cases hk
      exact eq_of_longest hl
  | string hq hs =>
      obtain ⟨v, l, hv⟩ := kind_of_string hs
      cases hk.trans hv
  | template hs =>
      obtain ⟨quasi, closes, hv⟩ := kind_of_template hs
      cases hk.trans hv
  | number hn =>
      rcases hn.kind with ⟨v, f, hv⟩ | ⟨v, hv⟩ <;> cases hk.trans hv
  | privateName => cases hk
  | word => cases hk

theorem kind_of_isPunct {t : Token} {p : Punct} (h : t.isPunct p = true) : t.kind = .punct p := by
  unfold Token.isPunct at h
  split at h
  · rename_i q hq
    rw [hq, eq_of_beq h]
  · cases h

/-- A punctuator is spelled before what follows it. -/
theorem eq_of_isPunct {newLine : Bool} {offset : Nat} {cs : List Char} {t : Token} {p : Punct}
    (h : token newLine offset cs = .ok t) (hp : t.isPunct p = true) :
    cs = p.text.toList ++ t.rest := by
  obtain ⟨-, hs⟩ := shape_of_token h
  rw [kind_of_isPunct hp] at hs
  exact hs.eq_of_punct

/-- The characters of a token. -/
def spelling (t : Token) : List Char := t.text.take (t.text.length - t.rest.length)

theorem spelling_eq {t : Token} {text : List Char} (h : t.text = text ++ t.rest) :
    spelling t = text := by
  simp [spelling, h]

end PatchSandbox.Script
