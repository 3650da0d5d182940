import PatchSandbox.Proofs.Nesting.Scan
import PatchSandbox.Script.Lexer

/-!
# The scan between tokens

Blanks are nothing to the scan, and it knows both kinds of comments. It differs from the
lexer in where a line comment ends: for the lexer at any end of a line, for the scan at a
line feed. **`tame`** says of a gap that this makes no difference.
-/

namespace PatchSandbox.Nesting

open Script (Bracket Lexer.GapMode Lexer.Gap Lexer.gap Lexer.isBlank)
open Text (isLineTerminator)

/-- What a gap is made of at some point. -/
inductive Filling where
  | blank
  | lineComment
  | blockComment
  deriving DecidableEq, Repr, Inhabited

/-- The filling in a mode of the lexer. -/
def filling : Lexer.GapMode → Filling
  | .blank => .blank
  | .lineComment => .lineComment
  | .blockComment _ => .blockComment

/-- Whether each line comment, among the blanks and comments at the head of a text, ends with
a line feed, perhaps after a carriage return, or at the end of the text. -/
def tame : Filling → List Char → Bool
  | _, [] => true
  | .lineComment, c :: rest =>
    if isLineTerminator c then
      (c == '\n' || (c == '\r' && rest.head? == some '\n') || rest.isEmpty) && tame .blank rest
    else tame .lineComment rest
  | .blockComment, '*' :: '/' :: rest => tame .blank rest
  | .blockComment, _ :: rest => tame .blockComment rest
  | .blank, '/' :: '/' :: rest => tame .lineComment rest
  | .blank, '/' :: '*' :: rest => tame .blockComment rest
  | .blank, c :: rest =>
    if isLineTerminator c || Lexer.isBlank c then tame .blank rest else true

/-- The scan in the middle of a gap. -/
def gapScan (σ : List Bracket) : Filling → Scan
  | .blank => outside σ
  | .lineComment => within .lineComment σ
  | .blockComment => within .blockComment σ

/-- No comment starts here. -/
def NoComment (cs : List Char) : Prop :=
  ∀ rest, cs ≠ '/' :: '/' :: rest ∧ cs ≠ '/' :: '*' :: rest

theorem NoComment.head {rest : List Char} (h : NoComment ('/' :: rest)) :
    rest.head? ≠ some '/' ∧ rest.head? ≠ some '*' := by
  cases rest with
  | nil => simp
  | cons d more => simpa using h more

theorem isNeutral_of_blank {c : Char} (h : (isLineTerminator c || Lexer.isBlank c) = true) :
    isNeutral c = true :=
  isNeutral_of_sort (fun c => isLineTerminator c || Lexer.isBlank c) (by decide) h

section

variable {limit : Nat} {σ : List Bracket} {before rest : List Char} {c : Char}

/-- A comment opens. -/
theorem leads_lineComment :
    Leads limit ⟨outside σ, before, '/' :: '/' :: rest⟩
      ⟨within .lineComment σ, '/' :: '/' :: before, rest⟩ := by
  have hs : step limit (outside σ) before '/' ('/' :: rest).head? =
      .go ((outside σ).enter .lineComment true) := by
    simp [step_outside, codeStep]
  exact (leads_of_step rfl hs (.inr (Nat.le_refl _))).trans (leads_of_skip rfl)

theorem leads_blockComment :
    Leads limit ⟨outside σ, before, '/' :: '*' :: rest⟩
      ⟨within .blockComment σ, '*' :: '/' :: before, rest⟩ := by
  have hs : step limit (outside σ) before '/' ('*' :: rest).head? =
      .go ((outside σ).enter .blockComment true) := by
    simp [step_outside, codeStep]
  exact (leads_of_step rfl hs (.inr (Nat.le_refl _))).trans (leads_of_skip rfl)

/-- A line comment goes on. -/
theorem leads_in_lineComment (hc : c ≠ '\n') :
    Leads limit ⟨within .lineComment σ, before, c :: rest⟩
      ⟨within .lineComment σ, c :: before, rest⟩ :=
  leads_of_step rfl (by simp [step, hc]) (.inr (Nat.le_refl _))

theorem leads_lineFeed :
    Leads limit ⟨within .lineComment σ, before, '\n' :: rest⟩
      ⟨outside σ, '\n' :: before, rest⟩ :=
  leads_of_step rfl (by simp [step]) (.inr (Nat.le_refl _))

/-- A line comment that is still open where the text ends is as good as closed. -/
theorem leads_at_end :
    Leads limit ⟨within .lineComment σ, before, []⟩ ⟨outside σ, before, []⟩ where
  text := rfl
  run := fun offset =>
    .inr ⟨.inr (Nat.le_refl _), offset, .inr ⟨⟨_, rfl, rfl⟩, _, rfl⟩⟩

/-- A block comment goes on. -/
theorem leads_in_blockComment (hc : ∀ more, c = '*' → rest = '/' :: more → False) :
    Leads limit ⟨within .blockComment σ, before, c :: rest⟩
      ⟨within .blockComment σ, c :: before, rest⟩ := by
  have hn : ¬(c = '*' ∧ rest.head? = some '/') := by
    rintro ⟨hc', hr⟩
    cases rest with
    | nil => simp at hr
    | cons d more =>
        obtain rfl : d = '/' := by simpa using hr
        exact hc more hc' rfl
  exact leads_of_step rfl (by simp only [step, mode_within, if_neg hn]) (.inr (Nat.le_refl _))

theorem leads_blockEnd :
    Leads limit ⟨within .blockComment σ, before, '*' :: '/' :: rest⟩
      ⟨outside σ, '/' :: '*' :: before, rest⟩ := by
  have hs : step limit (within .blockComment σ) before '*' ('/' :: rest).head? =
      .go ((within .blockComment σ).leave true) := by
    simp [step]
  exact (leads_of_step rfl hs (.inr (Nat.le_refl _))).trans (leads_of_skip rfl)

/-- Before a line feed it makes no difference whether a line comment is still open. -/
theorem leads_before_lineFeed :
    Leads limit ⟨within .lineComment σ, before, '\n' :: rest⟩
      ⟨outside σ, before, '\n' :: rest⟩ where
  text := rfl
  run := by
    intro offset
    refine .inr ⟨.inr (Nat.le_refl _), offset, .inl ?_⟩
    have hs : step limit (outside σ) before '\n' rest.head? = .go (outside σ) := by
      simp [step_outside, codeStep, isOpener]
    have hw : step limit (within .lineComment σ) before '\n' rest.head? = .go (outside σ) := by
      simp [step]
    simp only [Spot.run, run, skip_outside, skip_within, hs, hw, Bool.false_eq_true, if_false]

/-- Wherever a line comment ends in a tame gap, the scan goes on as in code. -/
theorem leads_of_terminator
    (ht : (c == '\n' || (c == '\r' && rest.head? == some '\n') || rest.isEmpty) = true)
    {more : List Char}
    (h : ∀ before, ∃ before', Leads limit ⟨outside σ, before, rest⟩ ⟨outside σ, before', more⟩) :
    ∃ before', Leads limit ⟨within .lineComment σ, before, c :: rest⟩
      ⟨outside σ, before', more⟩ := by
  obtain ⟨before', h⟩ := h (c :: before)
  refine ⟨before', ?_⟩
  by_cases hc : c = '\n'
  · subst hc
    exact leads_lineFeed.trans h
  · refine (leads_in_lineComment hc).trans (Leads.trans ?_ h)
    cases rest with
    | nil => exact leads_at_end
    | cons d rest =>
        have hd : d = '\n' := by
          simp [hc] at ht
          exact ht.2
        exact hd ▸ leads_before_lineFeed

/-- The scan gets from one text to the rest of it, in code and where no comment starts, whatever
was before. -/
def GetsOver (limit : Nat) (σ : List Bracket) (s : Scan) (cs rest : List Char) : Prop :=
  NoComment rest ∧ ∀ before, ∃ before', Leads limit ⟨s, before, cs⟩ ⟨outside σ, before', rest⟩

/-- What is got over from a later place is got over from an earlier one that leads there. -/
theorem GetsOver.of_leads {s t : Scan} {cs cs' rest : List Char}
    {onward : List Char → List Char} (h : GetsOver limit σ t cs' rest)
    (hl : ∀ before, Leads limit ⟨s, before, cs⟩ ⟨t, onward before, cs'⟩) :
    GetsOver limit σ s cs rest := by
  refine ⟨h.1, fun before => ?_⟩
  obtain ⟨before', hr⟩ := h.2 (onward before)
  exact ⟨before', (hl before).trans hr⟩

theorem GetsOver.of_noComment {cs : List Char} (hn : NoComment cs) :
    GetsOver limit σ (outside σ) cs cs :=
  ⟨hn, fun before => ⟨before, .refl _⟩⟩

/-- **The scan gets over a tame gap** to where the lexer gets, and no comment starts there. -/
theorem gap_leads (limit : Nat) (σ : List Bracket) {m : Lexer.GapMode} {newLine fresh : Bool}
    {offset : Nat} {cs : List Char}
    {g : Lexer.Gap} (h : Lexer.gap .module m newLine fresh offset cs = .ok g)
    (ht : tame (filling m) cs = true) : GetsOver limit σ (gapScan σ (filling m)) cs g.rest := by
  -- One case for each turn of the lexer: the scan makes the same turn and gets over what is left.
  fun_induction Lexer.gap
  case case1 => cases h
  case case2 m _ offset hm =>
    cases h
    have hn : NoComment [] := by simp [NoComment]
    cases m with
    | blank => exact .of_noComment hn
    | lineComment => exact (GetsOver.of_noComment hn).of_leads fun _ => leads_at_end
    | blockComment start => exact absurd rfl (hm start)
  case case3 hc ih =>
    simp only [filling, tame, hc, if_true, Bool.and_eq_true] at ht
    obtain ⟨hn, hl⟩ := ih h ht.2
    exact ⟨hn, fun before => leads_of_terminator ht.1 hl⟩
  case case4 c rest hc ih =>
    simp only [filling, tame, hc] at ht
    exact (ih h ht).of_leads fun _ => leads_in_lineComment (by rintro rfl; exact hc rfl)
  case case5 rest ih =>
    simp only [filling, tame] at ht
    exact (ih h ht).of_leads fun _ => leads_blockEnd
  case case6 c rest hc ih =>
    rw [filling, tame.eq_4 _ _ (fun more hs hr => hc more hs hr)] at ht
    exact (ih h ht).of_leads fun _ => leads_in_blockComment hc
  case case7 rest ih =>
    simp only [filling, tame] at ht
    exact (ih h ht).of_leads fun _ => leads_lineComment
  case case8 rest ih =>
    simp only [filling, tame] at ht
    exact (ih h ht).of_leads fun _ => leads_blockComment
  case case9 hg _ => cases hg
  case case10 =>
    cases h
    exact .of_noComment (by simp [NoComment])
  case case11 hg _ => cases hg.1
  case case12 =>
    cases h
    exact .of_noComment (by simp [NoComment])
  case case13 c rest hl hb _ _ hc ih =>
    rw [filling, tame.eq_7 _ _ hl hb, if_pos (by simp [hc])] at ht
    exact (ih h ht).of_leads fun _ => leads_neutral_cons (isNeutral_of_blank (by simp [hc]))
  case case14 c rest hl hb _ _ hc hs ih =>
    rw [filling, tame.eq_7 _ _ hl hb, if_pos (by simp [hs])] at ht
    exact (ih h ht).of_leads fun _ => leads_neutral_cons (isNeutral_of_blank (by simp [hs]))
  case case15 c rest hl hb _ _ hc hs =>
    cases h
    refine .of_noComment fun more => ⟨?_, ?_⟩
    · intro he
      obtain ⟨rfl, rfl⟩ := List.cons.inj he
      exact hl more rfl rfl
    · intro he
      obtain ⟨rfl, rfl⟩ := List.cons.inj he
      exact hb more rfl rfl

end

end PatchSandbox.Nesting
