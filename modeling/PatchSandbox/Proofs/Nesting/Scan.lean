import PatchSandbox.Nesting
import PatchSandbox.Proofs.Script.Reading
import PatchSandbox.Proofs.Script.Spelling

/-!
# Where a scan gets to

A scan reads a text character by character, while the tokens of the text are longer. So the
scan is followed from one spot of the text to another.

* **`Leads`** says that the scan gets from one spot to another, unless it finds a bracket too
  many in between. It is reflexive and transitive.
* **`outside`** is the state of a scan in code between some brackets, and **`within`** its
  state in the middle of a comment or a literal there. All steps of a scan of code that is
  read rightly go from one of them to another.
-/

namespace PatchSandbox.Nesting

open Script (Bracket Through)

/-! ### Spots -/

/-- How far a scan has got: its state, the text so far, last character first, and the rest. -/
structure Spot where
  scan : Scan
  before : List Char
  rest : List Char

namespace Spot

/-- The whole text. -/
def text (p : Spot) : List Char := p.before.reverse ++ p.rest

/-- How the scan ends. -/
def run (p : Spot) (limit offset : Nat) : Outcome := Nesting.run limit p.scan p.before offset p.rest

end Spot

/-- Two ends of a scan that are worth the same. -/
def Alike (a b : Outcome) : Prop :=
  a = b ∨ (∃ s, a = .finished s ∧ s.closed = true) ∧ ∃ s, b = .finished s

theorem Alike.trans {a b c : Outcome} (h : Alike a b) (h' : Alike b c) : Alike a c := by
  rcases h with rfl | ⟨ha, s, rfl⟩
  · exact h'
  · rcases h' with rfl | ⟨-, hc⟩
    · exact .inr ⟨ha, s, rfl⟩
    · exact .inr ⟨ha, hc⟩

/-- The scan gets from one spot to another, no deeper than the limit, or it finds a bracket
too many. -/
structure Leads (limit : Nat) (p q : Spot) : Prop where
  text : p.text = q.text
  run : ∀ offset, (∃ o, p.run limit offset = .excess o) ∨
    ((q.scan.depth ≤ limit ∨ q.scan.depth ≤ p.scan.depth) ∧
      ∃ offset', Alike (p.run limit offset) (q.run limit offset'))

section

variable {limit : Nat} {p q r : Spot}

theorem Leads.refl (p : Spot) : Leads limit p p where
  text := rfl
  run := fun offset => .inr ⟨.inr (Nat.le_refl _), offset, .inl rfl⟩

theorem Leads.trans (h : Leads limit p q) (h' : Leads limit q r) : Leads limit p r where
  text := h.text.trans h'.text
  run := by
    intro offset
    rcases h.run offset with he | ⟨hd, o, hq⟩
    · exact .inl he
    · rcases h'.run o with ⟨o', he⟩ | ⟨hd', o', hr⟩
      · rcases hq with hq | ⟨-, s, hq⟩
        · exact .inl ⟨o', hq.trans he⟩
        · rw [hq] at he
          exact Outcome.noConfusion he
      · exact .inr ⟨by omega, o', hq.trans hr⟩

end

section

variable {limit : Nat} {s s' : Scan} {before rest : List Char} {c : Char}

/-- One step. -/
theorem leads_of_step (hk : s.skip = false) (hs : step limit s before c rest.head? = .go s')
    (hd : s'.depth ≤ limit ∨ s'.depth ≤ s.depth) :
    Leads limit ⟨s, before, c :: rest⟩ ⟨s', c :: before, rest⟩ where
  text := by simp [Spot.text]
  run := by
    intro offset
    refine .inr ⟨hd, offset + c.utf8Size, .inl ?_⟩
    simp only [Spot.run, run, hk, hs, Bool.false_eq_true, if_false]

/-- A character that was read together with the one before. -/
theorem leads_of_skip (hk : s.skip = true) :
    Leads limit ⟨s, before, c :: rest⟩ ⟨{ s with skip := false }, c :: before, rest⟩ where
  text := by simp [Spot.text]
  run := by
    intro offset
    refine .inr ⟨.inr (Nat.le_refl _), offset + c.utf8Size, .inl ?_⟩
    simp only [Spot.run, run, hk, if_true]

/-- A bracket that opens, if it is not one too many. -/
theorem leads_of_descend {next : Scan → Scan} (hk : s.skip = false)
    (hs : step limit s before c rest.head? = s.descend limit next)
    (hn : ∀ u, (next u).depth = u.depth) :
    Leads limit ⟨s, before, c :: rest⟩
      ⟨next { s with depth := s.depth + 1 }, c :: before, rest⟩ where
  text := by simp [Spot.text]
  run := by
    intro offset
    by_cases hl : limit < s.depth + 1
    · refine .inl ⟨offset, ?_⟩
      simp only [Spot.run, run, hk, hs, Scan.descend, hl, if_true, Bool.false_eq_true, if_false]
    · refine .inr ⟨.inl (by simp only [hn]; omega), offset + c.utf8Size, .inl ?_⟩
      simp only [Spot.run, run, hk, hs, Scan.descend, hl, Bool.false_eq_true, if_false]

end

/-! ### States -/

/-- The modes of a scan in code between some brackets, the innermost one first. -/
def modesOf : List Bracket → List Mode
  | [] => [.code]
  | .substitution :: σ => .substitution (σ.length + 1) :: .template :: modesOf σ
  | _ :: σ => modesOf σ

/-- The state of a scan in code. -/
def outside (σ : List Bracket) : Scan := { modes := modesOf σ, depth := σ.length }

/-- The state of a scan in the middle of something else. -/
def within (m : Mode) (σ : List Bracket) : Scan := { modes := m :: modesOf σ, depth := σ.length }

@[simp] theorem skip_outside (σ : List Bracket) : (outside σ).skip = false := rfl

@[simp] theorem depth_outside (σ : List Bracket) : (outside σ).depth = σ.length := rfl

@[simp] theorem skip_within (m : Mode) (σ : List Bracket) : (within m σ).skip = false := rfl

@[simp] theorem depth_within (m : Mode) (σ : List Bracket) : (within m σ).depth = σ.length := rfl

@[simp] theorem mode_within (m : Mode) (σ : List Bracket) : (within m σ).mode = m := rfl

@[simp] theorem enter_outside (m : Mode) (σ : List Bracket) :
    (outside σ).enter m = within m σ := rfl

@[simp] theorem leave_within (m : Mode) (σ : List Bracket) : (within m σ).leave = outside σ := rfl

@[simp] theorem replace_within (m n : Mode) (σ : List Bracket) :
    (within m σ).replace n = within n σ := rfl

@[simp] theorem unskip_within (m : Mode) (σ : List Bracket) :
    { within m σ with skip := false } = within m σ := rfl

/-- In code the scan is in the mode of code, or of a substitution that is not deeper than the
brackets around. -/
theorem mode_outside (σ : List Bracket) :
    (outside σ).mode = .code ∨ ∃ d, d ≤ σ.length ∧ (outside σ).mode = .substitution d := by
  induction σ with
  | nil => exact .inl rfl
  | cons b σ ih =>
      cases b with
      | substitution => exact .inr ⟨σ.length + 1, by simp, rfl⟩
      | _ =>
          rcases ih with h | ⟨d, hd, h⟩
          · exact .inl h
          · exact .inr ⟨d, by simp; omega, h⟩

/-- Steps in code. -/
theorem step_outside (limit : Nat) (σ : List Bracket) (before : List Char) (c : Char)
    (next : Option Char) :
    step limit (outside σ) before c next = codeStep limit (outside σ) before c next := by
  rcases mode_outside σ with h | ⟨d, -, h⟩ <;> simp only [step, h]

/-- The scan gets from one place in code to another, whatever stands before. -/
def Gets (limit : Nat) (σ σ' : List Bracket) (cs rest : List Char) : Prop :=
  ∀ before, ∃ before', Leads limit ⟨outside σ, before, cs⟩ ⟨outside σ', before', rest⟩

section

variable {limit : Nat} {σ σ' τ : List Bracket} {cs rest more : List Char}

theorem Gets.refl : Gets limit σ σ cs cs := fun before => ⟨before, .refl _⟩

theorem Gets.trans (h : Gets limit σ σ' cs rest) (h' : Gets limit σ' τ rest more) :
    Gets limit σ τ cs more := by
  intro before
  obtain ⟨before₁, hl⟩ := h before
  obtain ⟨before₂, hl'⟩ := h' before₁
  exact ⟨before₂, hl.trans hl'⟩

end

/-! ### Code -/

/-- A character that means nothing to the scan where it stands in code. -/
def isNeutral (c : Char) : Bool :=
  !(c == '/' || c == '\'' || c == '"' || c == '\x60' || isOpener c || isCloser c)

/-- The characters that mean something to the scan. -/
def marks : List Char := ['/', '\'', '"', '\x60', '(', '[', '\x7b', ')', ']', '\x7d']

/-- A sort of characters without marks is neutral. -/
theorem isNeutral_of_sort (sort : Char → Bool) {c : Char} (hs : marks.any sort = false)
    (h : sort c = true) : isNeutral c = true := by
  cases hn : isNeutral c with
  | true => rfl
  | false =>
      have hm : c ∈ marks := by
        simpa only [isNeutral, isOpener, isCloser, marks, Bool.not_eq_false', Bool.or_eq_true,
          beq_iff_eq, or_assoc, List.mem_cons, List.not_mem_nil, or_false] using hn
      have ha : marks.any sort = true := List.any_eq_true.mpr ⟨c, hm, h⟩
      rw [hs] at ha
      cases ha

section

variable {limit : Nat} {σ : List Bracket} {before cs rest : List Char} {c : Char}

theorem leads_neutral_cons (hc : isNeutral c = true) :
    Leads limit ⟨outside σ, before, c :: rest⟩ ⟨outside σ, c :: before, rest⟩ := by
  simp only [isNeutral, isOpener, isCloser, Bool.not_eq_true', Bool.or_eq_false_iff,
    beq_eq_false_iff_ne] at hc
  refine leads_of_step rfl ?_ (.inr (Nat.le_refl _))
  simp [step_outside, codeStep, isOpener, hc]

/-- The scan goes over neutral characters. -/
theorem gets_of_through (h : Through isNeutral cs rest) : Gets limit σ σ cs rest := by
  obtain ⟨text, rfl, ht⟩ := h
  induction text with
  | nil => exact .refl
  | cons c text ih =>
      simp only [List.all_cons, Bool.and_eq_true] at ht
      exact Gets.trans (fun _ => ⟨_, leads_neutral_cons ht.1⟩) (ih ht.2)

/-- An opening bracket. -/
theorem leads_open {b : Bracket} (hc : isOpener c = true) (hb : b ≠ .substitution) :
    Leads limit ⟨outside σ, before, c :: rest⟩ ⟨outside (b :: σ), c :: before, rest⟩ := by
  have hs : step limit (outside σ) before c rest.head? = (outside σ).descend limit id := by
    have hne : c ≠ '/' ∧ c ≠ '\'' ∧ c ≠ '"' ∧ c ≠ '\x60' := by
      refine ⟨?_, ?_, ?_, ?_⟩ <;> (rintro rfl; simp [isOpener] at hc)
    simp [step_outside, codeStep, hc, hne]
  cases b with
  | substitution => exact absurd rfl hb
  | _ => exact leads_of_descend rfl hs fun _ => rfl

/-- A closing parenthesis or square bracket. -/
theorem leads_close {b : Bracket} (hc : c = ')' ∨ c = ']') (hb : b ≠ .substitution) :
    Leads limit ⟨outside (b :: σ), before, c :: rest⟩ ⟨outside σ, c :: before, rest⟩ := by
  have hs : step limit (outside (b :: σ)) before c rest.head? =
      .go { outside (b :: σ) with depth := (outside (b :: σ)).depth - 1 } := by
    rcases hc with rfl | rfl <;> simp [step_outside, codeStep, isOpener]
  cases b with
  | substitution => exact absurd rfl hb
  | _ => exact leads_of_step rfl hs (.inr (by simp))

/-- A closing brace that ends no substitution. -/
theorem leads_closeBrace :
    Leads limit ⟨outside (.brace :: σ), before, '\x7d' :: rest⟩
      ⟨outside σ, '\x7d' :: before, rest⟩ := by
  have hm : (outside (.brace :: σ)).mode ≠ .substitution (σ.length + 1) := by
    have : (outside (.brace :: σ)).mode = (outside σ).mode := rfl
    rcases mode_outside σ with h | ⟨d, hd, h⟩
    · simp [this, h]
    · simp only [this, h, ne_eq, Mode.substitution.injEq]
      omega
  have hs : step limit (outside (.brace :: σ)) before '\x7d' rest.head? = .go (outside σ) := by
    simp [step_outside, codeStep, isOpener, hm]
    rfl
  exact leads_of_step rfl hs (.inr (by simp))

/-- A closing brace after which a template goes on. -/
theorem leads_resume :
    Leads limit ⟨outside (.substitution :: σ), before, '\x7d' :: rest⟩
      ⟨within .template σ, '\x7d' :: before, rest⟩ := by
  have hm : (outside (.substitution :: σ)).mode = .substitution (σ.length + 1) := rfl
  have hs : step limit (outside (.substitution :: σ)) before '\x7d' rest.head? =
      .go (within .template σ) := by
    simp [step_outside, codeStep, isOpener, hm]
    rfl
  exact leads_of_step rfl hs (.inr (by simp))

end

end PatchSandbox.Nesting
