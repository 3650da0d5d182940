import PatchSandbox.Proofs.Nesting.Course

/-!
# The stack of modes

The scan works with the innermost mode of its stack and never looks below it. That this is enough
comes from the shape of the stack.

* **`InCode`** is a stack in the middle of code: code at the bottom, and above it templates, each
  with the code of a substitution. **`Shaped`** allows for one more mode on top, in which no code
  is read.
* **`Change`** is all that a step does to the stack. It is read off the branches of a step once
  (**`change_of_go`**), and everything else follows from it: **`Change.shaped`** for one step,
  **`Passes.shaped`** for all of a scan.
* **`stack_shaped`** collects what that means for a scan: there always is an innermost mode, and
  a scan that needs no recount and finds nothing has ended in code at the bottom or in a line
  comment.
-/

namespace PatchSandbox

namespace Nesting

/-! ### Shapes -/

/-- In this mode no code is read. -/
def Mode.isText : Mode → Bool
  | .code => false
  | .substitution _ => false
  | _ => true

/-- A stack in the middle of code, the innermost mode first. -/
inductive InCode : List Mode → Prop
  | code : InCode [.code]
  | substitution {below : List Mode} (depth : Nat) (h : InCode below) :
      InCode (.substitution depth :: .template :: below)

/-- A stack as the scan has it. -/
inductive Shaped : List Mode → Prop
  | inCode {modes : List Mode} (h : InCode modes) : Shaped modes
  | inText {m : Mode} {below : List Mode} (hm : m.isText = true) (h : InCode below) :
      Shaped (m :: below)

section

variable {m : Mode} {modes below : List Mode}

theorem InCode.ne_nil (h : InCode modes) : modes ≠ [] := by
  cases h <;> simp

theorem Shaped.ne_nil (h : Shaped modes) : modes ≠ [] := by
  cases h with
  | inCode h => exact h.ne_nil
  | inText _ _ => simp

theorem InCode.not_isText (h : InCode (m :: below)) : m.isText = false := by
  cases h <;> rfl

/-- Of modes in which no code is read, a stack in code has only templates. -/
theorem InCode.eq_template_of_mem (h : InCode modes) (hm : m ∈ modes) (ht : m.isText = true) :
    m = .template := by
  induction h with
  | code =>
      obtain rfl := List.mem_singleton.mp hm
      cases ht
  | substitution depth h ih =>
      rcases List.mem_cons.mp hm with rfl | hm
      · cases ht
      · rcases List.mem_cons.mp hm with rfl | hm
        · rfl
        · exact ih hm

/-- Under a mode for text there is code. -/
theorem Shaped.below_isText (h : Shaped (m :: below)) (hm : m.isText = true) : InCode below := by
  cases h with
  | inCode h =>
      have := h.not_isText
      rw [hm] at this
      cases this
  | inText _ h => exact h

/-- A stack with a mode for code on top is in code. -/
theorem Shaped.inCode_of_not_isText (h : Shaped (m :: below)) (hm : m.isText = false) :
    InCode (m :: below) := by
  cases h with
  | inCode h => exact h
  | inText ht _ =>
      rw [hm] at ht
      cases ht

/-- **No literal and no comment lies below another mode**, only code and templates do. -/
theorem Shaped.eq_template_of_mem_tail (h : Shaped modes) {m : Mode} (hm : m ∈ modes.tail)
    (ht : m.isText = true) : m = .template := by
  cases h with
  | inCode h => exact h.eq_template_of_mem (List.mem_of_mem_tail hm) ht
  | inText _ h => exact h.eq_template_of_mem hm ht

/-- Where code is innermost, it is the code at the bottom. -/
theorem Shaped.eq_singleton_of_code (h : Shaped (.code :: below)) : below = [] := by
  have inCode := h.inCode_of_not_isText rfl
  cases inCode
  rfl

/-! ### What a step does to the stack -/

/-- All that a step can do to a stack with an innermost mode. -/
inductive Change (m : Mode) (below : List Mode) : List Mode → Prop
  | stays : Change m below (m :: below)
  /-- A literal or a comment begins in code. -/
  | enters {n : Mode} (hm : m.isText = false) (hn : n.isText = true) :
      Change m below (n :: m :: below)
  /-- A literal or a comment ends. -/
  | leaves (hm : m.isText = true) : Change m below below
  /-- A class of a regular expression begins or ends. -/
  | replaces {n : Mode} (hm : m.isText = true) (hn : n.isText = true) :
      Change m below (n :: below)
  /-- A substitution begins in a template. -/
  | opens (hm : m = .template) (depth : Nat) : Change m below (.substitution depth :: m :: below)
  /-- A substitution ends. -/
  | closes {depth : Nat} (hm : m = .substitution depth) : Change m below below

/-- **One step keeps the shape.** -/
theorem Change.shaped {modes' : List Mode} (h : Change m below modes')
    (hs : Shaped (m :: below)) : Shaped modes' := by
  cases h with
  | stays => exact hs
  | enters hm hn => exact .inText hn (hs.inCode_of_not_isText hm)
  | leaves hm => exact .inCode (hs.below_isText hm)
  | replaces hm hn => exact .inText hn (hs.below_isText hm)
  | opens hm depth =>
      subst hm
      exact .inCode (.substitution depth (hs.below_isText rfl))
  | closes hm =>
      subst hm
      have inCode := hs.inCode_of_not_isText rfl
      -- the template that the substitution was opened in is innermost again
      cases inCode with
      | substitution _ h => exact .inText rfl h

end

/-- If a step goes on, it does one of these things. -/
def Step.Changes (m : Mode) (below : List Mode) : Step → Prop
  | .go s => Change m below s.modes
  | .excess => True
  | .inconsistent => True

section

variable {limit : Nat} {s s' : Scan} {m : Mode} {below : List Mode} {before : List Char}
  {c : Char} {next : Option Char}

theorem Step.Changes.ite {p : Prop} [Decidable p] {a b : Step} (ha : p → a.Changes m below)
    (hb : ¬p → b.Changes m below) : (if p then a else b).Changes m below := by
  by_cases h : p
  · rw [if_pos h]
    exact ha h
  · rw [if_neg h]
    exact hb h

/-- A step that goes on with one of two scans. -/
theorem Step.Changes.goIte {p : Prop} [Decidable p] {t u : Scan}
    (ht : p → Change m below t.modes) (hu : ¬p → Change m below u.modes) :
    (Step.go (if p then t else u)).Changes m below := by
  by_cases h : p
  · rw [if_pos h]
    exact ht h
  · rw [if_neg h]
    exact hu h

theorem changes_descend {f : Scan → Scan}
    (hf : Change m below (f { s with depth := s.depth + 1 }).modes) :
    (s.descend limit f).Changes m below :=
  .ite (fun _ => trivial) fun _ => hf

theorem modes_replace (hs : s.modes = m :: below) (n : Mode) :
    (s.replace n).modes = n :: below := by
  rw [Scan.replace, hs]

variable (hs : s.modes = m :: below)

include hs

theorem mode_eq : s.mode = m := by
  rw [Scan.mode, hs, List.headD_cons]

theorem Change.stay : Change m below s.modes := by
  rw [hs]
  exact .stays

theorem Change.enter {n : Mode} {skip : Bool} (hm : m.isText = false) (hn : n.isText = true) :
    Change m below (s.enter n skip).modes := by
  rw [Scan.enter, hs]
  exact .enters hm hn

theorem Change.leave {skip : Bool} (hm : m.isText = true) :
    Change m below (s.leave skip).modes := by
  rw [Scan.leave, hs]
  exact .leaves hm

theorem Change.replace {n : Mode} (hm : m.isText = true) (hn : n.isText = true) :
    Change m below (s.replace n).modes := by
  rw [modes_replace hs]
  exact .replaces hm hn

theorem changes_codeStep (hm : m.isText = false) :
    (codeStep limit s before c next).Changes m below := by
  refine .ite (fun _ => .enter hs hm rfl) fun _ => .ite (fun _ => .enter hs hm rfl) fun _ =>
    .ite (fun _ => .enter hs hm rfl) fun _ => .ite (fun _ => .enter hs hm rfl) fun _ =>
    .ite (fun _ => .enter hs hm rfl) fun _ => .ite (fun _ => changes_descend (.stay hs)) fun _ =>
    .ite (fun _ => .stay hs) fun _ => .ite (fun _ => ?_) fun _ => .stay hs
  -- a closing brace ends the substitution if the depth is the one that it began with
  change Change m below (if s.mode = .substitution s.depth then s.leave else s).modes
  by_cases hd : s.mode = .substitution s.depth
  · rw [if_pos hd, Scan.leave, hs]
    exact .closes ((mode_eq hs).symm.trans hd)
  · rw [if_neg hd]
    exact .stay hs

/-- **What one step does to the stack.** -/
theorem changes_step : (step limit s before c next).Changes m below := by
  have top := mode_eq hs
  have stay : Change m below s.modes := .stay hs
  cases m with
  | code =>
      simp only [step, top]
      exact changes_codeStep hs rfl
  | substitution depth =>
      simp only [step, top]
      exact changes_codeStep hs rfl
  | lineComment =>
      simp only [step, top]
      exact .goIte (fun _ => .leave hs rfl) fun _ => stay
  | blockComment =>
      simp only [step, top]
      exact .goIte (fun _ => .leave hs rfl) fun _ => stay
  | quoted quote =>
      simp only [step, top]
      exact .ite (fun _ => stay) fun _ => .ite (fun _ => trivial) fun _ =>
        .goIte (fun _ => .leave hs rfl) fun _ => stay
  | regex inClass =>
      simp only [step, top]
      exact .ite (fun _ => stay) fun _ => .ite (fun _ => trivial) fun _ =>
        .ite (fun _ => .replace hs rfl rfl) fun _ => .ite (fun _ => .replace hs rfl rfl) fun _ =>
        .goIte (fun _ => .leave hs rfl) fun _ => stay
  | template =>
      simp only [step, top]
      refine .ite (fun _ => stay) fun _ => .ite (fun _ => .leave hs rfl) fun _ =>
        .ite (fun _ => changes_descend ?_) fun _ => stay
      rw [Scan.enter, hs]
      exact .opens rfl _

theorem change_of_go (h : step limit s before c next = .go s') : Change m below s'.modes := by
  have changes : (step limit s before c next).Changes m below := changes_step hs
  rwa [h] at changes

end

/-! ### The stack of a scan -/

section

variable {limit : Nat} {source : List Char}

/-- **The stack keeps its shape** all along a scan. -/
theorem Passes.shaped {p : Spot} (hp : Passes limit source p) : Shaped p.scan.modes := by
  induction hp with
  | start => exact .inCode .code
  | skip _ _ ih => exact ih
  | @go s s' before c rest _ _ hs ih =>
      obtain ⟨m, below, he⟩ := List.exists_cons_of_ne_nil ih.ne_nil
      exact (change_of_go he hs).shaped (he ▸ ih)

/-- The scan ends, wherever it stands, as it does from the start. -/
theorem Passes.outcome_eq {p : Spot} (hp : Passes limit source p) :
    p.outcome limit = run limit {} [] 0 source := by
  induction hp with
  | start => rfl
  | skip _ hk ih => rw [← ih, outcome_of_skip hk]
  | go _ hk hs ih => rw [← ih, outcome_of_go hk hs]

end

/-- What a scan that ended so says, given what the count of every bracket would say. -/
def Outcome.answer (recount : Option Nat) : Outcome → Option Nat
  | .excess offset => some offset
  | .inconsistent => recount
  | .finished s => if s.closed then none else recount

section

variable {limit : Nat} {source : List Char}

theorem excessNesting_eq_answer (source : List Char) (limit : Nat) :
    excessNesting source limit =
      (run limit {} [] 0 source).answer (countExcess limit 0 0 source) := by
  unfold excessNesting
  cases run limit {} [] 0 source <;> rfl

/-- With a stack of this shape, a scan may only end in code at the bottom or in a line comment. -/
theorem Shaped.closed_iff {s : Scan} (h : Shaped s.modes) :
    s.closed = true ↔ s.modes = [.code] ∨ ∃ below, s.modes = .lineComment :: below := by
  obtain ⟨m, below, he⟩ := List.exists_cons_of_ne_nil h.ne_nil
  rw [he] at h
  unfold Scan.closed
  rw [he]
  cases m with
  | code => simp [h.eq_singleton_of_code]
  | _ => simp

/-- **A scan finds nothing without a recount** if it gets to the end, and that is code at the
bottom or a line comment. -/
theorem answer_eq_none_iff :
    (∀ recount, (run limit {} [] 0 source).answer recount = none) ↔
      ∃ p, Passes limit source p ∧ p.rest = [] ∧
        (p.scan.modes = [.code] ∨ ∃ below, p.scan.modes = .lineComment :: below) := by
  constructor
  · intro h
    obtain ⟨q, hq, hlast⟩ := exists_last limit source
    generalize run limit {} [] 0 source = outcome at h hlast
    cases hlast with
    | @finished s before =>
        refine ⟨_, hq, rfl, hq.shaped.closed_iff.mp ?_⟩
        by_contra unclosed
        have := h (some 0)
        simp [Outcome.answer, unclosed] at this
    | excess => cases h none
    | inconsistent => cases h (some 0)
  · rintro ⟨⟨s, before, rest⟩, hp, rfl, closed⟩ recount
    rw [← hp.outcome_eq, outcome_nil, Outcome.answer, if_pos (hp.shaped.closed_iff.mpr closed)]

/-- **The stack of modes is well kept.** Wherever a scan stands, code is at the bottom of its stack,
then come templates with substitutions, and then at most one template, literal or comment. So there
is an innermost mode, whatever stands in for one, and no literal or comment lies below another mode.
The depth is within the limit. Without the count of every bracket, the scan finds nothing exactly
if it got to the end of the source, and there was in code at the bottom or in a line comment. -/
theorem stack_shaped (limit : Nat) (source : List Char) :
    (∀ p, Passes limit source p →
      Shaped p.scan.modes ∧
      p.scan.modes ≠ [] ∧
      (∀ fallback, p.scan.modes.headD fallback = p.scan.mode) ∧
      (∀ m ∈ p.scan.modes.tail, m = .code ∨ m = .template ∨ ∃ depth, m = .substitution depth) ∧
      p.scan.depth ≤ limit ∧
      p.outcome limit = run limit {} [] 0 source) ∧
    excessNesting source limit =
      (run limit {} [] 0 source).answer (countExcess limit 0 0 source) ∧
    ((∀ recount, (run limit {} [] 0 source).answer recount = none) ↔
      ∃ p, Passes limit source p ∧ p.rest = [] ∧
        (p.scan.modes = [.code] ∨ ∃ below, p.scan.modes = .lineComment :: below)) := by
  refine ⟨fun p hp => ?_, excessNesting_eq_answer source limit, answer_eq_none_iff⟩
  have shaped := hp.shaped
  refine ⟨shaped, shaped.ne_nil, fun fallback => ?_, fun m hm => ?_, hp.depth_le, hp.outcome_eq⟩
  · obtain ⟨m, below, he⟩ := List.exists_cons_of_ne_nil shaped.ne_nil
    rw [Scan.mode, he, List.headD_cons, List.headD_cons]
  · have text := shaped.eq_template_of_mem_tail hm
    cases m with
    | code => exact .inl rfl
    | substitution depth => exact .inr (.inr ⟨depth, rfl⟩)
    | _ => exact .inr (.inl (text rfl))

/-- A line comment in a substitution hides the end of the template, and there is no recount. -/
theorem comment_in_substitution :
    let source := ['\x60', '$', '\x7b', '/', '/', '\x7d', '\x60', '[']
    let modes := [.lineComment, .substitution 1, .template, .code]
    excessNesting source 1 = none ∧ Shaped modes ∧
      ∃ p, Passes 1 source p ∧ p.rest = [] ∧ p.scan.modes = modes ∧ p.scan.depth ≤ 1 := by
  intro source modes
  have spot : Passes 1 source ⟨⟨modes, 1, false⟩, source.reverse, []⟩ := by
    refine .go (.go (.go (.skip (.go (.skip (.go (.go .start rfl rfl) rfl rfl) rfl) rfl rfl) rfl)
      rfl rfl) rfl rfl) rfl rfl
  obtain ⟨passed, answer, without⟩ := stack_shaped 1 source
  obtain ⟨shaped, -, -, -, depth, -⟩ := passed _ spot
  have found := without.mpr ⟨_, spot, rfl, .inr ⟨_, rfl⟩⟩
  exact ⟨answer.trans (found _), shaped, _, spot, rfl, rfl, depth⟩

end

end Nesting

end PatchSandbox
