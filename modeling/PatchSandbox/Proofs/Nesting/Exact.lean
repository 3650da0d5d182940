import PatchSandbox.Proofs.Nesting.Items

/-!
# The scan is exact

On a source without ambiguity the scan counts the brackets that count, and nothing else: it goes
over a comment or a literal in the mode for it and is back where it was (**`outcome_lineComment`**,
**`outcome_letters`**, ...), so that its depth follows the marks (**`outcome_items`**, by induction
on the items). A substitution ends where the depth is what it was at its start; that its brackets
are balanced keeps every other closing brace apart from it (**`Keeps`**).

* **`climb`** is the depth along the marks, up to the first bracket beyond the limit.
* **`excess_exact`** says what the scan finds.
-/

namespace PatchSandbox.Nesting

/-! ### Depths -/

/-- Goes along brackets: the depth after them, or the offset of the first one beyond the limit. -/
def climb (limit : Nat) : (depth : Nat) → List Mark → Except Nat Nat
  | d, [] => .ok d
  | d, .opens offset :: ms => if limit < d + 1 then .error offset else climb limit (d + 1) ms
  | d, .closes :: ms => climb limit (d - 1) ms

/-- What comes of a scan that goes along brackets and then on. -/
def onward : Except Nat Nat → (Nat → Outcome) → Outcome
  | .ok d, go => go d
  | .error offset, _ => .excess offset

section

variable {limit d d' : Nat} {ms ns : List Mark}

theorem climb_append : climb limit d (ms ++ ns) = (climb limit d ms).bind (climb limit · ns) := by
  induction ms generalizing d with
  | nil => rfl
  | cons m ms ih =>
      cases m with
      | closes => exact ih
      | opens offset =>
          simp only [List.cons_append, climb]
          split
          · rfl
          · exact ih

theorem onward_bind (r : Except Nat Nat) (f : Nat → Except Nat Nat) (go : Nat → Outcome) :
    onward (r.bind f) go = onward r fun d => onward (f d) go := by
  cases r <;> rfl

/-- Two scans that go along brackets alike, if they go on alike after them. -/
theorem onward_congr {r : Except Nat Nat} {f g : Nat → Outcome}
    (h : ∀ d, r = .ok d → f d = g d) : onward r f = onward r g := by
  cases r with
  | ok d => exact h d rfl
  | error offset => rfl

@[simp] theorem depthFrom_nil (d : Nat) : depthFrom d [] = d := rfl

@[simp] theorem depthFrom_cons (d : Nat) (m : Mark) (ms : List Mark) :
    depthFrom d (m :: ms) = depthFrom (depthFrom d [m]) ms := rfl

@[simp] theorem depthFrom_append (d : Nat) (ms ns : List Mark) :
    depthFrom d (ms ++ ns) = depthFrom (depthFrom d ms) ns :=
  List.foldl_append

/-- Within the limit, the depth is that of the brackets. -/
theorem climb_of_le (h : ∀ pre, pre <+: ms → depthFrom d pre ≤ limit) :
    climb limit d ms = .ok (depthFrom d ms) := by
  induction ms generalizing d with
  | nil => rfl
  | cons m ms ih =>
      have next : climb limit (depthFrom d [m]) ms = .ok (depthFrom (depthFrom d [m]) ms) :=
        ih fun pre hp => h (m :: pre) (List.cons_prefix_cons.mpr ⟨rfl, hp⟩)
      cases m with
      | closes => exact next
      | opens offset =>
          have hl : d + 1 ≤ limit := h [.opens offset] ⟨ms, rfl⟩
          rw [climb, if_neg (by omega)]
          exact next

/-- A depth beyond the limit has a first bracket that leads there. -/
theorem exists_first (hd : d ≤ limit) (h : ¬ ∀ pre, pre <+: ms → depthFrom d pre ≤ limit) :
    ∃ pre offset post, ms = pre ++ .opens offset :: post ∧
      (∀ p, p <+: pre → depthFrom d p ≤ limit) ∧
      limit < depthFrom d (pre ++ [.opens offset]) := by
  induction ms generalizing d with
  | nil =>
      refine absurd (fun pre hp => ?_) h
      rw [List.prefix_nil.mp hp]
      exact hd
  | cons m ms ih =>
      by_cases hm : depthFrom d [m] ≤ limit
      · have hn : ¬ ∀ pre, pre <+: ms → depthFrom (depthFrom d [m]) pre ≤ limit := by
          refine fun hall => h fun pre hp => ?_
          rcases List.prefix_cons_iff.mp hp with rfl | ⟨tail, rfl, ht⟩
          · exact hd
          · exact hall tail ht
        obtain ⟨pre, offset, post, rfl, hp, hl⟩ := ih hm hn
        refine ⟨m :: pre, offset, post, rfl, fun p hp' => ?_, hl⟩
        rcases List.prefix_cons_iff.mp hp' with rfl | ⟨tail, rfl, ht⟩
        · exact hd
        · exact hp tail ht
      · cases m with
        | closes => exact absurd (Nat.le_trans (Nat.sub_le d 1) hd) hm
        | opens offset =>
            refine ⟨[], offset, ms, rfl, fun p hp => ?_, Nat.lt_of_not_le hm⟩
            rw [List.prefix_nil.mp hp]
            exact hd

/-- At the first bracket beyond the limit the climb ends. -/
theorem climb_of_first {pre post : List Mark} {offset : Nat}
    (hp : ∀ p, p <+: pre → depthFrom d p ≤ limit)
    (hl : limit < depthFrom d (pre ++ [.opens offset])) :
    climb limit d (pre ++ .opens offset :: post) = .error offset := by
  rw [depthFrom_append] at hl
  rw [climb_append, climb_of_le hp]
  exact if_pos hl

/-! ### Balanced brackets -/

@[simp] theorem opened_append (ms ns : List Mark) : opened (ms ++ ns) = opened ms + opened ns :=
  List.countP_append

@[simp] theorem closed_append (ms ns : List Mark) : closed (ms ++ ns) = closed ms + closed ns :=
  List.countP_append

@[simp] theorem opened_opens (offset : Nat) (ms : List Mark) :
    opened (.opens offset :: ms) = opened ms + 1 := by
  simp [opened]

@[simp] theorem closed_opens (offset : Nat) (ms : List Mark) :
    closed (.opens offset :: ms) = closed ms := by
  simp [closed]

@[simp] theorem opened_closes (ms : List Mark) : opened (.closes :: ms) = opened ms := by
  simp [opened]

@[simp] theorem closed_closes (ms : List Mark) : closed (.closes :: ms) = closed ms + 1 := by
  simp [closed]

/-- Brackets that do not lead below a floor. -/
def Above (floor depth : Nat) (ms : List Mark) : Prop :=
  ∀ pre, pre <+: ms → floor + closed pre ≤ depth + opened pre

theorem Above.left {floor : Nat} (h : Above floor d (ms ++ ns)) : Above floor d ms :=
  fun pre hp => h pre (hp.trans (List.prefix_append ms ns))

theorem Above.opens {floor offset : Nat} (h : Above floor d (.opens offset :: ms)) :
    Above floor (d + 1) ms := by
  intro pre hp
  have := h (.opens offset :: pre) (List.cons_prefix_cons.mpr ⟨rfl, hp⟩)
  simp only [closed_opens, opened_opens] at this
  omega

theorem Above.closes {floor : Nat} (h : Above floor d (.closes :: ms)) :
    floor < d ∧ Above floor (d - 1) ms := by
  have lt : floor + 1 ≤ d := h [.closes] ⟨ms, rfl⟩
  refine ⟨lt, fun pre hp => ?_⟩
  have := h (.closes :: pre) (List.cons_prefix_cons.mpr ⟨rfl, hp⟩)
  simp only [closed_closes, opened_closes] at this
  omega

/-- Above a floor nothing closes without a partner, so that the depth is a matter of counting. -/
theorem Above.depth {floor : Nat} (h : Above floor d ms) (hc : climb limit d ms = .ok d') :
    d' + closed ms = d + opened ms := by
  induction ms generalizing d with
  | nil =>
      cases hc
      rfl
  | cons m ms ih =>
      cases m with
      | closes =>
          obtain ⟨hlt, h⟩ := h.closes
          have := ih h hc
          simp only [closed_closes, opened_closes]
          omega
      | opens offset =>
          rw [climb] at hc
          split at hc
          · cases hc
          · have := ih h.opens hc
            simp only [closed_opens, opened_opens]
            omega

theorem Above.right {floor : Nat} (h : Above floor d (ms ++ ns))
    (hc : climb limit d ms = .ok d') : Above floor d' ns := by
  intro pre hp
  have hd := h.left.depth hc
  have := h (ms ++ pre) (List.prefix_append_right_inj ms |>.mpr hp)
  simp only [closed_append, opened_append] at this
  omega

theorem Balanced.above (h : Balanced ms) (d : Nat) : Above d d ms :=
  fun pre hp => Nat.add_le_add_left (h.within pre hp) d

/-- Balanced brackets lead back to where they started. -/
theorem Balanced.depth_eq (h : Balanced ms) (hc : climb limit d ms = .ok d') : d' = d := by
  have := (h.above d).depth hc
  have := h.total
  omega

end

/-! ### Comments -/

section

variable {limit d : Nat} {modes : List Mode} {before rest : List Char}

/-- A step that reads two characters. -/
theorem outcome_of_two {s : Scan} {c e : Char} (hk : s.skip = false)
    (hs : step limit s before c (some e) = .go ⟨modes, d, true⟩) :
    Spot.outcome ⟨s, before, c :: e :: rest⟩ limit =
      Spot.outcome ⟨⟨modes, d, false⟩, e :: c :: before, rest⟩ limit :=
  (outcome_of_go hk hs).trans (outcome_of_skip rfl)

/-- A step that opens a bracket goes along it. -/
theorem outcome_of_descend {s : Scan} {c : Char} {f : Scan → Scan} (hk : s.skip = false)
    (hs : step limit s before c rest.head? = s.descend limit f) :
    Spot.outcome ⟨s, before, c :: rest⟩ limit =
      onward (climb limit s.depth [.opens (byteLength before.reverse)]) fun d' =>
        Spot.outcome ⟨f { s with depth := d' }, c :: before, rest⟩ limit := by
  rw [climb]
  unfold Scan.descend at hs
  by_cases hl : limit < s.depth + 1
  · rw [if_pos hl] at hs ⊢
    exact outcome_of_excess hk hs
  · rw [if_neg hl] at hs ⊢
    exact outcome_of_go hk hs

/-- The scan goes over a line comment to its end. -/
theorem outcome_lineComment {body : List Char} (hb : '\n' ∉ body) :
    Spot.outcome ⟨⟨.lineComment :: modes, d, false⟩, before, body ++ '\n' :: rest⟩ limit =
      Spot.outcome ⟨⟨modes, d, false⟩, '\n' :: past body before, rest⟩ limit := by
  induction body generalizing before with
  | nil => exact outcome_of_go rfl (by simp [step, Scan.mode, Scan.leave])
  | cons c body ih =>
      obtain ⟨hc, hb⟩ : '\n' ≠ c ∧ '\n' ∉ body := by simpa using hb
      rw [past_cons, ← ih hb]
      exact outcome_of_go rfl (by simp [step, Scan.mode, Ne.symm hc])

/-- The scan goes over a block comment to its end. -/
theorem outcome_blockComment {body : List Char} (hb : ¬ ['*', '/'] <:+: body) :
    Spot.outcome ⟨⟨.blockComment :: modes, d, false⟩, before, body ++ '*' :: '/' :: rest⟩ limit =
      Spot.outcome ⟨⟨modes, d, false⟩, '/' :: '*' :: past body before, rest⟩ limit := by
  induction body generalizing before with
  | nil => exact outcome_of_two rfl (by simp [step, Scan.mode, Scan.leave])
  | cons c body ih =>
      -- what follows the body does not begin with a slash, so the end is not found too early
      have hn : ¬ (c = '*' ∧ (body ++ '*' :: '/' :: rest).head? = some '/') := by
        rintro ⟨rfl, hr⟩
        cases body with
        | nil => simp at hr
        | cons e body =>
            obtain rfl : e = '/' := by simpa using hr
            exact hb ⟨[], body, rfl⟩
      rw [past_cons, ← ih fun hi => hb (hi.trans (List.suffix_cons c body).isInfix)]
      exact outcome_of_go rfl (congrArg Step.go (if_neg hn))

/-! ### Literals -/

/-- In this mode a backslash takes the next character with it, and only some characters mean
anything else. -/
structure Skims (m : Mode) (stops : List Char) : Prop where
  escape : ∀ limit modes d before next,
    step limit ⟨m :: modes, d, false⟩ before '\\' next = .go ⟨m :: modes, d, true⟩
  plain : ∀ limit modes d before c next, c ≠ '\\' → c ∉ stops →
    step limit ⟨m :: modes, d, false⟩ before c next = .go ⟨m :: modes, d, false⟩

theorem skims_quoted (quote : Char) : Skims (.quoted quote) [quote, '\n'] where
  escape := by simp [step, Scan.mode]
  plain := by
    intro limit modes d before c next hb hs
    simp only [List.mem_cons, List.not_mem_nil, or_false, not_or] at hs
    simp [step, Scan.mode, hb, hs]

theorem skims_regex : Skims (.regex false) ['/', '[', '\n'] where
  escape := by simp [step, Scan.mode]
  plain := by
    intro limit modes d before c next hb hs
    simp only [List.mem_cons, List.not_mem_nil, or_false, not_or] at hs
    simp [step, Scan.mode, hb, hs]

/-- In a class an opening bracket changes nothing. -/
theorem skims_class : Skims (.regex true) [']', '\n'] where
  escape := by simp [step, Scan.mode]
  plain := by
    intro limit modes d before c next hb hs
    simp only [List.mem_cons, List.not_mem_nil, or_false, not_or] at hs
    simp [step, Scan.mode, Scan.replace, hb, hs]

/-- In a template also a dollar sign may mean something. -/
theorem skims_template : Skims .template ['\x60', '$'] where
  escape := by simp [step, Scan.mode]
  plain := by
    intro limit modes d before c next hb hs
    simp only [List.mem_cons, List.not_mem_nil, or_false, not_or] at hs
    simp [step, Scan.mode, hb, hs]

theorem outcome_letter {m : Mode} {stops : List Char} (hm : Skims m stops) {l : Letter}
    (hl : l.Fits stops) :
    Spot.outcome ⟨⟨m :: modes, d, false⟩, before, l.text ++ rest⟩ limit =
      Spot.outcome ⟨⟨m :: modes, d, false⟩, past l.text before, rest⟩ limit := by
  cases l with
  | plain c => exact outcome_of_go rfl (hm.plain _ _ _ _ _ _ hl.1 hl.2)
  | escaped c => exact outcome_of_two rfl (hm.escape _ _ _ _ _)

/-- The scan goes over letters. -/
theorem outcome_letters {m : Mode} {stops : List Char} (hm : Skims m stops) {ls : List Letter}
    (hl : ∀ l ∈ ls, l.Fits stops) :
    Spot.outcome ⟨⟨m :: modes, d, false⟩, before, spell ls ++ rest⟩ limit =
      Spot.outcome ⟨⟨m :: modes, d, false⟩, past (spell ls) before, rest⟩ limit := by
  induction ls generalizing before with
  | nil => rfl
  | cons l ls ih =>
      rw [List.forall_mem_cons] at hl
      rw [show spell (l :: ls) = l.text ++ spell ls from List.flatMap_cons, List.append_assoc,
        outcome_letter hm hl.1, ih hl.2, past_append]

/-- A dollar sign is a letter of a template, unless an opening brace follows. -/
theorem outcome_templateLetter {l : Letter} (hl : l.Fits ['\x60'])
    (hr : l = .plain '$' → rest.head? ≠ some '\x7b') :
    Spot.outcome ⟨⟨.template :: modes, d, false⟩, before, l.text ++ rest⟩ limit =
      Spot.outcome ⟨⟨.template :: modes, d, false⟩, past l.text before, rest⟩ limit := by
  by_cases hd : l = .plain '$'
  · subst hd
    exact outcome_of_go rfl (by simp [step, Scan.mode, hr rfl])
  · refine outcome_letter skims_template ?_
    cases l with
    | escaped c => trivial
    | plain c =>
        have hc : c ≠ '$' := fun h => hd (congrArg Letter.plain h)
        simpa [Letter.Fits, hc] using hl

theorem outcome_regexPiece {p : RegexPiece} (hp : p.Fits) :
    Spot.outcome ⟨⟨.regex false :: modes, d, false⟩, before, p.text ++ rest⟩ limit =
      Spot.outcome ⟨⟨.regex false :: modes, d, false⟩, past p.text before, rest⟩ limit := by
  cases p with
  | letter l => exact outcome_letter skims_regex hp
  | characterClass body =>
      have enters : Spot.outcome ⟨⟨.regex false :: modes, d, false⟩, before,
          '[' :: (spell body ++ ']' :: rest)⟩ limit =
          Spot.outcome ⟨⟨.regex true :: modes, d, false⟩, '[' :: before,
            spell body ++ ']' :: rest⟩ limit :=
        outcome_of_go rfl (by simp [step, Scan.mode, Scan.replace])
      have leaves (b : List Char) : Spot.outcome ⟨⟨.regex true :: modes, d, false⟩, b,
          ']' :: rest⟩ limit =
          Spot.outcome ⟨⟨.regex false :: modes, d, false⟩, ']' :: b, rest⟩ limit :=
        outcome_of_go rfl (by simp [step, Scan.mode, Scan.replace])
      simpa [RegexPiece.text] using
        enters.trans ((outcome_letters skims_class hp).trans (leaves _))

/-- The scan goes over the pieces of a regular expression. -/
theorem outcome_pattern {ps : List RegexPiece} (hp : ∀ p ∈ ps, p.Fits) :
    Spot.outcome ⟨⟨.regex false :: modes, d, false⟩, before, patternText ps ++ rest⟩ limit =
      Spot.outcome ⟨⟨.regex false :: modes, d, false⟩, past (patternText ps) before, rest⟩
        limit := by
  induction ps generalizing before with
  | nil => rfl
  | cons p ps ih =>
      rw [List.forall_mem_cons] at hp
      rw [show patternText (p :: ps) = p.text ++ patternText ps from List.flatMap_cons,
        List.append_assoc, outcome_regexPiece hp.1, ih hp.2, past_append]

end

/-! ### Code -/

/-- A mode of code that a scan at some depth does not leave at some brackets: it is in no
substitution, or in one that is not closed by them. -/
inductive Keeps (d : Nat) (ms : List Mark) : Mode → Prop
  | code : Keeps d ms .code
  | substitution {floor : Nat} (h : Above floor d ms) : Keeps d ms (.substitution floor)

section

variable {limit d d' : Nat} {m : Mode} {modes : List Mode} {before rest : List Char}
  {ms ns : List Mark} {c : Char}

theorem Keeps.right (h : Keeps d (ms ++ ns) m) (hc : climb limit d ms = .ok d') :
    Keeps d' ns m := by
  cases h with
  | code => exact .code
  | substitution h => exact .substitution (h.right hc)

/-- The scan reads code. -/
theorem Keeps.step_eq (h : Keeps d ms m) (next : Option Char) :
    step limit ⟨m :: modes, d, false⟩ before c next =
      codeStep limit ⟨m :: modes, d, false⟩ before c next := by
  cases h <;> rfl

/-- A bracket that closes is no end of a substitution. -/
theorem Keeps.mode_ne (h : Keeps d (.closes :: ms) m) : m ≠ .substitution d := by
  cases h with
  | code => exact Mode.noConfusion
  | substitution h =>
      have := h.closes.1
      simp only [ne_eq, Mode.substitution.injEq]
      omega

/-- A character for itself. -/
theorem outcome_char (hc : c ∉ ['\'', '"', '\x60', '/'])
    (hk : Keeps d (charMarks before c ++ ms) m) :
    Spot.outcome ⟨⟨m :: modes, d, false⟩, before, c :: rest⟩ limit =
      onward (climb limit d (charMarks before c)) fun d' =>
        Spot.outcome ⟨⟨m :: modes, d', false⟩, c :: before, rest⟩ limit := by
  have hs : step limit ⟨m :: modes, d, false⟩ before c rest.head? =
      codeStep limit ⟨m :: modes, d, false⟩ before c rest.head? := hk.step_eq _
  simp only [List.mem_cons, List.not_mem_nil, or_false, not_or] at hc
  unfold charMarks at hk ⊢
  by_cases ho : isOpener c = true
  · rw [if_pos ho]
    refine outcome_of_descend (f := id) rfl ?_
    rw [hs]
    simp [codeStep, hc, ho]
  · rw [if_neg ho] at hk ⊢
    by_cases hcl : isCloser c = true
    · rw [if_pos hcl] at hk ⊢
      have hm := hk.mode_ne
      have he : c = ')' ∨ c = ']' ∨ c = '\x7d' := by
        simpa [isCloser, or_assoc] using hcl
      have closes : codeStep limit ⟨m :: modes, d, false⟩ before c rest.head? =
          .go ⟨m :: modes, d - 1, false⟩ := by
        rcases he with rfl | rfl | rfl <;> simp [codeStep, isOpener, Scan.mode, hm]
      exact outcome_of_go rfl (hs.trans closes)
    · rw [if_neg hcl]
      refine outcome_of_go rfl ?_
      rw [hs]
      simp only [isCloser, Bool.or_eq_true, beq_iff_eq, not_or] at hcl
      simp [codeStep, hc, ho, hcl]

/-- Two slashes open a line comment. -/
theorem outcome_slash_slash (hk : Keeps d ms m) :
    Spot.outcome ⟨⟨m :: modes, d, false⟩, before, '/' :: '/' :: rest⟩ limit =
      Spot.outcome ⟨⟨.lineComment :: m :: modes, d, false⟩, '/' :: '/' :: before, rest⟩ limit := by
  refine outcome_of_two rfl ?_
  rw [hk.step_eq]
  rfl

/-- A slash and an asterisk open a block comment. -/
theorem outcome_slash_star (hk : Keeps d ms m) :
    Spot.outcome ⟨⟨m :: modes, d, false⟩, before, '/' :: '*' :: rest⟩ limit =
      Spot.outcome ⟨⟨.blockComment :: m :: modes, d, false⟩, '*' :: '/' :: before, rest⟩
        limit := by
  refine outcome_of_two rfl ?_
  rw [hk.step_eq]
  rfl

theorem outcome_quote (hk : Keeps d ms m) (hq : c ∈ ['\'', '"']) :
    Spot.outcome ⟨⟨m :: modes, d, false⟩, before, c :: rest⟩ limit =
      Spot.outcome ⟨⟨.quoted c :: m :: modes, d, false⟩, c :: before, rest⟩ limit := by
  refine outcome_of_go rfl ?_
  rw [hk.step_eq]
  obtain rfl | rfl : c = '\'' ∨ c = '"' := by simpa using hq
  all_goals rfl

theorem outcome_backtick (hk : Keeps d ms m) :
    Spot.outcome ⟨⟨m :: modes, d, false⟩, before, '\x60' :: rest⟩ limit =
      Spot.outcome ⟨⟨.template :: m :: modes, d, false⟩, '\x60' :: before, rest⟩ limit := by
  refine outcome_of_go rfl ?_
  rw [hk.step_eq]
  rfl

/-- Where no division can stand, the scan takes a slash for a regular expression. -/
theorem startsRegex_of_noDivision (h : noDivision before = true) : startsRegex before = true := by
  unfold noDivision at h
  unfold startsRegex
  split
  · rfl
  · rename_i last rest hb
    rw [hb] at h
    obtain ⟨⟨hw, hp⟩, hs⟩ : (isWord last = false ∧ last ≠ ')') ∧ last ≠ ']' := by simpa using h
    simp [hw, hp, hs]

theorem outcome_slash (hk : Keeps d ms m) (hb : noDivision before = true)
    (hr : rest.head? ∉ [some '/', some '*']) :
    Spot.outcome ⟨⟨m :: modes, d, false⟩, before, '/' :: rest⟩ limit =
      Spot.outcome ⟨⟨.regex false :: m :: modes, d, false⟩, '/' :: before, rest⟩ limit := by
  refine outcome_of_go rfl ?_
  have hc : rest.head? ≠ some '/' ∧ rest.head? ≠ some '*' := by simpa using hr
  rw [hk.step_eq]
  simp [codeStep, hc, startsRegex_of_noDivision hb, Scan.enter]

/-- A literal is closed by the character that opened it. -/
theorem outcome_endQuote (hq : c ∈ ['\'', '"']) :
    Spot.outcome ⟨⟨.quoted c :: modes, d, false⟩, before, c :: rest⟩ limit =
      Spot.outcome ⟨⟨modes, d, false⟩, c :: before, rest⟩ limit := by
  refine outcome_of_go rfl ?_
  obtain rfl | rfl : c = '\'' ∨ c = '"' := by simpa using hq
  all_goals rfl

theorem outcome_endRegex :
    Spot.outcome ⟨⟨.regex false :: modes, d, false⟩, before, '/' :: rest⟩ limit =
      Spot.outcome ⟨⟨modes, d, false⟩, '/' :: before, rest⟩ limit :=
  outcome_of_go rfl rfl

theorem outcome_endTemplate :
    Spot.outcome ⟨⟨.template :: modes, d, false⟩, before, '\x60' :: rest⟩ limit =
      Spot.outcome ⟨⟨modes, d, false⟩, '\x60' :: before, rest⟩ limit :=
  outcome_of_go rfl rfl

/-- The bracket of a substitution is one too many, or code of the depth it leads to follows. -/
theorem outcome_substitution :
    Spot.outcome ⟨⟨.template :: modes, d, false⟩, before, '$' :: '\x7b' :: rest⟩ limit =
      onward (climb limit d [.opens (byteLength before.reverse)]) fun d' =>
        Spot.outcome ⟨⟨.substitution d' :: .template :: modes, d', false⟩,
          '\x7b' :: '$' :: before, rest⟩ limit := by
  have hs : step limit ⟨.template :: modes, d, false⟩ before '$' (some '\x7b') =
      Scan.descend ⟨.template :: modes, d, false⟩ limit fun s =>
        s.enter (.substitution s.depth) true := by
    simp [step, Scan.mode]
  exact (outcome_of_descend rfl hs).trans (onward_congr fun _ _ => outcome_of_skip rfl)

/-- At its depth a closing brace ends a substitution. -/
theorem outcome_endSubstitution :
    Spot.outcome ⟨⟨.substitution d :: modes, d, false⟩, before, '\x7d' :: rest⟩ limit =
      Spot.outcome ⟨⟨modes, d - 1, false⟩, '\x7d' :: before, rest⟩ limit :=
  outcome_of_go rfl (by simp [step, Scan.mode, codeStep, isOpener, Scan.leave])

end

/-! ### Items -/

section

variable {limit d : Nat} {m : Mode} {modes : List Mode} {before rest : List Char} {ms : List Mark}

/-- A line comment changes nothing. -/
theorem outcome_over_lineComment (hk : Keeps d ms m) {body : List Char} (hb : '\n' ∉ body) :
    Spot.outcome ⟨⟨m :: modes, d, false⟩, before, '/' :: '/' :: body ++ ['\n'] ++ rest⟩ limit =
      Spot.outcome ⟨⟨m :: modes, d, false⟩, past ('/' :: '/' :: body ++ ['\n']) before, rest⟩
        limit := by
  simpa using (outcome_slash_slash hk).trans (outcome_lineComment hb)

/-- A block comment changes nothing. -/
theorem outcome_over_blockComment (hk : Keeps d ms m) {body : List Char}
    (hb : ¬ ['*', '/'] <:+: body) :
    Spot.outcome ⟨⟨m :: modes, d, false⟩, before, '/' :: '*' :: body ++ ['*', '/'] ++ rest⟩
        limit =
      Spot.outcome ⟨⟨m :: modes, d, false⟩, past ('/' :: '*' :: body ++ ['*', '/']) before, rest⟩
        limit := by
  simpa using (outcome_slash_star hk).trans (outcome_blockComment hb)

/-- A string changes nothing. -/
theorem outcome_over_quoted (hk : Keeps d ms m) {quote : Char} (hq : quote ∈ ['\'', '"'])
    {body : List Letter} (hb : ∀ l ∈ body, l.Fits [quote, '\n']) :
    Spot.outcome ⟨⟨m :: modes, d, false⟩, before, quote :: spell body ++ [quote] ++ rest⟩ limit =
      Spot.outcome ⟨⟨m :: modes, d, false⟩, past (quote :: spell body ++ [quote]) before, rest⟩
        limit := by
  simpa using (outcome_quote hk hq).trans
    ((outcome_letters (skims_quoted quote) hb).trans (outcome_endQuote hq))

/-- A regular expression changes nothing. -/
theorem outcome_over_regex (hk : Keeps d ms m) {body : List RegexPiece}
    (hh : patternText body ≠ [] ∧ (patternText body).head? ∉ [some '/', some '*'])
    (hp : ∀ p ∈ body, p.Fits) (hb : noDivision before = true) :
    Spot.outcome ⟨⟨m :: modes, d, false⟩, before, '/' :: patternText body ++ ['/'] ++ rest⟩ limit =
      Spot.outcome ⟨⟨m :: modes, d, false⟩, past ('/' :: patternText body ++ ['/']) before, rest⟩
        limit := by
  have head : (patternText body ++ '/' :: rest).head? = (patternText body).head? := by
    rw [List.head?_append, Option.or_of_isSome (by simpa using hh.1)]
  simpa using (outcome_slash hk hb (head ▸ hh.2)).trans
    ((outcome_pattern hp).trans outcome_endRegex)

end

-- By induction on the tree: a template hands its own place in the text on to its parts, and each
-- substitution stands on a mode of its own, which its items keep because they are balanced.
mutual

/-- **The scan goes along the brackets of items** that count. -/
theorem outcome_items {limit : Nat} : ∀ (items : Items) {before rest : List Char} {d : Nat}
    {m : Mode} {modes : List Mode}, items.Fits before → Keeps d (items.marks before) m →
    Spot.outcome ⟨⟨m :: modes, d, false⟩, before, items.text ++ rest⟩ limit =
      onward (climb limit d (items.marks before)) fun d' =>
        Spot.outcome ⟨⟨m :: modes, d', false⟩, past items.text before, rest⟩ limit
  | .nil, _, _, _, _, _, _, _ => rfl
  | .char c items, before, rest, d, m, modes, hf, hk => by
      rw [Items.marks] at hk ⊢
      rw [Items.text, past_cons, List.cons_append, outcome_char hf.1 hk, climb_append, onward_bind]
      exact onward_congr fun d' hd => outcome_items items hf.2 (hk.right hd)
  | .lineComment body items, before, rest, d, m, modes, hf, hk => by
      rw [Items.marks] at hk ⊢
      rw [Items.text, List.append_assoc, outcome_over_lineComment hk hf.1,
        outcome_items items hf.2 hk, past_append _ items.text]
  | .blockComment body items, before, rest, d, m, modes, hf, hk => by
      rw [Items.marks] at hk ⊢
      rw [Items.text, List.append_assoc, outcome_over_blockComment hk hf.1,
        outcome_items items hf.2 hk, past_append _ items.text]
  | .quoted quote body items, before, rest, d, m, modes, hf, hk => by
      rw [Items.marks] at hk ⊢
      rw [Items.text, List.append_assoc, outcome_over_quoted hk hf.1 hf.2.1,
        outcome_items items hf.2.2 hk, past_append _ items.text]
  | .regex body items, before, rest, d, m, modes, ⟨hh, hp, hb, hf⟩, hk => by
      rw [Items.marks] at hk ⊢
      rw [Items.text, List.append_assoc, outcome_over_regex hk hh hp hb,
        outcome_items items hf hk, past_append _ items.text]
  | .template parts items, before, rest, d, m, modes, hf, hk => by
      have text : (Items.template parts items).text ++ rest =
          '\x60' :: (parts.text ++ '\x60' :: (items.text ++ rest)) := by
        simp [Items.text]
      rw [Items.marks] at hk ⊢
      rw [text, outcome_backtick hk, outcome_parts parts hf.1, climb_append, onward_bind]
      refine onward_congr fun d' hd => ?_
      have after : past ('\x60' :: parts.text ++ ['\x60']) before =
          '\x60' :: past parts.text ('\x60' :: before) := by
        simp
      rw [outcome_endTemplate, ← after, outcome_items items hf.2 (hk.right hd), Items.text,
        past_append _ items.text]

/-- The scan goes along the brackets of a template, to the backtick that ends it. -/
theorem outcome_parts {limit : Nat} : ∀ (parts : Parts) {before rest : List Char} {d : Nat}
    {modes : List Mode}, parts.Fits before →
    Spot.outcome ⟨⟨.template :: modes, d, false⟩, before, parts.text ++ '\x60' :: rest⟩ limit =
      onward (climb limit d (parts.marks before)) fun d' =>
        Spot.outcome ⟨⟨.template :: modes, d', false⟩, past parts.text before, '\x60' :: rest⟩
          limit
  | .nil, _, _, _, _, _ => rfl
  | .letter l parts, before, rest, d, modes, hf => by
      have head : l = .plain '$' → (parts.text ++ '\x60' :: rest).head? ≠ some '\x7b' := by
        intro hl
        have ne := hf.2.1 hl
        cases hp : parts.text with
        | nil => simp
        | cons c cs => rwa [hp] at ne
      rw [Parts.marks, Parts.text, List.append_assoc, outcome_templateLetter hf.1 head,
        outcome_parts parts hf.2.2, past_append]
  | .substitution items parts, before, rest, d, modes, ⟨hi, hb, hf⟩ => by
      have text : (Parts.substitution items parts).text ++ '\x60' :: rest =
          '$' :: '\x7b' :: (items.text ++ '\x7d' :: (parts.text ++ '\x60' :: rest)) := by
        simp [Parts.text]
      have marks : (Parts.substitution items parts).marks before =
          [.opens (byteLength before.reverse)] ++ (items.marks ('\x7b' :: '$' :: before) ++
            .closes :: parts.marks (past ('$' :: '\x7b' :: items.text ++ ['\x7d']) before)) := by
        simp [Parts.marks]
      rw [text, marks, outcome_substitution, climb_append, onward_bind]
      refine onward_congr fun inner _ => ?_
      rw [outcome_items items hi (.substitution (hb.above inner)), climb_append, onward_bind]
      refine onward_congr fun d' hd => ?_
      -- balanced brackets lead back to the depth at which the closing brace is looked for
      obtain rfl : d' = inner := hb.depth_eq hd
      have after : past ('$' :: '\x7b' :: items.text ++ ['\x7d']) before =
          '\x7d' :: past items.text ('\x7b' :: '$' :: before) := by
        simp
      rw [outcome_endSubstitution, ← after, outcome_parts parts hf, Parts.text,
        past_append _ parts.text, climb]

end

/-! ### The first bracket beyond the limit -/

/-- A source without ambiguity is scanned to its end, or to the bracket where the climb ends. -/
theorem excessNesting_text {items : Items} (h : items.Fits []) (limit : Nat) :
    excessNesting items.text limit =
      match climb limit 0 (items.marks []) with
      | .ok _ => none
      | .error offset => some offset := by
  have hr : run limit {} [] 0 items.text =
      onward (climb limit 0 (items.marks [])) fun d => .finished ⟨[.code], d, false⟩ := by
    rw [← List.append_nil items.text]
    exact outcome_items items h .code
  unfold excessNesting
  rw [hr]
  cases climb limit 0 (items.marks []) <;> rfl

/-- **The scan is exact on sources without ambiguity**: it finds nothing when no bracket that counts
leads beyond the limit, and otherwise it finds the first one that does. -/
theorem excess_exact {items : Items} (h : items.Fits []) (limit : Nat) :
    (excessNesting items.text limit = none ↔
      ∀ pre, pre <+: items.marks [] → depthFrom 0 pre ≤ limit) ∧
    ∀ o, excessNesting items.text limit = some o ↔
      ∃ pre post, items.marks [] = pre ++ .opens o :: post ∧
        (∀ p, p <+: pre → depthFrom 0 p ≤ limit) ∧ limit < depthFrom 0 (pre ++ [.opens o]) := by
  have he := excessNesting_text h limit
  by_cases hw : ∀ pre, pre <+: items.marks [] → depthFrom 0 pre ≤ limit
  · rw [climb_of_le hw] at he
    refine ⟨iff_of_true he hw, fun o => iff_of_false (by simp [he]) ?_⟩
    rintro ⟨pre, post, hm, -, hl⟩
    exact absurd (hw _ ⟨post, by simp [hm]⟩) (Nat.not_le_of_lt hl)
  · obtain ⟨pre, offset, post, hm, hp, hl⟩ := exists_first (Nat.zero_le limit) hw
    rw [hm, climb_of_first hp hl] at he
    refine ⟨iff_of_false (by simp [he]) hw, fun o => ⟨fun ho => ?_, ?_⟩⟩
    · obtain rfl : offset = o := Option.some.inj (he.symm.trans ho)
      exact ⟨pre, post, hm, hp, hl⟩
    · rintro ⟨pre', post', hm', hp', hl'⟩
      have hc : climb limit 0 (items.marks []) = .error o := by
        rw [hm', climb_of_first hp' hl']
      rw [hm, climb_of_first hp hl] at hc
      rw [he, Except.error.inj hc]

/-- A template in a substitution of a template, with brackets in a string, a comment and a regular
expression. -/
def nestedTemplates : Items :=
  .char '[' <| .template
    (.letter (.plain 'é') <| .substitution
      (.char '\x7b' <| .quoted '\'' [.plain '\x7d'] <| .template
        (.substitution (.char '(' <| .blockComment ['*', ')'] <| .char ')' .nil) .nil) <|
        .char '\x7d' .nil)
      .nil) <|
  .char ',' <| .regex [.characterClass [.plain '/', .plain '[']] <| .char ']' .nil

theorem inner_substitution_found :
    nestedTemplates.Fits [] ∧
      nestedTemplates.text = "[`é$\x7b\x7b'\x7d'`$\x7b(/**)*/)\x7d`\x7d\x7d`,/[/[]/]".toList ∧
      excessNesting nestedTemplates.text 3 = some 11 ∧
      excessNesting nestedTemplates.text 5 = none := by
  have fits : nestedTemplates.Fits [] := by decide +kernel
  have found := ((excess_exact fits 3).2 11).mpr
    ⟨[.opens 0, .opens 4, .opens 6], [.opens 13, .closes, .closes, .closes, .closes, .closes],
      by decide +kernel, by decide, by decide⟩
  exact ⟨fits, by decide +kernel, found, (excess_exact fits 5).1.mpr (by decide +kernel)⟩

end PatchSandbox.Nesting
