import PatchSandbox.Location
import PatchSandbox.Proofs.Nesting.Scan

/-!
# The course of a scan

A scan goes over a source until the text ends or a step does not go on, and only what it has read
so far decides how.

* **`Turn`** is what one step can do. The limit has a say in it at an opening bracket only, so
  everything below is read off the three cases of `turn`.
* **`Passes`** says that the scan gets to a spot, **`Recounts`** that the count of every bracket
  does. Both are decided where they stop (`exists_last`, `exists_last_recount`).
* **`excess_backed`** — where a bracket is found to be one too many, that many brackets are opened
  in the text up to it. **`Counter`** collects the values that the depth takes on the way.
* **`excessNesting_of_le`** — a source that is shallow enough under a limit is so under a larger
  one.
-/

namespace PatchSandbox

namespace Nesting

/-! ### One step -/

section

variable {limit limit' : Nat} {s s' : Scan} {c : Char} {next : Option Char}

theorem descend_eq_go {f : Scan → Scan} (h : s.descend limit f = .go s') :
    s.depth + 1 ≤ limit ∧ s' = f { s with depth := s.depth + 1 } := by
  unfold Scan.descend at h
  split at h
  · cases h
  · cases h
    exact ⟨by omega, rfl⟩

theorem descend_eq_excess {f : Scan → Scan} (h : s.descend limit f = .excess) :
    limit < s.depth + 1 := by
  unfold Scan.descend at h
  split at h
  · assumption
  · cases h

/-- A bracket that is not one too many is none under a larger limit. -/
theorem descend_of_le {f : Scan → Scan} (hl : limit ≤ limit')
    (h : s.descend limit f ≠ .excess) : s.descend limit' f = s.descend limit f := by
  unfold Scan.descend at h ⊢
  split at h
  · exact absurd rfl h
  · rw [if_neg (by omega), if_neg (by assumption)]

/-- What a step can do at a character, as a function of the limit. -/
inductive Turn (s : Scan) (c : Char) (next : Option Char) : (Nat → Step) → Prop
  | goes {t : Scan} (hd : t.depth ≤ s.depth) : Turn s c next fun _ => .go t
  | inconsistent : Turn s c next fun _ => .inconsistent
  /-- A bracket opens, perhaps one of two characters. -/
  | descends {f : Scan → Scan} (hf : ∀ u, (f u).depth = u.depth)
      (hc : isOpener c = true ∨ c = '$' ∧ next = some '\x7b' ∧ ∀ u, (f u).skip = true) :
      Turn s c next fun limit => s.descend limit f

theorem Turn.ite {p : Prop} [Decidable p] {f g : Nat → Step} (hf : p → Turn s c next f)
    (hg : ¬p → Turn s c next g) : Turn s c next fun limit => if p then f limit else g limit := by
  by_cases h : p
  · simpa only [if_pos h] using hf h
  · simpa only [if_neg h] using hg h

theorem depth_replace (s : Scan) (m : Mode) : (s.replace m).depth = s.depth := by
  unfold Scan.replace
  split <;> rfl

theorem turn_codeStep (before : List Char) :
    Turn s c next fun limit => codeStep limit s before c next := by
  simp only [codeStep]
  have stay {t : Scan} (h : t.depth = s.depth) : Turn s c next fun _ => .go t :=
    .goes (Nat.le_of_eq h)
  refine .ite (fun _ => stay rfl) fun _ => .ite (fun _ => stay rfl) fun _ =>
    .ite (fun _ => stay rfl) fun _ => .ite (fun _ => stay rfl) fun _ =>
    .ite (fun _ => stay rfl) fun _ => .ite (fun hc => .descends (fun _ => rfl) (.inl hc)) fun _ =>
    .ite (fun _ => .goes (Nat.sub_le _ _)) fun _ => .ite (fun _ => .goes ?_) fun _ => stay rfl
  split <;> exact Nat.sub_le _ _

/-- **What one step does.** The limit decides nothing but whether a bracket is one too many. -/
theorem turn (s : Scan) (before : List Char) (c : Char) (next : Option Char) :
    Turn s c next fun limit => step limit s before c next := by
  have stay {t : Scan} (h : t.depth = s.depth) : Turn s c next fun _ => .go t :=
    .goes (Nat.le_of_eq h)
  cases hm : s.mode with
  | code => simpa only [step, hm] using turn_codeStep before
  | substitution => simpa only [step, hm] using turn_codeStep before
  | lineComment =>
      simp only [step, hm]
      refine stay ?_
      split <;> rfl
  | blockComment =>
      simp only [step, hm]
      refine stay ?_
      split <;> rfl
  | quoted quote =>
      simp only [step, hm]
      refine .ite (fun _ => stay rfl) fun _ => .ite (fun _ => .inconsistent) fun _ => stay ?_
      split <;> rfl
  | regex inClass =>
      simp only [step, hm]
      refine .ite (fun _ => stay rfl) fun _ => .ite (fun _ => .inconsistent) fun _ =>
        .ite (fun _ => stay (depth_replace _ _)) fun _ =>
        .ite (fun _ => stay (depth_replace _ _)) fun _ => stay ?_
      split <;> rfl
  | template =>
      simp only [step, hm]
      exact .ite (fun _ => stay rfl) fun _ => .ite (fun _ => stay rfl) fun _ =>
        .ite (fun hc => .descends (fun _ => rfl) (.inr ⟨hc.1, hc.2, fun _ => rfl⟩)) fun _ =>
        stay rfl

variable {before : List Char}

/-- A step that goes on gets no deeper, or one deeper at a bracket within the limit. -/
theorem depth_of_go (h : step limit s before c next = .go s') :
    s'.depth ≤ s.depth ∨ (s'.depth = s.depth + 1 ∧ s.depth + 1 ≤ limit ∧
      (isOpener c = true ∨ c = '$' ∧ next = some '\x7b' ∧ s'.skip = true)) := by
  have ht := turn s before c next
  generalize hf : (fun limit => step limit s before c next) = f at ht
  replace h : f limit = .go s' := hf ▸ h
  cases ht with
  | goes hd =>
      cases h
      exact .inl hd
  | inconsistent => cases h
  | descends hd hc =>
      obtain ⟨hl, rfl⟩ := descend_eq_go h
      refine .inr ⟨hd _, hl, hc.imp_right fun hc => ⟨hc.1, hc.2.1, hc.2.2 _⟩⟩

/-- A bracket too many is a bracket at the limit. -/
theorem bracket_of_excess (h : step limit s before c next = .excess) :
    limit < s.depth + 1 ∧ (isOpener c = true ∨ c = '$' ∧ next = some '\x7b') := by
  have ht := turn s before c next
  generalize hf : (fun limit => step limit s before c next) = f at ht
  replace h : f limit = .excess := hf ▸ h
  cases ht with
  | goes => cases h
  | inconsistent => cases h
  | descends _ hc => exact ⟨descend_eq_excess h, hc.imp_right fun hc => ⟨hc.1, hc.2.1⟩⟩

/-- A step is the same under a larger limit, if it finds no bracket too many. -/
theorem step_of_le (hl : limit ≤ limit') (h : step limit s before c next ≠ .excess) :
    step limit' s before c next = step limit s before c next := by
  have ht := turn s before c next
  generalize hf : (fun limit => step limit s before c next) = f at ht
  have eq (l : Nat) : step l s before c next = f l := congrFun hf l
  rw [eq] at h
  rw [eq, eq]
  cases ht with
  | goes => rfl
  | inconsistent => rfl
  | descends => exact descend_of_le hl h

end

/-! ### The scan -/

/-- How a scan goes on from a spot. -/
def Spot.outcome (p : Spot) (limit : Nat) : Outcome := p.run limit (byteLength p.before.reverse)

/-- The scan of a source gets to a spot. -/
inductive Passes (limit : Nat) (source : List Char) : Spot → Prop
  | start : Passes limit source ⟨{}, [], source⟩
  | skip {s before c rest} (hp : Passes limit source ⟨s, before, c :: rest⟩)
      (hk : s.skip = true) : Passes limit source ⟨{ s with skip := false }, c :: before, rest⟩
  | go {s s' before c rest} (hp : Passes limit source ⟨s, before, c :: rest⟩)
      (hk : s.skip = false) (hs : step limit s before c rest.head? = .go s') :
      Passes limit source ⟨s', c :: before, rest⟩

/-- A scan that stands here ends so. -/
inductive Last (limit : Nat) : Spot → Outcome → Prop
  | finished {s before} : Last limit ⟨s, before, []⟩ (.finished s)
  | excess {s before c rest} (hk : s.skip = false)
      (hs : step limit s before c rest.head? = .excess) :
      Last limit ⟨s, before, c :: rest⟩ (.excess (byteLength before.reverse))
  | inconsistent {s before c rest} (hk : s.skip = false)
      (hs : step limit s before c rest.head? = .inconsistent) :
      Last limit ⟨s, before, c :: rest⟩ .inconsistent

section

variable {limit : Nat} {source : List Char} {s s' : Scan} {before rest : List Char} {c : Char}

@[simp] theorem outcome_nil : Spot.outcome ⟨s, before, []⟩ limit = .finished s := rfl

theorem outcome_of_skip (hk : s.skip = true) :
    Spot.outcome ⟨s, before, c :: rest⟩ limit =
      Spot.outcome ⟨{ s with skip := false }, c :: before, rest⟩ limit := by
  simp [Spot.outcome, Spot.run, run, hk, Nat.add_comm]

theorem outcome_of_go (hk : s.skip = false) (hs : step limit s before c rest.head? = .go s') :
    Spot.outcome ⟨s, before, c :: rest⟩ limit = Spot.outcome ⟨s', c :: before, rest⟩ limit := by
  simp [Spot.outcome, Spot.run, run, hk, hs, Nat.add_comm]

theorem outcome_of_excess (hk : s.skip = false) (hs : step limit s before c rest.head? = .excess) :
    Spot.outcome ⟨s, before, c :: rest⟩ limit = .excess (byteLength before.reverse) := by
  simp [Spot.outcome, Spot.run, run, hk, hs]

theorem outcome_of_inconsistent (hk : s.skip = false)
    (hs : step limit s before c rest.head? = .inconsistent) :
    Spot.outcome ⟨s, before, c :: rest⟩ limit = .inconsistent := by
  simp [Spot.outcome, Spot.run, run, hk, hs]

/-- From every spot that a scan passes it gets to a last one, and that decides. -/
theorem Passes.last {p : Spot} (hp : Passes limit source p) :
    ∃ q, Passes limit source q ∧ Last limit q (p.outcome limit) := by
  obtain ⟨s, before, rest⟩ := p
  induction rest generalizing s before with
  | nil => exact ⟨_, hp, .finished⟩
  | cons c rest ih =>
      cases hk : s.skip with
      | true =>
          rw [outcome_of_skip hk]
          exact ih _ _ (hp.skip hk)
      | false =>
          cases hs : step limit s before c rest.head? with
          | go s' =>
              rw [outcome_of_go hk hs]
              exact ih _ _ (hp.go hk hs)
          | excess =>
              rw [outcome_of_excess hk hs]
              exact ⟨_, hp, .excess hk hs⟩
          | inconsistent =>
              rw [outcome_of_inconsistent hk hs]
              exact ⟨_, hp, .inconsistent hk hs⟩

theorem exists_last (limit : Nat) (source : List Char) :
    ∃ q, Passes limit source q ∧ Last limit q (run limit {} [] 0 source) :=
  Passes.start.last

theorem Passes.text {p : Spot} (hp : Passes limit source p) : p.text = source := by
  induction hp with
  | start => rfl
  | skip _ _ ih => simpa [Spot.text] using ih
  | go _ _ _ ih => simpa [Spot.text] using ih

/-- **The scan stays within the limit.** -/
theorem Passes.depth_le {p : Spot} (hp : Passes limit source p) : p.scan.depth ≤ limit := by
  induction hp with
  | start => exact Nat.zero_le _
  | skip _ _ ih => exact ih
  | go _ _ hs ih =>
      rcases depth_of_go hs with hd | ⟨hd, hl, -⟩
      · exact Nat.le_trans hd ih
      · exact Nat.le_trans (Nat.le_of_eq hd) hl

end

/-! ### Opening brackets of the text -/

/-- The number of opening brackets. -/
def openers (cs : List Char) : Nat := cs.countP isOpener

/-- The texts of opening brackets, that of a substitution among them. -/
def openings : List (List Char) := [['('], ['['], ['\x7b'], ['$', '\x7b']]

@[simp] theorem openers_cons (c : Char) (cs : List Char) :
    openers (c :: cs) = (if isOpener c then 1 else 0) + openers cs := by
  rw [openers, List.countP_cons, Nat.add_comm]
  rfl

@[simp] theorem openers_append (as bs : List Char) :
    openers (as ++ bs) = openers as + openers bs :=
  List.countP_append

@[simp] theorem openers_reverse (cs : List Char) : openers cs.reverse = openers cs :=
  List.countP_reverse

/-- Each bracket takes a byte. -/
theorem openers_le_byteLength (cs : List Char) : openers cs ≤ byteLength cs := by
  induction cs with
  | nil => exact Nat.le_refl _
  | cons c cs ih =>
      have := c.utf8Size_pos
      rw [openers_cons, byteLength_cons]
      split <;> omega

theorem mem_openings {c : Char} (h : isOpener c = true) : [c] ∈ openings := by
  simpa [isOpener, openings, or_assoc] using h

theorem openers_of_mem_openings {bracket : List Char} (h : bracket ∈ openings) :
    openers bracket = 1 := by
  revert bracket
  decide

/-- The brackets that the scan has read, also when the second of two characters is still to
come. -/
def Spot.opened (p : Spot) : Nat :=
  openers p.before + if p.scan.skip then openers (p.rest.take 1) else 0

theorem Spot.opened_le (p : Spot) : p.opened ≤ openers p.text := by
  have head : openers (p.rest.take 1) ≤ openers p.rest := by
    cases p.rest with
    | nil => exact Nat.le_refl _
    | cons c rest =>
        rw [List.take_succ_cons, List.take_zero, openers_cons, openers_cons]
        exact Nat.add_le_add_left (Nat.zero_le _) _
  rw [Spot.opened, Spot.text, openers_append, openers_reverse]
  split <;> omega

section

variable {limit : Nat} {source : List Char}

/-- **The scan counts brackets of the text only.** -/
theorem Passes.depth_le_opened {p : Spot} (hp : Passes limit source p) :
    p.scan.depth ≤ p.opened := by
  induction hp with
  | start => exact Nat.zero_le _
  | skip _ hk ih =>
      simp only [Spot.opened, hk, if_true, List.take_succ_cons, List.take_zero, openers_cons] at ih
      simp only [Spot.opened, openers_cons, Bool.false_eq_true, if_false]
      simpa [openers, Nat.add_comm] using ih
  | @go s s' before c rest _ hk hs ih =>
      simp only [Spot.opened, hk, Bool.false_eq_true, if_false] at ih
      simp only [Spot.opened, openers_cons]
      rcases depth_of_go hs with hd | ⟨hd, -, hc | ⟨-, hn, hk'⟩⟩
      · omega
      · rw [if_pos hc]
        omega
      · obtain ⟨more, rfl⟩ : ∃ more, rest = '\x7b' :: more := by
          cases rest with
          | nil => cases hn
          | cons d more => exact ⟨more, by simpa using hn⟩
        have hb : isOpener '\x7b' = true := rfl
        simp only [hk', hb, if_true, List.take_succ_cons, openers_cons]
        omega

/-- Where the scan finds a bracket too many, one stands there in the text. -/
theorem opening_of_excess {s : Scan} {before rest : List Char} {c : Char}
    (hs : step limit s before c rest.head? = .excess) :
    ∃ bracket after, bracket ∈ openings ∧ c :: rest = bracket ++ after := by
  rcases (bracket_of_excess hs).2 with hc | ⟨rfl, hn⟩
  · exact ⟨[c], rest, mem_openings hc, rfl⟩
  · cases rest with
    | nil => cases hn
    | cons d more =>
        obtain rfl : d = '\x7b' := by simpa using hn
        exact ⟨['$', '\x7b'], more, by decide, rfl⟩

end

/-! ### The count of every bracket -/

/-- The count of every bracket of a source gets from its start to between two characters. -/
inductive Recounts (limit : Nat) (source : List Char) :
    (depth : Nat) → (before rest : List Char) → Prop
  | start : Recounts limit source 0 [] source
  | opener {d before c rest} (hr : Recounts limit source d before (c :: rest))
      (hc : isOpener c = true) (hd : d + 1 ≤ limit) :
      Recounts limit source (d + 1) (c :: before) rest
  | other {d before c rest} (hr : Recounts limit source d before (c :: rest))
      (hc : isOpener c = false) :
      Recounts limit source (if isCloser c then d - 1 else d) (c :: before) rest

section

variable {limit : Nat} {source : List Char} {d : Nat} {before rest : List Char}

/-- The count gets to the end of the text or to a bracket too many, and that decides. -/
theorem Recounts.last (hr : Recounts limit source d before rest) :
    countExcess limit d (byteLength before.reverse) rest = none ∨
      ∃ d' before' c rest', Recounts limit source d' before' (c :: rest') ∧ isOpener c = true ∧
        limit < d' + 1 ∧
        countExcess limit d (byteLength before.reverse) rest =
          some (byteLength before'.reverse) := by
  induction rest generalizing d before with
  | nil => exact .inl rfl
  | cons c rest ih =>
      have offset : byteLength before.reverse + c.utf8Size = byteLength (c :: before).reverse := by
        simp [Nat.add_comm]
      by_cases hc : isOpener c = true
      · by_cases hl : limit < d + 1
        · exact .inr ⟨d, before, c, rest, hr, hc, hl, by simp [countExcess, hc, hl]⟩
        · simp only [countExcess, hc, hl, if_true, if_false, offset]
          exact ih (hr.opener hc (by omega))
      · simp only [countExcess, hc, offset, Bool.false_eq_true, if_false]
        exact ih (hr.other (eq_false_of_ne_true hc))

theorem exists_last_recount {o : Nat} (h : countExcess limit 0 0 source = some o) :
    ∃ d before c rest, Recounts limit source d before (c :: rest) ∧ isOpener c = true ∧
      limit < d + 1 ∧ o = byteLength before.reverse := by
  have hr : Recounts limit source 0 [] source := .start
  rcases hr.last with hn | ⟨d, b, c, r, hr, hc, hl, he⟩
  · exact absurd (h.symm.trans hn) (by simp)
  · exact ⟨d, b, c, r, hr, hc, hl, Option.some.inj (h.symm.trans he)⟩

theorem Recounts.text (hr : Recounts limit source d before rest) :
    before.reverse ++ rest = source := by
  induction hr with
  | start => rfl
  | opener _ _ _ ih => simpa using ih
  | other _ _ ih => simpa using ih

theorem Recounts.depth_le (hr : Recounts limit source d before rest) : d ≤ limit := by
  induction hr with
  | start => exact Nat.zero_le _
  | opener _ _ hd => exact hd
  | other _ _ ih => split <;> omega

theorem Recounts.depth_le_openers (hr : Recounts limit source d before rest) :
    d ≤ openers before := by
  induction hr with
  | start => exact Nat.zero_le _
  | opener _ hc _ ih =>
      rw [openers_cons, if_pos hc]
      omega
  | other _ _ ih =>
      rw [openers_cons]
      split <;> omega

end

/-! ### Brackets too many -/

/-- The values that the depth takes while a source is looked through, that at a bracket too many
included. -/
inductive Counter (limit : Nat) (source : List Char) : Nat → Prop
  | scan {p} (hp : Passes limit source p) : Counter limit source p.scan.depth
  | excess {s before c rest} (hp : Passes limit source ⟨s, before, c :: rest⟩)
      (hk : s.skip = false) (hs : step limit s before c rest.head? = .excess) :
      Counter limit source (s.depth + 1)
  | recount {d before rest} (hr : Recounts limit source d before rest) : Counter limit source d
  | recountExcess {d before c rest} (hr : Recounts limit source d before (c :: rest))
      (hc : isOpener c = true) (hl : limit < d + 1) : Counter limit source (d + 1)

section

variable {limit : Nat} {source : List Char}

/-- Where a bracket stands, the text up to it opens more of them than the scan has counted. -/
theorem Passes.depth_lt_openers {s : Scan} {before rest bracket after : List Char} {c : Char}
    (hp : Passes limit source ⟨s, before, c :: rest⟩) (hk : s.skip = false)
    (hb : bracket ∈ openings) (he : c :: rest = bracket ++ after) :
    source = before.reverse ++ bracket ++ after ∧
      s.depth + 1 ≤ openers (before.reverse ++ bracket) := by
  have hd := hp.depth_le_opened
  simp only [Spot.opened, hk, Bool.false_eq_true, if_false] at hd
  refine ⟨by rw [List.append_assoc, ← he]; exact hp.text.symm, ?_⟩
  rw [openers_append, openers_reverse, openers_of_mem_openings hb]
  omega

/-- **A bracket too many is backed by the text**: it stands there, and more brackets than the limit
are opened up to it. -/
theorem excess_backed {o : Nat} (h : excessNesting source limit = some o) :
    ∃ before bracket after, bracket ∈ openings ∧ source = before ++ bracket ++ after ∧
      o = byteLength before ∧ limit < openers (before ++ bracket) := by
  have recounted (h : countExcess limit 0 0 source = some o) :
      ∃ before bracket after, bracket ∈ openings ∧ source = before ++ bracket ++ after ∧
        o = byteLength before ∧ limit < openers (before ++ bracket) := by
    obtain ⟨d, before, c, rest, hr, hc, hl, rfl⟩ := exists_last_recount h
    have hd := hr.depth_le_openers
    refine ⟨before.reverse, [c], rest, mem_openings hc, by simp [← hr.text], rfl, ?_⟩
    rw [openers_append, openers_reverse, openers_of_mem_openings (mem_openings hc)]
    omega
  obtain ⟨q, hq, hlast⟩ := exists_last limit source
  unfold excessNesting at h
  generalize run limit {} [] 0 source = outcome at h hlast
  cases hlast with
  | finished =>
      dsimp only at h
      split at h
      · cases h
      · exact recounted h
  | inconsistent => exact recounted h
  | @excess s before c rest hk hs =>
      cases h
      obtain ⟨bracket, after, hb, he⟩ := opening_of_excess hs
      obtain ⟨ht, hd⟩ := hq.depth_lt_openers hk hb he
      exact ⟨before.reverse, bracket, after, hb, ht, rfl,
        Nat.lt_of_lt_of_le (bracket_of_excess hs).1 hd⟩

/-- **The counter does not run away**: it is at most one beyond the limit, and at most the number
of opening brackets in the text. -/
theorem Counter.bounded {n : Nat} (h : Counter limit source n) :
    n ≤ limit + 1 ∧ n ≤ openers source := by
  cases h with
  | scan hp =>
      have hl := hp.depth_le
      refine ⟨by omega, Nat.le_trans hp.depth_le_opened ?_⟩
      exact hp.text ▸ Spot.opened_le _
  | excess hp hk hs =>
      have hl := hp.depth_le
      obtain ⟨bracket, after, hb, he⟩ := opening_of_excess hs
      obtain ⟨ht, hd⟩ := hp.depth_lt_openers hk hb he
      refine ⟨Nat.succ_le_succ hl, Nat.le_trans hd ?_⟩
      rw [ht, openers_append _ after]
      exact Nat.le_add_right _ _
  | recount hr =>
      have hl := hr.depth_le
      have hd := hr.depth_le_openers
      rw [← hr.text, openers_append, openers_reverse]
      omega
  | recountExcess hr hc =>
      have hl := hr.depth_le
      have hd := hr.depth_le_openers
      rw [← hr.text, openers_append, openers_reverse, openers_cons, if_pos hc]
      omega

/-- A source without more opening brackets than the limit is shallow enough. -/
theorem excessNesting_of_openers_le (h : openers source ≤ limit) :
    excessNesting source limit = none := by
  cases he : excessNesting source limit with
  | none => rfl
  | some o =>
      obtain ⟨before, bracket, after, -, rfl, -, hl⟩ := excess_backed he
      rw [openers_append _ after] at h
      omega

end

/-! ### Larger limits -/

section

variable {limit limit' : Nat} {source : List Char}

/-- A scan that finds no bracket too many is the same under a larger limit. -/
theorem run_of_le (hl : limit ≤ limit') {s : Scan} {before cs : List Char} {offset : Nat}
    (h : ∀ o, run limit s before offset cs ≠ .excess o) :
    run limit' s before offset cs = run limit s before offset cs := by
  induction cs generalizing s before offset with
  | nil => rfl
  | cons c cs ih =>
      cases hk : s.skip with
      | true =>
          simp only [run, hk, if_true] at h ⊢
          exact ih h
      | false =>
          simp only [run, hk, Bool.false_eq_true, if_false] at h ⊢
          have hne : step limit s before c cs.head? ≠ .excess := by
            intro hs
            rw [hs] at h
            exact h _ rfl
          rw [step_of_le hl hne]
          cases hs : step limit s before c cs.head? with
          | go s' =>
              rw [hs] at h
              exact ih h
          | excess => exact absurd hs hne
          | inconsistent => rfl

/-- So is the count of every bracket. -/
theorem countExcess_of_le (hl : limit ≤ limit') {d offset : Nat} {cs : List Char}
    (h : countExcess limit d offset cs = none) : countExcess limit' d offset cs = none := by
  induction cs generalizing d offset with
  | nil => rfl
  | cons c cs ih =>
      unfold countExcess at h ⊢
      split at h
      · split at h
        · cases h
        · rw [if_pos (by assumption), if_neg (by omega)]
          exact ih h
      · rw [if_neg (by assumption)]
        exact ih h

/-- **A source that is shallow enough under a limit is so under a larger one**, whether the scan
or the count of every bracket had the last word. -/
theorem excessNesting_of_le (hl : limit ≤ limit') (h : excessNesting source limit = none) :
    excessNesting source limit' = none := by
  have hr : ∀ o, run limit {} [] 0 source ≠ .excess o := by
    intro o ho
    rw [excessNesting, ho] at h
    cases h
  unfold excessNesting at h ⊢
  rw [run_of_le hl hr]
  cases ho : run limit {} [] 0 source with
  | excess o => exact absurd ho (hr o)
  | inconsistent =>
      rw [ho] at h
      exact countExcess_of_le hl h
  | finished s =>
      rw [ho] at h
      dsimp only at h ⊢
      split at h
      · rw [if_pos (by assumption)]
      · rw [if_neg (by assumption)]
        exact countExcess_of_le hl h

end

end Nesting

end PatchSandbox
