import Mathlib.Data.List.DropRight
import Mathlib.Data.List.Infix
import PatchSandbox.Location

/-!
# Locations are exact

A location is what a person counts: the line feeds before a place, and the characters since the
last of them.

* **`after`** — the location after a text, counted out.
* **`ofOffset_exact`** — the location of an offset is the one after the text before it, so that
  locations are in the order of the offsets and tell them apart; within a character it is counted
  in bytes from where the line starts.

The walk is followed over a text (`walk_append`). Then it stops in front of a character, in the
midst of one or at the end, and by `exists_split` an offset is in one of these places.
-/

namespace PatchSandbox.Location

/-! ### Counting -/

/-- The characters after the last line feed. -/
def lastLine (cs : List Char) : List Char := cs.rtakeWhile (· != '\n')

/-- What is before them: the text up to the last line feed. -/
def wholeLines (cs : List Char) : List Char := cs.rdropWhile (· != '\n')

/-- The location after a text. -/
def after (cs : List Char) : Location := ⟨1 + cs.count '\n', 1 + (lastLine cs).length⟩

@[simp] theorem lastLine_lineFeed (cs : List Char) : lastLine (cs ++ ['\n']) = [] :=
  List.rtakeWhile_concat_neg _ _ _ (by simp)

@[simp] theorem wholeLines_lineFeed (cs : List Char) :
    wholeLines (cs ++ ['\n']) = cs ++ ['\n'] :=
  List.rdropWhile_concat_neg _ _ _ (by simp)

theorem lastLine_concat {c : Char} (hc : c ≠ '\n') (cs : List Char) :
    lastLine (cs ++ [c]) = lastLine cs ++ [c] :=
  List.rtakeWhile_concat_pos _ _ _ (by simpa using hc)

theorem wholeLines_concat {c : Char} (hc : c ≠ '\n') (cs : List Char) :
    wholeLines (cs ++ [c]) = wholeLines cs :=
  List.rdropWhile_concat_pos _ _ _ (by simpa using hc)

theorem after_lineFeed (cs : List Char) : after (cs ++ ['\n']) = ⟨(after cs).line + 1, 1⟩ := by
  simp [after, Nat.add_assoc]

theorem after_concat {c : Char} (hc : c ≠ '\n') (cs : List Char) :
    after (cs ++ [c]) = ⟨(after cs).line, (after cs).column + 1⟩ := by
  simp [after, lastLine_concat hc, hc, Nat.add_assoc]

/-- A text in which no line ends makes the last line longer. -/
theorem lastLine_append {more : List Char} (h : '\n' ∉ more) (cs : List Char) :
    lastLine (cs ++ more) = lastLine cs ++ more := by
  induction more using List.reverseRecOn with
  | nil => simp
  | append_singleton more c ih =>
      rw [List.mem_append, List.mem_singleton, not_or] at h
      rw [← List.append_assoc, lastLine_concat (Ne.symm h.2), ih h.1, List.append_assoc]

theorem length_le_byteLength (cs : List Char) : cs.length ≤ byteLength cs := by
  induction cs with
  | nil => simp
  | cons c cs ih =>
      have := c.utf8Size_pos
      simp only [byteLength_cons, List.length_cons]
      omega

/-- No text is too long for its location, if it takes less than `greatest` bytes. -/
theorem after_le {cs : List Char} (h : byteLength cs < greatest) :
    (after cs).line ≤ greatest ∧ (after cs).column ≤ greatest := by
  have size := length_le_byteLength cs
  have lines : cs.count '\n' ≤ cs.length := List.count_le_length
  have columns : (lastLine cs).length ≤ cs.length :=
    (List.rtakeWhile_suffix _ _).length_le
  simp only [after]
  omega

/-! ### Where the walk goes -/

/-- Characters before the target are walked over. -/
theorem walk_append {target : Nat} {cs more : List Char} (rest : List Char)
    (h : byteLength (cs ++ more) ≤ target) :
    walk target (byteLength cs) (byteLength (wholeLines cs)) (after cs) (more ++ rest) =
      walk target (byteLength (cs ++ more)) (byteLength (wholeLines (cs ++ more)))
        (after (cs ++ more)) rest := by
  induction more generalizing cs with
  | nil => simp
  | cons c more ih =>
      have pos := c.utf8Size_pos
      have reached : byteLength cs + c.utf8Size ≤ target := by
        rw [byteLength_append, byteLength_cons] at h
        omega
      rw [List.append_cons] at h ⊢
      rw [List.cons_append, walk, if_neg (by omega), if_neg (by omega), ← ih h]
      split
      case isTrue hc =>
          subst hc
          rw [after_lineFeed, wholeLines_lineFeed, byteLength_append]
          rfl
      case isFalse hc =>
          rw [after_concat hc, wholeLines_concat hc, byteLength_append, byteLength_cons]
          rfl

/-- The walk from the beginning, after some characters. -/
theorem walk_of_append {target : Nat} {cs : List Char} (rest : List Char)
    (h : byteLength cs ≤ target) :
    walk target 0 0 ⟨1, 1⟩ (cs ++ rest) =
      walk target (byteLength cs) (byteLength (wholeLines cs)) (after cs) rest :=
  @walk_append target [] cs rest h

theorem walk_boundary (cs rest : List Char) :
    walk (byteLength cs) 0 0 ⟨1, 1⟩ (cs ++ rest) = after cs := by
  rw [walk_of_append rest (Nat.le_refl _)]
  cases rest with
  | nil => rfl
  | cons c rest => rw [walk, if_pos (Nat.le_refl _)]

theorem walk_beyond {target : Nat} {cs : List Char} (h : byteLength cs ≤ target) :
    walk target 0 0 ⟨1, 1⟩ cs = after cs := by
  have := walk_of_append [] h
  rwa [List.append_nil] at this

theorem walk_inside {target : Nat} {cs : List Char} {c : Char} (rest : List Char)
    (h : byteLength cs < target) (h' : target < byteLength cs + c.utf8Size) :
    walk target 0 0 ⟨1, 1⟩ (cs ++ c :: rest) =
      ⟨(after cs).line, target - byteLength (wholeLines cs) + 1⟩ := by
  rw [walk_of_append _ (Nat.le_of_lt h), walk, if_neg (by omega), if_pos h']

/-! ### Places in a text -/

/-- An offset at which a character begins or the text ends. -/
def IsBoundary (source : List Char) (offset : Nat) : Prop :=
  ∃ before, before <+: source ∧ byteLength before = offset

instance (source : List Char) (offset : Nat) : Decidable (IsBoundary source offset) :=
  decidable_of_iff (∃ before ∈ source.inits, byteLength before = offset) (by simp [IsBoundary])

/-- An offset at which a line starts. -/
def IsLineStart (source : List Char) (offset : Nat) : Prop :=
  ∃ before, before <+: source ∧ byteLength before = offset ∧ ∀ c ∈ before.getLast?, c = '\n'

/-- One location comes before another one. -/
def Precedes (l m : Location) : Prop := l.line < m.line ∨ l.line = m.line ∧ l.column < m.column

instance (l m : Location) : Decidable (Precedes l m) := inferInstanceAs (Decidable (_ ∨ _))

theorem Precedes.irrefl (l : Location) : ¬Precedes l l := by
  simp [Precedes]

theorem Precedes.asymm {l m : Location} (h : Precedes l m) : ¬Precedes m l := by
  unfold Precedes at *
  omega

/-- An offset is in front of a character or in the midst of one. -/
theorem exists_split {offset : Nat} {source : List Char} (h : offset ≤ byteLength source) :
    ∃ before rest, source = before ++ rest ∧ byteLength before ≤ offset ∧
      (byteLength before = offset ∨
        ∃ c more, rest = c :: more ∧ byteLength before < offset ∧
          offset < byteLength before + c.utf8Size) := by
  induction source using List.reverseRecOn with
  | nil => exact ⟨[], [], rfl, by simp, .inl (Nat.le_antisymm (Nat.zero_le _) h)⟩
  | append_singleton source c ih =>
      rcases Nat.lt_or_ge (byteLength source) offset with hs | hs
      · rw [byteLength_append, byteLength_cons, byteLength_nil] at h
        rcases Nat.lt_or_ge offset (byteLength source + c.utf8Size) with hc | hc
        · exact ⟨source, [c], rfl, Nat.le_of_lt hs, .inr ⟨c, [], rfl, hs, hc⟩⟩
        · refine ⟨source ++ [c], [], by simp, ?_, .inl ?_⟩ <;>
            rw [byteLength_append, byteLength_cons, byteLength_nil] <;> omega
      · obtain ⟨before, rest, rfl, hb, hr⟩ := ih hs
        refine ⟨before, rest ++ [c], List.append_assoc .., hb, hr.imp_right ?_⟩
        rintro ⟨d, more, rfl, hd⟩
        exact ⟨d, more ++ [c], rfl, hd⟩

/-- Of two beginnings of a text the longer one takes more bytes. -/
theorem prefix_of_byteLength_le {source as bs : List Char} (ha : as <+: source)
    (hb : bs <+: source) (h : byteLength as ≤ byteLength bs) : as <+: bs := by
  rcases List.prefix_or_prefix_of_prefix ha hb with hab | ⟨more, rfl⟩
  · exact hab
  · have := length_le_byteLength more
    rw [byteLength_append] at h
    obtain rfl : more = [] := List.length_eq_zero_iff.mp (by omega)
    simp

theorem wholeLines_initial (cs : List Char) : wholeLines cs <+: cs := List.rdropWhile_prefix _ _

/-- The last line starts after a line feed, or at the beginning. -/
theorem isLineStart_wholeLines {source cs : List Char} (h : cs <+: source) :
    IsLineStart source (byteLength (wholeLines cs)) := by
  refine ⟨wholeLines cs, (wholeLines_initial cs).trans h, rfl, fun c hc => ?_⟩
  obtain ⟨hne, rfl⟩ := List.mem_getLast?_eq_getLast hc
  simpa [wholeLines] using List.rdropWhile_last_not (· != '\n') cs hne

/-- A later line does not start in a text. -/
theorem prefix_wholeLines {as cs : List Char} (h : as <+: cs)
    (hf : ∀ c ∈ as.getLast?, c = '\n') : as <+: wholeLines cs := by
  obtain ⟨more, rfl⟩ := h
  induction more using List.reverseRecOn with
  | nil =>
      have self : wholeLines as = as := by
        refine List.rdropWhile_eq_self_iff.mpr fun hne => ?_
        simpa using hf _ (List.getLast?_eq_some_getLast hne)
      rw [List.append_nil, self]
  | append_singleton more c ih =>
      rw [← List.append_assoc]
      rcases eq_or_ne c '\n' with rfl | hc
      · rw [wholeLines_lineFeed, List.append_assoc]
        exact List.prefix_append _ _
      · rw [wholeLines_concat hc]
        exact ih

/-- More text is at a later location. -/
theorem precedes_after_append {more : List Char} (hm : more ≠ []) (cs : List Char) :
    Precedes (after cs) (after (cs ++ more)) := by
  rcases Nat.eq_zero_or_pos (more.count '\n') with hz | hp
  · have none : '\n' ∉ more := List.count_eq_zero.mp hz
    have pos := List.length_pos_of_ne_nil hm
    refine .inr ⟨?_, ?_⟩
    · simp [after, hz]
    · simp only [after, lastLine_append none, List.length_append]
      omega
  · refine .inl ?_
    simp only [after, List.count_append]
    omega

/-! ### The location of an offset -/

section

variable {source : List Char} (small : byteLength source < greatest)

include small

theorem byteLength_lt_of_initial {cs : List Char} (h : cs <+: source) :
    byteLength cs < greatest := by
  obtain ⟨rest, rfl⟩ := h
  rw [byteLength_append] at small
  omega

/-- At a boundary, the location is the one after the text before it. -/
theorem ofOffset_boundary {before : List Char} {offset : Nat} (h : before <+: source)
    (ho : min offset (byteLength source) = byteLength before) :
    ofOffset source offset = after before := by
  have fits := after_le (byteLength_lt_of_initial small h)
  have place : walk offset 0 0 ⟨1, 1⟩ source = after before := by
    rcases Nat.le_total offset (byteLength source) with hle | hle
    · rw [Nat.min_eq_left hle] at ho
      obtain ⟨rest, rfl⟩ := h
      rw [ho, walk_boundary]
    · rw [Nat.min_eq_right hle] at ho
      have whole : before = source :=
        h.eq_of_length_le
          (prefix_of_byteLength_le (List.prefix_refl _) h (Nat.le_of_eq ho)).length_le
      rw [whole, walk_beyond hle]
  rw [ofOffset, place, fitted_eq_self fits.1 fits.2]

/-- Boundaries are in the order of their locations. -/
theorem precedes_of_lt {a b : Nat} (ha : IsBoundary source a) (hb : IsBoundary source b)
    (h : a < b) : Precedes (ofOffset source a) (ofOffset source b) := by
  obtain ⟨as, hp, rfl⟩ := ha
  obtain ⟨bs, hq, rfl⟩ := hb
  have size {cs : List Char} (hcs : cs <+: source) :
      min (byteLength cs) (byteLength source) = byteLength cs := by
    obtain ⟨rest, rfl⟩ := hcs
    rw [byteLength_append]
    omega
  rw [ofOffset_boundary small hp (size hp), ofOffset_boundary small hq (size hq)]
  obtain ⟨more, rfl⟩ := prefix_of_byteLength_le hp hq (Nat.le_of_lt h)
  refine precedes_after_append (fun hm => ?_) as
  subst hm
  simp at h

theorem lt_iff_precedes {a b : Nat} (ha : IsBoundary source a) (hb : IsBoundary source b) :
    a < b ↔ Precedes (ofOffset source a) (ofOffset source b) := by
  refine ⟨precedes_of_lt small ha hb, fun h => ?_⟩
  rcases Nat.lt_trichotomy a b with hab | rfl | hba
  · exact hab
  · exact absurd h (Precedes.irrefl _)
  · exact absurd h (precedes_of_lt small hb ha hba).asymm

theorem ofOffset_inj {a b : Nat} (ha : IsBoundary source a) (hb : IsBoundary source b)
    (h : ofOffset source a = ofOffset source b) : a = b := by
  rcases Nat.lt_trichotomy a b with hab | hab | hba
  · exact absurd (h ▸ precedes_of_lt small ha hb hab) (Precedes.irrefl _)
  · exact hab
  · exact absurd (h ▸ precedes_of_lt small hb ha hba) (Precedes.irrefl _)

/-- The line of an offset starts at the last start that is not beyond the offset. -/
theorem exists_lineStart (offset : Nat) : ∃ start, IsLineStart source start ∧
    start ≤ min offset (byteLength source) ∧
    (∀ other, IsLineStart source other → other ≤ min offset (byteLength source) →
      other ≤ start) ∧
    (¬IsBoundary source (min offset (byteLength source)) →
      (ofOffset source offset).column = 1 + (offset - start)) := by
  obtain ⟨before, rest, hs, hle, place⟩ :=
    exists_split (Nat.min_le_right offset (byteLength source))
  have hp : before <+: source := ⟨rest, hs.symm⟩
  have within : byteLength (wholeLines before) ≤ byteLength before := by
    obtain ⟨line, hl⟩ := wholeLines_initial before
    have := congrArg byteLength hl
    rw [byteLength_append] at this
    omega
  refine ⟨byteLength (wholeLines before), isLineStart_wholeLines hp, Nat.le_trans within hle,
    fun other ho hother => ?_, fun hnot => ?_⟩
  · obtain ⟨cs, hcs, rfl, hf⟩ := ho
    have hcb : cs <+: before := by
      rcases List.prefix_or_prefix_of_prefix hcs hp with hcb | ⟨more, rfl⟩
      · exact hcb
      · -- a beginning that is longer goes beyond the character that the offset is in
        rcases place with he | ⟨c, after, rfl, -, hc⟩
        · exact prefix_of_byteLength_le hcs hp (by omega)
        · rw [hs, List.prefix_append_right_inj] at hcs
          cases more with
          | nil => simp
          | cons d more =>
              obtain ⟨rfl, -⟩ := List.cons_prefix_cons.mp hcs
              rw [byteLength_append, byteLength_cons] at hother
              omega
    obtain ⟨more, hm⟩ := prefix_wholeLines hcb hf
    rw [← hm, byteLength_append]
    exact Nat.le_add_right _ _
  · rcases place with he | ⟨c, more, rfl, hlt, hc⟩
    · exact absurd ⟨before, hp, he⟩ hnot
    · have size : byteLength before + c.utf8Size ≤ byteLength source := by
        rw [hs, byteLength_append, byteLength_cons]
        omega
      rw [Nat.min_eq_left (by omega)] at hlt hc
      have fits := after_le (byteLength_lt_of_initial small hp)
      have place : ofOffset source offset =
          ⟨(after before).line, offset - byteLength (wholeLines before) + 1⟩ := by
        rw [ofOffset, hs, walk_inside more hlt hc]
        exact fitted_eq_self (l := ⟨_, _⟩) fits.1 (by dsimp only; omega)
      rw [place, Nat.add_comm]

end

end PatchSandbox.Location
