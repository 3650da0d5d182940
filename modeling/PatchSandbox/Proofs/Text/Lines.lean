import Mathlib.Algebra.Order.BigOperators.Group.List

/-!
# Lines

Texts that are put together with line feeds, and taken apart at them.

* **`IsOneLine`** — a text that line feeds do not take apart.
* **`textLines`** — the lines of a text. An empty text has none.
* **`textLines_intercalate_iff`** — texts that line feeds join are the lines of the whole exactly if
  each of them is one line; and already if they are as many
  (**`length_textLines_intercalate_iff`**).
-/

namespace PatchSandbox.Text

/-- A text without a line feed. -/
def IsOneLine (s : String) : Prop := '\n' ∉ s.toList

instance (s : String) : Decidable (IsOneLine s) := inferInstanceAs (Decidable (_ ∉ _))

/-- The lines of a text, which line feeds separate. An empty text has no line. -/
def textLines (s : String) : List String :=
  if s = "" then [] else (s.toList.splitOn '\n').map String.ofList

/-! ### Texts of one line -/

theorem isOneLine_append {s t : String} : IsOneLine (s ++ t) ↔ IsOneLine s ∧ IsOneLine t := by
  simp [IsOneLine, String.toList_append, not_or]

theorem isOneLine_nat (n : Nat) : IsOneLine (toString n) := by
  intro h
  rw [Nat.toString_eq_repr, Nat.toList_repr] at h
  exact absurd (Nat.isDigit_of_mem_toDigits (by decide) (by decide) h) (by decide)

/-! ### Texts of many lines -/

section

variable {α : Type} [BEq α] [LawfulBEq α] {x : α}

/-- What a separator joins is taken apart at it, piece by piece. -/
theorem splitOn_intercalate_eq_flatMap {ls : List (List α)} (h : ls ≠ []) :
    ([x].intercalate ls).splitOn x = ls.flatMap (·.splitOn x) := by
  induction ls with
  | nil => exact absurd rfl h
  | cons l ls ih =>
      cases ls with
      | nil => simp
      | cons m ms =>
          have joined : [x].intercalate (l :: m :: ms) = l ++ x :: [x].intercalate (m :: ms) := by
            simp [List.intercalate]
          rw [joined, List.splitOn_append_cons_self, ih (List.cons_ne_nil _ _)]
          rfl

omit [LawfulBEq α] in
/-- There is one piece more than there are separators. -/
theorem length_splitOn (l : List α) : (l.splitOn x).length = l.count x + 1 := by
  induction l with
  | nil => simp
  | cons y l ih =>
      rw [List.splitOn_cons_eq_if_modifyHead, List.count_cons]
      split <;> simp [ih]

end

variable {ts : List String}

theorem intercalate_ne_empty (h : ∀ t ∈ ts, t ≠ "") (hts : ts ≠ []) :
    "\n".intercalate ts ≠ "" := by
  obtain ⟨t, ts, rfl⟩ := List.exists_cons_of_ne_nil hts
  have ht := h t (List.mem_cons_self ..)
  cases ts with
  | nil => simpa using ht
  | cons u ts => simp [String.intercalate_cons_cons]

theorem textLines_intercalate (h : ∀ t ∈ ts, t ≠ "") :
    textLines ("\n".intercalate ts) =
      (ts.flatMap fun t => t.toList.splitOn '\n').map String.ofList := by
  by_cases hts : ts = []
  · rw [hts]
    rfl
  · have sep : "\n".toList = ['\n'] := rfl
    rw [textLines, if_neg (intercalate_ne_empty h hts), String.toList_intercalate, sep,
      splitOn_intercalate_eq_flatMap (by simpa using hts), List.flatMap_map]

/-- Texts are as many as the lines of the whole only if each is one line. -/
theorem length_textLines_intercalate_iff (h : ∀ t ∈ ts, t ≠ "") :
    (textLines ("\n".intercalate ts)).length = ts.length ↔ ∀ t ∈ ts, IsOneLine t := by
  rw [textLines_intercalate h, List.length_map, List.length_flatMap]
  clear h
  induction ts with
  | nil => simp
  | cons t ts ih =>
      rw [List.forall_mem_cons, ← ih, List.map_cons, List.sum_cons, List.length_cons,
        length_splitOn, IsOneLine, ← List.count_eq_zero]
      have enough := List.length_le_sum_of_one_le (ts.map fun t => (t.toList.splitOn '\n').length)
        (by simp [length_splitOn])
      rw [List.length_map] at enough
      omega

/-- Texts are the lines of the whole exactly if each is one line. -/
theorem textLines_intercalate_iff (h : ∀ t ∈ ts, t ≠ "") :
    textLines ("\n".intercalate ts) = ts ↔ ∀ t ∈ ts, IsOneLine t := by
  constructor
  · intro he
    exact (length_textLines_intercalate_iff h).mp (by rw [he])
  · intro ho
    have whole : ∀ t ∈ ts, t.toList.splitOn '\n' = [t.toList] :=
      fun t ht => List.splitOn_eq_singleton (ho t ht)
    have same : String.ofList ∘ String.toList = id := funext fun _ => String.ofList_toList
    rw [textLines_intercalate h, List.flatMap_congr whole, ← List.map_eq_flatMap, List.map_map,
      same, List.map_id]

end PatchSandbox.Text
