import Mathlib.Data.List.DropRight
import PatchSandbox.Storage.Disk

/-!
# The parts of a path

A path may be written in many ways: with dots, with several slashes in a row, with slashes at its
end. Where it leads depends on two things only, whether it begins at the root and which
parts it has that lead somewhere (**`steps`**).

* **`steps_of_name?`** splits the last part off: what is left is the path's parent.
* **`steps_child`** puts a name behind a path.
-/

namespace PatchSandbox.FilePath

/-! ### Pieces between slashes -/

theorem pieces_ne_nil (cs : List Char) : pieces cs ≠ [] := by
  cases cs with
  | nil => simp [pieces]
  | cons c cs =>
      rw [pieces]
      split
      · exact List.cons_ne_nil _ _
      · split <;> exact List.cons_ne_nil _ _

theorem pieces_slash (cs : List Char) : pieces ('/' :: cs) = [] :: pieces cs := by
  rw [pieces, if_pos rfl]

theorem pieces_cons {c : Char} (cs : List Char) (hc : c ≠ '/') :
    ∃ p ps, pieces cs = p :: ps ∧ pieces (c :: cs) = (c :: p) :: ps := by
  obtain ⟨p, ps, h⟩ := List.exists_cons_of_ne_nil (pieces_ne_nil cs)
  refine ⟨p, ps, h, ?_⟩
  rw [pieces, if_neg hc, h]

theorem pieces_append_slash (cs ds : List Char) :
    pieces (cs ++ '/' :: ds) = pieces cs ++ pieces ds := by
  induction cs with
  | nil => exact pieces_slash ds
  | cons c cs ih =>
      by_cases hc : c = '/'
      · subst hc
        rw [List.cons_append, pieces_slash, pieces_slash, ih, List.cons_append]
      · obtain ⟨p, ps, h, hp⟩ := pieces_cons cs hc
        obtain ⟨q, qs, h', hq⟩ := pieces_cons (cs ++ '/' :: ds) hc
        rw [ih, h, List.cons_append] at h'
        obtain ⟨rfl, rfl⟩ := List.cons.inj h'
        rw [List.cons_append, hq, hp, List.cons_append]

theorem pieces_of_free {cs : List Char} (h : '/' ∉ cs) : pieces cs = [cs] := by
  induction cs with
  | nil => rfl
  | cons c cs ih =>
      obtain ⟨p, ps, hp, hc⟩ := pieces_cons cs (Ne.symm (List.ne_of_not_mem_cons h))
      rw [ih (List.not_mem_of_not_mem_cons h)] at hp
      obtain ⟨rfl, rfl⟩ := List.cons.inj hp
      exact hc

theorem slash_not_mem_of_mem_pieces {cs p : List Char} (h : p ∈ pieces cs) : '/' ∉ p := by
  induction cs generalizing p with
  | nil =>
      obtain rfl := List.mem_singleton.mp h
      exact List.not_mem_nil
  | cons c cs ih =>
      by_cases hc : c = '/'
      · rw [hc, pieces_slash] at h
        obtain rfl | h := List.mem_cons.mp h
        · exact List.not_mem_nil
        · exact ih h
      · obtain ⟨q, qs, hq, hqs⟩ := pieces_cons cs hc
        rw [hqs] at h
        obtain rfl | h := List.mem_cons.mp h
        · exact List.not_mem_cons_of_ne_of_not_mem (Ne.symm hc) (ih (hq ▸ List.mem_cons_self ..))
        · exact ih (hq ▸ List.mem_cons_of_mem _ h)

theorem pieces_joined {ps : List (List Char)} (hn : ps ≠ []) (hf : ∀ p ∈ ps, '/' ∉ p) :
    pieces (joined ps) = ps := by
  induction ps with
  | nil => exact absurd rfl hn
  | cons p ps ih =>
      have hp : '/' ∉ p := hf p (List.mem_cons_self ..)
      cases ps with
      | nil => exact pieces_of_free hp
      | cons q qs =>
          have rest : pieces (joined (q :: qs)) = q :: qs :=
            ih (List.cons_ne_nil _ _) fun r hr => hf r (List.mem_cons_of_mem _ hr)
          rw [joined, pieces_append_slash, pieces_of_free hp, rest]
          · rfl
          · exact List.cons_ne_nil _ _

/-- Where a path does not begin with a slash, its first piece is no empty one. -/
theorem head?_pieces {c : Char} {cs : List Char} (hc : c ≠ '/') :
    (pieces (c :: cs)).head? ≠ some [] := by
  obtain ⟨p, ps, -, h⟩ := pieces_cons cs hc
  simp [h]

/-! ### Steps -/

/-- Whether a path begins at the root. -/
def isFromRoot (path : String) : Bool := (split path).1

/-- The parts of a path that lead somewhere. -/
def steps (path : String) : List (List Char) := (split path).2.filter (!isIdle ·)

theorem split_slash {path : String} {cs : List Char} (h : path.toList = '/' :: cs) :
    split path = (true, pieces cs) := by
  simp only [split, h]

theorem split_other {path : String} (h : path.toList.head? ≠ some '/') :
    split path = (false, pieces path.toList) := by
  unfold split
  split
  case h_1 cs hcs => simp [hcs] at h
  case h_2 => rfl

/-- Either a path begins with a slash, or its first piece is not empty, or it is empty itself. -/
theorem split_cases (path : String) :
    (∃ cs, path.toList = '/' :: cs ∧ split path = (true, pieces cs)) ∨
      split path = (false, pieces path.toList) ∧ (pieces path.toList).head? ≠ some [] ∨
      path = "" := by
  cases h : path.toList with
  | nil => exact .inr (.inr (String.toList_eq_nil_iff.mp h))
  | cons c cs =>
      by_cases hc : c = '/'
      · subst hc
        exact .inl ⟨cs, rfl, split_slash h⟩
      · exact .inr (.inl ⟨h ▸ split_other (by simp [h, hc]), head?_pieces hc⟩)

theorem split_ne_nil (path : String) : (split path).2 ≠ [] := by
  unfold split
  split <;> exact pieces_ne_nil _

theorem slash_not_mem_of_mem_split {path : String} {p : List Char} (h : p ∈ (split path).2) :
    '/' ∉ p := by
  unfold split at h
  split at h <;> exact slash_not_mem_of_mem_pieces h

theorem not_isIdle_of_mem_steps {path : String} {p : List Char} (h : p ∈ steps path) :
    isIdle p = false := by
  simpa using (List.mem_filter.mp h).2

@[simp] theorem isIdle_nil : isIdle [] = true := rfl

/-! ### Without the idle end -/

theorem filter_rdropWhile (ps : List (List Char)) :
    (ps.rdropWhile isIdle).filter (!isIdle ·) = ps.filter (!isIdle ·) := by
  induction ps using List.reverseRecOn with
  | nil => rfl
  | append_singleton ps p ih =>
      by_cases hp : isIdle p = true
      · rw [List.rdropWhile_concat_pos _ _ _ hp, ih, List.filter_append]
        simp [hp]
      · rw [List.rdropWhile_concat_neg _ _ _ hp]

theorem trimmed_eq (fromRoot : Bool) (ps : List (List Char)) :
    trimmed fromRoot ps = ps.rdropWhile isIdle ∨
      ∃ rest, fromRoot = false ∧ ps = ['.'] :: rest ∧
        trimmed fromRoot ps = ['.'] :: rest.rdropWhile isIdle := by
  unfold trimmed
  split
  case h_1 rest =>
      cases fromRoot with
      | true => exact .inl rfl
      | false => exact .inr ⟨rest, rfl, rfl, rfl⟩
  case h_2 => exact .inl rfl

/-- What is left is a beginning. -/
theorem trimmed_isPrefix (fromRoot : Bool) (ps : List (List Char)) :
    trimmed fromRoot ps <+: ps := by
  obtain h | ⟨rest, -, rfl, h⟩ := trimmed_eq fromRoot ps
  · exact h ▸ List.rdropWhile_prefix _ _
  · exact h ▸ (List.cons_prefix_cons.mpr ⟨rfl, List.rdropWhile_prefix _ _⟩)

theorem filter_trimmed (fromRoot : Bool) (ps : List (List Char)) :
    (trimmed fromRoot ps).filter (!isIdle ·) = ps.filter (!isIdle ·) := by
  obtain h | ⟨rest, -, rfl, h⟩ := trimmed_eq fromRoot ps
  · rw [h, filter_rdropWhile]
  · rw [h, List.filter_cons, List.filter_cons, filter_rdropWhile]

theorem split_assemble {fromRoot : Bool} {ps : List (List Char)} (hn : ps ≠ [])
    (hf : ∀ p ∈ ps, '/' ∉ p) (hh : fromRoot = false → ps.head? ≠ some []) :
    split (assemble fromRoot ps) = (fromRoot, ps) := by
  have pieces := pieces_joined hn hf
  cases fromRoot with
  | true =>
      rw [← pieces]
      exact split_slash (by simp [assemble, pieces])
  | false =>
      rw [assemble, split_other, String.toList_ofList]
      · simp [pieces]
      · -- the text begins like its first piece, which is neither empty nor has a slash
        obtain ⟨p, rest, rfl⟩ := List.exists_cons_of_ne_nil hn
        obtain ⟨c, cs, rfl⟩ : ∃ c cs, p = c :: cs :=
          List.exists_cons_of_ne_nil fun h => hh rfl (by simp [h])
        have free := hf _ (List.mem_cons_self ..)
        have hc : '/' ≠ c := List.ne_of_not_mem_cons free
        cases rest <;> simpa [joined] using Ne.symm hc

theorem steps_assemble {fromRoot : Bool} {ps : List (List Char)} (hf : ∀ p ∈ ps, '/' ∉ p)
    (hh : fromRoot = false → ps.head? ≠ some []) :
    steps (assemble fromRoot ps) = ps.filter (!isIdle ·) ∧
      (assemble fromRoot ps ≠ "" → isFromRoot (assemble fromRoot ps) = fromRoot) ∧
      (assemble fromRoot ps = "" → fromRoot = false) := by
  by_cases hn : ps = []
  · subst hn
    cases fromRoot <;> decide
  · have whole := split_assemble hn hf hh
    refine ⟨by rw [steps, whole], fun _ => by rw [isFromRoot, whole], fun h => ?_⟩
    cases fromRoot with
    | false => rfl
    | true => simp [assemble] at h

/-! ### What stands behind a slash -/

theorem split_append_slash {path front : String} (cs : List Char) (hf : front ≠ "")
    (h : path.toList = front.toList ++ '/' :: cs) :
    split path = (isFromRoot front, (split front).2 ++ pieces cs) := by
  obtain ⟨c, ds, hc⟩ : ∃ c ds, front.toList = c :: ds :=
    List.exists_cons_of_ne_nil fun hn => hf (String.toList_eq_nil_iff.mp hn)
  rw [hc] at h
  by_cases slash : c = '/'
  · subst slash
    rw [List.cons_append] at h
    rw [split_slash h, isFromRoot, split_slash hc, pieces_append_slash]
  · have other {p : String} {es : List Char} (hp : p.toList = c :: es) :
        split p = (false, pieces p.toList) :=
      split_other (by simp [hp, slash])
    rw [other h, isFromRoot, other hc, h, hc, pieces_append_slash]

/-- **A name behind a path** is one step more. -/
theorem steps_child {path name : String} (hp : path ≠ "") (hs : '/' ∉ name.toList)
    (hi : isIdle name.toList = false) :
    steps (child path name) = steps path ++ [name.toList] ∧
      isFromRoot (child path name) = isFromRoot path := by
  have piece : pieces name.toList = [name.toList] := pieces_of_free hs
  have behind {front : String} (hf : front ≠ "") (whole : String)
      (h : whole.toList = front.toList ++ '/' :: name.toList) :
      steps whole = steps front ++ [name.toList] ∧ isFromRoot whole = isFromRoot front := by
    rw [steps, isFromRoot, split_append_slash _ hf h, piece, List.filter_append]
    simp [hi, steps]
  unfold child
  rw [if_neg (by simpa using hp)]
  split
  case isFalse => exact behind hp _ (by simp)
  case isTrue ends =>
      -- the slash at the end belongs to the path, which without it may be empty
      obtain ⟨cs, hcs⟩ := List.getLast?_eq_some_iff.mp ends
      obtain ⟨front, rfl⟩ : ∃ front : String, front.toList = cs := ⟨_, String.toList_ofList ..⟩
      by_cases hf : front = ""
      · subst hf
        have whole : (path ++ name).toList = '/' :: name.toList := by simp [hcs]
        rw [steps, steps, isFromRoot, isFromRoot, split_slash whole, split_slash hcs, piece]
        simp [hi, pieces]
      · have whole : split path = (isFromRoot front, (split front).2 ++ pieces []) :=
          split_append_slash _ hf hcs
        obtain ⟨parts, root⟩ := behind hf (path ++ name) (by simp [hcs])
        rw [parts, root, steps, steps, isFromRoot, isFromRoot, whole, List.filter_append]
        simp [pieces, isFromRoot]

/-! ### Parent and name -/

/-- A name is the last piece that is not idle. -/
theorem exists_last_of_name? {path name : String} (h : name? path = some name) :
    ∃ before last, trimmed (isFromRoot path) (split path).2 = before ++ [last] ∧
      last = name.toList ∧ isIdle last = false ∧ last ≠ ['.', '.'] := by
  unfold name? at h
  simp only at h
  split at h
  case h_1 => cases h
  case h_2 last found =>
      split at h
      case isTrue => cases h
      case isFalse hlast =>
          obtain ⟨up, idle⟩ := not_or.mp hlast
          obtain rfl := Option.some.inj h
          obtain ⟨before, whole⟩ := List.getLast?_eq_some_iff.mp found
          exact ⟨before, last, whole, (String.toList_ofList ..).symm, by simpa using idle, up⟩

/-- A relative path does not begin with an empty piece if it has others. -/
theorem head?_split {path : String} (relative : isFromRoot path = false)
    (h : 1 < (split path).2.length) : (split path).2.head? ≠ some [] := by
  unfold isFromRoot at relative
  obtain ⟨cs, -, hs⟩ | ⟨hs, head⟩ | rfl := split_cases path
  · rw [hs] at relative
    cases relative
  · rw [hs]
    exact head
  · simp [split, pieces] at h

theorem head?_of_isPrefix {ps qs : List (List Char)} {p : List Char} (h : ps <+: qs)
    (hp : ps.head? = some p) : qs.head? = some p := by
  obtain ⟨rest, rfl⟩ := h
  cases ps with
  | nil => cases hp
  | cons q ps => exact hp

/-- **The last part** of a path that has a name is the name, and what is left is the parent. -/
theorem steps_of_name? {path name : String} (h : name? path = some name) :
    ∃ parent, parent? path = some parent ∧ steps path = steps parent ++ [name.toList] ∧
      (parent ≠ "" → isFromRoot parent = isFromRoot path) ∧
      (parent = "" → isFromRoot path = false) := by
  obtain ⟨before, last, whole, rfl, idle, -⟩ := exists_last_of_name? h
  -- what the parent is made of stands at the beginning of the path
  have initial : before ++ [name.toList] <+: (split path).2 := whole ▸ trimmed_isPrefix _ _
  have shorter : trimmed (isFromRoot path) before <+: (split path).2 :=
    (trimmed_isPrefix _ _).trans ((List.prefix_append _ _).trans initial)
  have head (relative : isFromRoot path = false) :
      (trimmed (isFromRoot path) before).head? ≠ some [] := by
    intro empty
    refine head?_split relative ?_ (head?_of_isPrefix shorter empty)
    have some_before : before ≠ [] := by
      rintro rfl
      rw [List.prefix_nil.mp (trimmed_isPrefix _ _)] at empty
      cases empty
    have pos := List.length_pos_iff.mpr some_before
    have le := initial.length_le
    rw [List.length_append, List.length_singleton] at le
    omega
  obtain ⟨parts, root, relative⟩ := steps_assemble
    (fun p hp => slash_not_mem_of_mem_split (shorter.subset hp)) head
  refine ⟨assemble (isFromRoot path) (trimmed (isFromRoot path) before), ?_, ?_, root, relative⟩
  · have : trimmed (split path).1 (split path).2 = before ++ [name.toList] := whole
    unfold parent?
    simp only [this]
    split
    case h_1 none => simp at none
    case h_2 => rw [List.dropLast_concat]; rfl
  · have same := filter_trimmed (isFromRoot path) (split path).2
    rw [whole, List.filter_append] at same
    rw [parts, filter_trimmed, steps, ← same]
    simp [idle]

/-! ### Characters -/

theorem mem_of_mem_pieces {cs p : List Char} {c : Char} (hp : p ∈ pieces cs) (hc : c ∈ p) :
    c ∈ cs := by
  induction cs generalizing p with
  | nil =>
      obtain rfl := List.mem_singleton.mp hp
      exact hc
  | cons d cs ih =>
      by_cases hd : d = '/'
      · subst hd
        rw [pieces_slash] at hp
        obtain rfl | hp := List.mem_cons.mp hp
        · cases hc
        · exact List.mem_cons_of_mem _ (ih hp hc)
      · obtain ⟨q, qs, rest, whole⟩ := pieces_cons cs hd
        rw [whole] at hp
        obtain rfl | hp := List.mem_cons.mp hp
        · obtain rfl | hc := List.mem_cons.mp hc
          · exact List.mem_cons_self ..
          · exact List.mem_cons_of_mem _ (ih (rest ▸ List.mem_cons_self ..) hc)
        · exact List.mem_cons_of_mem _ (ih (rest ▸ List.mem_cons_of_mem _ hp) hc)

theorem mem_joined {ps : List (List Char)} {c : Char} (h : c ∈ joined ps) :
    c = '/' ∨ ∃ p ∈ ps, c ∈ p := by
  induction ps with
  | nil => cases h
  | cons p ps ih =>
      cases ps with
      | nil => exact .inr ⟨p, List.mem_singleton_self p, h⟩
      | cons q ps =>
          rw [joined.eq_3 _ _ (by simp), List.mem_append, List.mem_cons] at h
          obtain h | rfl | h := h
          · exact .inr ⟨p, List.mem_cons_self .., h⟩
          · exact .inl rfl
          · obtain rfl | ⟨r, hr, hc⟩ := ih h
            · exact .inl rfl
            · exact .inr ⟨r, List.mem_cons_of_mem _ hr, hc⟩

/-- A parent has no characters of its own. -/
theorem mem_of_mem_parent {path parent : String} {c : Char} (h : parent? path = some parent)
    (hc : c ∈ parent.toList) (slash : c ≠ '/') : c ∈ path.toList := by
  have inPieces {p : List Char} (hp : p ∈ (split path).2) (hc : c ∈ p) : c ∈ path.toList := by
    unfold split at hp
    split at hp
    case h_1 cs hcs => exact hcs ▸ List.mem_cons_of_mem _ (mem_of_mem_pieces hp hc)
    case h_2 => exact mem_of_mem_pieces hp hc
  unfold parent? at h
  simp only at h
  split at h
  case h_1 => cases h
  case h_2 =>
      obtain rfl := Option.some.inj h
      rw [assemble, String.toList_ofList, List.mem_append] at hc
      obtain hc | hc := hc
      · split at hc
        · exact absurd (List.mem_singleton.mp hc) slash
        · cases hc
      · obtain rfl | ⟨p, hp, hc⟩ := mem_joined hc
        · exact absurd rfl slash
        · exact inPieces ((trimmed_isPrefix _ _).subset ((List.dropLast_prefix _).subset
            ((trimmed_isPrefix _ _).subset hp))) hc

end PatchSandbox.FilePath
