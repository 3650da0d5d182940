import PatchSandbox.Module.Map

/-!
# What is in a module map

* Cutting a name into segments undoes joining segments with slashes, as long as there is no
  separator in them. So a canonical name is its own canonical name: **`canonical_canonical`**.
* A map made of spellings and sources holds nothing else: each of its sources was given under
  a spelling of its name, and each name that was given is there. Its names are canonical.
-/

/-! ### Canonical names -/

namespace PatchSandbox.ModuleName

/-- A text without separators is one segment. -/
theorem split_of_free {cs : List Char} (h : ∀ c ∈ cs, isSeparator c = false) : split cs = [cs] := by
  induction cs with
  | nil => rfl
  | cons c cs ih =>
      have hc : isSeparator c = false := h c (by simp)
      have ih := ih fun d hd => h d (by simp [hd])
      simp [split, hc, ih]

/-- A segment ends at the first slash after it. -/
theorem split_append_slash {seg : List Char} (h : ∀ c ∈ seg, isSeparator c = false)
    (cs : List Char) : split (seg ++ '/' :: cs) = seg :: split cs := by
  induction seg with
  | nil => simp [split, isSeparator]
  | cons c seg ih =>
      have hc : isSeparator c = false := h c (by simp)
      have ih := ih fun d hd => h d (by simp [hd])
      simp [split, hc, ih]

/-- Cutting undoes joining. -/
theorem split_join {segs : List (List Char)} (hne : segs ≠ [])
    (h : ∀ seg ∈ segs, ∀ c ∈ seg, isSeparator c = false) : split (join segs) = segs := by
  induction segs with
  | nil => exact absurd rfl hne
  | cons seg rest ih =>
      have hseg := h seg (by simp)
      cases rest with
      | nil => exact split_of_free hseg
      | cons next rest =>
          have ih := ih (by simp) fun s hs => h s (by simp [hs])
          rw [join, split_append_slash hseg, ih]
          simp

/-- There is no separator in a segment. -/
theorem isSeparator_of_mem_split {cs seg : List Char} (h : seg ∈ split cs) :
    ∀ c ∈ seg, isSeparator c = false := by
  induction cs generalizing seg with
  | nil =>
      simp only [split_nil, List.mem_singleton] at h
      simp [h]
  | cons d cs ih =>
      rw [split] at h
      cases hd : isSeparator d with
      | true =>
          simp only [hd, if_true, List.mem_cons] at h
          rcases h with rfl | h
          · simp
          · exact ih h
      | false =>
          simp only [hd, Bool.false_eq_true, if_false] at h
          cases hs : split cs with
          | nil => exact absurd hs (split_ne_nil cs)
          | cons first rest =>
              simp only [hs, List.mem_cons] at h
              rcases h with rfl | h
              · intro c hc
                rcases List.mem_cons.mp hc with rfl | hc
                · exact hd
                · exact ih (by simp [hs]) c hc
              · exact ih (by simp [hs, h])

/-- The segments that count are those of the name made of them. -/
theorem segments_join_segments (name : List Char) :
    segments (join (segments name)) = segments name := by
  have proper : (segments name).filter isProper = segments name := by simp [segments]
  by_cases hne : segments name = []
  · rw [hne]
    rfl
  · have free : ∀ seg ∈ segments name, ∀ c ∈ seg, isSeparator c = false := fun seg hs =>
      isSeparator_of_mem_split (List.mem_filter.mp hs).1
    rw [segments, split_join hne free, proper]

/-- A canonical name is its own canonical name. -/
@[simp] theorem canonical_canonical (name : String) :
    canonical (canonical name) = canonical name := by
  simp [canonical, segments_join_segments]

end PatchSandbox.ModuleName

/-! ### Maps -/

namespace PatchSandbox

namespace Json

variable {α : Type}

theorem mem_of_mem_keepLast {l : List (String × α)} {a : String × α} (h : a ∈ keepLast l) :
    a ∈ l := by
  induction l using keepLast.induct with
  | case1 b c rest hk ih =>
      rw [keepLast, if_pos hk] at h
      exact List.mem_cons_of_mem _ (ih h)
  | case2 b c rest hk ih =>
      rw [keepLast, if_neg hk] at h
      rcases List.mem_cons.mp h with rfl | h
      · simp
      · exact List.mem_cons_of_mem _ (ih h)
  | case3 l short =>
      cases l with
      | nil => simp at h
      | cons b l =>
          cases l with
          | nil => simpa using h
          | cons c rest => exact absurd rfl (short b c rest)

/-- Every key stays. -/
theorem exists_mem_keepLast {l : List (String × α)} {a : String × α} (h : a ∈ l) :
    ∃ b ∈ keepLast l, b.1 = a.1 := by
  induction l using keepLast.induct generalizing a with
  | case1 b c rest hk ih =>
      rw [keepLast, if_pos hk]
      rcases List.mem_cons.mp h with rfl | h
      · obtain ⟨d, hd, he⟩ := ih (a := c) (by simp)
        exact ⟨d, hd, he.trans hk.symm⟩
      · exact ih h
  | case2 b c rest hk ih =>
      rw [keepLast, if_neg hk]
      rcases List.mem_cons.mp h with rfl | h
      · exact ⟨_, by simp, rfl⟩
      · obtain ⟨d, hd, he⟩ := ih h
        exact ⟨d, by simp [hd], he⟩
  | case3 l short =>
      cases l with
      | nil => simp at h
      | cons b l =>
          cases l with
          | nil => exact ⟨a, by simpa using h, rfl⟩
          | cons c rest => exact absurd rfl (short b c rest)

theorem mem_of_mem_sortFields {l : List (String × α)} {a : String × α} (h : a ∈ sortFields l) :
    a ∈ l :=
  List.mem_mergeSort.mp (mem_of_mem_keepLast h)

theorem exists_mem_sortFields {l : List (String × α)} {a : String × α} (h : a ∈ l) :
    ∃ b ∈ sortFields l, b.1 = a.1 :=
  exists_mem_keepLast (List.mem_mergeSort.mpr h)

end Json

namespace ModuleMap

/-- A source in the map was given, under a spelling of its name. -/
theorem exists_spelling_of_mem {pairs : List (String × String)} {name source : String}
    (h : (name, source) ∈ (ofPairs pairs).entries) :
    ∃ spelling, (spelling, source) ∈ pairs ∧ ModuleName.canonical spelling = name := by
  obtain ⟨⟨spelling, text⟩, hp, he⟩ := List.mem_map.mp (Json.mem_of_mem_sortFields h)
  obtain ⟨rfl, rfl⟩ := Prod.mk.inj he
  exact ⟨spelling, List.mem_mergeSort.mp hp, rfl⟩

/-- The names in a map are canonical. -/
theorem canonical_of_mem {pairs : List (String × String)} {name source : String}
    (h : (name, source) ∈ (ofPairs pairs).entries) : ModuleName.canonical name = name := by
  obtain ⟨spelling, -, rfl⟩ := exists_spelling_of_mem h
  exact ModuleName.canonical_canonical spelling

/-- Every name that was given is there. -/
theorem contains_of_mem {pairs : List (String × String)} {spelling source : String}
    (h : (spelling, source) ∈ pairs) :
    (ofPairs pairs).contains (ModuleName.canonical spelling) = true := by
  have hm : (ModuleName.canonical spelling, source) ∈
      (pairs.mergeSort fun a b => a.1 ≤ b.1).map fun p => (ModuleName.canonical p.1, p.2) :=
    List.mem_map.mpr ⟨_, List.mem_mergeSort.mpr h, rfl⟩
  obtain ⟨b, hb, he⟩ := Json.exists_mem_sortFields hm
  exact List.any_eq_true.mpr ⟨b, hb, beq_iff_eq.mpr he⟩

end ModuleMap

end PatchSandbox
