import PatchSandbox.Proofs.Module.Map

/-!
# Canonical names are a normal form

**`canonical_normal_form`** says what the canonical form of a name is: its proper segments with a
slash between them. Two names have the same form exactly if they have the same proper segments, and
a name is its own form exactly if nothing about it is superfluous (`IsNormal`).

All of it comes from how cutting and joining go together. At a separator a name falls apart
(`split_append_separator`), a row of segments is joined piece by piece (`join_append`), and cutting
a name and joining it again only turns its backslashes into slashes (`join_split`).
-/

namespace PatchSandbox.ModuleName

/-! ### Segments of a text -/

/-- The segments of a name that count: those that are neither empty nor a single dot. -/
def properSegments (name : String) : List String :=
  ((name.split fun c => c == '/' || c == '\\').toList.map String.Slice.copy).filter fun seg =>
    seg != "" && seg != "."

/-- A name in normal form: no backslash, no superfluous slash, and no `.` segment. -/
structure IsNormal (cs : List Char) : Prop where
  backslash : '\\' ∉ cs
  leading : ¬ ['/'] <+: cs
  trailing : ¬ ['/'] <:+ cs
  doubled : ¬ ['/', '/'] <:+: cs
  dot : ['.'] ∉ cs.splitOn '/'

/-- Two names with a slash between them, or just the other one if one is empty. -/
def joined (a b : String) : String := if a = "" then b else if b = "" then a else a ++ "/" ++ b

/-! ### Cutting -/

theorem split_eq_splitOnP (cs : List Char) : split cs = cs.splitOnP isSeparator := by
  induction cs with
  | nil => rfl
  | cons c cs ih =>
      rw [split, List.splitOnP_cons_eq_if_modifyHead, ← ih]
      cases hs : split cs with
      | nil => exact absurd hs (split_ne_nil cs)
      | cons seg segs => rfl

/-- At a separator a name falls apart. -/
theorem split_append_separator {c : Char} (hc : isSeparator c = true) (as bs : List Char) :
    split (as ++ c :: bs) = split as ++ split bs := by
  simp only [split_eq_splitOnP]
  exact List.splitOnP_append_cons as bs hc

theorem segments_append_separator {c : Char} (hc : isSeparator c = true) (as bs : List Char) :
    segments (as ++ c :: bs) = segments as ++ segments bs := by
  rw [segments, split_append_separator hc, List.filter_append]
  rfl

/-- Nothing in a segment that counts is a separator. -/
theorem isSeparator_of_mem_segments {cs seg : List Char} (h : seg ∈ segments cs) :
    ∀ c ∈ seg, isSeparator c = false :=
  isSeparator_of_mem_split (List.mem_filter.mp h).1

theorem ne_nil_of_mem_segments {cs seg : List Char} (h : seg ∈ segments cs) : seg ≠ [] := by
  have proper := (List.mem_filter.mp h).2
  rintro rfl
  simp [isProper] at proper

theorem ne_dot_of_mem_segments {cs seg : List Char} (h : seg ∈ segments cs) : seg ≠ ['.'] := by
  have proper := (List.mem_filter.mp h).2
  rintro rfl
  simp [isProper] at proper

theorem properSegments_eq (name : String) :
    properSegments name = (segments name.toList).map String.ofList := by
  have same : (fun seg : List Char => String.ofList seg != "" && String.ofList seg != ".") =
      isProper := by
    funext seg
    have empty : String.ofList seg = "" ↔ seg = [] := by
      rw [← String.toList_inj, String.toList_ofList]
      rfl
    have dot : String.ofList seg = "." ↔ seg = ['.'] := by
      rw [← String.toList_inj, String.toList_ofList]
      rfl
    simp [isProper, bne, Bool.beq_eq_decide_eq, empty, dot]
  rw [properSegments, String.toList_split_bool, List.filter_map]
  exact congrArg (List.map _) (congr (congrArg List.filter same) (split_eq_splitOnP _).symm)

/-! ### Joining -/

theorem join_eq_intercalate (segs : List (List Char)) : join segs = ['/'].intercalate segs := by
  induction segs with
  | nil => rfl
  | cons seg rest ih =>
      cases rest with
      | nil => simp
      | cons next rest =>
          rw [join, ih, List.intercalate_cons_cons, List.append_assoc]
          · rfl
          · simp

theorem join_cons (seg : List Char) {segs : List (List Char)} (h : segs ≠ []) :
    join (seg :: segs) = seg ++ '/' :: join segs := by
  rw [join]
  exact h

/-- A row of segments is joined piece by piece. -/
theorem join_append {as bs : List (List Char)} (ha : as ≠ []) (hb : bs ≠ []) :
    join (as ++ bs) = join as ++ '/' :: join bs := by
  induction as with
  | nil => exact absurd rfl ha
  | cons seg rest ih =>
      cases rest with
      | nil => rw [List.singleton_append, join_cons seg hb, join_singleton]
      | cons next rest =>
          rw [List.cons_append, join_cons seg (by simp), ih (by simp), join_cons seg (by simp),
            List.append_assoc, List.cons_append]

/-- Nothing but the empty row is joined to the empty text, unless a segment is empty. -/
theorem join_eq_nil_iff {segs : List (List Char)} (h : [] ∉ segs) : join segs = [] ↔ segs = [] := by
  cases segs with
  | nil => simp
  | cons seg rest =>
      have some : seg ≠ [] := fun he => h (by simp [he])
      cases rest with
      | nil => simpa using some
      | cons next rest => simp [join_cons, some]

/-- What becomes of a character on the way. -/
def toSlash (c : Char) : Char := if isSeparator c then '/' else c

/-- Cutting a name and joining it again turns backslashes into slashes and does nothing else. -/
theorem join_split (cs : List Char) : join (split cs) = cs.map toSlash := by
  induction cs with
  | nil => rfl
  | cons c cs ih =>
      rw [split, List.map_cons, ← ih]
      cases hc : isSeparator c with
      | true => rw [if_pos rfl, join_cons [] (split_ne_nil cs), toSlash, if_pos hc, List.nil_append]
      | false =>
          rw [if_neg (by simp), toSlash, if_neg (by simp [hc])]
          cases hs : split cs with
          | nil => exact absurd hs (split_ne_nil cs)
          | cons seg segs =>
              cases segs with
              | nil => rfl
              | cons next rest =>
                  rw [join_cons (c :: seg) (by simp), join_cons seg (by simp), List.cons_append]

/-- Segments without slashes are found again between the slashes. -/
theorem splitOn_join {segs : List (List Char)} (hne : segs ≠ [])
    (free : ∀ seg ∈ segs, ∀ c ∈ seg, isSeparator c = false) : (join segs).splitOn '/' = segs := by
  rw [join_eq_intercalate]
  refine List.splitOn_intercalate '/' (fun seg hs hm => ?_) hne
  exact absurd (free seg hs '/' hm) (by decide)

theorem backslash_not_mem_map_toSlash (cs : List Char) : '\\' ∉ cs.map toSlash := by
  intro h
  obtain ⟨c, -, hc⟩ := List.mem_map.mp h
  by_cases sep : isSeparator c = true
  · simp [toSlash, sep] at hc
  · rw [toSlash, if_neg sep] at hc
    exact sep (hc ▸ rfl)

theorem map_toSlash_eq_self {cs : List Char} (h : '\\' ∉ cs) : cs.map toSlash = cs := by
  refine (List.map_congr_left fun c hc => ?_).trans (List.map_id cs)
  have other : c ≠ '\\' := fun he => h (he ▸ hc)
  by_cases slash : c = '/' <;> simp [toSlash, isSeparator, slash, other]

/-! ### Normal names -/

/-- **A canonical name is normal.** -/
theorem isNormal_canonical (name : String) : IsNormal (canonical name).toList := by
  have text : (canonical name).toList = join (segments name.toList) := String.toList_ofList
  by_cases none : segments name.toList = []
  · rw [text, none]
    constructor <;> simp
  have free : ∀ seg ∈ segments name.toList, ∀ c ∈ seg, isSeparator c = false := fun seg hs =>
    isSeparator_of_mem_segments hs
  have cut := split_join none free
  have same := join_split (join (segments name.toList))
  have dots := splitOn_join none free
  rw [cut] at same
  rw [text]
  generalize join (segments name.toList) = cs at *
  -- a slash too many would leave an empty segment
  have full : [] ∉ split cs := fun hm => ne_nil_of_mem_segments (cut ▸ hm) rfl
  constructor
  case backslash =>
      rw [same]
      exact backslash_not_mem_map_toSlash cs
  case leading =>
      rintro ⟨rest, rfl⟩
      exact full (List.mem_cons_self ..)
  case trailing =>
      rintro ⟨rest, rfl⟩
      rw [split_append_separator rfl] at full
      exact full (List.mem_append_right _ (List.mem_singleton_self _))
  case doubled =>
      rintro ⟨before, after, rfl⟩
      rw [List.append_assoc, List.cons_append, split_append_separator rfl] at full
      exact full (List.mem_append_right _ (List.mem_cons_self ..))
  case dot =>
      rw [dots]
      exact fun hm => ne_dot_of_mem_segments hm rfl

/-- A normal name is cut at its slashes and made of what is between them. -/
theorem IsNormal.join_split_eq {cs : List Char} (h : IsNormal cs) : join (split cs) = cs := by
  rw [join_split, map_toSlash_eq_self h.backslash]

theorem IsNormal.split_eq_splitOn {cs : List Char} (h : IsNormal cs) :
    split cs = cs.splitOn '/' := by
  have free : ∀ seg ∈ split cs, ∀ c ∈ seg, isSeparator c = false := fun seg hs =>
    isSeparator_of_mem_split hs
  calc split cs = (join (split cs)).splitOn '/' := (splitOn_join (split_ne_nil cs) free).symm
    _ = cs.splitOn '/' := by rw [h.join_split_eq]

/-- An empty segment would stand at an end of the name or between two slashes. -/
theorem IsNormal.nil_not_mem_split {cs : List Char} (h : IsNormal cs) (hne : cs ≠ []) :
    [] ∉ split cs := by
  intro hm
  obtain ⟨before, after, he⟩ := List.append_of_mem hm
  have text := h.join_split_eq
  rw [he] at text
  by_cases first : before = [] <;> by_cases last : after = []
  · rw [first, last] at text
    exact hne text.symm
  · rw [first, List.nil_append, join_cons [] last] at text
    exact h.leading ⟨_, text⟩
  · rw [last, join_append first (by simp)] at text
    exact h.trailing ⟨_, text⟩
  · rw [join_append first (by simp), join_cons [] last] at text
    exact h.doubled ⟨join before, join after, by simpa using text⟩

/-- **A normal name is canonical.** -/
theorem canonical_of_isNormal {name : String} (h : IsNormal name.toList) :
    canonical name = name := by
  by_cases empty : name.toList = []
  · rw [String.toList_eq_nil_iff.mp empty]
    rfl
  have all : segments name.toList = split name.toList := by
    rw [segments, List.filter_eq_self]
    intro seg hs
    have full : seg ≠ [] := fun he => h.nil_not_mem_split empty (he ▸ hs)
    have dot : seg ≠ ['.'] := fun he => h.dot (h.split_eq_splitOn ▸ he ▸ hs)
    simp [isProper, full, dot]
  rw [canonical, all, h.join_split_eq, String.ofList_toList]

/-! ### The result -/

theorem canonical_eq_intercalate (name : String) :
    canonical name = "/".intercalate (properSegments name) := by
  have same : String.toList ∘ String.ofList = id := funext fun cs => String.toList_ofList
  rw [← String.toList_inj, String.toList_intercalate, properSegments_eq, canonical,
    String.toList_ofList, join_eq_intercalate, List.map_map, same, List.map_id]
  rfl

/-- Names with the same form have the same segments. -/
theorem canonical_eq_iff (a b : String) :
    canonical a = canonical b ↔ properSegments a = properSegments b := by
  rw [properSegments_eq, properSegments_eq]
  constructor
  · intro h
    have same : join (segments a.toList) = join (segments b.toList) := String.ofList_injective h
    rw [← segments_join_segments a.toList, same, segments_join_segments]
  · intro h
    have same : segments a.toList = segments b.toList :=
      (List.map_inj_right fun _ _ he => String.ofList_injective he).mp h
    rw [canonical, same, canonical]

theorem canonical_eq_empty_iff (name : String) :
    canonical name = "" ↔ segments name.toList = [] := by
  rw [← String.toList_eq_nil_iff, canonical, String.toList_ofList]
  exact join_eq_nil_iff fun hm => ne_nil_of_mem_segments hm rfl

/-- **A name made of two** has the forms of both with a slash between them. -/
theorem canonical_append {c : Char} (hc : isSeparator c = true) (a b : String) :
    canonical (a ++ String.singleton c ++ b) = joined (canonical a) (canonical b) := by
  have parts : (a ++ String.singleton c ++ b).toList = a.toList ++ c :: b.toList := by simp
  rw [canonical, parts, segments_append_separator hc, joined]
  by_cases first : segments a.toList = []
  · rw [if_pos ((canonical_eq_empty_iff a).mpr first), first, List.nil_append, canonical]
  by_cases last : segments b.toList = []
  · rw [if_neg (first ∘ (canonical_eq_empty_iff a).mp),
      if_pos ((canonical_eq_empty_iff b).mpr last), last, List.append_nil, canonical]
  · rw [if_neg (first ∘ (canonical_eq_empty_iff a).mp),
      if_neg (last ∘ (canonical_eq_empty_iff b).mp), join_append first last, ← String.toList_inj]
    simp [canonical]

/-- **Canonical names are a normal form.** The canonical form of a name is the row of its proper
segments with a slash between them. It is in normal form, and the names in normal form are those
that are their own. Names have the same form exactly if they have the same proper segments, and the
form of a name that is made of two, with either separator between them, is made of the forms of
both. -/
theorem canonical_normal_form :
    (∀ n, canonical n = "/".intercalate (properSegments n)) ∧
    (∀ n, canonical (canonical n) = canonical n) ∧
    (∀ n, IsNormal (canonical n).toList) ∧
    (∀ n, canonical n = n ↔ IsNormal n.toList) ∧
    (∀ a b, canonical a = canonical b ↔ properSegments a = properSegments b) ∧
    ∀ a b, canonical (a ++ "/" ++ b) = joined (canonical a) (canonical b) ∧
      canonical (a ++ "\\" ++ b) = joined (canonical a) (canonical b) := by
  refine ⟨canonical_eq_intercalate, canonical_canonical, isNormal_canonical, fun n => ⟨fun h => ?_,
    canonical_of_isNormal⟩, canonical_eq_iff, fun a b => ⟨?_, ?_⟩⟩
  · rw [← h]
    exact isNormal_canonical n
  · exact canonical_append (c := '/') rfl a b
  · exact canonical_append (c := '\\') rfl a b

/-- Superfluous separators and dots go, two dots stay. -/
example : canonical "\\.//lib\\./..//b.js/" = "lib/../b.js" := by decide +kernel

end PatchSandbox.ModuleName
