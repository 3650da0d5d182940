import PatchSandbox.Proofs.Message.Wire
import PatchSandbox.Proofs.Text.ByteOrder

/-!
# Which sources a module map keeps

Several spellings may share a canonical name, and a spelling may be given several times. The map
keeps one source for each name.

* **`ModuleMap.Prevails`** says which: that of the greatest spelling, in the order of bytes, and of
  equal spellings that of the last. **`ModuleMap.get?_eq_some_iff`** says that the map keeps it, and
  **`ModuleMap.collapse_exact`** what follows from that.
* The map is made by two sorts that keep what is equal in its order. Of a list that was sorted in
  this way, what comes last among its equals came last before
  (**`Json.last_of_mergeSort`**).
-/

namespace PatchSandbox

namespace Json

variable {α : Type}

/-! ### The last of several equal keys -/

/-- A value stands in a list, and its key does not come again. -/
def IsLast (l : List (String × α)) (a : String × α) : Prop :=
  ∃ before after, l = before ++ a :: after ∧ ∀ b ∈ after, b.1 ≠ a.1

/-- Sorting keeps the order of what has the same key. -/
theorem filter_mergeSort (l : List (String × α)) (key : String) :
    (l.mergeSort fun a b => a.1 ≤ b.1).filter (·.1 == key) = l.filter (·.1 == key) := by
  have equal : (l.filter (·.1 == key)).Pairwise fun a b => decide (a.1 ≤ b.1) = true := by
    refine List.pairwise_of_forall_mem_list fun a ha b hb => ?_
    have ha : a.1 = key := by simpa using (List.mem_filter.mp ha).2
    have hb : b.1 = key := by simpa using (List.mem_filter.mp hb).2
    simp [ha, hb]
  have within : (l.filter (·.1 == key)).Sublist (l.mergeSort fun a b => a.1 ≤ b.1) := by
    refine List.sublist_mergeSort (fun a b c hab hbc => ?_) (fun a b => ?_) equal
      List.filter_sublist
    · simp only [decide_eq_true_eq] at hab hbc ⊢
      exact String.le_trans hab hbc
    · simpa using String.le_total a.1 b.1
  have all : (l.filter (·.1 == key)).Sublist
      ((l.mergeSort fun a b => a.1 ≤ b.1).filter (·.1 == key)) := by
    simpa [List.filter_filter] using within.filter (·.1 == key)
  refine (all.eq_of_length ?_).symm
  exact ((List.mergeSort_perm l _).filter _).length_eq.symm

/-- What comes last among its equals is the end of what is left of them. -/
theorem isLast_iff_filter {l : List (String × α)} {a : String × α} :
    IsLast l a ↔ ∃ before, l.filter (·.1 == a.1) = before ++ [a] := by
  constructor
  · rintro ⟨before, after, rfl, later⟩
    refine ⟨before.filter (·.1 == a.1), ?_⟩
    have gone : after.filter (·.1 == a.1) = [] := by
      rw [List.filter_eq_nil_iff]
      simpa using later
    simp [gone]
  · rintro ⟨before, he⟩
    obtain ⟨front, back, rfl, -, hb⟩ := List.filter_eq_append_iff.mp he
    obtain ⟨skipped, after, rfl, -, -, rest⟩ := List.filter_eq_cons_iff.mp hb
    refine ⟨front ++ skipped, after, (List.append_assoc ..).symm, ?_⟩
    simpa using List.filter_eq_nil_iff.mp rest

theorem last_of_mergeSort {l : List (String × α)} {a : String × α} :
    IsLast (l.mergeSort fun a b => a.1 ≤ b.1) a ↔ IsLast l a := by
  rw [isLast_iff_filter, isLast_iff_filter, filter_mergeSort]

/-- Of sorted fields the last of equal keys are kept. -/
theorem last_of_mem_keepLast {l : List (String × α)} (hl : l.Pairwise (·.1 ≤ ·.1))
    {a : String × α} (h : a ∈ keepLast l) : IsLast l a := by
  induction l using keepLast.induct with
  | case1 b c rest hk ih =>
      rw [keepLast, if_pos hk] at h
      obtain ⟨before, after, he, later⟩ := ih hl.of_cons h
      exact ⟨b :: before, after, by rw [he, List.cons_append], later⟩
  | case2 b c rest hk ih =>
      rw [keepLast, if_neg hk] at h
      rcases List.mem_cons.mp h with rfl | h
      · refine ⟨[], c :: rest, rfl, fun d hd he => hk ?_⟩
        obtain ⟨first, later⟩ := List.pairwise_cons.mp hl
        have least : c.1 ≤ d.1 := by
          rcases List.mem_cons.mp hd with rfl | hm
          · exact String.le_refl _
          · exact List.rel_of_pairwise_cons later hm
        exact String.le_antisymm (first c (List.mem_cons_self ..)) (he ▸ least)
      · obtain ⟨before, after, he, later⟩ := ih hl.of_cons h
        exact ⟨b :: before, after, by rw [he, List.cons_append], later⟩
  | case3 l short =>
      cases l with
      | nil => simp at h
      | cons b l =>
          cases l with
          | nil =>
              obtain rfl : a = b := by simpa using h
              exact ⟨[], [], rfl, by simp⟩
          | cons c rest => exact absurd rfl (short b c rest)

/-- **Sorted fields** are the last ones of their keys. -/
theorem last_of_mem_sortFields {l : List (String × α)} {a : String × α} (h : a ∈ sortFields l) :
    IsLast l a :=
  last_of_mergeSort.mp (last_of_mem_keepLast (pairwise_mergeSort l) h)

end Json

namespace ModuleMap

open ModuleName (canonical)

/-! ### Which source prevails -/

/-- The source that prevails under a name: of the spellings of the name it comes with the greatest
one, in the order of bytes, and of equal spellings with the last. -/
def Prevails (pairs : List (String × String)) (name source : String) : Prop :=
  ∃ before spelling after, pairs = before ++ (spelling, source) :: after ∧
    canonical spelling = name ∧
    (∀ p ∈ before, canonical p.1 = name → Text.utf8 p.1 ≤ Text.utf8 spelling) ∧
    ∀ p ∈ after, canonical p.1 = name → Text.utf8 p.1 < Text.utf8 spelling

/-- A spelling does not prevail where it stands: a greater one of the same name is there, or an
equal one later. -/
def IsBeaten (before : List (String × String)) (spelling : String)
    (after : List (String × String)) : Prop :=
  (∃ p ∈ before, canonical p.1 = canonical spelling ∧ Text.utf8 spelling < Text.utf8 p.1) ∨
    ∃ p ∈ after, canonical p.1 = canonical spelling ∧ Text.utf8 spelling ≤ Text.utf8 p.1

theorem prevails_iff {pairs : List (String × String)} {name source : String} :
    Prevails pairs name source ↔
      ∃ before spelling after, pairs = before ++ (spelling, source) :: after ∧
        canonical spelling = name ∧ (∀ p ∈ before, canonical p.1 = name → p.1 ≤ spelling) ∧
        ∀ p ∈ after, canonical p.1 = name → p.1 < spelling := by
  simp only [Prevails, Text.le_iff_utf8_le, Text.lt_iff_utf8_lt]

theorem Prevails.mem {pairs : List (String × String)} {name source : String}
    (h : Prevails pairs name source) : ∃ p ∈ pairs, canonical p.1 = name := by
  obtain ⟨before, spelling, after, rfl, spelled, -, -⟩ := h
  exact ⟨(spelling, source), by simp, spelled⟩

/-- Only one source prevails. -/
theorem Prevails.unique {pairs : List (String × String)} {name source source' : String}
    (h : Prevails pairs name source) (h' : Prevails pairs name source') : source = source' := by
  obtain ⟨before, spelling, after, he, spelled, first, last⟩ := prevails_iff.mp h
  obtain ⟨before', spelling', after', he', spelled', first', last'⟩ := prevails_iff.mp h'
  rcases List.append_eq_append_iff.mp (he.symm.trans he') with ⟨as, hb, ha⟩ | ⟨as, hb, ha⟩
  · cases as with
    | nil =>
        obtain ⟨hp, -⟩ := List.cons.inj ha
        exact congrArg Prod.snd hp
    | cons p as =>
        -- the second one comes later, so it is smaller, but it is no smaller than the first
        obtain ⟨rfl, rfl⟩ := List.cons.inj ha
        have smaller := last (spelling', source') (by simp) spelled'
        have greater := first' (spelling, source) (by simp [hb]) spelled
        exact absurd smaller (Std.not_lt.mpr greater)
  · cases as with
    | nil =>
        obtain ⟨hp, -⟩ := List.cons.inj ha
        exact (congrArg Prod.snd hp).symm
    | cons p as =>
        obtain ⟨rfl, rfl⟩ := List.cons.inj ha
        have smaller := last' (spelling, source) (by simp) spelled
        have greater := first (spelling', source') (by simp [hb]) spelled'
        exact absurd smaller (Std.not_lt.mpr greater)

/-- What prevails is not beaten, and prevails also where a beaten one is left out. -/
theorem Prevails.leave_out {before after : List (String × String)} {spelling source : String}
    (hb : IsBeaten before spelling after) {name kept : String}
    (h : Prevails (before ++ (spelling, source) :: after) name kept) :
    Prevails (before ++ after) name kept := by
  obtain ⟨front, best, back, he, spelled, first, last⟩ := h
  rcases List.append_eq_append_iff.mp he with ⟨as, rfl, ha⟩ | ⟨as, rfl, ha⟩
  · cases as with
    | nil =>
        obtain ⟨hp, rfl⟩ := List.cons.inj ha
        obtain ⟨rfl, rfl⟩ := Prod.mk.inj hp
        rw [List.append_nil] at first
        rcases hb with ⟨p, hp, hn, greater⟩ | ⟨p, hp, hn, greater⟩
        · exact absurd greater (Std.not_lt.mpr (first p hp (hn.trans spelled)))
        · exact absurd (last p hp (hn.trans spelled)) (Std.not_lt.mpr greater)
    | cons p as =>
        obtain ⟨-, rfl⟩ := List.cons.inj ha
        refine ⟨before ++ as, best, back, by simp, spelled, fun q hq => first q ?_, last⟩
        rcases List.mem_append.mp hq with hq | hq <;> simp [hq]
  · cases as with
    | nil =>
        obtain ⟨hp, rfl⟩ := List.cons.inj ha
        obtain ⟨rfl, rfl⟩ := Prod.mk.inj hp
        rcases hb with ⟨p, hp, hn, greater⟩ | ⟨p, hp, hn, greater⟩
        · have : p ∈ front := by simpa using hp
          exact absurd greater (Std.not_lt.mpr (first p this (hn.trans spelled)))
        · exact absurd (last p hp (hn.trans spelled)) (Std.not_lt.mpr greater)
    | cons p as =>
        obtain ⟨rfl, rfl⟩ := List.cons.inj ha
        refine ⟨front, best, as ++ after, by simp, spelled, first, fun q hq => last q ?_⟩
        rcases List.mem_append.mp hq with hq | hq <;> simp [hq]

/-! ### What a map keeps -/

/-- The entries of a map are what it has under its names. -/
theorem mem_entries_iff {pairs : List (String × String)} {name source : String} :
    (name, source) ∈ (ofPairs pairs).entries ↔ (ofPairs pairs).get? name = some source := by
  have keys : ((ofPairs pairs).entries.map (·.1)).Nodup :=
    List.pairwise_map.mpr ((pairwise_entries pairs).imp Std.ne_of_lt)
  rw [get?, Option.map_eq_some_iff]
  constructor
  · exact fun h => ⟨_, (Shape.find?_eq_some_iff keys).mpr ⟨h, rfl⟩, rfl⟩
  · rintro ⟨f, found, rfl⟩
    obtain ⟨hf, rfl⟩ := (Shape.find?_eq_some_iff keys).mp found
    exact hf

theorem prevails_of_mem_entries {pairs : List (String × String)} {name source : String}
    (h : (name, source) ∈ (ofPairs pairs).entries) : Prevails pairs name source := by
  -- last among those of its name, in the order of spellings
  obtain ⟨front, back, he, other⟩ := Json.last_of_mem_sortFields h
  obtain ⟨as, bs, sorted, rfl, hm⟩ := List.map_eq_append_iff.mp he
  obtain ⟨⟨spelling, text⟩, cs, rfl, hp, rfl⟩ := List.map_eq_cons_iff.mp hm
  obtain ⟨rfl, rfl⟩ := Prod.mk.inj hp
  have later : ∀ p ∈ cs, canonical p.1 ≠ canonical spelling := fun p hm =>
    other _ (List.mem_map_of_mem hm)
  have ordered := Json.pairwise_mergeSort pairs
  rw [sorted] at ordered
  -- hence last among those of its spelling, and so it was in the list
  have last : Json.IsLast (pairs.mergeSort fun a b => a.1 ≤ b.1) (spelling, text) :=
    ⟨as, cs, sorted, fun p hm hs => later p hm (congrArg canonical hs)⟩
  obtain ⟨before, after, rfl, apart⟩ := Json.last_of_mergeSort.mp last
  have greatest : ∀ p ∈ before ++ (spelling, text) :: after, canonical p.1 = canonical spelling →
      p.1 ≤ spelling := by
    intro p hm hn
    have hm := sorted ▸ List.mem_mergeSort.mpr hm
    rcases List.mem_append.mp hm with hm | hm
    · exact (List.pairwise_append.mp ordered).2.2 p hm _ (List.mem_cons_self ..)
    · rcases List.mem_cons.mp hm with rfl | hm
      · exact String.le_refl _
      · exact absurd hn (later p hm)
  refine prevails_iff.mpr ⟨before, spelling, after, rfl, rfl, fun p hm => ?_, fun p hm hn => ?_⟩
  · exact greatest p (List.mem_append_left _ hm)
  · have le := greatest p (List.mem_append_right _ (List.mem_cons_of_mem _ hm)) hn
    exact Std.lt_of_le_of_ne le (apart p hm)

/-- The names of a map are the canonical forms of the names that were given. -/
theorem mem_names_iff {pairs : List (String × String)} {name : String} :
    name ∈ (ofPairs pairs).names ↔ ∃ p ∈ pairs, canonical p.1 = name := by
  constructor
  · intro h
    obtain ⟨⟨key, source⟩, hm, rfl⟩ := List.mem_map.mp h
    exact (prevails_of_mem_entries hm).mem
  · rintro ⟨⟨spelling, source⟩, hp, rfl⟩
    obtain ⟨entry, hm, he⟩ := List.any_eq_true.mp (contains_of_mem hp)
    exact List.mem_map.mpr ⟨entry, hm, eq_of_beq he⟩

/-- **A map keeps the source that prevails**, and only that. -/
theorem get?_eq_some_iff {pairs : List (String × String)} {name source : String} :
    (ofPairs pairs).get? name = some source ↔ Prevails pairs name source := by
  constructor
  · exact fun h => prevails_of_mem_entries (mem_entries_iff.mpr h)
  · intro h
    obtain ⟨⟨key, kept⟩, hm, rfl⟩ := List.mem_map.mp (mem_names_iff.mpr h.mem)
    rw [mem_entries_iff.mp hm, h.unique (prevails_of_mem_entries hm)]

theorem get?_eq_none_iff {pairs : List (String × String)} {name : String} :
    (ofPairs pairs).get? name = none ↔ name ∉ (ofPairs pairs).names := by
  rw [get?, Option.map_eq_none_iff, List.find?_eq_none, names, List.mem_map]
  simp only [beq_iff_eq, not_exists, not_and]

theorem contains_iff {m : ModuleMap} {name : String} :
    m.contains name = true ↔ name ∈ m.names := by
  simp only [contains, names, List.any_eq_true, List.mem_map, beq_iff_eq]

/-- Maps that keep the same under every name are the same. -/
theorem ofPairs_ext {pairs pairs' : List (String × String)}
    (h : ∀ name, (ofPairs pairs').get? name = (ofPairs pairs).get? name) :
    ofPairs pairs' = ofPairs pairs := by
  have distinct (l : List (String × String)) : (ofPairs l).entries.Nodup :=
    (pairwise_entries l).imp fun hlt he => Std.ne_of_lt hlt (congrArg Prod.fst he)
  have perm : (ofPairs pairs').entries.Perm (ofPairs pairs).entries := by
    refine (List.perm_ext_iff_of_nodup (distinct _) (distinct _)).mpr fun p => ?_
    rw [mem_entries_iff, mem_entries_iff, h]
  have same := Json.mergeSort_eq_of_perm perm (pairwise_entries pairs)
  rw [Json.mergeSort_eq_of_perm (List.Perm.refl _) (pairwise_entries pairs')] at same
  exact congrArg ModuleMap.mk same

/-- **A spelling that is beaten** might as well not have been given, whatever its source. -/
theorem ofPairs_of_isBeaten {before after : List (String × String)} {spelling : String}
    (h : IsBeaten before spelling after) (source : String) :
    ofPairs (before ++ (spelling, source) :: after) = ofPairs (before ++ after) := by
  refine (ofPairs_ext fun name => ?_).symm
  cases hf : (ofPairs (before ++ (spelling, source) :: after)).get? name with
  | some kept => exact get?_eq_some_iff.mpr ((get?_eq_some_iff.mp hf).leave_out h)
  | none =>
      rw [get?_eq_none_iff, mem_names_iff] at hf ⊢
      rintro ⟨p, hp, hn⟩
      refine hf ⟨p, ?_, hn⟩
      rcases List.mem_append.mp hp with hp | hp <;> simp [hp]

/-- **Where no spelling comes twice** the order does not matter. -/
theorem ofPairs_perm {pairs pairs' : List (String × String)} (hp : pairs'.Perm pairs)
    (hn : (pairs.map (·.1)).Nodup) : ofPairs pairs' = ofPairs pairs := by
  have perm := List.mergeSort_perm pairs fun a b => decide (a.1 ≤ b.1)
  have apart : (pairs.mergeSort fun a b => a.1 ≤ b.1).Pairwise (·.1 ≠ ·.1) :=
    List.pairwise_map.mp ((perm.map Prod.fst).nodup_iff.mpr hn)
  have ascending : (pairs.mergeSort fun a b => a.1 ≤ b.1).Pairwise (·.1 < ·.1) :=
    (Json.pairwise_mergeSort pairs).imp₂ (fun _ _ => Std.lt_of_le_of_ne) apart
  rw [ofPairs, ofPairs, Json.mergeSort_eq_of_perm (hp.trans perm.symm) ascending]

/-! ### Maps that were made or read -/

/-- A map that was made of spellings and sources, or read from JSON. -/
def IsObtained (m : ModuleMap) : Prop := (∃ pairs, m = ofPairs pairs) ∨ ∃ j, decode j = .ok m

/-- What is read is made, too. -/
theorem IsObtained.isMade {m : ModuleMap} (h : m.IsObtained) : m.IsMade := by
  rcases h with made | ⟨j, hj⟩
  · exact made
  · exact fits hj

theorem canonical_of_mem_names {m : ModuleMap} (h : m.IsMade) {name : String}
    (hn : name ∈ m.names) : canonical name = name := by
  obtain ⟨pairs, rfl⟩ := h
  obtain ⟨p, -, rfl⟩ := mem_names_iff.mp hn
  exact ModuleName.canonical_canonical p.1

/-- **Spellings of one name collapse into one module.** The names of the map, in ascending order,
are the canonical forms of the names that were given, and under each there is the source that
prevails. So where no spelling comes twice, the order in which they were given does not matter, and
every map there is has canonical names only, is the map of its own entries, and is read back from
what is written of it. -/
theorem collapse_exact :
    (∀ pairs, (ofPairs pairs).names.Pairwise fun a b => Text.utf8 a < Text.utf8 b) ∧
    (∀ pairs name, name ∈ (ofPairs pairs).names ↔ ∃ p ∈ pairs, canonical p.1 = name) ∧
    (∀ pairs name source,
      (ofPairs pairs).get? name = some source ↔ Prevails pairs name source) ∧
    (∀ pairs pairs' : List (String × String), pairs'.Perm pairs → (pairs.map (·.1)).Nodup →
      ofPairs pairs' = ofPairs pairs) ∧
    ∀ m : ModuleMap, m.IsObtained →
      ofPairs m.entries = m ∧ decode m.toJson = .ok m ∧
        ∀ name ∈ m.names, canonical name = name := by
  refine ⟨fun pairs => ?_, fun pairs name => mem_names_iff, fun pairs name source =>
    get?_eq_some_iff, fun pairs pairs' => ofPairs_perm, fun m hm => ⟨?_, ?_, ?_⟩⟩
  · refine List.pairwise_map.mpr ((pairwise_entries pairs).imp fun h => ?_)
    exact (Text.lt_iff_utf8_lt _ _).mp h
  · obtain ⟨pairs, rfl⟩ := hm.isMade
    exact ofPairs_eq_of_perm (List.Perm.refl _)
  · exact reads Json.layout_id hm.isMade
  · exact fun name => canonical_of_mem_names hm.isMade

/-- Of three sources for one module the one prevails that comes last under the greatest spelling,
and two modules may be given in either order. -/
theorem last_of_greatest_prevails :
    (ofPairs [("a.js", "early"), ("./a.js", "dot"), ("a.js", "late"), ("b", "b")]).get? "a.js" =
      some "late" ∧
    ofPairs [("./a.js", "dot"), ("a.js", "plain")] =
      ofPairs [("a.js", "plain"), ("./a.js", "dot")] ∧
    ∃ m, decode (.obj [("./a.js", .str "dot"), ("a.js", .str "plain")]) = .ok m ∧
      ofPairs m.entries = m ∧ decode m.toJson = .ok m ∧
        ∀ name ∈ m.names, canonical name = name := by
  have all := collapse_exact
  have read : decode (.obj [("./a.js", .str "dot"), ("a.js", .str "plain")]) =
      .ok (ofPairs [("./a.js", "dot"), ("a.js", "plain")]) := rfl
  refine ⟨(all.2.2.1 _ _ _).mpr ?_, all.2.2.2.1 _ _ (List.Perm.swap ..) (by decide), _, read,
    all.2.2.2.2 _ (.inr ⟨_, read⟩)⟩
  refine ⟨[("a.js", "early"), ("./a.js", "dot")], "a.js", [("b", "b")], rfl, ?_, ?_, ?_⟩ <;>
    decide +kernel

end ModuleMap

end PatchSandbox
