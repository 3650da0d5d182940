import Mathlib.Data.List.Nodup
import PatchSandbox.Proofs.Json.Finite
import PatchSandbox.Proofs.Module.Map

/-!
# Fields in order

* **`Json.sortFields`** puts fields in strictly ascending order, leaves fields in that order as they
  are, and loses none if no key is there twice.
* **`Json.sorted`** is a value as a table holds it, with the fields of every object in order.
* **`Json.Sound`** says what a table can hold at all.
* **`Json.Layout`** is any way to lay out the fields of a value anew, `Json.sorted` among them.
-/

namespace PatchSandbox

namespace Json

variable {α : Type}

/-! ### Sorting -/

/-- Where no two neighbours are equal, all stay. -/
theorem keepLast_eq_self {l : List (String × α)} (h : l.Pairwise (·.1 ≠ ·.1)) : keepLast l = l := by
  induction l using keepLast.induct with
  | case1 b c rest hk ih => exact absurd hk (List.rel_of_pairwise_cons h (List.mem_cons_self ..))
  | case2 b c rest hk ih => rw [keepLast, if_neg hk, ih h.of_cons]
  | case3 l short =>
      cases l with
      | nil => rfl
      | cons b l =>
          cases l with
          | nil => rfl
          | cons c rest => exact absurd rfl (short b c rest)

theorem pairwise_keepLast {l : List (String × α)} (h : l.Pairwise (·.1 ≤ ·.1)) :
    (keepLast l).Pairwise (·.1 < ·.1) := by
  induction l using keepLast.induct with
  | case1 b c rest hk ih =>
      rw [keepLast, if_pos hk]
      exact ih h.of_cons
  | case2 b c rest hk ih =>
      rw [keepLast, if_neg hk, List.pairwise_cons]
      refine ⟨fun d hd => ?_, ih h.of_cons⟩
      obtain ⟨first, later⟩ := List.pairwise_cons.mp h
      have least : c.1 ≤ d.1 := by
        rcases List.mem_cons.mp (mem_of_mem_keepLast hd) with rfl | hm
        · exact String.le_refl _
        · exact List.rel_of_pairwise_cons later hm
      have below : b.1 < c.1 :=
        Std.lt_of_le_of_ne (first c (List.mem_cons_self ..)) hk
      exact Std.lt_of_lt_of_le below least
  | case3 l short =>
      cases l with
      | nil => simp
      | cons b l =>
          cases l with
          | nil => simp
          | cons c rest => exact absurd rfl (short b c rest)

theorem pairwise_mergeSort (l : List (String × α)) :
    (l.mergeSort fun a b => a.1 ≤ b.1).Pairwise (·.1 ≤ ·.1) := by
  have sorted :
      (l.mergeSort fun a b => a.1 ≤ b.1).Pairwise fun a b => decide (a.1 ≤ b.1) = true := by
    refine List.pairwise_mergeSort (fun a b c hab hbc => ?_) (fun a b => ?_) l
    · simp only [decide_eq_true_eq] at hab hbc ⊢
      exact String.le_trans hab hbc
    · simpa using String.le_total a.1 b.1
  exact sorted.imp (by simp)

/-- **Sorted fields are in strictly ascending order.** -/
theorem pairwise_sortFields (l : List (String × α)) : (sortFields l).Pairwise (·.1 < ·.1) :=
  pairwise_keepLast (pairwise_mergeSort l)

/-- Whichever way fields in strictly ascending order are mixed, sorting restores them. -/
theorem mergeSort_eq_of_perm {l l' : List (String × α)} (hp : l'.Perm l)
    (h : l.Pairwise (·.1 < ·.1)) : (l'.mergeSort fun a b => a.1 ≤ b.1) = l := by
  have keys : (l.map (·.1)).Nodup := List.pairwise_map.mpr (h.imp Std.ne_of_lt)
  have perm := (List.mergeSort_perm l' fun a b => a.1 ≤ b.1).trans hp
  refine List.Perm.eq_of_pairwise (fun a b ha hb hab hba => ?_) (pairwise_mergeSort l')
    (h.imp Std.le_of_lt) perm
  exact List.inj_on_of_nodup_map keys (perm.subset ha) hb (String.le_antisymm hab hba)

/-- **Fields in ascending order** stay as they are. -/
theorem sortFields_eq_self {l : List (String × α)} (h : l.Pairwise (·.1 < ·.1)) :
    sortFields l = l := by
  have apart : l.Pairwise (·.1 ≠ ·.1) := h.imp Std.ne_of_lt
  rw [sortFields, mergeSort_eq_of_perm (List.Perm.refl l) h, keepLast_eq_self apart]

/-- **Fields with keys of their own** are all there after sorting. -/
theorem sortFields_perm {l : List (String × α)} (h : (l.map (·.1)).Nodup) :
    (sortFields l).Perm l := by
  have perm := List.mergeSort_perm l fun a b => a.1 ≤ b.1
  have apart : (l.mergeSort fun a b => a.1 ≤ b.1).Pairwise (·.1 ≠ ·.1) :=
    List.pairwise_map.mp ((perm.map Prod.fst).nodup_iff.mpr h)
  rw [sortFields, keepLast_eq_self apart]
  exact perm

/-! ### Values in order -/

mutual

/-- The value with the fields of every object in it in order. -/
def sorted : Json → Json
  | .arr items => .arr (sortedItems items)
  | .obj fields => .obj (sortFields (sortedFields fields))
  | .null => .null
  | .bool b => .bool b
  | .num n => .num n
  | .str s => .str s

/-- Items, each of them in order. -/
def sortedItems : List Json → List Json
  | [] => []
  | j :: rest => sorted j :: sortedItems rest

/-- Fields, each of them in order. -/
def sortedFields : List (String × Json) → List (String × Json)
  | [] => []
  | (key, j) :: rest => (key, sorted j) :: sortedFields rest

end

theorem sortedItems_eq (items : List Json) : sortedItems items = items.map sorted := by
  induction items with
  | nil => rfl
  | cons j items ih => rw [sortedItems, ih, List.map_cons]

theorem sortedFields_eq (fields : List (String × Json)) :
    sortedFields fields = fields.map fun f => (f.1, f.2.sorted) := by
  induction fields with
  | nil => rfl
  | cons f fields ih => rw [sortedFields, ih, List.map_cons]

/-- What a table can hold: every number is an integer of sixty-four bits or a finite double, and the
fields of every object are in order. -/
inductive Sound : Json → Prop
  | null : Sound .null
  | bool (b : Bool) : Sound (.bool b)
  | num {n : Number} (hn : n.IsSound) : Sound (.num n)
  | str (s : String) : Sound (.str s)
  | arr {items : List Json} (hi : ∀ j ∈ items, Sound j) : Sound (.arr items)
  | obj {fields : List (String × Json)} (ho : fields.Pairwise (·.1 < ·.1))
      (hf : ∀ f ∈ fields, Sound f.2) : Sound (.obj fields)

/-- What a table can hold is in order. -/
theorem Sound.sorted_eq {j : Json} (hj : j.Sound) : j.sorted = j := by
  induction hj with
  | null => rfl
  | bool b => rfl
  | num hn => rfl
  | str s => rfl
  | arr hi ih =>
      rw [sorted, sortedItems_eq, List.map_congr_left ih, List.map_id']
  | @obj fields ho hf ih =>
      have same : fields.map (fun f => (f.1, f.2.sorted)) = fields := by
        refine (List.map_congr_left fun f hm => ?_).trans (List.map_id fields)
        rw [ih f hm]
        rfl
      rw [sorted, sortedFields_eq, same, sortFields_eq_self ho]

/-! ### Layouts -/

/-- A way to lay out values anew: items and fields are laid out each, and the fields of an object
may come in any order. -/
structure Layout (g : Json → Json) : Prop where
  bool : ∀ b, g (.bool b) = .bool b
  num : ∀ n, g (.num n) = .num n
  str : ∀ s, g (.str s) = .str s
  arr : ∀ items, g (.arr items) = .arr (items.map g)
  obj : ∀ fields : List (String × Json), (fields.map (·.1)).Nodup →
    ∃ fields', g (.obj fields) = .obj fields' ∧
      fields'.Perm (fields.map fun f => (f.1, g f.2))

theorem Layout.nat {g : Json → Json} (hg : Layout g) (n : Nat) : g (.nat n) = .nat n := hg.num _

theorem Layout.arr_map {g : Json → Json} (hg : Layout g) (write : α → Json) (as : List α) :
    g (.arr (as.map write)) = .arr (as.map fun a => g (write a)) := by
  rw [hg.arr, List.map_map]
  rfl

theorem Layout.texts {g : Json → Json} (hg : Layout g) (ts : List String) :
    g (.texts ts) = .texts ts := by
  rw [Json.texts, hg.arr_map, List.map_congr_left fun t _ => hg.str t]

/-- Values may stay as they are. -/
theorem layout_id : Layout id where
  bool _ := rfl
  num _ := rfl
  str _ := rfl
  arr items := by rw [List.map_id]; rfl
  obj fields _ := ⟨fields, rfl, by simp⟩

/-- Their fields may be put in order. -/
theorem layout_sorted : Layout sorted where
  bool _ := rfl
  num _ := rfl
  str _ := rfl
  arr items := by rw [sorted, sortedItems_eq]
  obj fields h := by
    refine ⟨_, rfl, ?_⟩
    rw [sortedFields_eq]
    refine sortFields_perm ?_
    rw [List.map_map]
    exact h

end Json

namespace ModuleMap

/-! ### Module maps -/

/-- The names in a map are in order. -/
theorem pairwise_entries (pairs : List (String × String)) :
    (ofPairs pairs).entries.Pairwise (·.1 < ·.1) :=
  Json.pairwise_sortFields _

/-- **A map is made of its own entries**, in whichever order. -/
theorem ofPairs_eq_of_perm {pairs pairs' : List (String × String)}
    (hp : pairs'.Perm (ofPairs pairs).entries) : ofPairs pairs' = ofPairs pairs := by
  have ordered := pairwise_entries pairs
  have names : ∀ p ∈ (ofPairs pairs).entries, (ModuleName.canonical p.1, p.2) = p := by
    intro p hm
    rw [canonical_of_mem hm]
  generalize he : (ofPairs pairs).entries = entries at hp ordered names
  rw [ofPairs, Json.mergeSort_eq_of_perm hp ordered, List.map_congr_left names, List.map_id',
    Json.sortFields_eq_self ordered, ← he]

end ModuleMap

end PatchSandbox
