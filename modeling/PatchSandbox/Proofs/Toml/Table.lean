import PatchSandbox.Proofs.Op.Grammar
import PatchSandbox.Toml.Reader

/-!
# Tables that were read

* **`Table.Distinct`** says that neither a table nor one inside it has a key twice. Each statement
  keeps it, and so does a table that is written down as a whole: **`Table.distinct_of_read`**.
* **`Table.toJson_eq_ok_iff`** says when a table can be held: if every number in it can.
* **`Table.field?_toJson`** says what such a table is as JSON: what is found under a key is found
  under the same key.
-/

namespace PatchSandbox.Toml

/-! ### Keys of their own -/

/-- No table inside a value has a key twice. -/
inductive Value.Distinct : Value → Prop
  | table {origin : Origin} {t : List (String × Value)} (keys : (t.map (·.1)).Nodup)
      (values : ∀ e ∈ t, Value.Distinct e.2) : Distinct (.table origin t)
  | tables {all : List (List (String × Value))} (keys : ∀ t ∈ all, (t.map (·.1)).Nodup)
      (values : ∀ t ∈ all, ∀ e ∈ t, Value.Distinct e.2) : Distinct (.tables all)
  | other {v : Value} (table : ∀ origin t, v ≠ .table origin t) (tables : ∀ all, v ≠ .tables all) :
      Distinct v

/-- The value that a statement gives to a key has no key twice. -/
def Statement.Distinct : Statement → Prop
  | .assign _ v => v.Distinct
  | _ => True

namespace Table

variable {t u : Table} {key : String} {v : Value} {path here : Path}

/-- Neither the table nor one inside it has a key twice. -/
structure Distinct (t : Table) : Prop where
  keys : (t.map (·.1)).Nodup
  values : ∀ e ∈ t, e.2.Distinct

theorem Distinct.nil : Distinct [] := ⟨List.nodup_nil, by simp⟩

theorem distinct_table_iff {origin : Origin} : (Value.table origin t).Distinct ↔ t.Distinct := by
  constructor
  · intro h
    cases h with
    | table keys values => exact ⟨keys, values⟩
    | other table => exact absurd rfl (table _ _)
  · exact fun h => .table h.keys h.values

theorem distinct_tables_iff {all : List Table} :
    (Value.tables all).Distinct ↔ ∀ t ∈ all, Distinct t := by
  constructor
  · intro h
    cases h with
    | tables keys values => exact fun t ht => ⟨keys t ht, values t ht⟩
    | other _ tables => exact absurd rfl (tables _)
  · exact fun h => .tables (fun t ht => (h t ht).keys) fun t ht => (h t ht).values

theorem mem_of_find? (h : t.find? key = some v) : (key, v) ∈ t := by
  obtain ⟨before, after, rfl, -⟩ := List.lookup_eq_some_iff.mp h
  simp

theorem Distinct.of_find? (h : t.Distinct) (hv : t.find? key = some v) : v.Distinct :=
  h.values _ (mem_of_find? hv)

theorem mem_put {e : String × Value} (h : e ∈ t.put key v) : e = (key, v) ∨ e ∈ t := by
  induction t with
  | nil => exact .inl (List.mem_singleton.mp h)
  | cons f t ih =>
      rw [put] at h
      split at h
      · obtain rfl | h := List.mem_cons.mp h
        · exact .inl (by simp_all)
        · exact .inr (List.mem_cons_of_mem _ h)
      · obtain rfl | h := List.mem_cons.mp h
        · exact .inr (List.mem_cons_self ..)
        · exact (ih h).imp_right (List.mem_cons_of_mem _)

theorem keys_put : (t.put key v).map (·.1) =
    if key ∈ t.map (·.1) then t.map (·.1) else t.map (·.1) ++ [key] := by
  induction t with
  | nil => rfl
  | cons f t ih =>
      rw [put]
      split
      case isTrue h => simp [h]
      case isFalse h =>
          rw [List.map_cons, ih, List.map_cons]
          by_cases hk : key ∈ t.map (·.1)
          · rw [if_pos hk, if_pos (List.mem_cons_of_mem _ hk)]
          · rw [if_neg hk, if_neg (by simpa [Ne.symm h] using hk)]
            rfl

theorem Distinct.put (h : t.Distinct) (hv : v.Distinct) : (t.put key v).Distinct := by
  refine ⟨?_, fun e he => ?_⟩
  · rw [keys_put]
    split
    · exact h.keys
    case isFalse new => 
        refine List.nodup_append.mpr ⟨h.keys, by simp, fun a ha b hb he => new ?_⟩
        rwa [← List.mem_singleton.mp hb, ← he]
  · obtain rfl | he := mem_put he
    · exact hv
    · exact h.values e he

/-! ### Statements -/

theorem Distinct.openTable (h : t.Distinct) (hu : Table.openTable key t = some u) : u.Distinct := by
  unfold Table.openTable at hu
  split at hu
  case h_1 =>
      obtain rfl := Option.some.inj hu
      exact h.put (distinct_table_iff.mpr .nil)
  case h_2 found =>
      obtain rfl := Option.some.inj hu
      exact h.put (distinct_table_iff.mpr (distinct_table_iff.mp (h.of_find? found)))
  case h_3 => cases hu

theorem Distinct.openNext (h : t.Distinct) (hu : Table.openNext key t = some u) : u.Distinct := by
  unfold Table.openNext at hu
  split at hu
  case h_1 =>
      obtain rfl := Option.some.inj hu
      exact h.put (distinct_tables_iff.mpr (by simp [Distinct.nil]))
  case h_2 all found =>
      obtain rfl := Option.some.inj hu
      have old := distinct_tables_iff.mp (h.of_find? found)
      exact h.put (distinct_tables_iff.mpr (by simpa [Distinct.nil] using old))
  case h_3 => cases hu

theorem Distinct.assign (h : t.Distinct) (hv : v.Distinct) (hu : Table.assign v path t = some u) :
    u.Distinct := by
  induction path generalizing t u with
  | nil => cases hu
  | cons key path ih =>
      cases path with
      | nil =>
          unfold Table.assign at hu
          split at hu
          case h_1 =>
              obtain rfl := Option.some.inj hu
              exact h.put hv
          case h_2 => cases hu
      | cons next path =>
          unfold Table.assign at hu
          split at hu
          case h_1 =>
              obtain ⟨w, hw, rfl⟩ := Option.map_eq_some_iff.mp hu
              exact h.put (distinct_table_iff.mpr (ih .nil hw))
          case h_2 found =>
              obtain ⟨w, hw, rfl⟩ := Option.map_eq_some_iff.mp hu
              have inner := distinct_table_iff.mp (h.of_find? found)
              exact h.put (distinct_table_iff.mpr (ih inner hw))
          case h_3 found =>
              obtain ⟨w, hw, rfl⟩ := Option.map_eq_some_iff.mp hu
              have inner := distinct_table_iff.mp (h.of_find? found)
              exact h.put (distinct_table_iff.mpr (ih inner hw))
          case h_4 => cases hu

/-- What keeps the keys of a table apart keeps those of the tables around it apart. -/
theorem Distinct.inside {change : Table → Option Table}
    (hc : ∀ {t u : Table}, t.Distinct → change t = some u → u.Distinct) (h : t.Distinct)
    (hu : Table.inside change path t = some u) : u.Distinct := by
  induction path generalizing t u with
  | nil => exact hc h hu
  | cons key path ih =>
      unfold Table.inside at hu
      split at hu
      case h_1 =>
          obtain ⟨w, hw, rfl⟩ := Option.map_eq_some_iff.mp hu
          exact h.put (distinct_table_iff.mpr (ih .nil hw))
      case h_2 => cases hu
      case h_3 found =>
          obtain ⟨w, hw, rfl⟩ := Option.map_eq_some_iff.mp hu
          exact h.put (distinct_table_iff.mpr (ih (distinct_table_iff.mp (h.of_find? found)) hw))
      case h_4 found =>
          obtain ⟨w, hw, rfl⟩ := Option.map_eq_some_iff.mp hu
          have inner := distinct_tables_iff.mp (h.of_find? found)
          obtain ⟨first, rest⟩ := List.forall_mem_cons.mp inner
          exact h.put (distinct_tables_iff.mpr (List.forall_mem_cons.mpr ⟨ih first hw, rest⟩))
      case h_5 => cases hu

theorem Distinct.apply {s : Statement} (h : t.Distinct) (hs : s.Distinct)
    (hu : s.apply here t = some u) : u.Distinct := by
  cases s with
  | header path =>
      obtain ⟨key, -, hu⟩ := Option.bind_eq_some_iff.mp hu
      exact h.inside Distinct.openTable hu
  | arrayHeader path =>
      obtain ⟨key, -, hu⟩ := Option.bind_eq_some_iff.mp hu
      exact h.inside Distinct.openNext hu
  | assign path v => exact h.inside (fun ht hu => ht.assign hs hu) hu

theorem Distinct.extend {statements : List Statement} (h : t.Distinct)
    (hs : ∀ s ∈ statements, s.Distinct) (hu : Table.extend statements here t = some u) :
    u.Distinct := by
  induction statements generalizing here t with
  | nil =>
      obtain rfl := Option.some.inj hu
      exact h
  | cons s statements ih =>
      obtain ⟨first, rest⟩ := List.forall_mem_cons.mp hs
      obtain ⟨w, hw, hu⟩ := Option.bind_eq_some_iff.mp hu
      exact ih (h.apply first hw) rest hu

theorem Distinct.assignAll {entries : List (Path × Value)} (h : t.Distinct)
    (he : ∀ e ∈ entries, e.2.Distinct)
    (hu : entries.foldlM (fun t (path, v) => Table.assign v path t) t = some u) : u.Distinct := by
  induction entries generalizing t with
  | nil =>
      obtain rfl := Option.some.inj hu
      exact h
  | cons e entries ih =>
      obtain ⟨first, rest⟩ := List.forall_mem_cons.mp he
      obtain ⟨w, hw, hu⟩ := Option.bind_eq_some_iff.mp hu
      exact ih (h.assign first hw) rest hu

end Table

/-! ### Reading -/

namespace Reader

theorem distinct_fractional {word : List Char} {v : Value}
    (h : Scalar.fractional word = some v) : v.Distinct := by
  have number {p : Prop} [Decidable p] {f : Float} :
      (if p then Value.hugeFloat else .float f).Distinct := by
    split <;> exact .other (by simp) (by simp)
  unfold Scalar.fractional at h
  simp only at h
  split at h
  · cases h
  · obtain ⟨whole, -, h⟩ := Option.bind_eq_some_iff.mp h
    split at h
    · cases h
    · split at h <;> obtain ⟨fraction, -, h⟩ := Option.bind_eq_some_iff.mp h <;> split at h <;>
        obtain ⟨e, -, h⟩ := Option.bind_eq_some_iff.mp h <;> exact Option.some.inj h ▸ number

theorem distinct_scalar {word : List Char} {v : Value} (h : Scalar.read word = some v) :
    v.Distinct := by
  unfold Scalar.read at h
  split at h
  · obtain rfl := Option.some.inj h
    exact .other (by simp) (by simp)
  split at h
  · obtain rfl := Option.some.inj h
    exact .other (by simp) (by simp)
  split at h
  · obtain rfl := Option.some.inj h
    exact .other (by simp) (by simp)
  split at h
  · obtain rfl := Option.some.inj h
    exact .other (by simp) (by simp)
  split at h
  case h_1 _ found =>
      obtain rfl := Option.some.inj h
      exact distinct_fractional found
  case h_2 =>
      split at h
      · obtain rfl := Option.some.inj h
        exact .other (by simp) (by simp)
      · cases h

/-- What is read with so much fuel has keys of its own. -/
structure ReadsDistinct (n : Nat) : Prop where
  value : ∀ {depth cs v rest}, value n depth cs = some (v, rest) → v.Distinct
  items : ∀ {depth acc cs v rest}, items n depth acc cs = some (v, rest) → v.Distinct
  entries : ∀ {depth acc cs v rest}, (∀ e ∈ acc, e.2.Distinct) →
    entries n depth acc cs = some (v, rest) → v.Distinct

theorem distinct_array {items : List Value} : (Value.array items).Distinct :=
  .other (by simp) (by simp)

/-- A table that is made of entries, after the last of them. -/
theorem distinct_ofEntries {acc : List (Path × Value)} {v : Value} {rest rest' : List Char}
    (ha : ∀ e ∈ acc, e.2.Distinct)
    (h : (Table.ofEntries acc.reverse).map (fun t => (Value.table .whole t, rest)) =
      some (v, rest')) : v.Distinct := by
  obtain ⟨t, ht, he⟩ := Option.map_eq_some_iff.mp h
  obtain ⟨rfl, -⟩ := Prod.mk.inj he
  exact Table.distinct_table_iff.mpr (Table.Distinct.nil.assignAll (by simpa using ha) ht)

theorem ReadsDistinct.value_succ {n : Nat} (ih : ReadsDistinct n) {depth : Nat} {cs : List Char}
    {v : Value} {rest : List Char} (h : Reader.value (n + 1) depth cs = some (v, rest)) :
    v.Distinct := by
  unfold Reader.value at h
  split at h
  case h_1 =>
      split at h
      · cases h
      · exact ih.items h
  case h_2 =>
      split at h
      · cases h
      · exact ih.entries (by simp) h
  case h_3 =>
      split at h
      · obtain ⟨text, -, he⟩ := Option.map_eq_some_iff.mp h
        obtain ⟨rfl, -⟩ := Prod.mk.inj he
        exact .other (by simp) (by simp)
      · obtain ⟨w, hw, he⟩ := Option.map_eq_some_iff.mp h
        obtain ⟨rfl, -⟩ := Prod.mk.inj he
        exact distinct_scalar hw
  case h_4 => cases h

theorem ReadsDistinct.items_succ {n : Nat} (ih : ReadsDistinct n) {depth : Nat}
    {acc : List Value} {cs : List Char} {v : Value} {rest : List Char}
    (h : Reader.items (n + 1) depth acc cs = some (v, rest)) : v.Distinct := by
  unfold Reader.items at h
  split at h
  case h_1 =>
      obtain ⟨rfl, -⟩ := Prod.mk.inj (Option.some.inj h)
      exact distinct_array
  case h_2 =>
      split at h
      case h_1 => cases h
      case h_2 =>
          split at h
          case h_1 => exact ih.items h
          case h_2 =>
              obtain ⟨rfl, -⟩ := Prod.mk.inj (Option.some.inj h)
              exact distinct_array
          case h_3 => cases h
  case h_3 => cases h

theorem ReadsDistinct.entries_succ {n : Nat} (ih : ReadsDistinct n) {depth : Nat}
    {acc : List (Path × Value)} {cs : List Char} {v : Value} {rest : List Char}
    (ha : ∀ e ∈ acc, e.2.Distinct) (h : Reader.entries (n + 1) depth acc cs = some (v, rest)) :
    v.Distinct := by
  unfold Reader.entries at h
  simp only at h
  split at h
  case h_1 => exact distinct_ofEntries ha h
  case h_2 =>
      split at h
      case h_1 _ path _ _ =>
          split at h
          case h_1 => cases h
          case h_2 v _ found =>
              have more : ∀ e ∈ (path, v) :: acc, e.2.Distinct :=
                List.forall_mem_cons.mpr ⟨ih.value found, ha⟩
              split at h
              case h_1 => exact ih.entries more h
              case h_2 => exact distinct_ofEntries more h
              case h_3 => cases h
      case h_2 => cases h
  case h_3 => cases h

/-- **Values**, among them whole tables, are read with keys of their own. -/
theorem readsDistinct (n : Nat) : ReadsDistinct n := by
  induction n with
  | zero => exact ⟨by simp [value], by simp [items], by simp [entries]⟩
  | succ n ih => exact ⟨ih.value_succ, ih.items_succ, ih.entries_succ⟩

theorem distinct_statement {cs rest : List Char} {s : Statement}
    (h : statement cs = some (s, rest)) : s.Distinct := by
  unfold statement at h
  split at h
  case h_1 =>
      split at h
      case h_1 =>
          obtain ⟨rfl, -⟩ := Prod.mk.inj (Option.some.inj h)
          exact trivial
      case h_2 => cases h
  case h_2 =>
      split at h
      case h_1 =>
          obtain ⟨rfl, -⟩ := Prod.mk.inj (Option.some.inj h)
          exact trivial
      case h_2 => cases h
  case h_3 =>
      split at h
      case h_1 =>
          split at h
          case h_1 found =>
              obtain ⟨rfl, -⟩ := Prod.mk.inj (Option.some.inj h)
              exact (readsDistinct _).value found
          case h_2 => cases h
      case h_2 => cases h

theorem distinct_statements {n : Nat} {cs : List Char} {all : List Statement}
    (h : statements n cs = some all) : ∀ s ∈ all, s.Distinct := by
  induction n generalizing cs all with
  | zero => cases h
  | succ n ih =>
      unfold statements at h
      split at h
      case h_1 => cases h
      case h_2 =>
          obtain rfl := Option.some.inj h
          simp
      case h_3 =>
          split at h
          case h_1 => cases h
          case h_2 found =>
              split at h
              case h_1 => cases h
              case h_2 =>
                  obtain ⟨rest, hrest, rfl⟩ := Option.map_eq_some_iff.mp h
                  exact List.forall_mem_cons.mpr ⟨distinct_statement found, ih hrest⟩

end Reader

/-- **A table that was read** has no key twice, and neither has one inside it. -/
theorem Table.distinct_of_read {text : String} {t : Table} (h : Table.read text = some t) :
    t.Distinct := by
  unfold Table.read at h
  obtain ⟨all, hall, h⟩ := Option.bind_eq_some_iff.mp h
  exact Distinct.nil.extend (Reader.distinct_statements hall) h

/-! ### As JSON -/

/-- Every number in a value can be held: whole ones in 128 bits, others as doubles. -/
inductive Value.Holdable : Value → Prop
  | string (s : String) : Holdable (.string s)
  | integer {i : Int} (low : -2 ^ 127 ≤ i) (high : i < 2 ^ 128) : Holdable (.integer i)
  | float (f : Float) : Holdable (.float f)
  | boolean (b : Bool) : Holdable (.boolean b)
  | datetime (text : String) : Holdable (.datetime text)
  | array {items : List Value} (h : ∀ v ∈ items, Value.Holdable v) : Holdable (.array items)
  | table {origin : Origin} {t : List (String × Value)} (h : ∀ e ∈ t, Value.Holdable e.2) :
      Holdable (.table origin t)
  | tables {all : List (List (String × Value))} (h : ∀ t ∈ all, ∀ e ∈ t, Value.Holdable e.2) :
      Holdable (.tables all)

/-- Every number in a table can be held. -/
def Table.Holdable (t : Table) : Prop := ∀ e ∈ t, e.2.Holdable

open Shape (bind_eq_ok_iff) in
/-- **What can be held** is what has a form as JSON. -/
theorem exists_toJson_iff :
    (∀ v : Value, (∃ j, v.toJson = .ok j) ↔ v.Holdable) ∧
    (∀ all : List Table, (∃ js, tablesToJson all = .ok js) ↔ ∀ t ∈ all, Table.Holdable t) ∧
    (∀ t : Table, (∃ fs, entriesToJson t = .ok fs) ↔ Table.Holdable t) ∧
    (∀ items : List Value, (∃ js, itemsToJson items = .ok js) ↔ ∀ v ∈ items, v.Holdable) := by
  have map_ok {α β : Type} {x : Shape.Result α} (f : α → β) :
      (∃ b, x.map f = .ok b) ↔ ∃ a, x = .ok a := by
    cases x <;> simp [Except.map]
  refine Value.toJson.mutual_induct _ _ _ _ ?_ ?_ ?_ ?_ ?_ ?_ ?_ ?_ ?_ ?_ ?_ ?_ ?_ ?_ ?_ ?_
  · exact fun s => ⟨fun _ => .string s, fun _ => ⟨_, rfl⟩⟩
  · intro i h
    have refused : (Value.integer i).toJson = .error .overflow := by rw [Value.toJson, if_pos h]
    refine ⟨fun ⟨j, hj⟩ => (by cases refused.symm.trans hj), fun h => ?_⟩
    cases h with
    | integer low high => norm_num at *; omega
  · intro i h
    have taken : (Value.integer i).toJson = .ok (.int i) := by rw [Value.toJson, if_neg h]
    refine ⟨fun _ => .integer ?_ ?_, fun _ => ⟨_, taken⟩⟩
    all_goals norm_num at *; omega
  · exact fun f => ⟨fun _ => .float f, fun _ => ⟨_, rfl⟩⟩
  · exact ⟨fun ⟨j, hj⟩ => (by cases hj), fun h => (by cases h)⟩
  · exact fun b => ⟨fun _ => .boolean b, fun _ => ⟨_, rfl⟩⟩
  · exact fun text => ⟨fun _ => .datetime text, fun _ => ⟨_, rfl⟩⟩
  · intro items ih
    rw [Value.toJson, map_ok, ih]
    exact ⟨.array, fun h => by cases h with | array h => exact h⟩
  · intro origin t ih
    rw [Value.toJson, map_ok, ih]
    exact ⟨.table, fun h => by cases h with | table h => exact h⟩
  · intro all ih
    rw [Value.toJson, map_ok, ih]
    exact ⟨.tables, fun h => by cases h with | tables h => exact h⟩
  · exact ⟨fun _ => by simp, fun _ => ⟨_, rfl⟩⟩
  · intro v rest ihv ih
    rw [List.forall_mem_cons, ← ihv, ← ih, itemsToJson]
    simp [bind_eq_ok_iff, pure, Except.pure]
  · exact ⟨fun _ => by simp [Table.Holdable], fun _ => ⟨_, rfl⟩⟩
  · intro key v rest ihv ih
    rw [Table.Holdable, List.forall_mem_cons, ← Table.Holdable, ← ihv, ← ih, entriesToJson]
    simp [bind_eq_ok_iff, pure, Except.pure]
  · exact ⟨fun _ => by simp, fun _ => ⟨_, rfl⟩⟩
  · intro t rest iht ih
    rw [List.forall_mem_cons, ← iht, ← ih, tablesToJson]
    simp [bind_eq_ok_iff, pure, Except.pure]

/-- A table can be held exactly if every number in it can. -/
theorem Table.exists_toJson_iff {t : Table} : (∃ j, t.toJson = .ok j) ↔ t.Holdable := by
  rw [← PatchSandbox.Toml.exists_toJson_iff.2.2.1 t, Table.toJson]
  cases entriesToJson t <;> simp [Except.map]

/-- Entries become fields under the same keys. -/
theorem forall₂_entriesToJson {t : Table} {fields : List (String × Json)}
    (h : entriesToJson t = .ok fields) :
    List.Forall₂ (fun e f => f.1 = e.1 ∧ e.2.toJson = .ok f.2) t fields := by
  induction t generalizing fields with
  | nil =>
      obtain rfl := Except.ok.inj h
      exact .nil
  | cons e t ih =>
      rw [entriesToJson] at h
      obtain ⟨j, hj, h⟩ := Shape.ok_of_bind h
      obtain ⟨rest, hrest, h⟩ := Shape.ok_of_bind h
      obtain rfl := Except.ok.inj h
      exact .cons ⟨rfl, hj⟩ (ih hrest)

theorem keys_entriesToJson {t : Table} {fields : List (String × Json)}
    (h : entriesToJson t = .ok fields) : fields.map (·.1) = t.map (·.1) := by
  have both := forall₂_entriesToJson h
  clear h
  induction both with
  | nil => rfl
  | cons same _ ih => rw [List.map_cons, List.map_cons, ih, same.1]

theorem find?_entriesToJson {t : Table} {fields : List (String × Json)}
    (h : entriesToJson t = .ok fields) (key : String) :
    match t.find? key with
    | none => fields.find? (·.1 == key) = none
    | some v => ∃ u, v.toJson = .ok u ∧ fields.find? (·.1 == key) = some (key, u) := by
  have both := forall₂_entriesToJson h
  clear h
  induction both with
  | nil => rfl
  | @cons e f t fields same rest ih =>
      obtain ⟨name, v⟩ := e
      obtain ⟨name', u⟩ := f
      obtain ⟨rfl, hu⟩ := same
      by_cases hk : key = name'
      · subst hk
        have found : Table.find? ((key, v) :: t) key = some v := by simp [Table.find?]
        rw [found]
        exact ⟨u, hu, by simp⟩
      · have other : (name' == key) = false := by simpa using Ne.symm hk
        have other' : (key == name') = false := by simpa using hk
        have tail : Table.find? ((name', v) :: t) key = Table.find? t key := by
          rw [Table.find?, List.lookup_cons, other']
          rfl
        rw [tail, List.find?_cons, other]
        exact ih

/-- **A table as JSON** has under each key what the table has there. -/
theorem Table.toJson_eq_ok {t : Table} {j : Json} (hd : t.Distinct) (h : t.toJson = .ok j) :
    ∃ fields, j = .obj fields ∧ (fields.map (·.1)).Nodup ∧
      ∀ key, match t.find? key with
        | none => j.field? key = none
        | some v => ∃ u, v.toJson = .ok u ∧ j.field? key = some u := by
  obtain ⟨fields, hf, rfl⟩ := Shape.map_eq_ok h
  have nodup : (fields.map (·.1)).Nodup := keys_entriesToJson hf ▸ hd.keys
  have perm := Json.sortFields_perm nodup
  refine ⟨_, rfl, (perm.map _).nodup_iff.mpr nodup, fun key => ?_⟩
  have found := find?_entriesToJson hf key
  rw [Json.object, Json.field?_obj, Shape.find?_perm perm nodup]
  split at found
  · simp [found]
  · obtain ⟨u, hu, found⟩ := found
    exact ⟨u, hu, by simp [found]⟩

end PatchSandbox.Toml
