import PatchSandbox.Proofs.Json.Sorted
import PatchSandbox.Proofs.Op.Wire

/-!
# Reading shapes

What is common to all that is read from JSON values, whatever record or tagged choice it is.

* **`Shape.Steady`** says of a reader that it does not matter to it in which order the fields of an
  object come. Records and tagged choices are read in that way (`steady_record`, `steady_tagged`).
* **`record_eq_ok`**, **`tagged_eq_ok`** and **`list_eq_ok`** say where the parts of what was read
  come from: they are read from parts of the JSON value.
* **`RoundTrips`** is what is asked of a wire form. **`RoundTrips.of_reads`** reduces it to two
  facts: what fits is read back however it is laid out, and whatever is read fits.
-/

namespace PatchSandbox

namespace Shape

variable {α β : Type}

/-- What a bind gives comes from what its first part gives. -/
theorem ok_of_bind {ε : Type} {x : Except ε α} {f : α → Except ε β} {b : β}
    (h : (x >>= f) = .ok b) : ∃ a, x = .ok a ∧ f a = .ok b := by
  cases x with
  | error e => cases h
  | ok a => exact ⟨a, rfl, h⟩

/-! ### Records -/

/-- A loop of checks succeeds exactly if all of them do. -/
theorem forIn_eq_ok {ε : Type} {body : β → PUnit → Except ε (ForInStep PUnit)}
    {check : β → Except ε Unit} {items : List β}
    (hb : ∀ b, body b ⟨⟩ = (check b).map fun _ => .yield ⟨⟩) :
    forIn items PUnit.unit body = .ok ⟨⟩ ↔ ∀ b ∈ items, check b = .ok () := by
  induction items with
  | nil => simp [pure, Except.pure]
  | cons b items ih =>
      rw [List.forIn_cons, hb]
      cases hc : check b with
      | error e => simp [Except.map, bind, Except.bind, hc]
      | ok u =>
          have rest : (forIn items PUnit.unit body = .ok ⟨⟩) ↔ ∀ b ∈ items, check b = .ok () := ih
          simp [Except.map, bind, Except.bind, hc, rest]

/-- What a record says of one field. -/
def checkField (checks : List (String × (Json → Result Unit))) (f : String × Json) : Result Unit :=
  match checks.find? (·.1 == f.1) with
  | some (_, item) => item f.2
  | none => .ok ()

/-- **An object** is read as a record if no field is ill shaped and its parts build one. -/
theorem record_obj_eq_ok {what : String} {surplus : Surplus}
    {checks : List (String × (Json → Result Unit))} {build : Fields → Result α}
    {fields : List (String × Json)} {a : α} :
    record what surplus checks build (.obj fields) = .ok a ↔
      (∀ f ∈ fields, checkField checks f = .ok ()) ∧ build (.ofObject fields) = .ok a := by
  constructor
  · intro h
    simp only [record] at h
    obtain ⟨u, loop, built⟩ := ok_of_bind h
    refine ⟨(forIn_eq_ok fun f => ?_).mp loop, built⟩
    unfold checkField
    cases checks.find? (·.1 == f.1) with
    | none => rfl
    | some c => cases hc : c.2 f.2 <;> simp [hc, Except.map, bind, Except.bind, pure, Except.pure]
  · rintro ⟨passed, built⟩
    rw [record_obj]
    · exact built
    intro f hf c hc
    have := passed f hf
    rw [Option.mem_def] at hc
    simpa [checkField, hc] using this

/-- Among fields with keys of their own, one is found under its key. -/
theorem find?_eq_some_iff {fields : List (String × α)} (hn : (fields.map (·.1)).Nodup)
    {name : String} {f : String × α} :
    fields.find? (·.1 == name) = some f ↔ f ∈ fields ∧ f.1 = name := by
  constructor
  · intro h
    exact ⟨List.mem_of_find?_eq_some h, by simpa using List.find?_some h⟩
  · rintro ⟨hf, rfl⟩
    cases h : fields.find? (·.1 == f.1) with
    | none => exact absurd (List.find?_eq_none.mp h f hf) (by simp)
    | some f' =>
        have key : f'.1 = f.1 := by simpa using List.find?_some h
        exact congrArg some (List.inj_on_of_nodup_map hn (List.mem_of_find?_eq_some h) hf key)

theorem find?_perm {fields fields' : List (String × α)} (hp : fields'.Perm fields)
    (hn : (fields.map (·.1)).Nodup) (name : String) :
    fields'.find? (·.1 == name) = fields.find? (·.1 == name) := by
  have hn' : (fields'.map (·.1)).Nodup := (hp.map Prod.fst).nodup_iff.mpr hn
  refine Option.ext fun f => ?_
  rw [find?_eq_some_iff hn, find?_eq_some_iff hn', hp.mem_iff]

/-- What is looked up in fields with keys of their own does not depend on their order. -/
theorem ofObject_perm {fields fields' : List (String × Json)} (hp : fields'.Perm fields)
    (hn : (fields.map (·.1)).Nodup) : Fields.ofObject fields' = Fields.ofObject fields := by
  unfold Fields.ofObject
  simp only [find?_perm hp hn]

/-- The order of the fields of an object does not matter. -/
def Steady (read : Json → Result α) : Prop :=
  ∀ ⦃fields fields' : List (String × Json)⦄ ⦃a : α⦄, fields'.Perm fields →
    (fields.map (·.1)).Nodup → read (.obj fields) = .ok a → read (.obj fields') = .ok a

theorem steady_record {what : String} {surplus : Surplus}
    {checks : List (String × (Json → Result Unit))} {build : Fields → Result α} :
    Steady (record what surplus checks build) := by
  intro fields fields' a hp hn h
  obtain ⟨passed, built⟩ := record_obj_eq_ok.mp h
  refine record_obj_eq_ok.mpr ⟨fun f hf => passed f (hp.subset hf), ?_⟩
  rw [ofObject_perm hp hn]
  exact built

theorem steady_unit {a : α} : Steady (unit a) := fun _ _ _ _ _ h => h

/-- **A tagged choice** is steady if each of its alternatives is. -/
theorem steady_tagged {what tag : String} {known : List String}
    {build : String → Json → Result α} (hb : ∀ label, Steady (build label)) :
    Steady (tagged what tag known build) := by
  intro fields fields' a hp hn h
  simp only [tagged] at h ⊢
  rw [find?_perm hp hn]
  cases ht : fields.find? (·.1 == tag) with
  | none => simp [ht] at h
  | some f =>
      simp only [ht] at h ⊢
      obtain ⟨label, hl, built⟩ := ok_of_bind h
      have rest : ((fields.filter (·.1 != tag)).map (·.1)).Nodup :=
        hn.sublist (List.filter_sublist.map _)
      rw [hl]
      exact hb label (hp.filter _) rest built

/-- A steady reader reads an object that is laid out anew. -/
theorem Steady.layout {read : Json → Result α} (hs : Steady read) {g : Json → Json}
    (hg : Json.Layout g) {fields : List (String × Json)} {a : α}
    (hn : (fields.map (·.1)).Nodup)
    (h : read (.obj (fields.map fun f => (f.1, g f.2))) = .ok a) :
    read (g (.obj fields)) = .ok a := by
  obtain ⟨fields', he, hp⟩ := hg.obj fields hn
  have keys : ((fields.map fun f => (f.1, g f.2)).map (·.1)).Nodup := by
    rw [List.map_map]
    exact hn
  rw [he]
  exact hs hp keys h

theorem check_ok {item : Json → Result α} {j : Json} {a : α} (h : item j = .ok a) :
    check item j = .ok () := by
  rw [check, h]
  rfl

@[simp] theorem check_text (s : String) : check text (.str s) = .ok () := rfl

@[simp] theorem check_bool (b : Bool) : check bool (.bool b) = .ok () := rfl

@[simp] theorem check_any (j : Json) : check any j = .ok () := rfl

/-- **A tagged choice** that is laid out anew is read as the record behind its tag. -/
theorem reads_tagged {what tag label : String} {known : List String}
    {build : String → Json → Result α} (hb : ∀ label, Steady (build label)) (hk : label ∈ known)
    {g : Json → Json} (hg : Json.Layout g) {fields : List (String × Json)} {a : α}
    (hn : (tag :: fields.map (·.1)).Nodup)
    (h : build label (.obj (fields.map fun f => (f.1, g f.2))) = .ok a) :
    tagged what tag known build (g (.obj ((tag, .str label) :: fields))) = .ok a := by
  refine (steady_tagged hb).layout hg (by simpa using hn) ?_
  rw [List.map_cons, hg.str, tagged_cons hk]
  · exact h
  intro f hf he
  obtain ⟨f', hf', rfl⟩ := List.mem_map.mp hf
  exact (List.nodup_cons.mp hn).1 (List.mem_map.mpr ⟨f', hf', he⟩)

/-! ### Parts -/

/-- All parts of a record are such as a table can hold. -/
def Fields.Sound (r : Fields) : Prop := ∀ name j, r.get? name = some j → j.Sound

/-- **What is read as a record** is built of parts of the value. -/
theorem record_eq_ok {what : String} {surplus : Surplus}
    {checks : List (String × (Json → Result Unit))} {build : Fields → Result α} {j : Json} {a : α}
    (hj : j.Sound) (h : record what surplus checks build j = .ok a) :
    ∃ r : Fields, r.Sound ∧ build r = .ok a := by
  cases hj with
  | @obj fields ho hf =>
      refine ⟨.ofObject fields, fun name v hv => ?_, (record_obj_eq_ok.mp h).2⟩
      obtain ⟨f, found, rfl⟩ := Option.map_eq_some_iff.mp hv
      exact hf f (List.mem_of_find?_eq_some found)
  | @arr items hi =>
      simp only [record] at h
      obtain ⟨b, built, h⟩ := ok_of_bind h
      obtain rfl : b = a := by
        cases he : surplus.error? checks.length items.length with
        | none => simpa [he] using h
        | some e => simp [he] at h
      refine ⟨_, fun name v hv => ?_, built⟩
      obtain ⟨f, found, rfl⟩ := Option.map_eq_some_iff.mp hv
      exact hi _ (List.of_mem_zip (List.mem_of_find?_eq_some found)).2
  | _ => simp [record] at h

/-- What is read as a tagged choice is one of its alternatives, read from a part of the value. -/
theorem tagged_eq_ok {what tag : String} {known : List String}
    {build : String → Json → Result α} {j : Json} {a : α} (hj : j.Sound)
    (h : tagged what tag known build j = .ok a) :
    ∃ label ∈ known, ∃ v : Json, v.Sound ∧ build label v = .ok a := by
  have alternative {t : Json} {label : String} (hl : variant t known = .ok label) :
      label ∈ known := by
    cases t with
    | str s =>
        by_cases hs : s ∈ known
        · obtain rfl : s = label := by simpa [variant, hs] using hl
          exact hs
        · simp [variant, hs] at hl
    | _ => simp [variant] at hl
  cases hj with
  | @obj fields ho hf =>
      simp only [tagged] at h
      cases ht : fields.find? (·.1 == tag) with
      | none => simp [ht] at h
      | some f =>
          simp only [ht] at h
          obtain ⟨label, hl, built⟩ := ok_of_bind h
          refine ⟨label, alternative hl, _, .obj (ho.filter _) fun f hm => ?_, built⟩
          exact hf f (List.mem_of_mem_filter hm)
  | @arr items hi =>
      cases items with
      | nil => simp [tagged] at h
      | cons t items =>
          simp only [tagged] at h
          obtain ⟨label, hl, built⟩ := ok_of_bind h
          exact ⟨label, alternative hl, _, .arr fun v hv => hi v (List.mem_cons_of_mem _ hv), built⟩
  | _ => simp [tagged] at h

theorem unit_eq_ok {a b : α} {j : Json} (h : unit a j = .ok b) : a = b := by
  unfold unit at h
  split at h
  · cases h
  · exact Except.ok.inj h

/-- A field that has to be there was there. -/
theorem required_eq_ok {r : Fields} {name : String} {item : Json → Result α} {a : α}
    (hr : r.Sound) (h : r.required name item = .ok a) : ∃ v : Json, v.Sound ∧ item v = .ok a := by
  unfold Fields.required at h
  cases hv : r.get? name with
  | none => simp [hv] at h
  | some v =>
      rw [hv] at h
      exact ⟨v, hr name v hv, h⟩

theorem optional_eq_ok {r : Fields} {name : String} {item : Json → Result (Option α)} {a : α}
    (hr : r.Sound) (h : r.optional name item = .ok (some a)) :
    ∃ v : Json, v.Sound ∧ item v = .ok (some a) := by
  unfold Fields.optional at h
  cases hv : r.get? name with
  | none => cases hm : r.mayOmit <;> simp [hv, hm] at h
  | some v =>
      rw [hv] at h
      exact ⟨v, hr name v hv, h⟩

theorem map_eq_ok {ε : Type} {x : Except ε α} {f : α → β} {b : β} (h : x.map f = .ok b) :
    ∃ a, x = .ok a ∧ f a = b := by
  cases x with
  | error e => cases h
  | ok a => exact ⟨a, rfl, Except.ok.inj h⟩

theorem nullable_eq_ok {item : Json → Result α} {j : Json} {a : α}
    (h : nullable item j = .ok (some a)) : item j = .ok a := by
  have there (hm : (item j).map some = .ok (some a)) : item j = .ok a := by
    obtain ⟨b, hb, he⟩ := map_eq_ok hm
    rw [hb, Option.some.inj he]
  cases j with
  | null => simp [nullable] at h
  | _ => exact there h

theorem nullable_ok {item : Json → Result α} {j : Json} {a : α} (h : item j = .ok a)
    (hn : j ≠ .null) : nullable item j = .ok (some a) := by
  cases j with
  | null => exact absurd rfl hn
  | _ =>
      rw [nullable, h]
      · rfl
      · exact hn

/-- **Each item of a list** is read from an item of the value. -/
theorem list_eq_ok {item : Json → Result α} {j : Json} {as : List α} (hj : j.Sound)
    (h : list item j = .ok as) : ∀ a ∈ as, ∃ v : Json, v.Sound ∧ item v = .ok a := by
  cases hj with
  | @arr items hi =>
      simp only [list] at h
      induction items generalizing as with
      | nil =>
          obtain rfl : [] = as := Except.ok.inj h
          simp
      | cons v items ih =>
          rw [List.mapM_cons] at h
          obtain ⟨a, ha, h⟩ := ok_of_bind h
          obtain ⟨rest, hr, h⟩ := ok_of_bind h
          obtain rfl : a :: rest = as := Except.ok.inj h
          intro b hb
          rcases List.mem_cons.mp hb with rfl | hb
          · exact ⟨v, hi v (List.mem_cons_self ..), ha⟩
          · exact ih (fun v hv => hi v (List.mem_cons_of_mem _ hv)) hr b hb
  | _ => simp [list] at h

/-- A list whose items are read back is read back. -/
theorem list_arr {item : Json → Result α} {write : α → Json} {as : List α}
    (h : ∀ a ∈ as, item (write a) = .ok a) : list item (.arr (as.map write)) = .ok as := by
  simp only [list]
  induction as with
  | nil => rfl
  | cons a as ih =>
      rw [List.map_cons, List.mapM_cons, h a (List.mem_cons_self ..),
        ih fun b hb => h b (List.mem_cons_of_mem _ hb)]
      rfl

/-! ### Numbers -/

theorem natural_nat {bits : Nat} {expected : String} {n : Nat} (hn : n < 2 ^ bits) :
    natural bits expected (.nat n) = .ok n := by
  have fits : 0 ≤ (n : Int) ∧ (n : Int) < (Nat.pow 2 bits : Nat) :=
    ⟨Int.natCast_nonneg n, by exact_mod_cast hn⟩
  rw [Json.nat, natural, if_pos fits]
  rfl

theorem natural_eq_ok {bits : Nat} {expected : String} {j : Json} {n : Nat}
    (h : natural bits expected j = .ok n) : n < 2 ^ bits := by
  cases j with
  | num x =>
      cases x with
      | int i =>
          rw [natural] at h
          split at h
          case isTrue fits =>
              obtain rfl : i.toNat = n := Except.ok.inj h
              have : (i.toNat : Int) < (Nat.pow 2 bits : Nat) := by omega
              exact_mod_cast this
          case isFalse =>
              split at h
              · cases h
              · split at h <;> cases h
      | float f => simp [natural] at h
  | _ => simp [natural] at h

end Shape

/-! ### Wire forms -/

/-- What is asked of a wire form, for the values that fit it. The parts of a value that may be any
JSON are free. -/
structure RoundTrips {α : Type} (toJson : α → Json) (decode : Json → Shape.Result α)
    (Fits : α → Prop) (free : α → List Json) : Prop where
  /-- What is written is read back. -/
  back : ∀ a, Fits a → decode (toJson a) = .ok a
  /-- It is read back however its fields are laid out, as long as its free parts stay. -/
  laid_out : ∀ g, Json.Layout g → ∀ a, Fits a → (∀ j ∈ free a, g j = j) →
    decode (g (toJson a)) = .ok a
  /-- Whatever was read, in whichever form, and is written anew is read as the same again, also
  out of a table. -/
  again : ∀ j a, j.Sound → decode j = .ok a →
    decode (toJson a) = .ok a ∧ decode (toJson a).sorted = .ok a

theorem RoundTrips.of_reads {α : Type} {toJson : α → Json} {decode : Json → Shape.Result α}
    {Fits : α → Prop} {free : α → List Json}
    (reads : ∀ g, Json.Layout g → ∀ a, Fits a → (∀ j ∈ free a, g j = j) →
      decode (g (toJson a)) = .ok a)
    (fits : ∀ j a, j.Sound → decode j = .ok a → Fits a ∧ ∀ v ∈ free a, v.Sound) :
    RoundTrips toJson decode Fits free where
  back a ha := reads id Json.layout_id a ha fun _ _ => rfl
  laid_out := reads
  again j a hj h := by
    obtain ⟨ha, hfree⟩ := fits j a hj h
    exact ⟨reads id Json.layout_id a ha fun _ _ => rfl,
      reads Json.sorted Json.layout_sorted a ha fun v hv => (hfree v hv).sorted_eq⟩

end PatchSandbox
