import PatchSandbox.Proofs.Json.Reading

/-!
# Which values are ops

**`Op.Spells`** is the grammar of ops: which fields an object has to have so that it stands for an
op, and what the op carries. **`Op.recognition_exact`** says that `recognize` takes what the grammar
derives and nothing else, and that `declared` selects such entries in their order.

A record is read field by field, and each field is checked twice, once on its own and once when the
record is put together. Where no key comes twice the second check covers the first
(**`Shape.record_obj_iff`**), so a record is read exactly if its required fields are there and have
their shapes.
-/

namespace PatchSandbox

namespace Json

/-- What a JSON value can be: every number is an integer of sixty-four bits or a finite double, and
no object has a key twice. Unlike in a `Sound` value, the fields may come in any order. -/
inductive Proper : Json → Prop
  | null : Proper .null
  | bool (b : Bool) : Proper (.bool b)
  | num {n : Number} (hn : n.IsSound) : Proper (.num n)
  | str (s : String) : Proper (.str s)
  | arr {items : List Json} (hi : ∀ j ∈ items, Proper j) : Proper (.arr items)
  | obj {fields : List (String × Json)} (hk : (fields.map (·.1)).Nodup)
      (hf : ∀ f ∈ fields, Proper f.2) : Proper (.obj fields)

/-- A field is one of the fields. -/
theorem field?_obj_eq_some_iff {fields : List (String × Json)} (hk : (fields.map (·.1)).Nodup)
    {key : String} {j : Json} : (Json.obj fields).field? key = some j ↔ (key, j) ∈ fields := by
  rw [field?_obj, Option.map_eq_some_iff]
  constructor
  · rintro ⟨f, found, rfl⟩
    obtain ⟨hf, rfl⟩ := (Shape.find?_eq_some_iff hk).mp found
    exact hf
  · exact fun h => ⟨_, (Shape.find?_eq_some_iff hk).mpr ⟨h, rfl⟩, rfl⟩

theorem Proper.field {j v : Json} (hj : j.Proper) {key : String} (h : j.field? key = some v) :
    v.Proper := by
  cases hj with
  | obj hk hf => exact hf _ ((field?_obj_eq_some_iff hk).mp h)
  | _ => cases h

theorem Proper.isSound {n : Number} (h : (Json.num n).Proper) : n.IsSound := by
  cases h with
  | num hn => exact hn

/-- Fields under other keys do not matter. -/
theorem field?_filter {fields : List (String × Json)} (hk : (fields.map (·.1)).Nodup)
    {key tag : String} (ht : key ≠ tag) :
    (Json.obj (fields.filter (·.1 != tag))).field? key = (Json.obj fields).field? key := by
  have rest : ((fields.filter (·.1 != tag)).map (·.1)).Nodup :=
    hk.sublist (List.filter_sublist.map _)
  refine Option.ext fun j => ?_
  rw [field?_obj_eq_some_iff rest, field?_obj_eq_some_iff hk, List.mem_filter]
  simp [ht]

end Json

namespace Shape

variable {α β : Type}

/-! ### What a record and a tagged choice need -/

theorem bind_eq_ok_iff {ε : Type} {x : Except ε α} {f : α → Except ε β} {b : β} :
    (x >>= f) = .ok b ↔ ∃ a, x = .ok a ∧ f a = .ok b := by
  refine ⟨ok_of_bind, ?_⟩
  rintro ⟨a, rfl, h⟩
  exact h

theorem text_eq_ok_iff {j : Json} {s : String} : text j = .ok s ↔ j = .str s := by
  cases j <;> simp [text]

theorem bool_eq_ok_iff {j : Json} {b : Bool} : bool j = .ok b ↔ j = .bool b := by
  cases j <;> simp [bool]

theorem float_eq_ok_iff {j : Json} {x : Float} :
    float j = .ok x ↔ ∃ n, j = .num n ∧ n.toFloat = x := by
  cases j <;> simp [float]

theorem any_eq_ok_iff {j v : Json} : any j = .ok v ↔ j = v := by simp [any]

/-- A field is there and has its shape. -/
def Holds (fields : List (String × Json)) (name : String) (item : Json → Result α) (a : α) : Prop :=
  ∃ v, (Json.obj fields).field? name = some v ∧ item v = .ok a

theorem required_eq_ok_iff {fields : List (String × Json)} {name : String}
    {item : Json → Result α} {a : α} :
    (Fields.ofObject fields).required name item = .ok a ↔ Holds fields name item a := by
  have same : (Fields.ofObject fields).get? name = (Json.obj fields).field? name := rfl
  unfold Fields.required Holds
  rw [same]
  cases (Json.obj fields).field? name with
  | none => simp
  | some v => simp only [Option.some.injEq, exists_eq_left']

/-- **An object without repeated keys** is read as a record exactly if its parts build one, as long
as building it takes every field that is checked. -/
theorem record_obj_iff {what : String} {surplus : Surplus}
    {checks : List (String × (Json → Result Unit))} {build : Fields → Result α}
    {fields : List (String × Json)} {a : α} (hk : (fields.map (·.1)).Nodup)
    (covered : build (.ofObject fields) = .ok a → ∀ c ∈ checks, Holds fields c.1 c.2 ()) :
    record what surplus checks build (.obj fields) = .ok a ↔
      build (.ofObject fields) = .ok a := by
  rw [record_obj_eq_ok]
  refine ⟨fun h => h.2, fun built => ⟨fun f hf => ?_, built⟩⟩
  unfold checkField
  cases found : checks.find? (·.1 == f.1) with
  | none => rfl
  | some c =>
      have key : c.1 = f.1 := by simpa using List.find?_some found
      obtain ⟨v, hv, passed⟩ := covered built c (List.mem_of_find?_eq_some found)
      have here : (Json.obj fields).field? c.1 = some f.2 :=
        (Json.field?_obj_eq_some_iff hk).mpr (key ▸ hf)
      rw [here] at hv
      exact Option.some.inj hv ▸ passed

theorem Holds.checked {fields : List (String × Json)} {name : String} {item : Json → Result α}
    {a : α} (h : Holds fields name item a) : Holds fields name (check item) () := by
  obtain ⟨v, hv, read⟩ := h
  exact ⟨v, hv, check_ok read⟩

section

variable {γ : Type} {what : String} {surplus : Surplus} {fields : List (String × Json)}

/-- A record of one field. -/
theorem record_one_iff {name : String} {item : Json → Result α} {make : α → γ} {c : γ}
    (hk : (fields.map (·.1)).Nodup) :
    record what surplus [(name, check item)]
        (fun r => do .ok (make (← r.required name item))) (.obj fields) = .ok c ↔
      ∃ a, Holds fields name item a ∧ make a = c := by
  have built : (do .ok (make (← (Fields.ofObject fields).required name item))) = Except.ok c ↔
      ∃ a, Holds fields name item a ∧ make a = c := by
    simp only [bind_eq_ok_iff, required_eq_ok_iff, Except.ok.injEq]
  rw [record_obj_iff hk, built]
  rw [built]
  rintro ⟨a, ha, -⟩
  simpa using ha.checked

/-- A record of two fields. -/
theorem record_two_iff {name name' : String} {item : Json → Result α} {item' : Json → Result β}
    {make : α → β → γ} {c : γ} (hk : (fields.map (·.1)).Nodup) :
    record what surplus [(name, check item), (name', check item')]
        (fun r => do .ok (make (← r.required name item) (← r.required name' item')))
        (.obj fields) = .ok c ↔
      ∃ a b, Holds fields name item a ∧ Holds fields name' item' b ∧ make a b = c := by
  have built : (do
        .ok (make (← (Fields.ofObject fields).required name item)
          (← (Fields.ofObject fields).required name' item'))) = Except.ok c ↔
      ∃ a b, Holds fields name item a ∧ Holds fields name' item' b ∧ make a b = c := by
    simp only [bind_eq_ok_iff, required_eq_ok_iff, Except.ok.injEq, exists_and_left]
  rw [record_obj_iff hk, built]
  rw [built]
  rintro ⟨a, b, ha, hb, -⟩
  simpa using ⟨ha.checked, hb.checked⟩

end

/-- **An object** is read as a tagged choice exactly if its tag is known and what is left of it is
read. -/
theorem tagged_obj_iff {what tag : String} {known : List String}
    {build : String → Json → Result α} {fields : List (String × Json)} {a : α} :
    tagged what tag known build (.obj fields) = .ok a ↔
      ∃ label ∈ known, (Json.obj fields).field? tag = some (.str label) ∧
        build label (.obj (fields.filter (·.1 != tag))) = .ok a := by
  have alternative {t : Json} {label : String} :
      variant t known = .ok label ↔ label ∈ known ∧ t = .str label := by
    cases t with
    | str s => by_cases hs : s ∈ known <;> grind [variant]
    | _ => simp [variant]
  rw [Json.field?_obj]
  simp only [tagged]
  cases fields.find? (·.1 == tag) with
  | none => simp
  | some f =>
      simp only [bind_eq_ok_iff, alternative, Option.map_some, Option.some.injEq, and_assoc]

end Shape

namespace Op

/-! ### The grammar -/

/-- The fields that a value has to have so that it stands for an op. What else it has does not
matter. -/
inductive Spells (j : Json) : Op → Prop
  | setRule {path : String} {value : Number} (tag : j.field? "op" = some (.str "setRule"))
      (hpath : j.field? "path" = some (.str path)) (named : path ≠ "")
      (hvalue : j.field? "value" = some (.num value)) : Spells j (.setRule path value.toFloat)
  | setAbility {name : String} {active : Bool} (tag : j.field? "op" = some (.str "setAbility"))
      (hname : j.field? "name" = some (.str name)) (named : name ≠ "")
      (hactive : j.field? "active" = some (.bool active)) : Spells j (.setAbility name active)
  | removeEntities {filter : Json} (tag : j.field? "op" = some (.str "removeEntities"))
      (hfilter : j.field? "filter" = some filter) : Spells j (.removeEntities filter)
  | emit {payload : Json} (tag : j.field? "op" = some (.str "emit"))
      (hpayload : j.field? "payload" = some payload) : Spells j (.emit payload)

/-- The fields that matter to an op. -/
def keys : Op → List String
  | .setRule _ _ => ["op", "path", "value"]
  | .setAbility _ _ => ["op", "name", "active"]
  | .removeEntities _ => ["op", "filter"]
  | .emit _ => ["op", "payload"]

/-- Of some values those that stand for an op, in their order. -/
inductive Selects : List Json → List Op → Prop
  | nil : Selects [] []
  | keep {j : Json} {op : Op} {rest : List Json} {ops : List Op} (h : Spells j op)
      (hr : Selects rest ops) : Selects (j :: rest) (op :: ops)
  | skip {j : Json} {rest : List Json} {ops : List Op} (h : ∀ op, ¬ Spells j op)
      (hr : Selects rest ops) : Selects (j :: rest) ops

/-- What a completion value declares: a selection of its array of ops, or nothing where there is no
such array. -/
inductive Declares (output : Json) : List Op → Prop
  | selection {entries : List Json} {ops : List Op} (h : output.field? "ops" = some (.arr entries))
      (hs : Selects entries ops) : Declares output ops
  | nothing (h : ∀ entries, output.field? "ops" ≠ some (.arr entries)) : Declares output []

theorem Spells.congr {j j' : Json} {op : Op} (h : Spells j op)
    (same : ∀ key ∈ op.keys, j'.field? key = j.field? key) : Spells j' op := by
  simp only [keys] at same
  cases h with
  | setRule tag hpath named hvalue =>
      exact .setRule ((same _ (by simp)).trans tag) ((same _ (by simp)).trans hpath) named
        ((same _ (by simp)).trans hvalue)
  | setAbility tag hname named hactive =>
      exact .setAbility ((same _ (by simp)).trans tag) ((same _ (by simp)).trans hname) named
        ((same _ (by simp)).trans hactive)
  | removeEntities tag hfilter =>
      exact .removeEntities ((same _ (by simp)).trans tag) ((same _ (by simp)).trans hfilter)
  | emit tag hpayload =>
      exact .emit ((same _ (by simp)).trans tag) ((same _ (by simp)).trans hpayload)

/-! ### What is decoded -/

open Shape (Holds)

/-- What fields are read as once the tag is known. -/
inductive Carries (fields : List (String × Json)) : Op → Prop
  | setRule {path : String} {value : Float} (hpath : Holds fields "path" Shape.text path)
      (hvalue : Holds fields "value" Shape.float value) : Carries fields (.setRule path value)
  | setAbility {name : String} {active : Bool} (hname : Holds fields "name" Shape.text name)
      (hactive : Holds fields "active" Shape.bool active) : Carries fields (.setAbility name active)
  | removeEntities {filter : Json} (hfilter : Holds fields "filter" Shape.any filter) :
      Carries fields (.removeEntities filter)
  | emit {payload : Json} (hpayload : Holds fields "payload" Shape.any payload) :
      Carries fields (.emit payload)

theorem decodeTagged_obj_iff {fields : List (String × Json)} (hk : (fields.map (·.1)).Nodup)
    {label : String} {op : Op} (hl : label ∈ labels) :
    decodeTagged label (.obj fields) = .ok op ↔ op.label = label ∧ Carries fields op := by
  simp only [labels, List.mem_cons, List.not_mem_nil, or_false] at hl
  rcases hl with rfl | rfl | rfl | rfl
  · rw [decodeTagged, if_pos rfl, Shape.record_two_iff hk]
    constructor
    · rintro ⟨path, value, hpath, hvalue, rfl⟩
      exact ⟨rfl, .setRule hpath hvalue⟩
    · rintro ⟨named, carries⟩
      cases carries with
      | setRule hpath hvalue => exact ⟨_, _, hpath, hvalue, rfl⟩
      | _ => simp [label] at named
  · rw [decodeTagged, if_neg (by decide), if_pos rfl, Shape.record_two_iff hk]
    constructor
    · rintro ⟨name, active, hname, hactive, rfl⟩
      exact ⟨rfl, .setAbility hname hactive⟩
    · rintro ⟨named, carries⟩
      cases carries with
      | setAbility hname hactive => exact ⟨_, _, hname, hactive, rfl⟩
      | _ => simp [label] at named
  · rw [decodeTagged, if_neg (by decide), if_neg (by decide), if_pos rfl, Shape.record_one_iff hk]
    constructor
    · rintro ⟨filter, hfilter, rfl⟩
      exact ⟨rfl, .removeEntities hfilter⟩
    · rintro ⟨named, carries⟩
      cases carries with
      | removeEntities hfilter => exact ⟨_, hfilter, rfl⟩
      | _ => simp [label] at named
  · rw [decodeTagged, if_neg (by decide), if_neg (by decide), if_neg (by decide),
      Shape.record_one_iff hk]
    constructor
    · rintro ⟨payload, hpayload, rfl⟩
      exact ⟨rfl, .emit hpayload⟩
    · rintro ⟨named, carries⟩
      cases carries with
      | emit hpayload => exact ⟨_, hpayload, rfl⟩
      | _ => simp [label] at named

/-- The tag is not among the fields that an op carries. -/
theorem Carries.congr {fields fields' : List (String × Json)} {op : Op} (h : Carries fields op)
    (same : ∀ key, key ≠ "op" → (Json.obj fields').field? key = (Json.obj fields).field? key) :
    Carries fields' op := by
  have holds {α : Type} {name : String} {item : Json → Shape.Result α} {a : α} (hn : name ≠ "op")
      (h : Holds fields name item a) : Holds fields' name item a := by
    obtain ⟨v, hv, read⟩ := h
    exact ⟨v, (same name hn).trans hv, read⟩
  cases h with
  | setRule hpath hvalue => exact .setRule (holds (by decide) hpath) (holds (by decide) hvalue)
  | setAbility hname hactive =>
      exact .setAbility (holds (by decide) hname) (holds (by decide) hactive)
  | removeEntities hfilter => exact .removeEntities (holds (by decide) hfilter)
  | emit hpayload => exact .emit (holds (by decide) hpayload)

theorem carries_filter_iff {fields : List (String × Json)} (hk : (fields.map (·.1)).Nodup)
    {op : Op} : Carries (fields.filter (·.1 != "op")) op ↔ Carries fields op :=
  ⟨fun h => h.congr fun _ hn => (Json.field?_filter hk hn).symm,
    fun h => h.congr fun _ hn => Json.field?_filter hk hn⟩

/-- **An object** is decoded as an op exactly if it has the tag of the op and carries it. -/
theorem decode_obj_iff {fields : List (String × Json)} (hk : (fields.map (·.1)).Nodup) {op : Op} :
    decode (.obj fields) = .ok op ↔
      (Json.obj fields).field? "op" = some (.str op.label) ∧ Carries fields op := by
  have rest : ((fields.filter (·.1 != "op")).map (·.1)).Nodup :=
    hk.sublist (List.filter_sublist.map _)
  rw [decode, Shape.tagged_obj_iff]
  constructor
  · rintro ⟨label, hl, tag, read⟩
    obtain ⟨rfl, carries⟩ := (decodeTagged_obj_iff rest hl).mp read
    exact ⟨tag, (carries_filter_iff hk).mp carries⟩
  · rintro ⟨tag, carries⟩
    exact ⟨_, label_mem_labels op, tag, (decodeTagged_obj_iff rest (label_mem_labels op)).mpr
      ⟨rfl, (carries_filter_iff hk).mpr carries⟩⟩

/-! ### What is recognized -/

theorem recognize_obj_iff {fields : List (String × Json)} {op : Op} :
    recognize (.obj fields) = some op ↔
      decode (.obj fields) = .ok op ∧ op.isWellFormed = true := by
  have object : (Json.obj fields).isObject = true := rfl
  rw [recognize, if_pos object]
  cases decode (.obj fields) with
  | error e => simp
  | ok read =>
      by_cases wf : read.isWellFormed = true
      · simp only [wf, if_true, Option.some.injEq, Except.ok.injEq]
        exact ⟨fun h => ⟨h, h ▸ wf⟩, fun h => h.1⟩
      · simp only [wf, Bool.false_eq_true, if_false, reduceCtorEq, Except.ok.injEq, false_iff]
        rintro ⟨rfl, h⟩
        exact wf h

/-- What carries a well formed op stands for it. -/
theorem Carries.spells {fields : List (String × Json)} {op : Op} (h : Carries fields op)
    (tag : (Json.obj fields).field? "op" = some (.str op.label)) (wf : op.isWellFormed = true) :
    Spells (.obj fields) op := by
  cases h with
  | setRule hpath hvalue =>
      obtain ⟨v, hv, read⟩ := hpath
      obtain rfl := Shape.text_eq_ok_iff.mp read
      obtain ⟨w, hw, read⟩ := hvalue
      obtain ⟨n, rfl, rfl⟩ := Shape.float_eq_ok_iff.mp read
      simp only [isWellFormed, Bool.and_eq_true, bne_iff_ne] at wf
      exact .setRule tag hv wf.1 hw
  | setAbility hname hactive =>
      obtain ⟨v, hv, read⟩ := hname
      obtain rfl := Shape.text_eq_ok_iff.mp read
      obtain ⟨w, hw, read⟩ := hactive
      obtain rfl := Shape.bool_eq_ok_iff.mp read
      simp only [isWellFormed, bne_iff_ne] at wf
      exact .setAbility tag hv wf hw
  | removeEntities hfilter =>
      obtain ⟨v, hv, read⟩ := hfilter
      obtain rfl := Shape.any_eq_ok_iff.mp read
      exact .removeEntities tag hv
  | emit hpayload =>
      obtain ⟨v, hv, read⟩ := hpayload
      obtain rfl := Shape.any_eq_ok_iff.mp read
      exact .emit tag hv

/-- What stands for an op carries it, and the op is well formed. -/
theorem Spells.carries {fields : List (String × Json)} {op : Op} (h : Spells (.obj fields) op)
    (proper : (Json.obj fields).Proper) :
    ((Json.obj fields).field? "op" = some (.str op.label) ∧ Carries fields op) ∧
      op.isWellFormed = true := by
  cases h with
  | setRule tag hpath named hvalue =>
      -- a number of a JSON value is finite
      have finite : Number.IsSound _ := (proper.field hvalue).isSound
      refine ⟨⟨tag, .setRule ⟨_, hpath, rfl⟩ ⟨_, hvalue, rfl⟩⟩, ?_⟩
      simp [isWellFormed, named, Number.isFinite_toFloat finite]
  | setAbility tag hname named hactive =>
      refine ⟨⟨tag, .setAbility ⟨_, hname, rfl⟩ ⟨_, hactive, rfl⟩⟩, ?_⟩
      simp [isWellFormed, named]
  | removeEntities tag hfilter => exact ⟨⟨tag, .removeEntities ⟨_, hfilter, rfl⟩⟩, rfl⟩
  | emit tag hpayload => exact ⟨⟨tag, .emit ⟨_, hpayload, rfl⟩⟩, rfl⟩

/-- **What is recognized** is what the grammar derives. -/
theorem recognize_eq_some_iff {j : Json} (hj : j.Proper) {op : Op} :
    recognize j = some op ↔ Spells j op := by
  have proper := hj
  cases hj with
  | @obj fields hk hf =>
      rw [recognize_obj_iff, decode_obj_iff hk]
      exact ⟨fun h => h.1.2.spells h.1.1 h.2, fun h => h.carries proper⟩
  | _ =>
      refine ⟨fun h => ?_, fun h => ?_⟩
      · cases h
      · cases h <;> contradiction

theorem recognize_eq_none_iff {j : Json} (hj : j.Proper) :
    recognize j = none ↔ ∀ op, ¬ Spells j op := by
  simp only [← recognize_eq_some_iff hj, Option.eq_none_iff_forall_ne_some, ne_eq]

theorem selects_iff {entries : List Json} (he : ∀ j ∈ entries, j.Proper) {ops : List Op} :
    Selects entries ops ↔ entries.filterMap recognize = ops := by
  induction entries generalizing ops with
  | nil =>
      refine ⟨fun h => ?_, ?_⟩
      · cases h
        rfl
      · rintro rfl
        exact .nil
  | cons j rest ih =>
      have hj := he j (List.mem_cons_self ..)
      have ih {ops : List Op} : Selects rest ops ↔ rest.filterMap recognize = ops :=
        ih fun j hm => he j (List.mem_cons_of_mem _ hm)
      constructor
      · intro h
        cases h with
        | keep h hr =>
            rw [List.filterMap_cons_some ((recognize_eq_some_iff hj).mpr h), ih.mp hr]
        | skip h hr =>
            rw [List.filterMap_cons_none ((recognize_eq_none_iff hj).mpr h), ih.mp hr]
      · rintro rfl
        cases found : recognize j with
        | none =>
            rw [List.filterMap_cons_none found]
            exact .skip ((recognize_eq_none_iff hj).mp found) (ih.mpr rfl)
        | some op =>
            rw [List.filterMap_cons_some found]
            exact .keep ((recognize_eq_some_iff hj).mp found) (ih.mpr rfl)

/-- **What is declared** is the selection of the array of ops. -/
theorem declared_iff {output : Json} (ho : output.Proper) {ops : List Op} :
    declared output = ops ↔ Declares output ops := by
  unfold declared
  split
  case h_1 entries found =>
      have he : ∀ j ∈ entries, j.Proper := by
        cases ho.field found with
        | arr hi => exact hi
      rw [← selects_iff he]
      refine ⟨fun h => .selection found h, fun h => ?_⟩
      cases h with
      | selection h hs =>
          rw [found] at h
          obtain rfl := Json.arr.inj (Option.some.inj h)
          exact hs
      | nothing h => exact absurd found (h entries)
  case h_2 other =>
      refine ⟨?_, fun h => ?_⟩
      · rintro rfl
        exact .nothing other
      · cases h with
        | selection h hs => exact absurd h (other _)
        | nothing h => rfl

/-- The order of the keys does not matter. -/
theorem recognize_perm {fields fields' : List (String × Json)} (hj : (Json.obj fields).Proper)
    (same : fields'.Perm fields) : recognize (.obj fields') = recognize (.obj fields) := by
  obtain ⟨hk, hj'⟩ : (fields.map (·.1)).Nodup ∧ (Json.obj fields').Proper := by
    cases hj with
    | obj hk hf =>
        exact ⟨hk, .obj ((same.map _).nodup_iff.mpr hk) fun f hm => hf f (same.mem_iff.mp hm)⟩
  have field (key : String) : (Json.obj fields').field? key = (Json.obj fields).field? key := by
    rw [Json.field?_obj, Json.field?_obj, Shape.find?_perm same hk]
  refine Option.ext fun op => ?_
  rw [recognize_eq_some_iff hj', recognize_eq_some_iff hj]
  exact ⟨fun h => h.congr fun key _ => (field key).symm, fun h => h.congr fun key _ => field key⟩

/-- **Ops are recognized exactly**: the recognized values are those that the grammar derives, an
op carries what the grammar says, and only objects are recognized. Only the fields that matter to an
op decide whether it is recognized, in whatever order they come. Declared are the recognized
entries of the array of ops, in their order, and none where there is no such array. -/
theorem recognition_exact :
    (∀ (j : Json) (op : Op), j.Proper → (recognize j = some op ↔ Spells j op)) ∧
    (∀ j : Json, j.isObject = false → recognize j = none) ∧
    (∀ (j j' : Json) (op : Op), j.Proper → j'.Proper →
      (∀ key ∈ op.keys, j'.field? key = j.field? key) →
      (recognize j' = some op ↔ recognize j = some op)) ∧
    (∀ fields fields' : List (String × Json), (Json.obj fields).Proper → fields'.Perm fields →
      recognize (.obj fields') = recognize (.obj fields)) ∧
    ∀ (output : Json) (ops : List Op), output.Proper →
      (declared output = ops ↔ Declares output ops) := by
  refine ⟨fun j op hj => recognize_eq_some_iff hj, fun j hj => ?_, fun j j' op hj hj' same => ?_,
    fun fields fields' hj same => recognize_perm hj same, fun output ops ho => declared_iff ho⟩
  · rw [recognize, if_neg (by simp [hj])]
  · rw [recognize_eq_some_iff hj, recognize_eq_some_iff hj']
    exact ⟨fun h => h.congr fun key hk => (same key hk).symm, fun h => h.congr same⟩

/-- A rule is recognized whatever else is there and in whatever order, and of three entries the one
op is declared. -/
theorem jump_rule_recognized :
    recognize (.obj [("by", .null), ("value", .int 3), ("op", .str "setRule"),
      ("path", .str "jump")]) = some (.setRule "jump" (Number.int 3).toFloat) ∧
    recognize (.obj [("op", .str "setRule"), ("path", .str "jump"), ("value", .int 3)]) =
      some (.setRule "jump" (Number.int 3).toFloat) ∧
    recognize (.obj [("path", .str "jump"), ("op", .str "setRule"), ("value", .int 3)]) =
      recognize (.obj [("op", .str "setRule"), ("path", .str "jump"), ("value", .int 3)]) ∧
    recognize (.arr [.str "emit", .null]) = none ∧
    declared (.obj [("ops", .arr [.null, .obj [("op", .str "emit"), ("payload", .null)],
      .arr [.str "emit", .null]])]) = [.emit .null] := by
  have all := recognition_exact
  have number : (Json.int 3).Proper := .num (by simp [Number.IsSound])
  have more : (Json.obj [("by", .null), ("value", .int 3), ("op", .str "setRule"),
      ("path", .str "jump")]).Proper :=
    .obj (by decide) (by simp [number, Json.Proper.null, Json.Proper.str])
  have rule : (Json.obj [("op", .str "setRule"), ("path", .str "jump"),
      ("value", .int 3)]).Proper :=
    .obj (by decide) (by simp [number, Json.Proper.str])
  have emit : (Json.obj [("op", .str "emit"), ("payload", .null)]).Proper :=
    .obj (by decide) (by simp [Json.Proper.null, Json.Proper.str])
  have array : (Json.arr [.str "emit", .null]).Proper :=
    .arr (by simp [Json.Proper.null, Json.Proper.str])
  have taken := (all.1 _ _ more).mpr (.setRule rfl rfl (by decide) rfl)
  refine ⟨taken, (all.2.2.1 _ _ _ more rule ?_).mpr taken,
    all.2.2.2.1 _ _ rule (List.Perm.swap ..), all.2.1 _ rfl, (all.2.2.2.2 _ _ ?_).mpr ?_⟩
  · simp [keys, Json.field?]
  · exact .obj (by decide) (by simpa using .arr (by simp [emit, array, Json.Proper.null]))
  · refine .selection rfl (.skip (fun op h => ?_) (.keep (.emit rfl rfl) (.skip (fun op h => ?_)
      .nil)))
    · cases h <;> contradiction
    · cases h <;> contradiction

/-- An array is decoded, but not recognized. -/
example : decode (.arr [.str "emit", .null]) = .ok (.emit .null) ∧
    recognize (.arr [.str "emit", .null]) = none := ⟨rfl, rfl⟩

end Op

end PatchSandbox
