import PatchSandbox.Op

/-!
# Ops on the wire

What is written of an op is read back as the same op exactly if the op is well formed: on the way
a number that is not finite becomes `null`, and no rule is read without its number.

* **`Shape.tagged_cons`** and **`Shape.record_obj`** read a tagged choice and a record of well
  shaped fields, as a writer lays them out: the tag first, and no field twice.
* **`Op.decode_toJson`** reads every op back but a rule whose value got lost.
* **`Op.recognize_toJson`** says what `recognize` makes of it.
-/

namespace PatchSandbox

namespace Shape

variable {α : Type}

/-- A tagged choice that begins with its tag is read as the record behind the tag. -/
theorem tagged_cons {what tag label : String} {known : List String}
    {build : String → Json → Result α} {fields : List (String × Json)} (hk : label ∈ known)
    (hf : ∀ f ∈ fields, f.1 ≠ tag) :
    tagged what tag known build (.obj ((tag, .str label) :: fields)) =
      build label (.obj fields) := by
  have known : variant (.str label) known = .ok label := by simp [variant, hk]
  have rest : fields.filter (·.1 != tag) = fields := by
    rw [List.filter_eq_self]
    intro f hm
    simpa using hf f hm
  simp only [tagged, List.find?_cons, beq_self_eq_true, known, List.filter_cons, bne_self_eq_false,
    Bool.false_eq_true, if_false, rest]
  rfl

/-- The fields of an object, as a record asks for them. -/
def Fields.ofObject (fields : List (String × Json)) : Fields :=
  ⟨fun name => (fields.find? (·.1 == name)).map (·.2), .missingField, true⟩

/-- A loop over checks that all succeed succeeds. -/
theorem forIn_ok {ε β : Type} {body : β → PUnit → Except ε (ForInStep PUnit)} {items : List β}
    (h : ∀ b ∈ items, body b ⟨⟩ = .ok (.yield ⟨⟩)) : forIn items PUnit.unit body = .ok ⟨⟩ := by
  induction items with
  | nil => rfl
  | cons b items ih =>
      rw [List.forIn_cons, h b (List.mem_cons_self ..)]
      exact ih fun b' hb => h b' (List.mem_cons_of_mem _ hb)

/-- A record none of whose fields is ill shaped is what its parts build. -/
theorem record_obj {what : String} {surplus : Surplus}
    {checks : List (String × (Json → Result Unit))} {build : Fields → Result α}
    {fields : List (String × Json)}
    (h : ∀ f ∈ fields, ∀ c ∈ checks.find? (·.1 == f.1), c.2 f.2 = .ok ()) :
    record what surplus checks build (.obj fields) = build (.ofObject fields) := by
  simp only [record]
  rw [forIn_ok]
  · rfl
  intro f hf
  have checked := h f hf
  split
  case h_1 name check found =>
      rw [found] at checked
      have passed : check f.2 = .ok () := checked (name, check) rfl
      rw [passed]
      rfl
  case h_2 => rfl

end Shape

namespace Op

@[simp] theorem label_mem_labels (op : Op) : op.label ∈ labels := by
  cases op <;> simp [label, labels]

/-- An op is written with its tag first. -/
theorem decode_toJson_eq (op : Op) : decode op.toJson =
    decodeTagged op.label (.obj (match op with
      | .setRule path value => [("path", .str path), ("value", Json.ofFloat value)]
      | .setAbility name active => [("name", .str name), ("active", .bool active)]
      | .removeEntities filter => [("filter", filter)]
      | .emit payload => [("payload", payload)])) := by
  cases op <;> exact Shape.tagged_cons (label_mem_labels _) (by simp)

/-- Every op is read back, but a rule with a value that has no JSON form. -/
theorem decode_toJson {op : Op}
    (h : ∀ path value, op = .setRule path value → value.isFinite = true) :
    decode op.toJson = .ok op := by
  rw [decode_toJson_eq]
  cases op with
  | setRule path value =>
      have finite := h path value rfl
      rw [decodeTagged, label, if_pos rfl, Shape.record_obj]
      · simp only [Json.ofFloat, finite]
        rfl
      · simp [Json.ofFloat, finite, Shape.check, Shape.text, Shape.float, Except.map]
  | setAbility name active =>
      rw [decodeTagged, label, if_neg (by decide), if_pos rfl, Shape.record_obj]
      · rfl
      · simp [Shape.check, Shape.text, Shape.bool, Except.map]
  | removeEntities filter =>
      rw [decodeTagged, label, if_neg (by decide), if_neg (by decide), if_pos rfl,
        Shape.record_obj]
      · rfl
      · simp [Shape.check, Shape.any, Except.map]
  | emit payload =>
      rw [decodeTagged, label, if_neg (by decide), if_neg (by decide), if_neg (by decide),
        Shape.record_obj]
      · rfl
      · simp [Shape.check, Shape.any, Except.map]

/-- The number that was lost is missed. -/
theorem decode_toJson_of_not_isFinite {path : String} {value : Float}
    (h : value.isFinite = false) :
    decode (Op.setRule path value).toJson =
      .error (.wrongType .null "f64") := by
  rw [decode_toJson_eq]
  simp [decodeTagged, label, Shape.record, Json.ofFloat, h, Shape.check, Shape.text, Shape.float,
    Shape.found, Except.map]
  rfl

theorem recognize_toJson (op : Op) :
    recognize op.toJson = if op.isWellFormed then some op else none := by
  have object : op.toJson.isObject = true := by cases op <;> rfl
  rw [recognize, if_pos object]
  by_cases lost : ∃ path value, op = .setRule path value ∧ value.isFinite = false
  · obtain ⟨path, value, rfl, hv⟩ := lost
    simp [decode_toJson_of_not_isFinite hv, isWellFormed, hv]
  · rw [decode_toJson]
    intro path value hop
    simpa using fun hv => lost ⟨path, value, hop, hv⟩

end Op

end PatchSandbox
