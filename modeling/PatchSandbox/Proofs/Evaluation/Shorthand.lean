import PatchSandbox.Proofs.Evaluation.Bridge
import PatchSandbox.Proofs.Json.Datum
import PatchSandbox.Proofs.Op.Grammar

/-!
# Shorthands

A rule, an ability and a filter can be given to functions of their own, which look at the arguments
themselves. They can also be emitted as an object with a tag, which takes the way through a JSON
text, its reader, the decoder of ops and a second set of guards.

* **`View.Spells`** says that the JSON text of an argument is the one that plain data have.
* **`Op.Alike`** compares ops, and values as numbers: a negative zero is written as zero.
* **`BridgeFunction.shorthands_agree`** says that both ways lead to the same op or to none.
* **`BridgeFunction.array_is_no_filter`** is where they part.

The way of the object is told by what its JSON form is recognized as (`Op.recognize_object`), so all
that is left to compare are the guards (`BridgeFunction.agree_of_guards`).
-/

namespace PatchSandbox

open Text (CodeUnits)

namespace View

/-- The JSON text of an argument is that of a datum. -/
def Spells (v : View Id) (d : Datum) : Prop := v.json? = d.text.toString?

/-- A datum as a call sees it. -/
def ofDatum (d : Datum) : View Id where
  string? := match d with
    | .string u => u.toString?
    | _ => none
  number? := match d with
    | .number x => some x
    | _ => none
  bool? := match d with
    | .bool b => some b
    | _ => none
  json? := d.text.toString?
  coerced? := none
  typeName := "value"

/-- The JSON form of a datum is what its text is read as. -/
theorem Spells.toJson {v : View Id} {d : Datum} (h : v.Spells d) (hd : d.depth ≤ jsonDepth) :
    View.toJson v = d.json? := by
  obtain ⟨s, hs, read⟩ := Datum.parse_text d hd
  have text : v.json? = some s := h.trans hs
  rw [← read]
  unfold View.toJson
  rw [text]
  rfl

end View

/-- The fields of an object are those that it was made of. -/
theorem Json.field?_object {l : List (String × Json)} (hl : (l.map (·.1)).Nodup) {key : String}
    {j : Json} : (Json.object l).field? key = some j ↔ (key, j) ∈ l := by
  have perm := Json.sortFields_perm hl
  have keys := (perm.map Prod.fst).nodup_iff.mpr hl
  rw [Json.object, Json.field?_obj_eq_some_iff keys, perm.mem_iff]

namespace Op

/-- The same op; values are compared as numbers. -/
def Alike : Op → Op → Prop
  | .setRule p x, .setRule q y => p = q ∧ (x == y) = true
  | a, b => a = b

/-! ### The structural path -/

/-- `{op: "setRule", path: p, value: x}` -/
def ruleDatum (p : CodeUnits) (x : Float) : Datum :=
  .object [("op", .string "setRule"), ("path", .string p), ("value", .number x)]

/-- `{op: "setAbility", name: n, active: b}` -/
def abilityDatum (n : CodeUnits) (b : Bool) : Datum :=
  .object [("op", .string "setAbility"), ("name", .string n), ("active", .bool b)]

/-- `{op: "removeEntities", filter: f}` -/
def removalDatum (f : Datum) : Datum :=
  .object [("op", .string "removeEntities"), ("filter", f)]

theorem toString?_coe (s : String) : (s : CodeUnits).toString? = some s := by
  rw [Text.CodeUnits.ofString_eq, Text.CodeUnits.toString?_ofList, String.ofList_toList]

theorem json?_ruleDatum (p : CodeUnits) (x : Float) :
    (ruleDatum p x).json? = p.toString?.map fun s => Json.object [("op", .str "setRule"),
      ("path", .str s), ("value", if x.isFinite then .num (Datum.numberRead x) else .null)] := by
  simp only [ruleDatum, Datum.json?, Datum.fields?, Datum.isAbsent, toString?_coe]
  cases p.toString? <;> rfl

theorem json?_abilityDatum (n : CodeUnits) (b : Bool) :
    (abilityDatum n b).json? = n.toString?.map fun s =>
      Json.object [("op", .str "setAbility"), ("name", .str s), ("active", .bool b)] := by
  simp only [abilityDatum, Datum.json?, Datum.fields?, Datum.isAbsent, toString?_coe]
  cases n.toString? <;> rfl

theorem json?_removalDatum {f : Datum} (present : f.isAbsent = false) :
    (removalDatum f).json? = f.json?.map fun j =>
      Json.object [("op", .str "removeEntities"), ("filter", j)] := by
  have tag : (Datum.string "removeEntities").isAbsent = false := rfl
  simp only [removalDatum, Datum.json?, Datum.fields?, tag, present, toString?_coe]
  cases f.json? <;> rfl

/-- One object more around a filter. -/
theorem depth_removalDatum {f : Datum} (hd : f.depth ≤ 126) :
    (removalDatum f).depth ≤ View.jsonDepth := by
  have one_more : (removalDatum f).depth = max 0 (max f.depth 0) + 1 := rfl
  rw [one_more, View.jsonDepth]
  omega

/-! ### What is recognized -/

/-- **An object** is recognized as an op by the fields that it was made of. -/
theorem recognize_object {l : List (String × Json)} (hl : (l.map (·.1)).Nodup) {op : Op} :
    recognize (Json.object l) = some op ↔
      ("op", Json.str op.label) ∈ l ∧ Carries (Json.sortFields l) op ∧ op.isWellFormed = true := by
  have perm := Json.sortFields_perm hl
  have keys : ((Json.sortFields l).map (·.1)).Nodup := (perm.map Prod.fst).nodup_iff.mpr hl
  rw [Json.object, recognize_obj_iff, decode_obj_iff keys, ← Json.object, Json.field?_object hl,
    and_assoc]

theorem holds_iff {l : List (String × Json)} (hl : (l.map (·.1)).Nodup) {name : String}
    {α : Type} {item : Json → Shape.Result α} {a : α} :
    Shape.Holds (Json.sortFields l) name item a ↔ ∃ v, (name, v) ∈ l ∧ item v = .ok a := by
  unfold Shape.Holds
  rw [← Json.object]
  simp only [Json.field?_object hl]

/-- A rule is recognized if its value is a number, and the guard takes it. -/
theorem recognize_rule {p : String} {j : Json} {op : Op} :
    recognize (Json.object [("op", .str "setRule"), ("path", .str p), ("value", j)]) = some op ↔
      ∃ n, j = .num n ∧ op = .setRule p n.toFloat ∧ op.isWellFormed = true := by
  generalize hl : [("op", Json.str "setRule"), ("path", .str p), ("value", j)] = l
  have keys : (l.map (·.1)).Nodup := by simp [← hl]
  have path {s : String} : Shape.Holds (Json.sortFields l) "path" Shape.text s ↔ p = s := by
    rw [holds_iff keys, ← hl]
    simp [Shape.text_eq_ok_iff]
  have value {x : Float} :
      Shape.Holds (Json.sortFields l) "value" Shape.float x ↔ ∃ n, j = .num n ∧ n.toFloat = x := by
    rw [holds_iff keys, ← hl]
    simp [Shape.float_eq_ok_iff]
  have tag : ("op", Json.str op.label) ∈ l ↔ op.label = "setRule" := by simp [← hl]
  rw [recognize_object keys, tag]
  constructor
  · rintro ⟨label, carries, wf⟩
    cases carries with
    | setRule hpath hvalue =>
        obtain rfl := path.mp hpath
        obtain ⟨n, number, rfl⟩ := value.mp hvalue
        exact ⟨n, number, rfl, wf⟩
    | _ => simp [Op.label] at label
  · rintro ⟨n, number, rfl, wf⟩
    exact ⟨rfl, .setRule (path.mpr rfl) (value.mpr ⟨n, number, rfl⟩), wf⟩

/-- An ability is recognized if the guard takes it. -/
theorem recognize_ability {n : String} {b : Bool} {op : Op} :
    recognize (Json.object [("op", .str "setAbility"), ("name", .str n), ("active", .bool b)]) =
        some op ↔
      op = .setAbility n b ∧ op.isWellFormed = true := by
  generalize hl : [("op", Json.str "setAbility"), ("name", .str n), ("active", .bool b)] = l
  have keys : (l.map (·.1)).Nodup := by simp [← hl]
  have name {s : String} : Shape.Holds (Json.sortFields l) "name" Shape.text s ↔ n = s := by
    rw [holds_iff keys, ← hl]
    simp [Shape.text_eq_ok_iff]
  have active {a : Bool} : Shape.Holds (Json.sortFields l) "active" Shape.bool a ↔ b = a := by
    rw [holds_iff keys, ← hl]
    simp [Shape.bool_eq_ok_iff]
  have tag : ("op", Json.str op.label) ∈ l ↔ op.label = "setAbility" := by simp [← hl]
  rw [recognize_object keys, tag]
  constructor
  · rintro ⟨label, carries, wf⟩
    cases carries with
    | setAbility hname hactive =>
        obtain rfl := name.mp hname
        obtain rfl := active.mp hactive
        exact ⟨rfl, wf⟩
    | _ => simp [Op.label] at label
  · rintro ⟨rfl, wf⟩
    exact ⟨rfl, .setAbility (name.mpr rfl) (active.mpr rfl), wf⟩

/-- Every filter is recognized. -/
theorem recognize_removal {filter : Json} :
    recognize (Json.object [("op", .str "removeEntities"), ("filter", filter)]) =
      some (.removeEntities filter) := by
  have keys : ([("op", Json.str "removeEntities"), ("filter", filter)].map (·.1)).Nodup := by simp
  refine (recognize_object keys).mpr ⟨by simp [label], .removeEntities ?_, rfl⟩
  simp [holds_iff keys, Shape.any_eq_ok_iff]

end Op

/-! ### Two calls -/

namespace BridgeFunction

/-- Two calls record the same op, or neither of them records one. -/
inductive Agree : Option Entry → Option Entry → Prop
  | neither : Agree none none
  | both {a b : SoundOp} (h : a.val.Alike b.val) : Agree (some (.op a)) (some (.op b))

/-- **One set of guards is as good as the other** if what passes the first is recognized as
something alike, and nothing else is recognized. -/
theorem agree_of_guards {op? : Option Op} {j? : Option Json}
    (kept : ∀ op, op? = some op → op.isWellFormed = true →
      ∃ op', j?.bind Op.recognize = some op' ∧ op.Alike op')
    (dropped : ∀ op', j?.bind Op.recognize = some op' →
      ∃ op, op? = some op ∧ op.isWellFormed = true) :
    Agree ((op?.bind SoundOp.ofOp?).map .op) ((j?.bind SoundOp.recognize).map .op) := by
  -- whether the first guard lets something pass decides about both
  by_cases passes : ∃ op, op? = some op ∧ op.isWellFormed = true
  · obtain ⟨op, rfl, wf⟩ := passes
    obtain ⟨op', recognized, alike⟩ := kept op rfl wf
    obtain ⟨j, rfl, hj⟩ := Option.bind_eq_some_iff.mp recognized
    obtain ⟨o, rfl, sound⟩ := exists_recognize hj
    rw [Option.bind_some, ofOp?_of_isWellFormed wf, Option.bind_some, sound]
    exact .both alike
  · have left : op?.bind SoundOp.ofOp? = none := by
      refine Option.bind_eq_none_iff.mpr fun op hop => ?_
      exact dif_neg fun wf => passes ⟨op, hop, wf⟩
    have right : j?.bind SoundOp.recognize = none := by
      refine Option.bind_eq_none_iff.mpr fun j hj => ?_
      refine Option.eq_none_iff_forall_ne_some.mpr fun o ho => ?_
      exact passes (dropped o.val (by rw [hj, Option.bind_some, recognize_passed ho]))
    rw [left, right]
    exact .neither

variable {arg : View Id} {more more' : List (View Id)}

theorem respond_emit {j? : Option Json} (h : View.toJson arg = j?) :
    respond .emit (arg :: more) = (j?.bind SoundOp.recognize).map Entry.op := by
  rw [← h]
  rfl

theorem setRule_agrees {p : CodeUnits} {x : Float} {path value rule : View Id}
    (hp : path.string? = p.toString?) (hv : value.number? = some x)
    (hr : rule.Spells (Op.ruleDatum p x)) :
    Agree (respond .setRule (path :: value :: more)) (respond .emit (rule :: more')) := by
  have called : respond .setRule (path :: value :: more) =
      ((p.toString?.map (Op.setRule · x)).bind SoundOp.ofOp?).map Entry.op := by
    unfold respond
    simp only [hp, hv]
    cases p.toString? <;> rfl
  have seen : View.toJson rule = (Op.ruleDatum p x).json? :=
    hr.toJson (show 1 ≤ View.jsonDepth by decide)
  rw [called, respond_emit (seen.trans (Op.json?_ruleDatum p x))]
  -- a path that the host cannot read is none for the shorthand, and its text is refused
  cases p.toString? with
  | none => exact .neither
  | some s =>
      refine agree_of_guards ?_ ?_
      · rintro op ⟨⟩ wf
        have guard := wf
        simp only [Op.isWellFormed, Bool.and_eq_true] at guard
        obtain ⟨-, finite, same⟩ := Datum.reads_double guard.2
        refine ⟨.setRule s (Datum.numberRead x).toFloat, ?_, rfl, same⟩
        rw [Option.map_some, Option.bind_some, Op.recognize_rule, if_pos guard.2]
        exact ⟨_, rfl, rfl, by simp [Op.isWellFormed, guard.1, finite]⟩
      · intro op' recognized
        obtain ⟨n, hn, rfl, wf⟩ := Op.recognize_rule.mp recognized
        simp only [Op.isWellFormed, Bool.and_eq_true] at wf
        refine ⟨_, rfl, ?_⟩
        -- a value that is not finite is written as `null`, and that is no number
        by_cases finite : x.isFinite = true
        · simp [Op.isWellFormed, wf.1, finite]
        · rw [if_neg finite] at hn
          cases hn

theorem setAbility_agrees {n : CodeUnits} {b : Bool} {name active ability : View Id}
    (hn : name.string? = n.toString?) (hb : active.bool? = some b)
    (ha : ability.Spells (Op.abilityDatum n b)) :
    Agree (respond .setAbility (name :: active :: more)) (respond .emit (ability :: more')) := by
  have called : respond .setAbility (name :: active :: more) =
      ((n.toString?.map (Op.setAbility · b)).bind SoundOp.ofOp?).map Entry.op := by
    unfold respond
    simp only [hn, hb]
    cases n.toString? <;> rfl
  have seen : View.toJson ability = (Op.abilityDatum n b).json? :=
    ha.toJson (show 1 ≤ View.jsonDepth by decide)
  rw [called, respond_emit (seen.trans (Op.json?_abilityDatum n b))]
  cases n.toString? with
  | none => exact .neither
  | some s =>
      refine agree_of_guards ?_ ?_
      · rintro op ⟨⟩ wf
        exact ⟨_, Op.recognize_ability.mpr ⟨rfl, wf⟩, rfl⟩
      · intro op' recognized
        obtain ⟨rfl, wf⟩ := Op.recognize_ability.mp recognized
        exact ⟨_, rfl, wf⟩

theorem removeEntities_agrees {fields : List (CodeUnits × Datum)} {filter removal : View Id}
    (hd : (Datum.object fields).depth ≤ 126) (hf : filter.Spells (.object fields))
    (hr : removal.Spells (Op.removalDatum (.object fields))) :
    Agree (respond .removeEntities (filter :: more)) (respond .emit (removal :: more')) := by
  have seen : View.toJson filter = (Datum.fields? fields).map Json.object :=
    hf.toJson (Nat.le_succ_of_le hd)
  have called : respond .removeEntities (filter :: more) =
      (((Datum.fields? fields).map (Op.removeEntities ∘ Json.object)).bind
        SoundOp.ofOp?).map Entry.op := by
    unfold respond
    dsimp only
    rw [seen]
    cases Datum.fields? fields <;> rfl
  rw [called, respond_emit ((hr.toJson (Op.depth_removalDatum hd)).trans
    (Op.json?_removalDatum rfl)), Datum.json?]
  cases Datum.fields? fields with
  | none => exact .neither
  | some l =>
      refine agree_of_guards ?_ fun op' _ => ⟨_, rfl, rfl⟩
      rintro op ⟨⟩ -
      exact ⟨_, Op.recognize_removal, rfl⟩

/-- **The shorthands agree with what is emitted**: a rule, an ability or a filter that is given to
a shorthand leads to the same op as an object of the same fields that is emitted, and where one
records nothing the other records nothing. This holds of every text and every number, and of every
filter that is an object and that the host can read with one object more around it. -/
theorem shorthands_agree :
    (∀ {p : CodeUnits} {x : Float} {path value rule : View Id} {more more' : List (View Id)},
      path.string? = p.toString? → value.number? = some x → rule.Spells (Op.ruleDatum p x) →
        Agree (respond .setRule (path :: value :: more)) (respond .emit (rule :: more'))) ∧
    (∀ {n : CodeUnits} {b : Bool} {name active ability : View Id} {more more' : List (View Id)},
      name.string? = n.toString? → active.bool? = some b → ability.Spells (Op.abilityDatum n b) →
        Agree (respond .setAbility (name :: active :: more)) (respond .emit (ability :: more'))) ∧
    (∀ {fields : List (CodeUnits × Datum)} {filter removal : View Id}
        {more more' : List (View Id)},
      (Datum.object fields).depth ≤ 126 → filter.Spells (.object fields) →
        removal.Spells (Op.removalDatum (.object fields)) →
        Agree (respond .removeEntities (filter :: more)) (respond .emit (removal :: more'))) :=
  ⟨setRule_agrees, setAbility_agrees, removeEntities_agrees⟩

theorem shorthands_agree_for_zombies :
    Agree (respond .setRule [.ofDatum (.string "hp"), .ofDatum (.number 0.5)])
        (respond .emit [.ofDatum (Op.ruleDatum "hp" 0.5)]) ∧
      Agree (respond .setAbility [.ofDatum (.string "fly"), .ofDatum (.bool true)])
        (respond .emit [.ofDatum (Op.abilityDatum "fly" true)]) ∧
      Agree (respond .removeEntities [.ofDatum (.object [("kind", .string "zombie")])])
        (respond .emit [.ofDatum (Op.removalDatum (.object [("kind", .string "zombie")]))]) :=
  ⟨shorthands_agree.1 rfl rfl rfl, shorthands_agree.2.1 rfl rfl rfl,
    shorthands_agree.2.2 (by decide) rfl rfl⟩

/-- **An array is no filter** for the shorthand, but it may be emitted as one. -/
theorem array_is_no_filter {items : List Datum} {filter removal : View Id} {j : Json}
    (hd : (Datum.array items).depth ≤ 126) (hf : filter.Spells (.array items))
    (hr : removal.Spells (Op.removalDatum (.array items)))
    (readable : (Datum.array items).json? = some j) :
    respond .removeEntities (filter :: more) = none ∧
      ∃ o : SoundOp, o.val = .removeEntities j ∧
        respond .emit (removal :: more') = some (.op o) := by
  have seen : View.toJson filter = some j := (hf.toJson (Nat.le_succ_of_le hd)).trans readable
  constructor
  · rw [Datum.json?] at readable
    obtain ⟨js, -, rfl⟩ := Option.map_eq_some_iff.mp readable
    unfold respond
    dsimp only
    rw [seen]
    rfl
  · obtain ⟨o, ho, recognized⟩ := exists_recognize Op.recognize_removal
    refine ⟨o, ho, ?_⟩
    rw [respond_emit ((hr.toJson (Op.depth_removalDatum hd)).trans
      (Op.json?_removalDatum rfl)), readable, Option.map_some, Option.bind_some, recognized]
    rfl

end BridgeFunction

end PatchSandbox
