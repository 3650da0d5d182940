import PatchSandbox.Finding.Wire
import PatchSandbox.Message
import PatchSandbox.Proofs.Json.Reading

/-!
# Messages on the wire

Requests, responses and all that they are made of are read back from what is written of them. For
each of them two lemmas say so: `reads`, that what fits is read back from any layout of its wire
form, and `fits`, that whatever is read fits. **`wire_forms_round_trip`** puts them together.

What fits is what the types outside can hold: ids of sixty-four bits, lines and columns of
thirty-two, finite values of rules, and module maps that were made of pairs.
-/

namespace PatchSandbox

open Shape (ok_of_bind required_eq_ok optional_eq_ok nullable_eq_ok nullable_ok natural_nat
  natural_eq_ok list_arr list_eq_ok check_ok Steady)

variable {g : Json → Json}

/-! ### Findings -/

namespace Location

/-- Both numbers fit thirty-two bits. -/
def Fits (l : Location) : Prop := l.line < 2 ^ 32 ∧ l.column < 2 ^ 32

theorem reads (hg : Json.Layout g) {l : Location} (hl : l.Fits) : decode (g l.toJson) = .ok l := by
  have line : Shape.natural 32 "u32" (.nat l.line) = .ok l.line := natural_nat hl.1
  have column : Shape.natural 32 "u32" (.nat l.column) = .ok l.column := natural_nat hl.2
  unfold decode
  refine Shape.steady_record.layout hg (by simp) (Shape.record_obj_eq_ok.mpr ⟨?_, ?_⟩)
  · simp only [List.map_cons, List.map_nil, hg.nat]
    simp [Shape.checkField, check_ok line, check_ok column]
  · simp [Shape.Fields.ofObject, Shape.Fields.required, hg.nat, line, column]
    rfl

theorem fits {j : Json} {l : Location} (hj : j.Sound) (h : decode j = .ok l) : l.Fits := by
  unfold decode at h
  obtain ⟨r, hr, built⟩ := Shape.record_eq_ok hj h
  obtain ⟨line, hl, built⟩ := ok_of_bind built
  obtain ⟨column, hc, built⟩ := ok_of_bind built
  obtain rfl : (⟨line, column⟩ : Location) = l := Except.ok.inj built
  obtain ⟨v, -, hl⟩ := required_eq_ok hr hl
  obtain ⟨w, -, hc⟩ := required_eq_ok hr hc
  exact ⟨natural_eq_ok hl, natural_eq_ok hc⟩

end Location

theorem FindingKind.reads (hg : Json.Layout g) (k : FindingKind) : decode (g k.toJson) = .ok k := by
  rw [toJson, hg.str, decode, named, ofName?_name]

namespace Finding

/-- The location fits, if there is one. -/
def Fits (f : Finding) : Prop := ∀ l, f.location = some l → l.Fits

theorem reads (hg : Json.Layout g) {f : Finding} (hf : f.Fits) : decode (g f.toJson) = .ok f := by
  obtain ⟨kind, message, location⟩ := f
  have hk := FindingKind.reads hg kind
  unfold decode
  cases location with
  | none =>
      refine Shape.steady_record.layout hg (by simp) (Shape.record_obj_eq_ok.mpr ⟨?_, ?_⟩)
      · simp only [List.map_cons, List.map_nil, hg.str]
        simp [Shape.checkField, check_ok hk]
      · simp [Shape.Fields.ofObject, Shape.Fields.required, Shape.Fields.optional, hg.str, hk]
        rfl
  | some l =>
      have read := Location.reads hg (hf l rfl)
      have there : g l.toJson ≠ .null := by
        intro hn
        simp [hn, Location.decode, Shape.record] at read
      have hl := nullable_ok read there
      refine Shape.steady_record.layout hg (by simp) (Shape.record_obj_eq_ok.mpr ⟨?_, ?_⟩)
      · simp only [List.map_cons, List.map_nil, hg.str]
        simp [Shape.checkField, check_ok hk, check_ok hl]
      · simp [Shape.Fields.ofObject, Shape.Fields.required, Shape.Fields.optional, hg.str, hk, hl]
        rfl

theorem fits {j : Json} {f : Finding} (hj : j.Sound) (h : decode j = .ok f) : f.Fits := by
  unfold decode at h
  obtain ⟨r, hr, built⟩ := Shape.record_eq_ok hj h
  obtain ⟨kind, -, built⟩ := ok_of_bind built
  obtain ⟨message, -, built⟩ := ok_of_bind built
  obtain ⟨location, hl, built⟩ := ok_of_bind built
  obtain rfl : (⟨kind, message, location⟩ : Finding) = f := Except.ok.inj built
  rintro l rfl
  obtain ⟨v, hv, hl⟩ := optional_eq_ok hr hl
  exact Location.fits hv (nullable_eq_ok hl)

end Finding

namespace ModuleFailure

/-- All its findings fit. -/
def Fits (f : ModuleFailure) : Prop := ∀ e ∈ f.errors, e.Fits

theorem reads (hg : Json.Layout g) {f : ModuleFailure} (hf : f.Fits) :
    decode (g f.toJson) = .ok f := by
  have errors : Shape.list Finding.decode (.arr (f.errors.map fun e => g e.toJson)) =
      .ok f.errors := list_arr fun e he => Finding.reads hg (hf e he)
  unfold decode
  refine Shape.steady_record.layout hg (by simp) (Shape.record_obj_eq_ok.mpr ⟨?_, ?_⟩)
  · simp only [List.map_cons, List.map_nil, hg.str, hg.arr_map]
    simp [Shape.checkField, check_ok errors]
  · simp [Shape.Fields.ofObject, Shape.Fields.required, hg.str, hg.arr_map, errors, Shape.text]
    rfl

theorem fits {j : Json} {f : ModuleFailure} (hj : j.Sound) (h : decode j = .ok f) : f.Fits := by
  unfold decode at h
  obtain ⟨r, hr, built⟩ := Shape.record_eq_ok hj h
  obtain ⟨name, -, built⟩ := ok_of_bind built
  obtain ⟨errors, he, built⟩ := ok_of_bind built
  obtain rfl : (⟨name, errors⟩ : ModuleFailure) = f := Except.ok.inj built
  obtain ⟨v, hv, he⟩ := required_eq_ok hr he
  intro e hm
  obtain ⟨w, hw, hd⟩ := list_eq_ok hv he e hm
  exact Finding.fits hw hd

end ModuleFailure

/-! ### Outputs -/

namespace Op

/-- The value of a rule is finite. -/
def Fits : Op → Prop
  | .setRule _ value => value.isFinite = true
  | _ => True

/-- The parts that may be any JSON. -/
def free : Op → List Json
  | .removeEntities filter => [filter]
  | .emit payload => [payload]
  | _ => []

theorem steady_decodeTagged (label : String) : Steady (decodeTagged label) := by
  unfold decodeTagged
  split
  · exact Shape.steady_record
  split
  · exact Shape.steady_record
  split <;> exact Shape.steady_record

theorem reads (hg : Json.Layout g) {op : Op} (ho : op.Fits) (hf : ∀ j ∈ op.free, g j = j) :
    decode (g op.toJson) = .ok op := by
  have tagged (label : String) (fields : List (String × Json)) (hl : label ∈ labels)
      (hn : ("op" :: fields.map (·.1)).Nodup)
      (h : decodeTagged label (.obj (fields.map fun f => (f.1, g f.2))) = .ok op) :
      decode (g (.obj (("op", .str label) :: fields))) = .ok op :=
    Shape.reads_tagged steady_decodeTagged hl hg hn h
  cases op with
  | setRule path value =>
      have finite : value.isFinite = true := ho
      refine tagged "setRule" [("path", .str path), ("value", Json.ofFloat value)]
        (by decide) (by simp) ?_
      rw [decodeTagged, if_pos rfl]
      refine Shape.record_obj_eq_ok.mpr ⟨?_, ?_⟩
      · simp only [List.map_cons, List.map_nil, hg.str, Json.ofFloat, finite, if_true, hg.num]
        simp [Shape.checkField]
        rfl
      · simp only [List.map_cons, List.map_nil, hg.str, Json.ofFloat, finite, if_true, hg.num]
        rfl
  | setAbility name active =>
      refine tagged "setAbility" [("name", .str name), ("active", .bool active)]
        (by decide) (by simp) ?_
      rw [decodeTagged, if_neg (by decide), if_pos rfl]
      refine Shape.record_obj_eq_ok.mpr ⟨?_, ?_⟩
      · simp [Shape.checkField, hg.str, hg.bool]
      · simp only [List.map_cons, List.map_nil, hg.str, hg.bool]
        rfl
  | removeEntities filter =>
      refine tagged "removeEntities" [("filter", filter)] (by decide) (by simp) ?_
      rw [decodeTagged, if_neg (by decide), if_neg (by decide), if_pos rfl, List.map_singleton,
        hf filter (by simp [free])]
      exact Shape.record_obj_eq_ok.mpr ⟨by simp [Shape.checkField], rfl⟩
  | emit payload =>
      refine tagged "emit" [("payload", payload)] (by decide) (by simp) ?_
      rw [decodeTagged, if_neg (by decide), if_neg (by decide), if_neg (by decide),
        List.map_singleton, hf payload (by simp [free])]
      exact Shape.record_obj_eq_ok.mpr ⟨by simp [Shape.checkField], rfl⟩

theorem fits {j : Json} {op : Op} (hj : j.Sound) (h : decode j = .ok op) :
    op.Fits ∧ ∀ v ∈ op.free, v.Sound := by
  unfold decode at h
  obtain ⟨label, -, w, hw, h⟩ := Shape.tagged_eq_ok hj h
  unfold decodeTagged at h
  split at h
  case isTrue =>
      obtain ⟨r, hr, built⟩ := Shape.record_eq_ok hw h
      obtain ⟨path, -, built⟩ := ok_of_bind built
      obtain ⟨value, hv, built⟩ := ok_of_bind built
      obtain rfl : Op.setRule path value = op := Except.ok.inj built
      obtain ⟨v, hv, hd⟩ := required_eq_ok hr hv
      refine ⟨?_, by simp [free]⟩
      cases hv with
      | num hn =>
          obtain rfl := Except.ok.inj hd
          exact Number.isFinite_toFloat hn
      | _ => simp [Shape.float] at hd
  split at h
  case isTrue =>
      obtain ⟨r, hr, built⟩ := Shape.record_eq_ok hw h
      obtain ⟨name, -, built⟩ := ok_of_bind built
      obtain ⟨active, -, built⟩ := ok_of_bind built
      obtain rfl : Op.setAbility name active = op := Except.ok.inj built
      exact ⟨trivial, by simp [free]⟩
  split at h
  case isTrue =>
      obtain ⟨r, hr, built⟩ := Shape.record_eq_ok hw h
      obtain ⟨filter, hf, built⟩ := ok_of_bind built
      obtain rfl : Op.removeEntities filter = op := Except.ok.inj built
      obtain ⟨v, hv, hd⟩ := required_eq_ok hr hf
      obtain rfl : v = filter := Except.ok.inj hd
      exact ⟨trivial, by simpa [free] using hv⟩
  case isFalse =>
      obtain ⟨r, hr, built⟩ := Shape.record_eq_ok hw h
      obtain ⟨payload, hp, built⟩ := ok_of_bind built
      obtain rfl : Op.emit payload = op := Except.ok.inj built
      obtain ⟨v, hv, hd⟩ := required_eq_ok hr hp
      obtain rfl : v = payload := Except.ok.inj hd
      exact ⟨trivial, by simpa [free] using hv⟩

end Op

namespace EvalOutput

/-- All its ops fit. -/
def Fits (o : EvalOutput) : Prop := ∀ op ∈ o.ops, op.Fits

/-- The parts that may be any JSON. -/
def free (o : EvalOutput) : List Json := o.output :: o.ops.flatMap Op.free

variable {surplus : Shape.Surplus}

theorem texts_read (ts : List String) : Shape.list Shape.text (.texts ts) = .ok ts :=
  list_arr fun _ _ => rfl

theorem reads (hg : Json.Layout g) {o : EvalOutput} (ho : o.Fits) (hf : ∀ j ∈ o.free, g j = j) :
    decode surplus (g o.toJson) = .ok o := by
  have ops : Shape.list Op.decode (.arr (o.ops.map fun op => g op.toJson)) = .ok o.ops := by
    refine list_arr fun op hm => Op.reads hg (ho op hm) fun j hj => hf j ?_
    exact List.mem_cons_of_mem _ (List.mem_flatMap.mpr ⟨op, hm, hj⟩)
  have logs := texts_read o.logs
  have output : g o.output = o.output := hf _ (List.mem_cons_self ..)
  unfold decode
  refine Shape.steady_record.layout hg (by simp) (Shape.record_obj_eq_ok.mpr ⟨?_, ?_⟩)
  · simp only [List.map_cons, List.map_nil, hg.arr_map, hg.texts, output]
    simp [Shape.checkField, check_ok ops, check_ok logs]
  · simp [Shape.Fields.ofObject, Shape.Fields.required, hg.arr_map, hg.texts, output, ops, logs]
    rfl

theorem fits {j : Json} {o : EvalOutput} (hj : j.Sound) (h : decode surplus j = .ok o) :
    o.Fits ∧ ∀ v ∈ o.free, v.Sound := by
  unfold decode at h
  obtain ⟨r, hr, built⟩ := Shape.record_eq_ok hj h
  obtain ⟨ops, ho, built⟩ := ok_of_bind built
  obtain ⟨logs, -, built⟩ := ok_of_bind built
  obtain ⟨output, hout, built⟩ := ok_of_bind built
  obtain rfl : (⟨ops, logs, output⟩ : EvalOutput) = o := Except.ok.inj built
  obtain ⟨v, hv, ho⟩ := required_eq_ok hr ho
  obtain ⟨w, hw, hd⟩ := required_eq_ok hr hout
  obtain rfl : w = output := Except.ok.inj hd
  have each : ∀ op ∈ ops, op.Fits ∧ ∀ v ∈ op.free, v.Sound := by
    intro op hm
    obtain ⟨u, hu, hd⟩ := list_eq_ok hv ho op hm
    exact Op.fits hu hd
  refine ⟨fun op hm => (each op hm).1, fun u hu => ?_⟩
  rcases List.mem_cons.mp hu with rfl | hu
  · exact hw
  · obtain ⟨op, hm, hu⟩ := List.mem_flatMap.mp hu
    exact (each op hm).2 u hu

end EvalOutput

/-! ### Module maps -/

namespace ModuleMap

/-- The map was made of spellings and sources. -/
def IsMade (m : ModuleMap) : Prop := ∃ pairs, m = ofPairs pairs

/-- The text that a value holds. -/
def textOf : Json → String
  | .str s => s
  | _ => ""

theorem map_text {fields : List (String × Json)} (h : ∀ f ∈ fields, f.2 = .str (textOf f.2)) :
    Shape.map Shape.text (.obj fields) = .ok (fields.map fun f => (f.1, textOf f.2)) := by
  simp only [Shape.map]
  induction fields with
  | nil => rfl
  | cons f fields ih =>
      have first := h f (List.mem_cons_self ..)
      have rest := ih fun f' hf => h f' (List.mem_cons_of_mem _ hf)
      rw [List.mapM_cons, rest, List.map_cons]
      rw [first]
      rfl

/-- Modules may come in any order, for their names are in order. -/
theorem reads (hg : Json.Layout g) {m : ModuleMap} (hm : m.IsMade) :
    decode (g m.toJson) = .ok m := by
  obtain ⟨pairs, rfl⟩ := hm
  have ordered := pairwise_entries pairs
  have keys : (((ofPairs pairs).entries.map fun p => (p.1, Json.str p.2)).map (·.1)).Nodup := by
    rw [List.map_map]
    exact List.pairwise_map.mpr (ordered.imp Std.ne_of_lt)
  obtain ⟨fields, laid, hp⟩ := hg.obj _ keys
  simp only [List.map_map, Function.comp_def, hg.str] at hp
  have texts : ∀ f ∈ fields, f.2 = .str (textOf f.2) := by
    intro f hf
    obtain ⟨p, -, rfl⟩ := List.mem_map.mp (hp.subset hf)
    rfl
  have entries : (fields.map fun f => (f.1, textOf f.2)).Perm (ofPairs pairs).entries := by
    have := hp.map fun f : String × Json => (f.1, textOf f.2)
    simpa [Function.comp_def, textOf] using this
  have written : g (ofPairs pairs).toJson = .obj fields := laid
  rw [written, decode, map_text texts]
  exact congrArg Except.ok (ofPairs_eq_of_perm entries)

theorem fits {j : Json} {m : ModuleMap} (h : decode j = .ok m) : m.IsMade := by
  obtain ⟨pairs, -, rfl⟩ := Shape.map_eq_ok h
  exact ⟨pairs, rfl⟩

end ModuleMap

/-! ### Messages -/

/-- A text is read back. -/
theorem Shape.text_str (s : String) : Shape.text (.str s) = .ok s := rfl

namespace Request

/-- The id fits sixty-four bits, and the modules were made. -/
def Fits : Request → Prop
  | .init => True
  | .eval id _ => id < 2 ^ 64
  | .evalModule id _ modules => id < 2 ^ 64 ∧ modules.IsMade

theorem steady_decodeTagged (label : String) : Steady (decodeTagged label) := by
  unfold decodeTagged
  split
  · exact Shape.steady_unit
  split <;> exact Shape.steady_record

theorem reads (hg : Json.Layout g) {r : Request} (hr : r.Fits) : decode (g r.toJson) = .ok r := by
  have tagged (label : String) (fields : List (String × Json))
      (hl : label ∈ ["init", "eval", "eval_module"]) (hn : ("type" :: fields.map (·.1)).Nodup)
      (h : decodeTagged label (.obj (fields.map fun f => (f.1, g f.2))) = .ok r) :
      decode (g (.obj (("type", .str label) :: fields))) = .ok r :=
    Shape.reads_tagged steady_decodeTagged hl hg hn h
  cases r with
  | init => exact tagged "init" [] (by decide) (by simp) rfl
  | eval id code =>
      have number : Shape.requestId (.nat id) = .ok id := natural_nat hr
      refine tagged "eval" [("id", .nat id), ("code", .str code)] (by decide) (by simp) ?_
      rw [decodeTagged, if_neg (by decide), if_pos rfl]
      refine Shape.record_obj_eq_ok.mpr ⟨?_, ?_⟩
      · simp only [List.map_cons, List.map_nil, hg.nat, hg.str]
        simp [Shape.checkField, check_ok number]
      · simp [Shape.Fields.ofObject, Shape.Fields.required, hg.nat, hg.str, number, Shape.text_str]
        rfl
  | evalModule id entry modules =>
      have number : Shape.requestId (.nat id) = .ok id := natural_nat hr.1
      have map := ModuleMap.reads hg hr.2
      refine tagged "eval_module" [("id", .nat id), ("entry", .str entry),
        ("modules", modules.toJson)] (by decide) (by simp) ?_
      rw [decodeTagged, if_neg (by decide), if_neg (by decide)]
      refine Shape.record_obj_eq_ok.mpr ⟨?_, ?_⟩
      · simp only [List.map_cons, List.map_nil, hg.nat, hg.str]
        simp [Shape.checkField, check_ok number, check_ok map]
      · simp [Shape.Fields.ofObject, Shape.Fields.required, hg.nat, hg.str, number, map,
          Shape.text_str]
        rfl

theorem fits {j : Json} {r : Request} (hj : j.Sound) (h : decode j = .ok r) : r.Fits := by
  unfold decode at h
  obtain ⟨label, -, w, hw, h⟩ := Shape.tagged_eq_ok hj h
  unfold decodeTagged at h
  split at h
  case isTrue =>
      obtain rfl : Request.init = r := Shape.unit_eq_ok h
      trivial
  split at h
  case isTrue =>
      obtain ⟨f, hf, built⟩ := Shape.record_eq_ok hw h
      obtain ⟨id, hid, built⟩ := ok_of_bind built
      obtain ⟨code, -, built⟩ := ok_of_bind built
      obtain rfl : Request.eval id code = r := Except.ok.inj built
      obtain ⟨v, -, hid⟩ := required_eq_ok hf hid
      exact natural_eq_ok hid
  case isFalse =>
      obtain ⟨f, hf, built⟩ := Shape.record_eq_ok hw h
      obtain ⟨id, hid, built⟩ := ok_of_bind built
      obtain ⟨entry, -, built⟩ := ok_of_bind built
      obtain ⟨modules, hm, built⟩ := ok_of_bind built
      obtain rfl : Request.evalModule id entry modules = r := Except.ok.inj built
      obtain ⟨v, -, hid⟩ := required_eq_ok hf hid
      obtain ⟨w, -, hm⟩ := required_eq_ok hf hm
      exact ⟨natural_eq_ok hid, ModuleMap.fits hm⟩

end Request

namespace Response

/-- The id fits sixty-four bits, and the payload fits. -/
def Fits : Response → Prop
  | .result id payload => id < 2 ^ 64 ∧ payload.Fits
  | .error id _ _ => id < 2 ^ 64
  | _ => True

/-- The parts that may be any JSON. -/
def free : Response → List Json
  | .result _ payload => payload.free
  | _ => []

theorem steady_decodeTagged (label : String) : Steady (decodeTagged label) := by
  unfold decodeTagged
  split
  · exact Shape.steady_unit
  split
  · exact Shape.steady_record
  split <;> exact Shape.steady_record

theorem reads (hg : Json.Layout g) {a : Response} (ha : a.Fits) (hf : ∀ j ∈ a.free, g j = j) :
    decode (g a.toJson) = .ok a := by
  have tagged (label : String) (fields : List (String × Json))
      (hl : label ∈ ["ready", "init_failed", "result", "error"])
      (hn : ("type" :: fields.map (·.1)).Nodup)
      (h : decodeTagged label (.obj (fields.map fun f => (f.1, g f.2))) = .ok a) :
      decode (g (.obj (("type", .str label) :: fields))) = .ok a :=
    Shape.reads_tagged steady_decodeTagged hl hg hn h
  cases a with
  | ready => exact tagged "ready" [] (by decide) (by simp) rfl
  | initFailed message =>
      refine tagged "init_failed" [("message", .str message)] (by decide) (by simp) ?_
      rw [decodeTagged, if_neg (by decide), if_pos rfl, List.map_singleton, hg.str]
      exact Shape.record_obj_eq_ok.mpr ⟨by simp [Shape.checkField], rfl⟩
  | result id payload =>
      have number : Shape.requestId (.nat id) = .ok id := natural_nat ha.1
      have output : EvalOutput.decode .refusedBuffered (g payload.toJson) = .ok payload :=
        EvalOutput.reads hg ha.2 hf
      refine tagged "result" [("id", .nat id), ("payload", payload.toJson)] (by decide) (by simp) ?_
      rw [decodeTagged, if_neg (by decide), if_neg (by decide), if_pos rfl]
      refine Shape.record_obj_eq_ok.mpr ⟨?_, ?_⟩
      · simp only [List.map_cons, List.map_nil, hg.nat]
        simp [Shape.checkField, check_ok number, check_ok output]
      · simp [Shape.Fields.ofObject, Shape.Fields.required, hg.nat, number, output]
        rfl
  | error id message logs =>
      have number : Shape.requestId (.nat id) = .ok id := natural_nat ha
      have lines := EvalOutput.texts_read logs
      refine tagged "error" [("id", .nat id), ("message", .str message), ("logs", .texts logs)]
        (by decide) (by simp) ?_
      rw [decodeTagged, if_neg (by decide), if_neg (by decide), if_neg (by decide)]
      refine Shape.record_obj_eq_ok.mpr ⟨?_, ?_⟩
      · simp only [List.map_cons, List.map_nil, hg.nat, hg.str, hg.texts]
        simp [Shape.checkField, check_ok number, check_ok lines]
      · simp [Shape.Fields.ofObject, Shape.Fields.required, hg.nat, hg.str, hg.texts, number, lines,
          Shape.text_str]
        rfl

theorem fits {j : Json} {a : Response} (hj : j.Sound) (h : decode j = .ok a) :
    a.Fits ∧ ∀ v ∈ a.free, v.Sound := by
  unfold decode at h
  obtain ⟨label, -, w, hw, h⟩ := Shape.tagged_eq_ok hj h
  unfold decodeTagged at h
  split at h
  case isTrue =>
      obtain rfl : Response.ready = a := Shape.unit_eq_ok h
      exact ⟨trivial, by simp [free]⟩
  split at h
  case isTrue =>
      obtain ⟨f, hf, built⟩ := Shape.record_eq_ok hw h
      obtain ⟨message, -, built⟩ := ok_of_bind built
      obtain rfl : Response.initFailed message = a := Except.ok.inj built
      exact ⟨trivial, by simp [free]⟩
  split at h
  case isTrue =>
      obtain ⟨f, hf, built⟩ := Shape.record_eq_ok hw h
      obtain ⟨id, hid, built⟩ := ok_of_bind built
      obtain ⟨payload, hp, built⟩ := ok_of_bind built
      obtain rfl : Response.result id payload = a := Except.ok.inj built
      obtain ⟨v, -, hid⟩ := required_eq_ok hf hid
      obtain ⟨u, hu, hp⟩ := required_eq_ok hf hp
      obtain ⟨output, parts⟩ := EvalOutput.fits hu hp
      exact ⟨⟨natural_eq_ok hid, output⟩, parts⟩
  case isFalse =>
      obtain ⟨f, hf, built⟩ := Shape.record_eq_ok hw h
      obtain ⟨id, hid, built⟩ := ok_of_bind built
      obtain ⟨message, -, built⟩ := ok_of_bind built
      obtain ⟨logs, -, built⟩ := ok_of_bind built
      obtain rfl : Response.error id message logs = a := Except.ok.inj built
      obtain ⟨v, -, hid⟩ := required_eq_ok hf hid
      exact ⟨natural_eq_ok hid, by simp [free]⟩

end Response

/-! ### The whole format -/

/-- **Wire forms round-trip**: requests, responses and every part of them are read back as they were
from what is written of them, and whatever was read is written as something that is read the same.
Only the free parts of responses, outputs and ops have to be in order for that, since any JSON may
stand there. -/
theorem wire_forms_round_trip :
    RoundTrips Request.toJson Request.decode Request.Fits (fun _ => []) ∧
    RoundTrips Response.toJson Response.decode Response.Fits Response.free ∧
    RoundTrips Finding.toJson Finding.decode Finding.Fits (fun _ => []) ∧
    RoundTrips ModuleFailure.toJson ModuleFailure.decode ModuleFailure.Fits (fun _ => []) ∧
    (∀ surplus, RoundTrips EvalOutput.toJson (EvalOutput.decode surplus) EvalOutput.Fits
      EvalOutput.free) ∧
    RoundTrips Op.toJson Op.decode Op.Fits Op.free ∧
    RoundTrips ModuleMap.toJson ModuleMap.decode ModuleMap.IsMade (fun _ => []) := by
  refine ⟨.of_reads ?_ ?_, .of_reads ?_ ?_, .of_reads ?_ ?_, .of_reads ?_ ?_, fun surplus =>
    .of_reads ?_ ?_, .of_reads ?_ ?_, .of_reads ?_ ?_⟩
  · exact fun g hg r hr _ => Request.reads hg hr
  · exact fun j r hj h => ⟨Request.fits hj h, by simp⟩
  · exact fun g hg a ha hf => Response.reads hg ha hf
  · exact fun j a hj h => Response.fits hj h
  · exact fun g hg f hf _ => Finding.reads hg hf
  · exact fun j f hj h => ⟨Finding.fits hj h, by simp⟩
  · exact fun g hg f hf _ => ModuleFailure.reads hg hf
  · exact fun j f hj h => ⟨ModuleFailure.fits hj h, by simp⟩
  · exact fun g hg o ho hf => EvalOutput.reads hg ho hf
  · exact fun j o hj h => EvalOutput.fits hj h
  · exact fun g hg op ho hf => Op.reads hg ho hf
  · exact fun j op hj h => Op.fits hj h
  · exact fun g hg m hm _ => ModuleMap.reads hg hm
  · exact fun j m _ h => ⟨ModuleMap.fits h, by simp⟩

/-- A value with fields named like the tags of messages and ops. -/
def Json.tagLike : Json := .obj [("id", .nat 7), ("op", .str "setRule"), ("type", .str "ready")]

/-- The greatest id and free parts that look like messages are read back, and so is a request in the
form of an array, of which the spelling of a module name became canonical. -/
theorem tag_like_parts_read_back :
    Response.decode (Response.toJson (.result (2 ^ 64 - 1)
        ⟨[.removeEntities .tagLike, .emit (.arr [.tagLike])], ["type"], .tagLike⟩)) =
      .ok (.result (2 ^ 64 - 1)
        ⟨[.removeEntities .tagLike, .emit (.arr [.tagLike])], ["type"], .tagLike⟩) ∧
    ∃ r, r = .evalModule 1 "main" ⟨[("main.js", "1")]⟩ ∧
      Request.decode (.arr [.str "eval_module", .nat 1, .str "main",
        .obj [("./main.js", .str "1")]]) = .ok r ∧
      Request.decode r.toJson = .ok r ∧ Request.decode r.toJson.sorted = .ok r := by
  obtain ⟨requests, responses, -⟩ := wire_forms_round_trip
  refine ⟨responses.back _ ⟨by decide, by simp [EvalOutput.Fits, Op.Fits]⟩, _, rfl, ?_⟩
  have modules : ModuleMap.ofPairs [("./main.js", "1")] = ⟨[("main.js", "1")]⟩ := by
    decide +kernel
  have read : Request.decode (.arr [.str "eval_module", .nat 1, .str "main",
      .obj [("./main.js", .str "1")]]) = .ok (.evalModule 1 "main" ⟨[("main.js", "1")]⟩) := by
    rw [← modules]
    rfl
  have table : (Json.obj [("./main.js", .str "1")]).Sound :=
    .obj (List.pairwise_singleton ..) (by simpa using .str "1")
  refine ⟨read, requests.again _ _ (.arr ?_) read⟩
  simp only [List.forall_mem_cons]
  exact ⟨.str _, .num ⟨by decide, by decide⟩, .str _, table, by simp⟩

end PatchSandbox
