import PatchSandbox.Proofs.Op.Wire
import PatchSandbox.Proofs.Evaluation.Outcome

/-!
# The ops that leave

Ops enter a run in five ways: four functions of the bridge record them, and the result of the
program may declare more. Each way has a guard of its own.

* **`Op.Travels`** is what the host relies on: the op is read back from what is written of it, and
  it names what it changes.
* **`Op.travels_iff`** says that the guards ask for exactly that.
* **`every_op_travels`** follows an op from where it entered to the output that it leaves with.
-/

namespace PatchSandbox

namespace Op

/-- An op can be carried out of the sandbox and understood there. -/
structure Travels (op : Op) : Prop where
  /-- What is written of it is recognized as the same op. -/
  returns : recognize op.toJson = some op
  rule : ∀ path value, op = .setRule path value → path ≠ "" ∧ value.isFinite = true
  ability : ∀ name active, op = .setAbility name active → name ≠ ""

/-- The well formed ops travel, and no others. -/
theorem travels_iff {op : Op} : op.Travels ↔ op.isWellFormed = true := by
  constructor
  · intro h
    exact isWellFormed_of_recognize h.returns
  · intro h
    constructor
    · rw [recognize_toJson, if_pos h]
    · rintro path value rfl
      simpa [isWellFormed] using h
    · rintro name active rfl
      simpa [isWellFormed] using h

theorem travels_of_recognize {j : Json} {op : Op} (h : recognize j = some op) : op.Travels :=
  travels_iff.mpr (isWellFormed_of_recognize h)

theorem travels_of_mem_declared {output : Json} {op : Op} (h : op ∈ declared output) :
    op.Travels :=
  travels_iff.mpr (isWellFormed_of_mem_declared h)

end Op

/-! ### The functions of the bridge -/

namespace BridgeFunction

/-- A call records an op: which function, with arguments of which views, and which op. An
argument beyond those that a function asks for does not matter. -/
inductive Records : BridgeFunction → List (View Id) → Op → Prop
  /-- What the argument's JSON form is recognized as. -/
  | emit {arg more j op} (hj : arg.toJson = some j) (hr : Op.recognize j = some op) :
      Records .emit (arg :: more) op
  | setRule {path value more p v} (hp : path.string? = some p) (hv : value.number? = some v)
      (hn : p ≠ "") (hf : v.isFinite = true) :
      Records .setRule (path :: value :: more) (.setRule p v)
  | setAbility {name active more n b} (hp : name.string? = some n) (hv : active.bool? = some b)
      (hn : n ≠ "") :
      Records .setAbility (name :: active :: more) (.setAbility n b)
  | removeEntities {arg more filter} (hj : arg.toJson = some filter)
      (ho : filter.isObject = true) :
      Records .removeEntities (arg :: more) (.removeEntities filter)

theorem Records.travels {f : BridgeFunction} {args : List (View Id)} {op : Op}
    (h : Records f args op) : op.Travels := by
  cases h with
  | emit hj hr => exact Op.travels_of_recognize hr
  | setRule hp hv hn hf => exact Op.travels_iff.mpr (by simp [Op.isWellFormed, hn, hf])
  | setAbility hp hv hn => exact Op.travels_iff.mpr (by simp [Op.isWellFormed, hn])
  | removeEntities hj ho => exact Op.travels_iff.mpr rfl

/-- An op that passed the guard is the one that was put before it. -/
theorem guard_passed {op : Op} {o : SoundOp}
    (h : (SoundOp.ofOp? op).map Entry.op = some (.op o)) :
    o.val = op ∧ op.isWellFormed = true := by
  obtain ⟨o', ho, he⟩ := Option.map_eq_some_iff.mp h
  cases he
  unfold SoundOp.ofOp? at ho
  split at ho
  case isTrue hw =>
      cases ho
      exact ⟨rfl, hw⟩
  case isFalse => cases ho

/-- A value that is taken for an op is recognized as it. -/
theorem recognize_passed {j : Json} {o : SoundOp} (h : SoundOp.recognize j = some o) :
    Op.recognize j = some o.val := by
  unfold SoundOp.recognize at h
  split at h
  case h_1 op hr =>
      cases h
      exact hr
  case h_2 => cases h

/-- What a call is answered with is what it records. -/
theorem records_of_respond {f : BridgeFunction} {args : List (View Id)} {o : SoundOp}
    (h : f.respond args = some (.op o)) : Records f args o.val := by
  cases f with
  | emit =>
      cases args with
      | nil => cases h
      | cons arg more =>
          obtain ⟨o', ho, he⟩ := Option.map_eq_some_iff.mp h
          cases he
          obtain ⟨j, hj, hr⟩ := Option.bind_eq_some_iff.mp ho
          exact .emit hj (recognize_passed hr)
  | setRule =>
      rcases args with _ | ⟨path, _ | ⟨value, more⟩⟩
      case nil => cases h
      case cons.nil => cases h
      case cons.cons =>
          unfold respond at h
          dsimp only at h
          split at h
          case h_1 p v hp hv =>
              obtain ⟨ho, hw⟩ := guard_passed h
              obtain ⟨hn, hf⟩ : p ≠ "" ∧ v.isFinite = true := by simpa [Op.isWellFormed] using hw
              exact ho ▸ .setRule hp hv hn hf
          case h_2 => cases h
  | setAbility =>
      rcases args with _ | ⟨name, _ | ⟨active, more⟩⟩
      case nil => cases h
      case cons.nil => cases h
      case cons.cons =>
          unfold respond at h
          dsimp only at h
          split at h
          case h_1 n b hp hv =>
              obtain ⟨ho, hw⟩ := guard_passed h
              have hn : n ≠ "" := by simpa [Op.isWellFormed] using hw
              exact ho ▸ .setAbility hp hv hn
          case h_2 => cases h
  | removeEntities =>
      cases args with
      | nil => cases h
      | cons arg more =>
          unfold respond at h
          dsimp only at h
          cases hj : arg.toJson with
          | none =>
              rw [hj] at h
              cases h
          | some filter =>
              rw [hj] at h
              change (if filter.isObject then
                (SoundOp.ofOp? (.removeEntities filter)).map Entry.op else none) =
                  some (.op o) at h
              split at h
              case isTrue ho => exact (guard_passed h).1 ▸ .removeEntities hj ho
              case isFalse => cases h
  | console => cases h

end BridgeFunction

/-! ### The output -/

/-- An op of an output was recorded by a call, or the result declares it. -/
theorem mem_ops {σ ι : Type} {r : Runner σ ι} {limit : Nat} {s : σ} {out : EvalOutput} {op : Op}
    (h : (evaluate r limit s).1 = .ok out) (hop : op ∈ out.ops) :
    (∃ events, Completes r limit s out.output events ∧ op ∈ opsOf events) ∨
      op ∈ Op.declared out.output := by
  obtain ⟨events, hc, hops, -⟩ := ((allOrNothing r limit s).ok_iff out).mp h
  rw [hops, List.mem_append] at hop
  exact hop.imp_left fun hm => ⟨events, hc, hm⟩

/-- What is seen of a call that had an op for its effect is an op that travels. -/
theorem travels_of_mem_opsOf {events : Array Event} {op : Op} (h : op ∈ opsOf events) :
    op.Travels := by
  obtain ⟨event, -, he⟩ := List.mem_filterMap.mp h
  cases event with
  | effect entry =>
      obtain ⟨o, -, rfl⟩ := Option.map_eq_some_iff.mp he
      exact Op.travels_iff.mpr o.property
  | rejection _ => cases he

theorem travels_of_evaluate {σ ι : Type} {r : Runner σ ι} {limit : Nat} {s : σ}
    {out : EvalOutput} (h : (evaluate r limit s).1 = .ok out) : ∀ op ∈ out.ops, op.Travels := by
  intro op hop
  rcases mem_ops h hop with ⟨events, -, hm⟩ | hd
  · exact travels_of_mem_opsOf hm
  · exact Op.travels_of_mem_declared hd

/-- **Every op that leaves can be read back, whichever way it entered.** A call of the bridge
records only what its function asks for, and that travels; so does what a result declares. The
ops of an output are of these two kinds, whatever carries the program out, and so are those of
the engine, for every program. -/
theorem every_op_travels :
    (∀ {f : BridgeFunction} {args : List (View Id)} {o : SoundOp},
        f.respond args = some (.op o) → f.Records args o.val ∧ o.val.Travels) ∧
      (∀ {output : Json}, ∀ op ∈ Op.declared output, op.Travels) ∧
      (∀ {σ ι : Type} {r : Runner σ ι} {limit : Nat} {s : σ} {out : EvalOutput},
        (evaluate r limit s).1 = .ok out → ∀ op ∈ out.ops, op.Travels) ∧
      ∀ {e : Machine.Engine} {p : Submission} {out : EvalOutput},
        (e.evaluate p).1 = .ok out → ∀ op ∈ out.ops, op.Travels := by
  refine ⟨fun h => ⟨BridgeFunction.records_of_respond h, ?_⟩, fun _ h => ?_, travels_of_evaluate,
    fun {e p _} h => ?_⟩
  · exact (BridgeFunction.records_of_respond h).travels
  · exact Op.travels_of_mem_declared h
  · rw [(Machine.carriesOut e p).returned] at h
    exact travels_of_evaluate h

/-- A program that gets to see the effect of one call of the bridge, and ends with a result. -/
def Runner.ofCall (f : BridgeFunction) (args : List (View Id)) (output : Json) :
    Runner Unit Unit where
  jobs := ⟨fun _ => none, fun _ _ => ⟨.ok (), #[], ()⟩⟩
  body _ := ⟨.ok output, ((f.respond args).map Event.effect).toArray, ()⟩
  close s := s

/-- An argument of which everything is known at once. -/
def View.ofJson (j : Json) : View Id :=
  ⟨match j with | .str s => some s | _ => none, none,
    match j with | .bool b => some b | _ => none, none, none, "object"⟩

/-- An ability that is granted by a call, and of three ops that are declared the one that is
well formed. -/
theorem called_and_declared_travel :
    let args := [View.ofJson (.str "fly"), View.ofJson (.bool true), View.ofJson .null]
    let output := Json.obj [("ops", .arr
      [.null, (Op.setAbility "" true).toJson, (Op.removeEntities (.obj [])).toJson])]
    BridgeFunction.setAbility.Records args (.setAbility "fly" true) ∧
      ∃ out, (evaluate (Runner.ofCall .setAbility args output) 0 ()).1 = .ok out ∧
        out.ops = [.setAbility "fly" true, .removeEntities (.obj [])] ∧
        ∀ op ∈ out.ops, op.Travels := by
  intro args output
  have answered : BridgeFunction.setAbility.respond args =
      some (.op ⟨.setAbility "fly" true, rfl⟩) := rfl
  have ends : (evaluate (Runner.ofCall .setAbility args output) 0 ()).1 =
      .ok ⟨[.setAbility "fly" true, .removeEntities (.obj [])], [], output⟩ := rfl
  exact ⟨(every_op_travels.1 answered).1, _, ends, rfl, every_op_travels.2.2.1 ends⟩

end PatchSandbox
