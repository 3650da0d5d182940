import PatchSandbox.Proofs.Evaluation.Ops
import PatchSandbox.Proofs.Evaluation.Sight

/-!
# Calls of the bridge

A script calls the functions of the bridge as often as it likes, with what it likes.

* **`BridgeCall`** is a call with what the script does before it, which is any change of the state,
  and **`carryOut`** is the machine at some of them.
* **`Course`** is what these calls see, one after the other.
* **`Recorded`** and **`logged`** say which ops and lines belong to what was seen. The code of the
  functions is in neither.
* **`calls_return_and_keep_apart`** says that every call returns, and what is captured then.
-/

namespace PatchSandbox

namespace BridgeFunction

variable {f : BridgeFunction} {args : List (View Id)}

theorem ofOp?_of_isWellFormed {op : Op} (h : op.isWellFormed = true) :
    SoundOp.ofOp? op = some ⟨op, h⟩ :=
  dif_pos h

/-- What is recognized passes the guard. -/
theorem exists_recognize {j : Json} {op : Op} (h : Op.recognize j = some op) :
    ∃ o : SoundOp, o.val = op ∧ SoundOp.recognize j = some o := by
  unfold SoundOp.recognize
  split
  case h_1 op' h' =>
      obtain rfl := Option.some.inj (h'.symm.trans h)
      exact ⟨_, rfl, rfl⟩
  case h_2 h' =>
      rw [h] at h'
      cases h'

/-- A call that records an op is answered with it, and only such a call is answered with an op. -/
theorem records_iff_respond {op : Op} :
    f.Records args op ↔ ∃ o : SoundOp, o.val = op ∧ f.respond args = some (.op o) := by
  constructor
  · intro h
    cases h with
    | @emit arg more j op hj hr =>
        obtain ⟨o, ho, hs⟩ := exists_recognize hr
        refine ⟨o, ho, ?_⟩
        change ((View.toJson arg).bind SoundOp.recognize).map Entry.op = _
        rw [hj, Option.bind_some, hs, Option.map_some]
    | @setRule path value more p v hp hv hn hf =>
        have hw : (Op.setRule p v).isWellFormed = true := by simp [Op.isWellFormed, hn, hf]
        refine ⟨⟨_, hw⟩, rfl, ?_⟩
        unfold respond
        simp only [hp, hv]
        rw [ofOp?_of_isWellFormed hw]
        rfl
    | @setAbility name active more n b hp hv hn =>
        have hw : (Op.setAbility n b).isWellFormed = true := by simp [Op.isWellFormed, hn]
        refine ⟨⟨_, hw⟩, rfl, ?_⟩
        unfold respond
        simp only [hp, hv]
        rw [ofOp?_of_isWellFormed hw]
        rfl
    | @removeEntities arg more filter hj ho =>
        refine ⟨⟨_, rfl⟩, rfl, ?_⟩
        unfold respond
        dsimp only
        rw [hj]
        change (if filter.isObject then _ else _ : Option Entry) = _
        rw [if_pos ho]
        rfl
  · rintro ⟨o, rfl, h⟩
    exact records_of_respond h

theorem map_op_ne_line (o : Option SoundOp) (t : String) : o.map Entry.op ≠ some (.line t) := by
  cases o <;> exact fun h => by cases h

/-- Only the console is answered with a line. -/
theorem respond_ne_line (hf : f ≠ .console) (t : String) : f.respond args ≠ some (.line t) := by
  cases f with
  | emit =>
      cases args with
      | nil => exact (Option.some_ne_none _).symm
      | cons arg more => exact map_op_ne_line _ t
  | setRule =>
      rcases args with _ | ⟨path, _ | ⟨value, more⟩⟩
      case cons.cons =>
          unfold respond
          dsimp only
          split
          · exact map_op_ne_line _ t
          · exact (Option.some_ne_none _).symm
      all_goals exact (Option.some_ne_none _).symm
  | setAbility =>
      rcases args with _ | ⟨name, _ | ⟨active, more⟩⟩
      case cons.cons =>
          unfold respond
          dsimp only
          split
          · exact map_op_ne_line _ t
          · exact (Option.some_ne_none _).symm
      all_goals exact (Option.some_ne_none _).symm
  | removeEntities =>
      cases args with
      | nil => exact (Option.some_ne_none _).symm
      | cons arg more =>
          unfold respond
          dsimp only
          cases hj : arg.toJson with
          | none => exact (Option.some_ne_none _).symm
          | some filter =>
              change (if filter.isObject then
                (SoundOp.ofOp? (.removeEntities filter)).map Entry.op else none) ≠
                  some (.line t)
              split
              · exact map_op_ne_line _ t
              · exact (Option.some_ne_none _).symm
  | console => exact absurd rfl hf

end BridgeFunction

namespace Machine

/-! ### What is captured -/

/-- The ops captured so far. -/
def State.ops (s : State) : List Op := (Capture.ofEvents s.events).ops.toList.map (·.val)

/-- The lines captured so far. -/
def State.lines (s : State) : List String := (Capture.ofEvents s.events).logs.toList

/-- Nothing was captured meanwhile, and nothing was lost. -/
structure Silent (s s' : State) : Prop where
  ops : s'.ops = s.ops
  lines : s'.lines = s.lines

theorem ops_after (s : State) (e : Option Entry) :
    (s.after e).ops = s.ops ++ (e.bind Entry.op?).toList.map (·.val) := by
  unfold State.ops
  rw [ops_ofEvents, ops_ofEvents]
  rcases e with _ | ⟨o | t⟩ <;> simp [State.after, opsOf, Event.op?, Entry.op?]

theorem lines_after (s : State) (e : Option Entry) :
    (s.after e).lines = s.lines ++ (e.bind Entry.line?).toList := by
  unfold State.lines
  rw [logs_ofEvents, logs_ofEvents]
  rcases e with _ | ⟨o | t⟩ <;> simp [State.after, linesOf, Event.line?, Entry.line?]

/-! ### Calls, one after the other -/

/-- A call of a function of the bridge, and what the script does before it. -/
structure BridgeCall where
  interp : Interp
  before : State → State
  function : BridgeFunction
  call : Call

/-- What is carried out when a function of the bridge is called. -/
def BridgeCall.run (c : BridgeCall) : EStateM Abrupt State Value :=
  runNative (.bridge c.function) c.call c.interp

/-- The machine at some calls: what they return. -/
def carryOut : List BridgeCall → EStateM Abrupt State (List Value)
  | [] => pure []
  | c :: cs => do
    modify c.before
    let v ← c.run
    return v :: (← carryOut cs)

/-- What was seen by a call, with the function that was called. -/
abbrev Seen := List (BridgeFunction × List Sight)

/-- What some calls see, each in the state that the one before it leaves, and every one returns
`undefined`. -/
inductive Course : List BridgeCall → Seen → State → State → Prop
  | nil {s} : Course [] [] s s
  | cons {c cs ds seen s s₁ s₂ s'}
      (h : Sees c.interp c.function c.call.args.toList ds (c.before s) s₁)
      (hr : c.run (c.before s) = .ok .undefined s₂) (rest : Course cs seen s₂ s') :
      Course (c :: cs) ((c.function, ds) :: seen) s s'

/-- Neither what the script does between the calls nor the code of an argument that runs when a
text is made of it calls the bridge. -/
def QuietFrom : List BridgeCall → State → Prop
  | [], _ => True
  | c :: cs, s =>
    Silent s (c.before s) ∧
      (∀ ds s₁, Sees c.interp c.function c.call.args.toList ds (c.before s) s₁ →
        Silent (c.before s) s₁) ∧
      ∀ v s₂, c.run (c.before s) = .ok v s₂ → QuietFrom cs s₂

/-- The ops of the calls that are well formed, one for each. -/
inductive Recorded : Seen → List Op → Prop
  | nil : Recorded [] []
  | adds {f ds seen op ops} (h : f.Records (ds.map Sight.view) op) (rest : Recorded seen ops) :
      Recorded ((f, ds) :: seen) (op :: ops)
  | drops {f ds seen ops} (h : ∀ op, ¬ f.Records (ds.map Sight.view) op)
      (rest : Recorded seen ops) : Recorded ((f, ds) :: seen) ops

/-- The lines of the calls of the console, one for each: the arguments as they are shown, with
blanks between them. -/
def logged (seen : Seen) : List String :=
  seen.filterMap fun c =>
    if c.1 = .console then some (" ".intercalate (c.2.map Sight.shown)) else none

/-! ### One call -/

theorem run_of_sees {c : BridgeCall} {ds : List Sight} {s s₁ : State}
    (h : Sees c.interp c.function c.call.args.toList ds s s₁) :
    c.run s = .ok .undefined (s₁.after (effectOf c.function ds)) :=
  runBridge_of_sees h

/-- The one op that a call adds, if it is well formed. -/
theorem recorded_cons {f : BridgeFunction} {ds : List Sight} {seen : Seen} {ops : List Op}
    (rest : Recorded seen ops) :
    Recorded ((f, ds) :: seen) (((effectOf f ds).bind Entry.op?).toList.map (·.val) ++ ops) := by
  by_cases h : ∃ op, f.Records (ds.map Sight.view) op
  · obtain ⟨op, hop⟩ := h
    obtain ⟨o, rfl, hr⟩ := BridgeFunction.records_iff_respond.mp hop
    have effect : effectOf f ds = some (.op o) := hr
    rw [effect]
    exact .adds hop rest
  · have none_added : (effectOf f ds).bind Entry.op? = none := by
      cases hr : effectOf f ds with
      | none => rfl
      | some entry =>
          cases entry with
          | op o => exact absurd ⟨_, BridgeFunction.records_of_respond hr⟩ h
          | line t => rfl
    rw [none_added]
    exact .drops (fun op hop => h ⟨op, hop⟩) rest

/-- The one line that a call adds, if it is a call of the console. -/
theorem logged_cons (f : BridgeFunction) (ds : List Sight) (seen : Seen) :
    logged ((f, ds) :: seen) = ((effectOf f ds).bind Entry.line?).toList ++ logged seen := by
  by_cases hf : f = .console
  · subst hf
    rw [effectOf_console]
    rfl
  · have none_added : (effectOf f ds).bind Entry.line? = none := by
      cases hr : effectOf f ds with
      | none => rfl
      | some entry =>
          cases entry with
          | op o => rfl
          | line t => exact absurd hr (BridgeFunction.respond_ne_line hf t)
    rw [none_added]
    simp [logged, hf]

/-! ### Any number of calls -/

section

variable {calls : List BridgeCall} {seen : Seen} {s s' : State}

/-- Calls can be followed to the end. -/
theorem exists_course (calls : List BridgeCall) (s : State) :
    ∃ seen s', Course calls seen s s' := by
  induction calls generalizing s with
  | nil => exact ⟨[], s, .nil⟩
  | cons c cs ih =>
      obtain ⟨ds, s₁, h⟩ := exists_sees c.interp c.function c.call.args.toList (c.before s)
      obtain ⟨seen, s', rest⟩ := ih (s₁.after (effectOf c.function ds))
      exact ⟨_, s', .cons h (run_of_sees h) rest⟩

theorem carryOut_of_course (h : Course calls seen s s') :
    carryOut calls s = .ok (List.replicate calls.length .undefined) s' := by
  induction h with
  | nil => rfl
  | @cons c cs ds seen s s₁ s₂ s' _ hr _ ih =>
      have returns : carryOut (c :: cs) s =
          EStateM.bind c.run (fun v => EStateM.map (v :: ·) (carryOut cs)) (c.before s) := rfl
      rw [returns, EStateM.bind, hr]
      dsimp only
      rw [EStateM.map, ih]
      rfl

/-- What is captured of calls is what belongs to what they saw. -/
theorem captured_of_course (h : Course calls seen s s') (hq : QuietFrom calls s) :
    (∃ ops, Recorded seen ops ∧ s'.ops = s.ops ++ ops) ∧ s'.lines = s.lines ++ logged seen := by
  induction h with
  | nil => exact ⟨⟨[], .nil, (List.append_nil _).symm⟩, (List.append_nil _).symm⟩
  | @cons c cs ds seen s s₁ s₂ s' h hr _ ih =>
      obtain ⟨hb, hs, hq⟩ := hq
      obtain ⟨⟨ops, hrec, hops⟩, hlines⟩ := ih (hq _ _ hr)
      -- all that was captured since the script went on to this call is the effect of the call
      obtain rfl : s₂ = _ := by
        have he := hr.symm.trans (run_of_sees h)
        cases he
        rfl
      have look := hs ds s₁ h
      refine ⟨⟨_, recorded_cons hrec, ?_⟩, ?_⟩
      · rw [hops, ops_after, look.ops, hb.ops, List.append_assoc]
      · rw [hlines, lines_after, look.lines, hb.lines, List.append_assoc, logged_cons]

theorem functions_of_course (h : Course calls seen s s') :
    seen.map Prod.fst = calls.map BridgeCall.function := by
  induction h with
  | nil => rfl
  | cons _ _ _ ih => rw [List.map_cons, List.map_cons, ih]

/-- Calls of other functions log nothing, -/
theorem logged_eq_nil (h : ∀ c ∈ seen, c.1 ≠ .console) : logged seen = [] := by
  refine List.filterMap_eq_nil_iff.mpr fun c hc => ?_
  rw [if_neg (h c hc)]

/-- and calls of the console record nothing. -/
theorem recorded_eq_nil {ops : List Op} (h : Recorded seen ops) (hc : ∀ c ∈ seen, c.1 = .console) :
    ops = [] := by
  induction h with
  | nil => rfl
  | adds h _ _ =>
      obtain rfl := hc _ (List.mem_cons_self ..)
      cases h
  | drops _ _ ih => exact ih fun c hm => hc c (List.mem_cons_of_mem _ hm)

end

/-- Calls with plain arguments are quiet, if the script does nothing between them that is seen. -/
theorem quietFrom_of_plain {calls : List BridgeCall}
    (h : ∀ c ∈ calls, (∀ s, (c.before s).events = s.events) ∧
      ∀ v ∈ c.call.args.toList, v.isPlain = true) (s : State) : QuietFrom calls s := by
  have silent {s s' : State} (he : s'.events = s.events) : Silent s s' :=
    ⟨by rw [State.ops, he, State.ops], by rw [State.lines, he, State.lines]⟩
  induction calls generalizing s with
  | nil => trivial
  | cons c cs ih =>
      obtain ⟨⟨hb, hv⟩, hcs⟩ := List.forall_mem_cons.mp h
      exact ⟨silent (hb s), fun _ _ hs => silent (events_of_sees hv hs), fun _ s₂ _ => ih hcs s₂⟩

/-- **Every call of the bridge returns, and touches its own list only.** Whatever the calls are
given and whatever the script does meanwhile, they all return `undefined`. Where no other code calls
the bridge, the ops that are captured are those of the well formed calls, in order, and the lines
are those of the calls of the console, in order; so ops come from no call of the console, and lines
from no other call. -/
theorem calls_return_and_keep_apart (calls : List BridgeCall) (s : State) :
    ∃ seen s', Course calls seen s s' ∧
      seen.map Prod.fst = calls.map BridgeCall.function ∧
      carryOut calls s = .ok (List.replicate calls.length .undefined) s' ∧
      (QuietFrom calls s →
        (∃ ops, Recorded seen ops ∧ s'.ops = s.ops ++ ops) ∧
        s'.lines = s.lines ++ logged seen ∧
        ((∀ c ∈ calls, c.function = .console) → s'.ops = s.ops) ∧
        ((∀ c ∈ calls, c.function ≠ .console) → s'.lines = s.lines)) := by
  obtain ⟨seen, s', h⟩ := exists_course calls s
  have functions := functions_of_course h
  have called {c : BridgeFunction × List Sight} (hc : c ∈ seen) :
      ∃ c' ∈ calls, c'.function = c.1 :=
    List.mem_map.mp (functions ▸ List.mem_map_of_mem hc)
  refine ⟨seen, s', h, functions, carryOut_of_course h, fun hq => ?_⟩
  obtain ⟨⟨ops, hrec, hops⟩, hlines⟩ := captured_of_course h hq
  refine ⟨⟨ops, hrec, hops⟩, hlines, fun hc => ?_, fun hc => ?_⟩
  · have none_recorded : ops = [] := recorded_eq_nil hrec fun c hm => by
      obtain ⟨c', hc', he⟩ := called hm
      exact he ▸ hc c' hc'
    rw [hops, none_recorded, List.append_nil]
  · have none_logged : logged seen = [] := logged_eq_nil fun c hm => by
      obtain ⟨c', hc', he⟩ := called hm
      exact he ▸ hc c' hc'
    rw [hlines, none_logged, List.append_nil]

/-- A script that grants an ability, emits what has no JSON form, and logs that with a text. -/
def grantingScript : List BridgeCall :=
  let interp := interp runNative 0
  let call (args : Array Value) : Call := { receiver := .undefined, args, self := ⟨0⟩ }
  [⟨interp, id, .setAbility, call #[.string ⟨#[102, 108, 121]⟩, .bool true]⟩,
    ⟨interp, id, .emit, call #[.symbol ⟨0⟩]⟩,
    ⟨interp, id, .console, call #[.string ⟨#[104, 112]⟩, .symbol ⟨0⟩]⟩]

/-- Of its three calls one records an op, one is dropped and one logs a line. -/
theorem grantingScript_calls_return :
    QuietFrom grantingScript default ∧
      ∃ seen s', Course grantingScript seen default s' ∧
        carryOut grantingScript default = .ok [.undefined, .undefined, .undefined] s' ∧
        Recorded seen [.setAbility "fly" true] ∧ logged seen = ["hp [symbol]"] ∧
        s'.ops = [.setAbility "fly" true] ∧ s'.lines = ["hp [symbol]"] := by
  have quiet : QuietFrom grantingScript default :=
    quietFrom_of_plain (by simp [grantingScript, Value.isPlain]) _
  obtain ⟨seen, s', course, -, returned, captured⟩ :=
    calls_return_and_keep_apart grantingScript default
  obtain ⟨⟨ops, recorded, hops⟩, hlines, -, -⟩ := captured quiet
  obtain rfl : s' = endOf (carryOut grantingScript default) := by rw [returned]; rfl
  have ops_eq : (endOf (carryOut grantingScript default)).ops = [.setAbility "fly" true] := rfl
  have lines_eq : (endOf (carryOut grantingScript default)).lines = ["hp [symbol]"] := rfl
  obtain rfl : [.setAbility "fly" true] = ops := ops_eq.symm.trans hops
  exact ⟨quiet, seen, _, course, returned, recorded, (lines_eq.symm.trans hlines).symm, ops_eq,
    lines_eq⟩

end Machine

end PatchSandbox
