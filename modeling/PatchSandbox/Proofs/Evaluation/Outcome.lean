import PatchSandbox.Machine.Engine
import PatchSandbox.Proofs.Evaluation.Drain
import PatchSandbox.Proofs.Evaluation.Ledger

/-!
# What an evaluation comes to

An evaluation has three parts that can fail, one after the other: the program, the jobs it
leaves, and the promises that are rejected in either.

* **`Completes`** and **`Fails`** say which of them failed first, if any, and what was seen until
  then. They mention neither captures nor ledgers.
* **`AllOrNothing`** says what is returned in terms of these two: with a failure all ops are lost
  and no line is.
* **`evaluation_all_or_nothing`** proves it of everything that can carry a program out, and says
  how the engine does.
-/

namespace PatchSandbox

/-! ### Events -/

/-- The op that an effect is. -/
def Entry.op? : Entry → Option SoundOp
  | .op o => some o
  | .line _ => none

/-- The line that an effect is. -/
def Entry.line? : Entry → Option String
  | .op _ => none
  | .line text => some text

/-- The op that a call of the bridge recorded. -/
def Event.op? : Event → Option Op
  | .effect e => e.op?.map (·.val)
  | .rejection _ => none

/-- The line that a call of the bridge logged. -/
def Event.line? : Event → Option String
  | .effect e => e.line?
  | .rejection _ => none

/-- The news of a rejected promise. -/
def Event.rejection? : Event → Option Rejection
  | .effect _ => none
  | .rejection r => some r

/-- The ops that were recorded, in the order of the calls. -/
def opsOf (events : Array Event) : List Op := events.toList.filterMap Event.op?

/-- The lines that were logged, in the order of the calls. -/
def linesOf (events : Array Event) : List String := events.toList.filterMap Event.line?

/-- The news of rejected promises, in order. -/
def rejectionsOf (events : Array Event) : List Rejection :=
  events.toList.filterMap Event.rejection?

theorem ops_foldl_add (es : List Entry) (c : Capture) :
    (es.foldl Capture.add c).ops.toList = c.ops.toList ++ es.filterMap Entry.op? := by
  induction es generalizing c with
  | nil => simp
  | cons e es ih =>
      rw [List.foldl_cons, ih]
      cases e <;> simp [List.filterMap_cons, Entry.op?]

theorem logs_foldl_add (es : List Entry) (c : Capture) :
    (es.foldl Capture.add c).logs.toList = c.logs.toList ++ es.filterMap Entry.line? := by
  induction es generalizing c with
  | nil => simp
  | cons e es ih =>
      rw [List.foldl_cons, ih]
      cases e <;> simp [List.filterMap_cons, Entry.line?]

/-- The capture of a run holds the ops of the calls, -/
theorem ops_ofEvents (events : Array Event) :
    (Capture.ofEvents events).ops.toList.map (·.val) = opsOf events := by
  rw [Capture.ofEvents, Capture.ofEntries, ← Array.foldl_toList, ops_foldl_add, Event.entries,
    Array.toList_filterMap, List.filterMap_filterMap, opsOf]
  rw [show ({} : Capture).ops.toList = [] from rfl, List.nil_append, List.map_filterMap]
  congr 1
  funext e
  cases e <;> rfl

/-- and their lines. -/
theorem logs_ofEvents (events : Array Event) :
    (Capture.ofEvents events).logs.toList = linesOf events := by
  rw [Capture.ofEvents, Capture.ofEntries, ← Array.foldl_toList, logs_foldl_add, Event.entries,
    Array.toList_filterMap, List.filterMap_filterMap, linesOf]
  rw [show ({} : Capture).logs.toList = [] from rfl, List.nil_append]
  congr 1
  funext e
  cases e <;> rfl

/-- The output of a run, read off its events. -/
theorem output_ofEvents (output : Json) (events : Array Event) :
    EvalOutput.ofEvents output events =
      ⟨opsOf events ++ Op.declared output, linesOf events, output⟩ := by
  rw [EvalOutput.ofEvents, ops_ofEvents, logs_ofEvents]

/-- The fault of a run, read off its events. -/
theorem fault_ofEvents (message : String) (events : Array Event) :
    Fault.ofEvents message events = ⟨message, linesOf events⟩ := by
  rw [Fault.ofEvents, logs_ofEvents]

/-- What the ledger knows at the end of a run. -/
theorem ledger_ofEvents (events : Array Event) :
    Ledger.ofEvents events = Ledger.of (rejectionsOf events) := by
  rw [Ledger.ofEvents, Ledger.ofRejections_eq, Event.rejections, rejectionsOf,
    Array.toList_filterMap]
  congr 2

/-! ### Endings -/

variable {σ ι : Type}

/-- The program completes with such a result, all jobs that it leaves are carried out, and no
rejection is left. The events are those of the program and then those of the jobs. -/
inductive Completes (r : Runner σ ι) (limit : Nat) (s : σ) (output : Json) : Array Event → Prop
  | intro {events} (hb : (r.body s).outcome = .ok output)
      (hd : Drains r.jobs limit (r.body s).rest none events)
      (hu : ¬ Ledger.LeftUnhandled (rejectionsOf ((r.body s).events ++ events))) :
      Completes r limit s output ((r.body s).events ++ events)

/-- What fails first, with its message and the events until then. -/
inductive Fails (r : Runner σ ι) (limit : Nat) (s : σ) : String → Array Event → Prop
  | body {message} (hb : (r.body s).outcome = .error message) :
      Fails r limit s message (r.body s).events
  | drain {output flaw events} (hb : (r.body s).outcome = .ok output)
      (hd : Drains r.jobs limit (r.body s).rest (some flaw) events) :
      Fails r limit s flaw.message ((r.body s).events ++ events)
  | unhandled {output events reason} (hb : (r.body s).outcome = .ok output)
      (hd : Drains r.jobs limit (r.body s).rest none events)
      (hu : Ledger.Blamed (rejectionsOf ((r.body s).events ++ events)) reason) :
      Fails r limit s (Fault.unhandledText reason) ((r.body s).events ++ events)

/-- What is returned, in every case. -/
structure AllOrNothing (r : Runner σ ι) (limit : Nat) (s : σ) : Prop where
  /-- An output is returned exactly if the run completes. It has the ops of the calls and then
  those the result declares, and all lines. -/
  ok_iff : ∀ out, (evaluate r limit s).1 = .ok out ↔
    ∃ events, Completes r limit s out.output events ∧
      out.ops = opsOf events ++ Op.declared out.output ∧ out.logs = linesOf events
  /-- A fault is returned exactly if something fails. It has the message of what fails first
  and the lines until then. -/
  error_iff : ∀ fault, (evaluate r limit s).1 = .error fault ↔
    ∃ events, Fails r limit s fault.message events ∧ fault.logs = linesOf events
  /-- Where the program fails, no job is carried out: it does not matter which ones there are. -/
  jobs_unused : ∀ message, (r.body s).outcome = .error message →
    ∀ jobs : JobSource σ ι, evaluate { r with jobs } limit s = evaluate r limit s

section

variable {r : Runner σ ι} {limit : Nat} {s : σ} {events : Array Event} {output : Json}
  {message : String}

theorem outcome_of_completes (h : Completes r limit s output events) :
    (evaluate r limit s).1 =
      .ok ⟨opsOf events ++ Op.declared output, linesOf events, output⟩ := by
  cases h with
  | @intro events hb hd hu =>
      obtain ⟨hflaw, hevents⟩ := drain_of_drains hd (r.body s).events
      have none := Ledger.take_eq_none_iff.mpr hu
      simp [evaluate, outcomeOf, hb, hflaw, hevents, ledger_ofEvents, none, output_ofEvents]

theorem outcome_of_fails (h : Fails r limit s message events) :
    (evaluate r limit s).1 = .error ⟨message, linesOf events⟩ := by
  cases h with
  | body hb => simp [evaluate, outcomeOf, hb, fault_ofEvents]
  | @drain output flaw events hb hd =>
      obtain ⟨hflaw, hevents⟩ := drain_of_drains hd (r.body s).events
      simp [evaluate, outcomeOf, hb, hflaw, hevents, fault_ofEvents]
  | @unhandled output events reason hb hd hu =>
      obtain ⟨hflaw, hevents⟩ := drain_of_drains hd (r.body s).events
      have told := Ledger.take_eq_some_iff.mpr hu
      simp [evaluate, outcomeOf, hb, hflaw, hevents, ledger_ofEvents, told, fault_ofEvents]

/-- **Every evaluation completes, or something in it fails first.** -/
theorem completes_or_fails (r : Runner σ ι) (limit : Nat) (s : σ) :
    (∃ output events, Completes r limit s output events) ∨
      ∃ message events, Fails r limit s message events := by
  cases hb : (r.body s).outcome with
  | error message => exact .inr ⟨message, _, .body hb⟩
  | ok output =>
      obtain ⟨flaw, events, hd⟩ := drains r.jobs limit (r.body s).rest
      cases flaw with
      | some flaw => exact .inr ⟨_, _, .drain hb hd⟩
      | none =>
          cases ht : (Ledger.of (rejectionsOf ((r.body s).events ++ events))).take.1 with
          | none => exact .inl ⟨output, _, .intro hb hd (Ledger.take_eq_none_iff.mp ht)⟩
          | some reason => exact .inr ⟨_, _, .unhandled hb hd (Ledger.take_eq_some_iff.mp ht)⟩

theorem allOrNothing (r : Runner σ ι) (limit : Nat) (s : σ) : AllOrNothing r limit s where
  ok_iff := by
    intro out
    constructor
    · intro h
      rcases completes_or_fails r limit s with ⟨output, events, hc⟩ | ⟨message, events, hf⟩
      · obtain rfl := Except.ok.inj ((outcome_of_completes hc).symm.trans h)
        exact ⟨events, hc, rfl, rfl⟩
      · simp [outcome_of_fails hf] at h
    · rintro ⟨events, hc, hops, hlogs⟩
      rw [outcome_of_completes hc, ← hops, ← hlogs]
  error_iff := by
    intro fault
    constructor
    · intro h
      rcases completes_or_fails r limit s with ⟨output, events, hc⟩ | ⟨message, events, hf⟩
      · simp [outcome_of_completes hc] at h
      · obtain rfl := Except.error.inj ((outcome_of_fails hf).symm.trans h)
        exact ⟨events, hf, rfl⟩
    · rintro ⟨events, hf, hlogs⟩
      rw [outcome_of_fails hf, ← hlogs]
  jobs_unused := by
    intro message hb jobs
    simp [evaluate, outcomeOf, hb]

end

/-! ### The engine -/

namespace Machine

variable (e : Engine) (p : Submission)

/-- The state that an engine runs a program in. -/
def Engine.start : State :=
  initialState e.limits e.steps
    (match p with
      | .script _ => ⟨[]⟩
      | .module _ modules => modules)

/-- What comes before the program: the functions of the bridge are bound, and the standard
objects are hardened. -/
def Engine.prepared : Turn State Unit :=
  turnOf hardeningText (e.start p) (prepare p)

/-- The program itself. -/
def Engine.ran : Turn State Json := turnOf abruptText (e.prepared p).rest (runSubmission p)

/-- How an engine carries a program out. -/
structure Engine.CarriesOut : Prop where
  returned : (e.evaluate p).1 =
    (PatchSandbox.evaluate (runner p) e.limits.pendingJobs (e.start p)).1
  /-- The body completes exactly if the preparation and then the program do. -/
  ok_iff : ∀ output, ((runner p).body (e.start p)).outcome = .ok output ↔
    (e.prepared p).outcome = .ok () ∧ (e.ran p).outcome = .ok output
  /-- Else it fails with the message of the one that fails first. -/
  error_iff : ∀ message, ((runner p).body (e.start p)).outcome = .error message ↔
    (e.prepared p).outcome = .error message ∨
      ((e.prepared p).outcome = .ok () ∧ (e.ran p).outcome = .error message)
  /-- What is seen of it is seen of the one and then of the other. -/
  events : ((runner p).body (e.start p)).events = (e.prepared p).events ++
    if (e.prepared p).outcome = .ok () then (e.ran p).events else #[]
  /-- Nothing is seen twice: every part begins without events. -/
  fresh : (e.start p).events = #[] ∧ ((runner p).body (e.start p)).rest.events = #[] ∧
    ∀ job s, ((runner p).jobs.perform job s).rest.events = #[]

/-- What was seen of a piece of a run is taken out of the state. -/
theorem events_turnOf {α : Type} (word : Abrupt → State → String × State) (s : State) (x : M α) :
    (turnOf word s x).rest.events = #[] := by
  unfold turnOf
  split <;> rfl

/-- The body is the preparation, and the program if that succeeds. -/
theorem body_eq : (runner p).body (e.start p) =
    match (e.prepared p).outcome with
    | .error message => ⟨.error message, (e.prepared p).events, (e.prepared p).rest⟩
    | .ok () => { e.ran p with events := (e.prepared p).events ++ (e.ran p).events } :=
  rfl

theorem carriesOut : e.CarriesOut p := by
  have body := body_eq e p
  constructor
  · rfl
  · intro output
    rw [body]
    cases (e.prepared p).outcome <;> simp
  · intro message
    rw [body]
    cases (e.prepared p).outcome <;> simp
  · rw [body]
    cases (e.prepared p).outcome <;> simp
  · refine ⟨rfl, ?_, fun job s => events_turnOf jobText s (runJob job)⟩
    rw [body]
    cases (e.prepared p).outcome with
    | error message => exact events_turnOf _ _ _
    | ok _ => exact events_turnOf _ _ _

end Machine

end PatchSandbox
