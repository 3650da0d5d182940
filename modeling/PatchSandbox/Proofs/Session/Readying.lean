import PatchSandbox.Proofs.Session.Disposal
import PatchSandbox.Proofs.Session.Submission

/-!
# The engine is there before it is needed

A worker can say of an evaluation that its engine is unavailable. In a session it never has to:
a call sends nothing before the worker has reported its engine, and a worker that has answered
anything has an engine for good.

* **`Made`** is the worker's side: the first answer fills the cell of the engine, and nothing
  empties or changes it.
* **`Halted`** is the callers' side, where there is no engine: it says how far calls get then.
* **`Readied`** is what follows for whole runs, and **`engine_precedes_evaluations`** proves it.
-/

namespace PatchSandbox

/-- An engine that is reported was made. -/
theorem Worker.make_of_answer_ready {ε : Type} {k : EngineKind ε} {engine : Except String ε}
    {r : Request} (h : Worker.answer k engine r = some .ready) : ∃ e, engine = .ok e := by
  cases engine with
  | ok e => exact ⟨e, rfl⟩
  | error message =>
      unfold Worker.answer at h
      cases hr : r.submission? with
      | none => simp [hr, Response.ofEngine] at h
      | some x => simp [hr, Response.unavailable] at h

/-- A request for an evaluation is not the first one. -/
theorem Request.ne_init_of_submission? {r : Request} {x : RequestId × Submission}
    (h : r.submission? = some x) : r ≠ .init := by
  rintro rfl
  simp [Request.submission?] at h

namespace Session

variable {ε : Type} {k : EngineKind ε} {config : Config}

/-! ### The cell of the engine -/

/-- Whoever has answered something has an engine, or knows why there is none. -/
def Made (k : EngineKind ε) (w : Worker ε) (h : List Occurrence) : Prop :=
  answers h ≠ [] → w.engine = some k.make

section

variable {s t : Session ε} {w w' : Worker ε} {h : List Occurrence} {e : Option Occurrence}
  {i : Nat} {c c' : Caller}

theorem Made.workerMove (hs : Made k w h) (ha : Answers k w h) (hm : WorkerMove k w e w') :
    Made k w' (h ++ e.toList) := by
  cases hm with
  | answered hp ht hanswer => exact fun _ => congrArg some ha.engine
  | _ => simpa [Made] using hs

/-- A step of a call leaves the engine alone. -/
theorem CallerMove.engine_eq (hm : CallerMove s i c e c' t) :
    t.worker.engine = s.worker.engine ∧ answers e.toList = [] := by
  cases hm with
  | sent hw hq =>
      obtain ⟨-, -, rfl⟩ := send_eq_ok hq
      exact ⟨rfl, rfl⟩
  | _ => exact ⟨rfl, rfl⟩

theorem RouterMove.engine_eq (hm : RouterMove s e t) :
    t.worker.engine = s.worker.engine ∧ answers e.toList = [] := by
  cases hm with
  | @delivered a hr => exact ⟨by simp, rfl⟩
  | _ => exact ⟨rfl, rfl⟩

theorem Made.move (hs : Made k s.worker h) (ha : Answers k s.worker h) (hm : Move k s e t) :
    Made k t.worker (h ++ e.toList) := by
  cases hm with
  | worker hm => exact hs.workerMove ha hm
  | caller hc hm =>
      obtain ⟨same, silent⟩ := hm.engine_eq
      intro hne
      rw [answers_append, silent, List.append_nil] at hne
      exact same.trans (hs hne)
  | router hm =>
      obtain ⟨same, silent⟩ := hm.engine_eq
      intro hne
      rw [answers_append, silent, List.append_nil] at hne
      exact same.trans (hs hne)
  | _ => simpa [Made, addCaller] using hs

/-- **The cell never turns**: once it is filled, every step leaves it as it is. -/
theorem Move.engine_stays {x : Except String ε} (hm : Move k s e t)
    (hx : s.worker.engine = some x) : t.worker.engine = some x := by
  cases hm with
  | worker hm =>
      cases hm with
      | answered hp ht ha =>
          have same : s.worker.engineOf k = x := by simp [Worker.engineOf, hx]
          exact congrArg some same
      | _ => exact hx
  | caller hc hm => exact hm.engine_eq.1.trans hx
  | router hm => exact hm.engine_eq.1.trans hx
  | _ => exact hx

/-! ### What is known once the engine is reported -/

/-- An engine that is reported was made, by a worker that has answered something. -/
theorem Regular.made_of_ready (hs : Regular k s h) (hr : .ready ∈ reports h) :
    Session.answers h ≠ [] ∧ ∃ e, k.make = .ok e := by
  have found : Response.ready ∈ (Session.answers h).map (·.2) := hs.channels.reported.subset hr
  obtain ⟨⟨r, a⟩, hra, rfl⟩ := List.mem_map.mp found
  exact ⟨List.ne_nil_of_mem hra, Worker.make_of_answer_ready (hs.answers.answered r _ hra)⟩

/-- So the worker has it. -/
theorem Regular.engine_of_ready (hs : Regular k s h) (hmade : Made k s.worker h)
    (hr : .ready ∈ reports h) : ∃ e, k.make = .ok e ∧ s.worker.engine = some (.ok e) := by
  obtain ⟨found, e, he⟩ := hs.made_of_ready hr
  have cell : s.worker.engine = some k.make := hmade found
  exact ⟨e, he, cell.trans (congrArg some he)⟩

/-- Where a call has sent its request, the engine is reported. -/
theorem Ordered.ready {limits : SourceLimits} (ho : Ordered limits h) {r : Request}
    (hr : r ∈ sends h) : .ready ∈ reports h := by
  obtain ⟨i, hi⟩ := mem_sends.mp hr
  obtain ⟨before, after, rfl⟩ := List.mem_iff_append.mp hi
  have reported : .reported .ready ∈ before := (ho before i r after rfl).2
  exact mem_reports.mpr (List.mem_append_left _ reported)

/-- Whatever the worker has on its queue or in its hand was sent by a call, but for the first
request. -/
theorem Channels.sent_of_held {router : Router} {r : Request} (hch : Channels w router h)
    (hr : r ∈ w.requests ∨ w.phase.request? = some r ∨ r ∈ takes h) (hne : r ≠ .init) :
    r ∈ sends h := by
  have known : r ∈ .init :: sends h := by
    rw [hch.requests, List.mem_append]
    rcases hr with hr | hr | hr
    · exact .inr hr
    · have live : w.isStopped = false := by
        cases hp : w.phase <;> simp_all [Worker.Phase.request?, Worker.isStopped]
      rw [hch.held live]
      simp [hr]
    · exact .inl hr
  exact (List.mem_cons.mp known).resolve_left hne

/-! ### Calls where there is no engine -/

/-- How far a call gets where there is no engine. -/
inductive Halted (limits : SourceLimits) (message : String) (h : List Occurrence) (i : Nat) :
    Caller → Prop
  | begun {task} : Halted limits message h i (.begun task)
  | rejected {task e} (hb : .began i task ∈ h) (he : task.check limits = .error e) :
      Halted limits message h i (.done (.error e))
  | admitted {p} : Halted limits message h i (.admitted p)
  | engineFailed : Halted limits message h i (.done (.error (.engineFailed message)))
  | disposed : Halted limits message h i (.done (.error .disposed))
  | givenUp : Halted limits message h i .over
  /-- It disposes of the session, and not because its time was over. -/
  | disposing {what} : Halted limits message h i (.disposing what none)

variable {limits : SourceLimits} {message : String}

theorem Halted.later (hh : Halted limits message h i c) (h' : List Occurrence) :
    Halted limits message (h ++ h') i c := by
  cases hh with
  | rejected hb he => exact .rejected (List.mem_append_left _ hb) he
  | begun => exact .begun
  | admitted => exact .admitted
  | engineFailed => exact .engineFailed
  | disposed => exact .disposed
  | givenUp => exact .givenUp
  | disposing => exact .disposing

/-- A call begins once. -/
theorem Calls.began_unique (hs : Calls s h) {task task' : Task} (ht : .began i task ∈ h)
    (ht' : .began i task' ∈ h) : task = task' := by
  obtain ⟨first, _, _, _, hp⟩ := hs.tale i
  have mem : .began i task ∈ deeds i h := mem_deeds ht rfl
  have mem' : .began i task' ∈ deeds i h := mem_deeds ht' rfl
  have same := hp.subset mem
  have same' := hp.subset mem'
  simp only [List.mem_cons, Occurrence.began.injEq, reduceCtorEq, List.not_mem_nil, true_and,
    or_false] at same same'
  exact same.trans same'.symm

/-- Where there is no engine, none is reported. -/
theorem Regular.unready (hs : Regular k s h) (hk : k.make = .error message) :
    .ready ∉ reports h := by
  intro hr
  obtain ⟨-, e, he⟩ := hs.made_of_ready hr
  rw [hk] at he
  cases he

/-- A call that waits for the engine learns why there is none, or that the session is over. -/
theorem CallerMove.halted (hm : CallerMove s i c e c' t) (hs : Regular k s h) (hf : Failed s h)
    (hk : k.make = .error message) (hc : s.caller? i = some c)
    (hh : Halted s.config.source message h i c) : Halted s.config.source message h i c' := by
  cases hh with
  | @begun task =>
      cases hm with
      | refused hcl => exact .disposed
      | rejected hcl he =>
          have story := hs.calls.stories i _ hc
          generalize hd : deeds i h = es at story
          cases story
          exact .rejected (mem_of_mem_deeds (i := i) (by simp [hd])) he
      | admitted hcl hp => exact .admitted
  | admitted =>
      cases hm with
      | cleared hr => exact absurd (hs.calls.ready hr) (hs.unready hk)
      | @engineFailed p message' hr =>
          have made : k.make = .error message' := hs.make_of_failed (hf message' hr)
          obtain rfl : message = message' := Except.error.inj (hk.symm.trans made)
          exact .engineFailed
      | shut hr => exact .disposed
      | givenUp => exact .givenUp
  | @disposing what =>
      cases hm with
      | closeTable => exact .disposing
      | closeReadiness => exact .disposing
      | stopWorker hw => exact .givenUp
      | noWorker hw => exact .givenUp
  | rejected hb he => cases hm
  | engineFailed => cases hm
  | disposed => cases hm
  | givenUp => cases hm

/-- **Where there is no engine**, one step takes no call any further. -/
theorem Move.halted (hm : Move k s e t) (hs : Regular k s h) (hf : Failed s h)
    (hk : k.make = .error message)
    (hh : ∀ i c, s.caller? i = some c → Halted s.config.source message h i c) :
    ∀ i c, t.caller? i = some c → Halted t.config.source message (h ++ e.toList) i c := by
  intro j d hj
  rw [hm.config_eq]
  have others (hcs : t.callers = s.callers) :
      Halted s.config.source message (h ++ e.toList) j d := by
    rw [caller?_eq_of_callers_eq hcs] at hj
    exact (hh j d hj).later _
  cases hm with
  | call task =>
      rcases caller?_addCaller_cases hj with hj | ⟨-, rfl⟩
      · exact (hh j d hj).later _
      · exact .begun
  | dispose =>
      rcases caller?_addCaller_cases hj with hj | ⟨-, rfl⟩
      · exact (hh j d hj).later _
      · exact .disposing
  | @caller i c e c' u hc hm =>
      rcases caller?_setCaller_cases hj with ⟨rfl, rfl⟩ | ⟨-, hj⟩
      · exact (hm.halted hs hf hk hc (hh j c hc)).later _
      · rw [caller?_eq_of_callers_eq hm.callers_eq] at hj
        exact (hh j d hj).later _
  | worker hm => exact others rfl
  | loseWorker => exact others rfl
  | router hm => exact others hm.callers_eq

end

/-! ### Whole runs -/

theorem made_of_run {acts : List Action} {s : Session ε}
    (hr : runActions k (spawn config) acts = some s) :
    Made k s.worker (history k (spawn config) acts) := by
  have all := run_induction
    (motive := fun s h => Answers k s.worker h ∧ Made k s.worker h)
    ⟨⟨rfl, by simp⟩, by simp [Made]⟩ (fun _ _ _ _ hs hm => ⟨hs.1.move hm, hs.2.move hs.1 hm⟩) hr
  exact all.2

theorem halted_of_run {acts : List Action} {s : Session ε}
    (hr : runActions k (spawn config) acts = some s) (message : String)
    (hk : k.make = .error message) :
    ∀ i c, s.caller? i = some c →
      Halted config.source message (history k (spawn config) acts) i c := by
  have all := run_induction
    (motive := fun s h => (Regular k s h ∧ Failed s h ∧ s.config = config) ∧
      ∀ i c, s.caller? i = some c → Halted s.config.source message h i c)
    ⟨⟨regular_spawn, by simp [Failed, spawn], rfl⟩, by simp [spawn, caller?]⟩ ?_ hr
  · obtain ⟨⟨-, -, rfl⟩, halted⟩ := all
    exact halted
  · rintro s h e t ⟨⟨hs, hf, rfl⟩, hh⟩ hm
    exact ⟨⟨hs.move hm, hf.move hm, hm.config_eq⟩, hm.halted hs hf hk hh⟩

/-- What is known of the engine after a run. -/
structure Readied (k : EngineKind ε) (limits : SourceLimits) (s : Session ε)
    (h : List Occurrence) : Prop where
  /-- A request for an evaluation that waits on the worker's queue, is in its hand (so also when
  it is handled) or was ever taken: the worker has an engine. -/
  held : ∀ r id p, r.submission? = some (id, p) →
    r ∈ s.worker.requests ∨ s.worker.phase.request? = some r ∨ r ∈ takes h →
      ∃ e, k.make = .ok e ∧ s.worker.engine = some (.ok e)
  /-- What the worker has answered to it is what became of its program on that engine. -/
  answered : ∀ r a id p, r.submission? = some (id, p) → (r, a) ∈ answers h →
    ∃ e o, s.worker.engine = some (.ok e) ∧ k.run e p = some o ∧ a = .ofOutcome id o
  /-- Calls see that the engine is ready only when the worker has it. -/
  observed : s.readiness = .ready → ∃ e, k.make = .ok e ∧ s.worker.engine = some (.ok e)
  /-- The cell of the engine never changes once it is filled. -/
  stays : ∀ x, s.worker.engine = some x → ∀ more t, runActions k s more = some t →
    t.worker.engine = some x
  /-- Where there is no engine, nothing is sent, and a call that was let through ends with the
  reason for that, or as disposed. -/
  failed : ∀ message, k.make = .error message → sends h = [] ∧ s.dispatched = 0 ∧
    ∀ i task p o, .began i task ∈ h → task.check limits = .ok p →
      s.caller? i = some (.done o) → o = .error (.engineFailed message) ∨ o = .error .disposed

/-- **The engine is there before it is needed**, in every run of every session, so that no call is
ever told that it is unavailable. Where it cannot be made, no evaluation is asked for. -/
theorem engine_precedes_evaluations {acts : List Action} {s : Session ε}
    (hr : runActions k (spawn config) acts = some s) :
    Readied k config.source s (history k (spawn config) acts) := by
  have hs := regular_of_run hr
  have hmade := made_of_run hr
  have ordered := ordered_of_run hr
  have counted := counted_of_run hr
  have halted := halted_of_run hr
  generalize history k (spawn config) acts = h at hs hmade ordered counted halted ⊢
  have engine_of_sent {r : Request} (hsent : r ∈ sends h) :
      ∃ e, k.make = .ok e ∧ s.worker.engine = some (.ok e) :=
    hs.engine_of_ready hmade (ordered.ready hsent)
  constructor
  · intro r id p hp held
    exact engine_of_sent (hs.channels.sent_of_held held (Request.ne_init_of_submission? hp))
  · intro r a id p hp hra
    have known : r ∈ .init :: sends h :=
      (answers_sublist hs.channels).subset (List.mem_map.mpr ⟨(r, a), hra, rfl⟩)
    have sent : r ∈ sends h :=
      (List.mem_cons.mp known).resolve_left (Request.ne_init_of_submission? hp)
    obtain ⟨e, made, cell⟩ := engine_of_sent sent
    have answer := hs.answers.answered r a hra
    simp only [made, Worker.answer, hp, Option.map_eq_some_iff] at answer
    obtain ⟨o, ran, rfl⟩ := answer
    exact ⟨e, o, cell, ran, rfl⟩
  · exact fun ready => hs.engine_of_ready hmade (hs.calls.ready ready)
  · intro x hx more t ht
    exact run_induction_from (k := k) (motive := fun s _ => s.worker.engine = some x)
      (fun _ _ _ _ hx hm => hm.engine_stays hx) more s t h hx ht
  · intro message hk
    have none_sent : sends h = [] := by
      refine List.eq_nil_iff_forall_not_mem.mpr fun r hsent => ?_
      exact hs.unready hk (ordered.ready hsent)
    have none_counted : s.dispatched + s.uncounted = 0 := by
      rw [counted, none_sent]
      rfl
    refine ⟨none_sent, by omega, ?_⟩
    intro i task p o hb hp ho
    cases halted message hk i _ ho with
    | @rejected task' e hb' he =>
        obtain rfl := hs.calls.began_unique hb hb'
        rw [hp] at he
        cases he
    | engineFailed => exact .inl rfl
    | disposed => exact .inr rfl

/-- A worker handles a script, and has an engine for it. Where there is none, a call that waited
for it learns why. -/
theorem handled_or_told_why :
    let handled := turnaround ++ [.call (.script "'use strict'")] ++
      List.replicate 5 (.proceed 0) ++ [.work, .work]
    let told := [.call (.script "'use strict'"), .proceed 0] ++ turnaround ++ [.proceed 0]
    (∃ s, runActions echo (spawn {}) handled = some s ∧
        s.worker.phase.request? = some (.eval 1 "'use strict'") ∧
        s.worker.engine = some (.ok ()) ∧ Readied echo {} s (history echo (spawn {}) handled)) ∧
      ∃ s message, runActions unmakeable (spawn {}) told = some s ∧
        s.caller? 0 = some (.done (.error (.engineFailed message))) ∧ s.dispatched = 0 ∧
        Readied unmakeable {} s (history unmakeable (spawn {}) told) := by
  intro handled told
  constructor
  · have runs : (runActions echo (spawn {}) handled).any (fun s =>
        s.worker.phase.request? == some (.eval 1 "'use strict'")) = true := by
      decide +kernel
    obtain ⟨s, hr, held⟩ := (Option.any_eq_true ..).mp runs
    have readied := engine_precedes_evaluations hr
    obtain ⟨e, -, cell⟩ := readied.held _ 1 (.script "'use strict'") rfl
      (.inr (.inl (beq_iff_eq.mp held)))
    exact ⟨s, hr, beq_iff_eq.mp held, cell, readied⟩
  · have runs : (runActions unmakeable (spawn {}) told).any (fun s =>
        (s.caller? 0).any lacksEngine) = true := by
      decide +kernel
    obtain ⟨s, hr, failed⟩ := (Option.any_eq_true ..).mp runs
    obtain ⟨c, hc, failed⟩ := (Option.any_eq_true ..).mp failed
    obtain ⟨message, rfl⟩ := engineFailed_of_lacksEngine failed
    have readied := engine_precedes_evaluations hr
    exact ⟨s, message, hr, hc, (readied.failed _ rfl).2.1, readied⟩

end Session

end PatchSandbox
