import PatchSandbox.Proofs.Session.Ending

/-!
# What calls under way see of a disposal

A call that was let through and has no outcome yet when the session is disposed of is to end
as disposed, or because its own time was over. **`disposal_observed`** says that it does, with
one exception: a call that still waits for the engine reads the readiness, and the router
writes a late failure of the engine over it (**`engine_failure_overtakes`** is such a run). The
engine must have failed for that; where one can be made there is no exception.

The calls that have their mailbox are covered by their fates. **`Stranded`** is the invariant
for those that have none, which cannot register any more.
-/

namespace PatchSandbox

/-- A call was let through and has got no outcome yet. -/
inductive Caller.InFlight (t : PendingTable Outcome) : Caller → Prop
  | admitted {p} : Caller.InFlight t (.admitted p)
  | cleared {p} : Caller.InFlight t (.cleared p)
  | numbered {p id} : Caller.InFlight t (.numbered p id)
  /-- Its mailbox is empty. -/
  | unanswered {c id slot} (hm : c.mailbox? = some (id, slot)) (hb : t.box? slot = some .waiting) :
      Caller.InFlight t c
  | unsent {id} : Caller.InFlight t (.unsent id)
  | expired {id} : Caller.InFlight t (.expired id)
  /-- Its time is over, and it is disposing of the session itself. -/
  | disposing {what o} : Caller.InFlight t (.disposing what (some o))

namespace Session

variable {ε : Type} {k : EngineKind ε} {config : Config}

/-! ### Why the engine is said to have failed -/

/-- The engine is said to have failed when the router has handed that on. -/
def Failed (s : Session ε) (h : List Occurrence) : Prop :=
  ∀ message, s.readiness = .failed message → .delivered (.initFailed message) ∈ h

/-! ### Calls without a mailbox -/

/-- How far a call still gets that had no mailbox when the table was closed. Only where it
waited for the engine then (`waits`) can it see a failure of the engine. -/
inductive Stranded (waits : Prop) (h : List Occurrence) : Caller → Prop
  | admitted {p} (hw : waits) : Stranded waits h (.admitted p)
  | cleared {p} : Stranded waits h (.cleared p)
  | numbered {p id} : Stranded waits h (.numbered p id)
  | refused : Stranded waits h (.done (.error .disposed))
  | engineFailed {message} (hw : waits) (hd : .delivered (.initFailed message) ∈ h) :
      Stranded waits h (.done (.error (.engineFailed message)))
  | givenUp : Stranded waits h .over

section

variable {s t : Session ε} {h : List Occurrence} {i j : Nat} {c c' : Caller}
  {e : Option Occurrence} {waits : Prop}

theorem Failed.move (hf : Failed s h) (hm : Move k s e t) : Failed t (h ++ e.toList) := by
  have still (hr : t.readiness = s.readiness) : Failed t (h ++ e.toList) :=
    fun message hmessage => List.mem_append_left _ (hf message (hr ▸ hmessage))
  cases hm with
  | caller hc hm =>
      cases hm with
      | closeReadiness => simp [Failed, Session.setCaller]
      | _ => exact still rfl
  | router hm =>
      cases hm with
      | @delivered a hr =>
          cases a with
          | ready => simp [Failed, deliver]
          | initFailed message =>
              intro message' hm'
              obtain rfl : message = message' := by simpa [deliver] using hm'
              simp
          | result id payload => exact still rfl
          | error id message logs => exact still rfl
      | shut hr => simp [Failed]
      | _ => exact still rfl
  | _ => exact still rfl

theorem Stranded.later (hs : Stranded waits h c) (h' : List Occurrence) :
    Stranded waits (h ++ h') c := by
  cases hs with
  | admitted hw => exact .admitted hw
  | cleared => exact .cleared
  | numbered => exact .numbered
  | refused => exact .refused
  | engineFailed hw hd => exact .engineFailed hw (List.mem_append_left _ hd)
  | givenUp => exact .givenUp

/-- A call without a mailbox gets none in a closed session. -/
theorem CallerMove.stranded (hm : CallerMove s i c e c' t) (hs : Stranded waits h c)
    (hf : Failed s h) (hc : s.table.closed = true) : Stranded waits h c' := by
  cases hs with
  | admitted hw =>
      cases hm with
      | cleared hr => exact .cleared
      | engineFailed hr => exact .engineFailed hw (hf _ hr)
      | shut hr => exact .refused
      | givenUp => exact .givenUp
  | cleared =>
      cases hm with
      | numbered => exact .numbered
  | numbered =>
      cases hm with
      | registered hr => simp [(closed_of_register? hr).1] at hc
      | unregistered hr => exact .refused
  | refused => cases hm
  | engineFailed hw hd => cases hm
  | givenUp => cases hm

/-- **What a stranded call can come to**, step after step. -/
theorem Stranded.move (hs : Stranded waits h c) (hi : s.caller? i = some c) (hf : Failed s h)
    (hc : s.table.closed = true) (hm : Move k s e t) :
    ∃ c', t.caller? i = some c' ∧ Stranded waits (h ++ e.toList) c' := by
  rcases hm.caller_cases hi with hi | ⟨c', u, hm, hi⟩
  · exact ⟨c, hi, hs.later _⟩
  · exact ⟨c', hi, (hm.stranded hs hf hc).later _⟩

/-- The engine is only said to have failed if it cannot be made. -/
theorem Regular.make_of_failed (hs : Regular k s h) {message : String}
    (hd : .delivered (.initFailed message) ∈ h) : k.make = .error message := by
  obtain ⟨r, -, found, -⟩ :=
    exists_answered_of_delivered hs.channels hs.answers (mem_deliveries.mpr hd)
  unfold Worker.answer at found
  cases hp : r.submission? with
  | none =>
      cases hmake : k.make <;> simp [hp, hmake, Response.ofEngine] at found
      rw [found]
  | some p =>
      obtain ⟨id, p⟩ := p
      cases hmake : k.make with
      | error reason => simp [hp, hmake, Response.unavailable] at found
      | ok engine =>
          simp only [hp, hmake, Option.map_eq_some_iff] at found
          obtain ⟨o, -, ho⟩ := found
          cases o <;> simp [Response.ofOutcome] at ho

theorem stranded_of_inFlight (hc : c.InFlight s.table)
    (hr : ∀ id slot, .registered i id slot ∉ h) (hs : Regular k s h) (hi : s.caller? i = some c) :
    Stranded (∃ p, c = .admitted p) h c := by
  have story := hs.calls.stories i c hi
  have unregistered (id : RequestId) (slot : Nat) : .registered i id slot ∉ deeds i h :=
    fun hm => hr id slot (mem_of_mem_deeds hm)
  generalize deeds i h = es at story unregistered
  cases hc with
  | admitted => exact .admitted ⟨_, rfl⟩
  | cleared => exact .cleared
  | numbered => exact .numbered
  | unanswered hm hb => exact absurd (hs.registered_of_mailbox? hi hm) (hr _ _)
  | unsent => cases story; simp at unregistered
  | expired => cases story; simp at unregistered
  | disposing => cases story; simp at unregistered

/-! ### Calls with a mailbox -/

/-- Nothing was handed on for a call under way whose time is not over. -/
theorem Regular.unsettled_of_inFlight (hs : Regular k s h) (hi : s.caller? i = some c)
    (hc : c.InFlight s.table) {id : RequestId} {slot : Nat} (hr : .registered i id slot ∈ h)
    (hn : .expired i ∉ h) (o : Outcome) : ¬ Settled h id o := by
  have deed := mem_deeds hr (i := i) rfl
  have story := hs.calls.stories i c hi
  generalize hes : deeds i h = es at story deed
  have timely : .expired i ∉ es := fun hm => hn (mem_of_mem_deeds (hes ▸ hm))
  cases hc with
  | admitted => cases story; simp at deed
  | cleared => cases story; simp at deed
  | numbered => cases story; simp at deed
  | @unanswered c id' slot' hm hb =>
      have hr' := hs.registered_of_mailbox? hi hm
      obtain rfl : id' = id := by
        have hmem : .registered i id' slot' ∈ es := hes ▸ mem_deeds hr' rfl
        obtain ⟨_, _, _, _, hprefix⟩ := story.tale
        have first := hprefix.subset deed
        have second := hprefix.subset hmem
        simp at first second
        exact second.1.trans first.1.symm
      exact (hs.unsettled hr' hb).2 o
  | unsent =>
      cases story
      have hnum := hs.calls.ids.registered i id slot hr
      exact not_settled_of_undelivered
        (undelivered_of_unsent hs.calls hs.channels hs.answers hnum (by simp [hes])) o
  | expired => cases story; simp at timely
  | disposing => cases story; simp at timely

end

/-! ### What calls under way see -/

theorem failed_of_run {acts : List Action} {s : Session ε}
    (hr : runActions k (spawn config) acts = some s) :
    Failed s (history k (spawn config) acts) :=
  run_induction (motive := fun s h => Failed s h) (by simp [Failed, spawn])
    (fun _ _ _ _ hs hm => hs.move hm) hr

/-- What a call without a mailbox has come to after a run that began with a closed table. -/
theorem stranded_of_run {s t : Session ε} {h : List Occurrence} {more : List Action} {i : Nat}
    {c : Caller} {waits : Prop} (hf : Failed s h) (hc : s.table.closed = true)
    (hi : s.caller? i = some c) (hs : Stranded waits h c) (hr : runActions k s more = some t) :
    ∃ c', t.caller? i = some c' ∧ Stranded waits (h ++ history k s more) c' := by
  have after := run_induction_from (k := k)
    (motive := fun u hu => Failed u hu ∧ u.table.closed = true ∧
      ∃ c', u.caller? i = some c' ∧ Stranded waits hu c') ?_ more s t h ⟨hf, hc, c, hi, hs⟩ hr
  · exact after.2.2
  · rintro u hu e v ⟨hfu, hcu, c', hi', hs'⟩ hm
    exact ⟨hfu.move hm, hm.closed hcu, hs'.move hi' hfu hcu hm⟩

/-- The step that disposes of the table, and what is known after it. -/
theorem closing_step {s t : Session ε} {h : List Occurrence} {d : Nat} {x : Option Outcome}
    {more : List Action} (hd : s.caller? d = some (.disposing .closeTable x))
    (hr : runActions k s (.proceed d :: more) = some t) :
    ∃ u, Move k s (some (.closed .disposed)) u ∧ u.table.closed = true ∧
      (∀ i, i ≠ d → u.caller? i = s.caller? i) ∧ runActions k u more = some t ∧
      h ++ history k s (.proceed d :: more) =
        (h ++ [.closed .disposed]) ++ history k u more := by
  obtain ⟨u, hu, hr⟩ := Option.bind_eq_some_iff.mp hr
  have event : s.occurrence? k (.proceed d) = some (.closed .disposed) := by
    simp [occurrence?, hd, proceeding?]
  have hm := move_of_step hu
  rw [event] at hm
  refine ⟨u, hm, ?_, ?_, hr, ?_⟩
  · rw [hm.closed_eq]
    simp [Occurrence.closed?]
  · intro i hi
    simp only [step, hd, Option.bind_some, proceed, disposeStep, Option.some.injEq] at hu
    rw [← hu, caller?_setCaller_of_ne hi]
    rfl
  · simp [history, hu, event]

/-- **A disposal is what calls under way see.** A call that was let through and has no outcome
when the table is closed can only end as disposed, or because its own time was over, or, where
it waited for the engine, with a failure of the engine that was handed on. -/
theorem disposal_observed {acts more : List Action} {s t : Session ε} {d : Nat}
    {x : Option Outcome} (hr : runActions k (spawn config) acts = some s)
    (hopen : s.isDisposed = false) (hd : s.caller? d = some (.disposing .closeTable x))
    (hmore : runActions k s (.proceed d :: more) = some t) {i : Nat} {c : Caller} {o : Outcome}
    (hi : s.caller? i = some c) (hc : c.InFlight s.table) (ho : t.caller? i = some (.done o)) :
    o = .error .disposed ∨ TimeOver (history k (spawn config) acts) i o ∨
      ∃ p message, c = .admitted p ∧ o = .error (.engineFailed message) ∧
        k.make = .error message ∧
        .delivered (.initFailed message) ∈
          history k (spawn config) acts ++ history k s (.proceed d :: more) := by
  obtain ⟨hs, hf⟩ := fates_of_run hr
  have failed := failed_of_run hr
  have start := hs.closing?_eq_none hopen
  generalize history k (spawn config) acts = h at hs hf failed start ⊢
  obtain ⟨u, hm, closed, others, hmore, same⟩ := closing_step (h := h) hd hmore
  rw [same]
  obtain ⟨ht, hft, hsealed⟩ := sealed_of_run (hs.move hm) (hf.move hs hm) closed hmore
  by_cases registered : ∃ id slot, .registered i id slot ∈ h
  · obtain ⟨id, slot, hreg⟩ := registered
    have late (he : .expired i ∈ h ++ [.closed .disposed] ++ history k u more) :
        .expired i ∈ h := by
      have := (List.mem_append.mp he).resolve_right (hsealed.punctual i)
      simpa using this
    have hmem := List.mem_append_left (history k u more)
      (List.mem_append_left [.closed .disposed] hreg)
    cases hft.ends i id slot o ho hmem with
    | found hv hn =>
        have punctual : .expired i ∉ h := fun he =>
          hn (List.mem_append_left _ (List.mem_append_left _ he))
        have unsettled := hs.unsettled_of_inFlight hi hc hreg punctual
        have verdict : Verdict (h ++ [.closed .disposed] ++ history k u more) id
            (.error .disposed) := (Verdict.of_closing start unsettled).later _
        have distinct := ht.calls.deliveries_nodup ht.channels ht.answers
        exact .inl (verdict_unique distinct hv verdict)
    | unsent hu => exact .inl rfl
    | expired he => exact .inr (.inl ⟨late he, _, rfl⟩)
  · -- without a mailbox the call is not the one that disposes of the session
    have unregistered (id : RequestId) (slot : Nat) : .registered i id slot ∉ h :=
      fun hm => registered ⟨id, slot, hm⟩
    have stranded := stranded_of_inFlight hc unregistered hs hi
    have hid : i ≠ d := by
      rintro rfl
      obtain rfl := Option.some.inj (hi.symm.trans hd)
      cases stranded
    obtain ⟨c', hc', hend⟩ := stranded_of_run (failed.move hm) closed ((others i hid).trans hi)
      (stranded.later _) hmore
    obtain rfl := Option.some.inj (hc'.symm.trans ho)
    cases hend with
    | refused => exact .inl rfl
    | @engineFailed message hw hdel =>
        obtain ⟨p, hp⟩ := hw
        exact .inr (.inr ⟨p, message, hp, rfl, ht.make_of_failed hdel, hdel⟩)

/-- Whether a call is about to close the table. -/
def closesTable : Caller → Bool
  | .disposing .closeTable _ => true
  | _ => false

theorem disposing_of_closesTable {c : Caller} (h : closesTable c = true) :
    ∃ x, c = .disposing .closeTable x := by
  cases c with
  | disposing what x =>
      cases what <;> simp [closesTable] at h
      exact ⟨x, rfl⟩
  | _ => simp [closesTable] at h

/-- Whether a call waits for the engine. -/
def awaitsEngine : Caller → Bool
  | .admitted _ => true
  | _ => false

theorem admitted_of_awaitsEngine {c : Caller} (h : awaitsEngine c = true) :
    ∃ p, c = .admitted p := by
  cases c with
  | admitted p => exact ⟨p, rfl⟩
  | _ => simp [awaitsEngine] at h

/-- Whether a call failed for want of an engine. -/
def lacksEngine : Caller → Bool
  | .done (.error (.engineFailed _)) => true
  | _ => false

theorem engineFailed_of_lacksEngine {c : Caller} (h : lacksEngine c = true) :
    ∃ message, c = .done (.error (.engineFailed message)) := by
  cases c with
  | done o =>
      rcases o with ⟨_ | _ | _ | _ | message | _ | _ | _⟩ | _ <;> simp [lacksEngine] at h
      exact ⟨message, rfl⟩
  | _ => simp [lacksEngine] at h

/-- A call waits for its answer when the session is disposed of. -/
theorem waiting_call_disposed :
    let acts := turnaround ++ [.call (.script "'use strict'")] ++ List.replicate 6 (.proceed 0) ++
      [.dispose]
    let more := [.proceed 1, .work, .proceed 0]
    ∃ s t c x, runActions echo (spawn {}) acts = some s ∧ s.isDisposed = false ∧
      s.caller? 1 = some (.disposing .closeTable x) ∧
      runActions echo s (.proceed 1 :: more) = some t ∧
      s.caller? 0 = some c ∧ c.InFlight s.table ∧ ∃ o, t.caller? 0 = some (.done o) ∧
        (o = .error .disposed ∨ TimeOver (history echo (spawn {}) acts) 0 o ∨
          ∃ p message, c = .admitted p ∧ o = .error (.engineFailed message) ∧
            echo.make = .error message ∧
            .delivered (.initFailed message) ∈
              history echo (spawn {}) acts ++ history echo s (.proceed 1 :: more)) := by
  intro acts more
  have runs : (runActions echo (spawn {}) acts).any (fun s =>
      !s.isDisposed && (s.caller? 1).any closesTable &&
        (s.caller? 0).any (fun c => c.mailbox? == some (1, 0)) &&
        (s.table.box? 0).any Mailbox.isWaiting &&
        (runActions echo s (.proceed 1 :: more)).any fun t =>
          (t.caller? 0).any (·.outcome?.isSome)) = true := by
    decide +kernel
  obtain ⟨s, hr, facts⟩ := (Option.any_eq_true ..).mp runs
  simp only [Bool.and_eq_true, Bool.not_eq_true'] at facts
  obtain ⟨⟨⟨⟨hopen, hd⟩, hc⟩, hbox⟩, hmore⟩ := facts
  obtain ⟨d, hd, closing⟩ := (Option.any_eq_true ..).mp hd
  obtain ⟨c, hc, waits⟩ := (Option.any_eq_true ..).mp hc
  obtain ⟨m, hm, empty⟩ := (Option.any_eq_true ..).mp hbox
  obtain ⟨t, ht, hend⟩ := (Option.any_eq_true ..).mp hmore
  obtain ⟨c', hc', ended⟩ := (Option.any_eq_true ..).mp hend
  obtain ⟨x, rfl⟩ := disposing_of_closesTable closing
  obtain rfl := Mailbox.isWaiting_iff.mp empty
  obtain ⟨o, rfl⟩ : ∃ o, c' = .done o := by
    cases c' with
    | done o => exact ⟨o, rfl⟩
    | _ => simp [Caller.outcome?] at ended
  have flies : c.InFlight s.table := .unanswered (beq_iff_eq.mp waits) hm
  exact ⟨s, t, c, x, hr, hopen, hd, ht, hc, flies, o, hc',
    disposal_observed hr hopen hd ht hc flies hc'⟩

/-- Engines that cannot be made. -/
def unmakeable : EngineKind Unit where
  make := .error "no engine"
  run _ _ := none

/-- **A failure of the engine overtakes a disposal.** A call waits for the engine when the
session is disposed of. The answer that there is no engine is still on its way; the router
writes it over the closed readiness, and with that the call ends. -/
theorem engine_failure_overtakes :
    let acts := [.call (.script "'use strict'"), .proceed 0] ++ List.replicate 5 .work ++ [.dispose]
    let more := [.proceed 1, .proceed 1, .route, .route, .proceed 0]
    ∃ s t c x message, runActions unmakeable (spawn {}) acts = some s ∧ s.isDisposed = false ∧
      s.caller? 1 = some (.disposing .closeTable x) ∧
      runActions unmakeable s (.proceed 1 :: more) = some t ∧
      s.caller? 0 = some c ∧ c.InFlight s.table ∧
      t.caller? 0 = some (.done (.error (.engineFailed message))) := by
  intro acts more
  have runs : (runActions unmakeable (spawn {}) acts).any (fun s =>
      !s.isDisposed && (s.caller? 1).any closesTable &&
        (s.caller? 0).any awaitsEngine &&
        (runActions unmakeable s (.proceed 1 :: more)).any fun t =>
          (t.caller? 0).any lacksEngine) = true := by
    decide +kernel
  obtain ⟨s, hr, facts⟩ := (Option.any_eq_true ..).mp runs
  simp only [Bool.and_eq_true, Bool.not_eq_true'] at facts
  obtain ⟨⟨⟨hopen, hd⟩, hc⟩, hmore⟩ := facts
  obtain ⟨d, hd, closing⟩ := (Option.any_eq_true ..).mp hd
  obtain ⟨c, hc, admitted⟩ := (Option.any_eq_true ..).mp hc
  obtain ⟨t, ht, hend⟩ := (Option.any_eq_true ..).mp hmore
  obtain ⟨c', hc', failed⟩ := (Option.any_eq_true ..).mp hend
  obtain ⟨x, rfl⟩ := disposing_of_closesTable closing
  obtain ⟨p, rfl⟩ := admitted_of_awaitsEngine admitted
  obtain ⟨message, rfl⟩ := engineFailed_of_lacksEngine failed
  exact ⟨s, t, _, x, message, hr, hopen, hd, ht, hc, .admitted, hc'⟩

end Session

end PatchSandbox
