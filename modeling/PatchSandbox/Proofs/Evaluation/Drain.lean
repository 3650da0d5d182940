import PatchSandbox.Evaluation.Evaluate

/-!
# How draining ends

* **`Carries`** is a row of jobs that are carried out, each one to its end. A drain carries out such
  a row (**`drainFrom_of_carries`**) up to where it ends, and there are three places where it can
  end: the queue is empty, the next job fails, or as many jobs as allowed were carried out and one
  still waits (**`drains`**).
* **`JobSource.noting`** notes every job that is carried out, and **`carriedOut`** is what it notes
  in a drain.
* **`Exhausts`**, **`FailsAfter`** and **`WaitsAfter`** say where the jobs end if nothing stops
  them. They know of no limit.
* **`drain_exact`** relates the two: a drain ends where the jobs do, if they come so far within the
  limit, and else at the limit. Jobs may add jobs without end, so that only the limit bounds it.
-/

namespace PatchSandbox

variable {σ ι : Type}

/-- So many jobs are carried out one after the other, none of them failing: what is seen of
them, and the state they leave. -/
inductive Carries (jobs : JobSource σ ι) : Nat → σ → Array Event → σ → Prop
  | nil {s} : Carries jobs 0 s #[] s
  | cons {n job s t events u} (hn : jobs.next? s = some (job, t))
      (ho : (jobs.perform job t).outcome = .ok ())
      (hr : Carries jobs n (jobs.perform job t).rest events u) :
      Carries jobs (n + 1) s ((jobs.perform job t).events ++ events) u

/-- How draining ends after a row of jobs that took it from `s` to `t`. -/
inductive Drains (jobs : JobSource σ ι) (limit : Nat) (s : σ) : Option DrainFlaw → Array Event → Prop
  /-- No job waits. -/
  | emptied {n events t} (hc : Carries jobs n s events t) (hl : n ≤ limit)
      (he : jobs.next? t = none) : Drains jobs limit s none events
  /-- The next job fails; what is seen of it counts. -/
  | failed {n events t job u message} (hc : Carries jobs n s events t) (hl : n < limit)
      (hn : jobs.next? t = some (job, u)) (hf : (jobs.perform job u).outcome = .error message) :
      Drains jobs limit s (some .failed) (events ++ (jobs.perform job u).events)
  /-- One more job waits than may be carried out. -/
  | flooded {events t job u} (hc : Carries jobs limit s events t)
      (hn : jobs.next? t = some (job, u)) : Drains jobs limit s (some (.flooded limit)) events

section

variable {jobs : JobSource σ ι} {limit n m : Nat} {s t u : σ} {events seen : Array Event}
  {job : ι} {message : String}

theorem drainFrom_of_empty (he : jobs.next? s = none) :
    drainFrom jobs limit n seen s = ⟨none, seen, s⟩ := by
  cases n <;> simp [drainFrom, he]

theorem drainFrom_of_failed (hn : jobs.next? s = some (job, u))
    (hf : (jobs.perform job u).outcome = .error message) :
    drainFrom jobs limit (n + 1) seen s =
      ⟨some .failed, seen ++ (jobs.perform job u).events, (jobs.perform job u).rest⟩ := by
  simp [drainFrom, hn, hf]

theorem drainFrom_zero (hn : jobs.next? s = some (job, u)) :
    drainFrom jobs limit 0 seen s = ⟨some (.flooded limit), seen, s⟩ := by
  simp [drainFrom, hn]

/-- **A row of jobs comes first.** What is left to drain after it is drained from where it
ended. -/
theorem drainFrom_of_carries (hc : Carries jobs m s events t) (seen : Array Event) :
    drainFrom jobs limit (m + n) seen s = drainFrom jobs limit n (seen ++ events) t := by
  induction hc generalizing seen with
  | nil => simp
  | @cons m job s t events u hn ho hr ih =>
      rw [Nat.add_right_comm, drainFrom]
      simp only [hn, ho]
      rw [ih, Array.append_assoc]

/-- A row of jobs that goes as far as it may, or to where it cannot go on. -/
theorem exists_carries (jobs : JobSource σ ι) (n : Nat) (s : σ) :
    ∃ m events t, Carries jobs m s events t ∧ m ≤ n ∧
      (jobs.next? t = none ∨ (m < n ∧ ∃ job u message, jobs.next? t = some (job, u) ∧
        (jobs.perform job u).outcome = .error message) ∨
      (m = n ∧ ∃ job u, jobs.next? t = some (job, u))) := by
  induction n generalizing s with
  | zero =>
      refine ⟨0, #[], s, .nil, Nat.le_refl 0, ?_⟩
      cases hn : jobs.next? s with
      | none => exact .inl rfl
      | some next => exact .inr (.inr ⟨rfl, next.1, next.2, rfl⟩)
  | succ n ih =>
      cases hn : jobs.next? s with
      | none => exact ⟨0, #[], s, .nil, Nat.zero_le _, .inl hn⟩
      | some next =>
          obtain ⟨job, u⟩ := next
          cases ho : (jobs.perform job u).outcome with
          | error message =>
              refine ⟨0, #[], s, .nil, Nat.zero_le _, .inr (.inl ⟨Nat.succ_pos n, ?_⟩)⟩
              exact ⟨job, u, message, hn, ho⟩
          | ok _ =>
              obtain ⟨m, events, t, hc, hm, ending⟩ := ih (jobs.perform job u).rest
              refine ⟨m + 1, _, t, .cons hn ho hc, Nat.succ_le_succ hm, ?_⟩
              simpa using ending

/-- A drain comes to the end of the queue. -/
theorem drain_emptied (hc : Carries jobs n s events t) (hl : n ≤ limit)
    (he : jobs.next? t = none) (seen : Array Event) :
    drain jobs limit seen s = ⟨none, seen ++ events, t⟩ := by
  obtain ⟨m, rfl⟩ := Nat.exists_eq_add_of_le hl
  rw [drain, drainFrom_of_carries hc, drainFrom_of_empty he]

/-- A drain comes to a job that fails. -/
theorem drain_failed (hc : Carries jobs n s events t) (hl : n < limit)
    (hn : jobs.next? t = some (job, u)) (hf : (jobs.perform job u).outcome = .error message)
    (seen : Array Event) :
    drain jobs limit seen s = ⟨some .failed, seen ++ events ++ (jobs.perform job u).events,
      (jobs.perform job u).rest⟩ := by
  obtain ⟨m, rfl⟩ := Nat.exists_eq_add_of_lt hl
  rw [drain, Nat.add_assoc, drainFrom_of_carries hc, drainFrom_of_failed hn hf]

/-- A drain comes to the limit. -/
theorem drain_flooded (hc : Carries jobs limit s events t) (hn : jobs.next? t = some (job, u))
    (seen : Array Event) :
    drain jobs limit seen s = ⟨some (.flooded limit), seen ++ events, t⟩ := by
  rw [drain, ← drainFrom_zero hn]
  exact drainFrom_of_carries (n := 0) hc seen

/-- A drain ends as it does. -/
theorem drain_of_drains {flaw : Option DrainFlaw} (hd : Drains jobs limit s flaw events)
    (seen : Array Event) :
    (drain jobs limit seen s).flaw = flaw ∧ (drain jobs limit seen s).events = seen ++ events := by
  cases hd with
  | emptied hc hl he =>
      rw [drain_emptied hc hl he]
      exact ⟨rfl, rfl⟩
  | failed hc hl hn hf =>
      rw [drain_failed hc hl hn hf]
      exact ⟨rfl, Array.append_assoc ..⟩
  | flooded hc hn =>
      rw [drain_flooded hc hn]
      exact ⟨rfl, rfl⟩

/-- **Every drain ends in one of these ways**, with what was seen in it. -/
theorem drains (jobs : JobSource σ ι) (limit : Nat) (s : σ) :
    ∃ flaw events, Drains jobs limit s flaw events := by
  obtain ⟨m, events, t, hc, hm, he | ⟨hlt, job, u, message, hn, hf⟩ | ⟨rfl, job, u, hn⟩⟩ :=
    exists_carries jobs limit s
  · exact ⟨_, _, .emptied hc hm he⟩
  · exact ⟨_, _, .failed hc hlt hn hf⟩
  · exact ⟨_, _, .flooded hc hn⟩

/-- What every job keeps, a drain keeps. -/
theorem rest_drainFrom {P : σ → Prop}
    (hj : ∀ s job t, jobs.next? s = some (job, t) → P s → P (jobs.perform job t).rest)
    (h : P s) : P (drainFrom jobs limit n seen s).rest := by
  induction n generalizing s seen with
  | zero => rw [drainFrom]; split <;> exact h
  | succ n ih =>
      rw [drainFrom]
      split
      case h_1 => exact h
      case h_2 job t hn =>
          have after := hj s job t hn h
          dsimp only
          split
          · exact ih after
          · exact after

end

/-! ### How many jobs are carried out -/

/-- A source that notes which jobs are carried out, be it that they fail. -/
def JobSource.noting (jobs : JobSource σ ι) : JobSource (σ × List ι) ι where
  next? s := (jobs.next? s.1).map fun next => (next.1, next.2, s.2)
  perform job s :=
    let turn := jobs.perform job s.1
    ⟨turn.outcome, turn.events, turn.rest, s.2 ++ [job]⟩

/-- The jobs that a drain carries out, the first one first. -/
def carriedOut (jobs : JobSource σ ι) (limit : Nat) (s : σ) : List ι :=
  (drain jobs.noting limit #[] (s, [])).rest.2

/-- So many jobs are carried out, none of them failing, and then no job waits. -/
def Exhausts (jobs : JobSource σ ι) (n : Nat) (s : σ) : Prop :=
  ∃ events t, Carries jobs n s events t ∧ jobs.next? t = none

/-- So many jobs are carried out, none of them failing, and then a job fails and leaves a state. -/
def FailsAfter (jobs : JobSource σ ι) (n : Nat) (s : σ) (job : ι) (rest : σ) : Prop :=
  ∃ events t u message, Carries jobs n s events t ∧ jobs.next? t = some (job, u) ∧
    (jobs.perform job u).outcome = .error message ∧ (jobs.perform job u).rest = rest

/-- So many jobs are carried out, none of them failing, and then one still waits. -/
def WaitsAfter (jobs : JobSource σ ι) (n : Nat) (s : σ) : Prop :=
  ∃ events t job u, Carries jobs n s events t ∧ jobs.next? t = some (job, u)

section

variable {jobs : JobSource σ ι} {limit n : Nat} {s t u : σ} {events : Array Event} {job : ι}
  {rest : σ}

/-! ### Jobs that are noted -/

theorem next?_noting_none (he : jobs.next? t = none) (ran : List ι) :
    jobs.noting.next? (t, ran) = none := by
  simp [JobSource.noting, he]

theorem next?_noting_some (hn : jobs.next? t = some (job, u)) (ran : List ι) :
    jobs.noting.next? (t, ran) = some (job, u, ran) := by
  simp [JobSource.noting, hn]

/-- A row of jobs is noted job by job. -/
theorem Carries.noting (hc : Carries jobs n s events t) (ran : List ι) :
    ∃ more, more.length = n ∧ Carries jobs.noting n (s, ran) events (t, ran ++ more) := by
  induction hc generalizing ran with
  | nil => exact ⟨[], rfl, by simpa using .nil⟩
  | @cons n job s t events u hn ho hr ih =>
      -- The job stands at the end of what is noted, and in front of what is noted after it.
      obtain ⟨more, hlength, hc⟩ := ih (ran ++ [job])
      rw [List.append_assoc, List.singleton_append] at hc
      exact ⟨job :: more, by rw [List.length_cons, hlength], .cons (next?_noting_some hn ran) ho hc⟩

/-! ### Where a drain ends -/

/-- Where the queue is exhausted within the limit, a drain succeeds there. -/
theorem drain_of_exhausts (hs : Exhausts jobs n s) (hl : n ≤ limit) (seen : Array Event) :
    (drain jobs limit seen s).flaw = none ∧ (carriedOut jobs limit s).length = n ∧
      jobs.next? (drain jobs limit seen s).rest = none := by
  obtain ⟨events, t, hc, he⟩ := hs
  obtain ⟨more, hlength, hm⟩ := hc.noting []
  rw [carriedOut, drain_emptied hc hl he, drain_emptied hm hl (next?_noting_none he _)]
  exact ⟨rfl, hlength, he⟩

/-- Where a job fails within the limit, a drain fails there. -/
theorem drain_of_failsAfter (hs : FailsAfter jobs n s job rest) (hl : n < limit)
    (seen : Array Event) :
    (drain jobs limit seen s).flaw = some .failed ∧ (carriedOut jobs limit s).length = n + 1 ∧
      (carriedOut jobs limit s).getLast? = some job ∧ (drain jobs limit seen s).rest = rest := by
  obtain ⟨events, t, u, message, hc, hn, hf, rfl⟩ := hs
  obtain ⟨more, hlength, hm⟩ := hc.noting []
  rw [carriedOut, drain_failed hc hl hn hf, drain_failed hm hl (next?_noting_some hn _) hf]
  simp [JobSource.noting, hlength]

/-- Where a job waits at the limit, a drain is flooded. -/
theorem drain_of_waitsAfter (hs : WaitsAfter jobs limit s) (seen : Array Event) :
    (drain jobs limit seen s).flaw = some (.flooded limit) ∧
      (carriedOut jobs limit s).length = limit := by
  obtain ⟨events, t, job, u, hc, hn⟩ := hs
  obtain ⟨more, hlength, hm⟩ := hc.noting []
  rw [carriedOut, drain_flooded hc hn, drain_flooded hm (next?_noting_some hn _)]
  exact ⟨rfl, hlength⟩

/-- The jobs come to an end within the limit, or they come to the limit. -/
theorem exhausts_or_fails_or_waits (jobs : JobSource σ ι) (limit : Nat) (s : σ) :
    (∃ n, n ≤ limit ∧ Exhausts jobs n s) ∨
      (∃ n job rest, n < limit ∧ FailsAfter jobs n s job rest) ∨ WaitsAfter jobs limit s := by
  obtain ⟨n, events, t, hc, hl, he | ⟨hlt, job, u, message, hn, hf⟩ | ⟨rfl, job, u, hn⟩⟩ :=
    exists_carries jobs limit s
  · exact .inl ⟨n, hl, events, t, hc, he⟩
  · exact .inr (.inl ⟨n, job, _, hlt, events, t, u, message, hc, hn, hf, rfl⟩)
  · exact .inr (.inr ⟨events, t, job, u, hc, hn⟩)

/-- To note the jobs changes nothing else. -/
theorem drain_noting (jobs : JobSource σ ι) (limit : Nat) (seen : Array Event) (s : σ) :
    drain jobs.noting limit seen (s, []) =
      ⟨(drain jobs limit seen s).flaw, (drain jobs limit seen s).events,
        (drain jobs limit seen s).rest, carriedOut jobs limit s⟩ := by
  -- Both drains take the same jobs, so they end in the same one of the three ways.
  rcases exhausts_or_fails_or_waits jobs limit s with ⟨n, hl, events, t, hc, he⟩ |
    ⟨n, job, -, hl, events, t, u, message, hc, hn, hf, -⟩ | ⟨events, t, job, u, hc, hn⟩
  · obtain ⟨more, -, hm⟩ := hc.noting []
    have he' := next?_noting_none he ([] ++ more)
    rw [carriedOut, drain_emptied hm hl he', drain_emptied hm hl he', drain_emptied hc hl he]
  · obtain ⟨more, -, hm⟩ := hc.noting []
    have hn' := next?_noting_some hn ([] ++ more)
    rw [carriedOut, drain_failed hm hl hn' hf, drain_failed hm hl hn' hf, drain_failed hc hl hn hf]
    rfl
  · obtain ⟨more, -, hm⟩ := hc.noting []
    have hn' := next?_noting_some hn ([] ++ more)
    rw [carriedOut, drain_flooded hm hn', drain_flooded hm hn', drain_flooded hc hn]

/-- How a drain ends, what it leaves, and what it has carried out. -/
structure ExactDrain (jobs : JobSource σ ι) (limit : Nat) (seen : Array Event) (s : σ) : Prop where
  noted : drain jobs.noting limit seen (s, []) =
    ⟨(drain jobs limit seen s).flaw, (drain jobs limit seen s).events,
      (drain jobs limit seen s).rest, carriedOut jobs limit s⟩
  /-- No more jobs are carried out than the limit allows. -/
  few : (carriedOut jobs limit s).length ≤ limit
  /-- A drain succeeds exactly if so many jobs, or fewer, exhaust the queue without a failure. -/
  emptied_iff : (drain jobs limit seen s).flaw = none ↔ ∃ n, n ≤ limit ∧ Exhausts jobs n s
  /-- Then those jobs were carried out, and none waits any more. -/
  empty : ∀ n, n ≤ limit → Exhausts jobs n s →
    (carriedOut jobs limit s).length = n ∧ jobs.next? (drain jobs limit seen s).rest = none
  /-- It fails exactly if one of the jobs fails that it may carry out. -/
  failed_iff : (drain jobs limit seen s).flaw = some .failed ↔
    ∃ n job rest, n < limit ∧ FailsAfter jobs n s job rest
  /-- Then that job is the last one to be carried out, and what it leaves is left. -/
  last : ∀ n job rest, n < limit → FailsAfter jobs n s job rest →
    (carriedOut jobs limit s).length = n + 1 ∧ (carriedOut jobs limit s).getLast? = some job ∧
      (drain jobs limit seen s).rest = rest
  /-- It is flooded exactly if a job still waits after as many as it may carry out. -/
  flooded_iff : ∀ m, (drain jobs limit seen s).flaw = some (.flooded m) ↔
    m = limit ∧ WaitsAfter jobs limit s

/-- **A drain is bounded, and exact at its bound.** It ends where the jobs do, be it at the last
one that the limit allows, and at the limit if they go on. -/
theorem drain_exact (jobs : JobSource σ ι) (limit : Nat) (seen : Array Event) (s : σ) :
    ExactDrain jobs limit seen s where
  noted := drain_noting jobs limit seen s
  few := by
    rcases exhausts_or_fails_or_waits jobs limit s with ⟨n, hl, hs⟩ | ⟨n, job, rest, hl, hs⟩ | hs
    · exact Nat.le_trans (Nat.le_of_eq (drain_of_exhausts hs hl seen).2.1) hl
    · exact Nat.le_trans (Nat.le_of_eq (drain_of_failsAfter hs hl seen).2.1) hl
    · exact Nat.le_of_eq (drain_of_waitsAfter hs seen).2
  emptied_iff := by
    constructor
    · intro h
      rcases exhausts_or_fails_or_waits jobs limit s with hs | ⟨n, job, rest, hl, hs⟩ | hs
      · exact hs
      · cases h.symm.trans (drain_of_failsAfter hs hl seen).1
      · cases h.symm.trans (drain_of_waitsAfter hs seen).1
    · rintro ⟨n, hl, hs⟩
      exact (drain_of_exhausts hs hl seen).1
  empty := fun _ hl hs => (drain_of_exhausts hs hl seen).2
  failed_iff := by
    constructor
    · intro h
      rcases exhausts_or_fails_or_waits jobs limit s with ⟨n, hl, hs⟩ | hs | hs
      · cases h.symm.trans (drain_of_exhausts hs hl seen).1
      · exact hs
      · cases h.symm.trans (drain_of_waitsAfter hs seen).1
    · rintro ⟨n, job, rest, hl, hs⟩
      exact (drain_of_failsAfter hs hl seen).1
  last := fun _ _ _ hl hs => (drain_of_failsAfter hs hl seen).2
  flooded_iff := by
    intro m
    constructor
    · intro h
      rcases exhausts_or_fails_or_waits jobs limit s with ⟨n, hl, hs⟩ | ⟨n, job, rest, hl, hs⟩ | hs
      · cases h.symm.trans (drain_of_exhausts hs hl seen).1
      · cases h.symm.trans (drain_of_failsAfter hs hl seen).1
      · cases h.symm.trans (drain_of_waitsAfter hs seen).1
        exact ⟨rfl, hs⟩
    · rintro ⟨rfl, hs⟩
      exact (drain_of_waitsAfter hs seen).1

end

end PatchSandbox
