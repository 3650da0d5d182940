import PatchSandbox.Proofs.Session.Channels

/-!
# The loop of a worker

A worker of its own, with everything that can happen around it: requests are added, the queue of
requests is closed, the flag is raised, the answers are taken or nobody takes them any more. All
of this happens at any time between two steps of the loop.

* **`Deed`** is what is seen of a run: requests that are added, taken and begun, answers that are
  sent.
* **`Account`** is the invariant: the requests that were taken are those that are answered and
  then the one in the worker's hand.
* **`Orderly`** is what follows for whole runs, and **`served_in_order`** proves it: the answers
  are those to a prefix of the requests, none is left out if the flag is never raised, and a
  raised flag lets at most one more answer through.
-/

namespace PatchSandbox.Worker

variable {ε : Type}

/-! ### Runs -/

/-- What can happen to a worker. -/
inductive Act where
  /-- A request is added. -/
  | ask (r : Request)
  /-- No more requests can be added. -/
  | hangUp
  /-- The flag is raised. -/
  | raise
  /-- Nobody takes answers any more. -/
  | leave
  /-- An answer is taken. -/
  | receive
  /-- The worker goes on. -/
  | turn
  deriving DecidableEq

/-- What is seen of a run. -/
inductive Deed where
  | asked (r : Request)
  | took (r : Request)
  /-- The worker has seen that it may handle a request, and begins. -/
  | began (r : Request)
  | sent (a : Response)

/-- No more requests can be added. -/
def hangUp (w : Worker ε) : Worker ε := { w with isOpen := false }

/-- Raises the flag. -/
def raise (w : Worker ε) : Worker ε := { w with terminated := true }

/-- Nobody takes answers any more. -/
def leave (w : Worker ε) : Worker ε := { w with isHeard := false }

/-- Terminating a worker raises the flag, and then closes the queue of requests. -/
theorem hangUp_raise (w : Worker ε) : w.raise.hangUp = w.terminate := rfl

/-- One step, if it can be taken. -/
def step (k : EngineKind ε) (w : Worker ε) : Act → Option (Worker ε)
  | .ask r => (w.send r).toOption
  | .hangUp => some w.hangUp
  | .raise => some w.raise
  | .leave => some w.leave
  | .receive => w.receive?.map (·.2)
  | .turn => w.turn k

/-- What is seen of a step that is taken. -/
def deeds (w : Worker ε) : Act → List Deed
  | .ask r => [.asked r]
  | .turn =>
    match w.phase with
    | .idle => w.requests.head?.toList.map .took
    | .took r => if w.terminated then [] else [.began r]
    | .sending a => if w.isHeard then [.sent a] else []
    | _ => []
  | _ => []

/-- The steps of a run, with what is seen of them. -/
def run (k : EngineKind ε) (w : Worker ε) : List Act → Option (Worker ε × List Deed)
  | [] => some (w, [])
  | a :: acts =>
    (w.step k a).bind fun w' => (run k w' acts).map fun (w'', h) => (w'', w.deeds a ++ h)

/-- The requests that were added. -/
def asked (h : List Deed) : List Request :=
  h.filterMap fun | .asked r => some r | _ => none

/-- The requests that the worker took off its queue. -/
def taken (h : List Deed) : List Request :=
  h.filterMap fun | .took r => some r | _ => none

/-- The requests that the worker began to handle. -/
def begun (h : List Deed) : List Request :=
  h.filterMap fun | .began r => some r | _ => none

/-- The answers that were sent. -/
def sent (h : List Deed) : List Response :=
  h.filterMap fun | .sent a => some a | _ => none

@[simp] theorem asked_append (h h' : List Deed) : asked (h ++ h') = asked h ++ asked h' :=
  List.filterMap_append

@[simp] theorem taken_append (h h' : List Deed) : taken (h ++ h') = taken h ++ taken h' :=
  List.filterMap_append

@[simp] theorem begun_append (h h' : List Deed) : begun (h ++ h') = begun h ++ begun h' :=
  List.filterMap_append

@[simp] theorem sent_append (h h' : List Deed) : sent (h ++ h') = sent h ++ sent h' :=
  List.filterMap_append

/-! ### Steps of the loop -/

/-- What one step of the loop does: where the worker stands before, what is seen, and what
becomes of it. -/
inductive Turns (k : EngineKind ε) (w : Worker ε) : List Deed → Worker ε → Prop
  | took {r rest} (hp : w.phase = .idle) (hr : w.requests = r :: rest) :
      Turns k w [.took r] { w with phase := .took r, requests := rest }
  | exhausted (hp : w.phase = .idle) (hr : w.requests = []) (ho : w.isOpen = false) :
      Turns k w [] { w with phase := .stopped }
  | began {r} (hp : w.phase = .took r) (ht : w.terminated = false) :
      Turns k w [.began r] { w with phase := .handling r }
  | answered {r a} (hp : w.phase = .handling r) (ht : w.terminated = false)
      (ha : answer k (w.engineOf k) r = some a) :
      Turns k w [] { w with engine := some (w.engineOf k), phase := .answered a }
  | kept {a} (hp : w.phase = .answered a) (ht : w.terminated = false) :
      Turns k w [] { w with phase := .sending a }
  | sent {a} (hp : w.phase = .sending a) (hh : w.isHeard = true) :
      Turns k w [.sent a] { w with phase := .idle, responses := w.responses ++ [a] }
  /-- The flag is noticed, or that nobody listens. -/
  | stopped (hp : w.phase ≠ .idle) (hs : w.terminated = true ∨ w.isHeard = false) :
      Turns k w [] { w with phase := .stopped }

/-- What one step does. -/
inductive Steps (k : EngineKind ε) (w : Worker ε) : Act → List Deed → Worker ε → Prop
  | ask {r} (hl : w.isStopped = false) :
      Steps k w (.ask r) [.asked r] { w with requests := w.requests ++ [r] }
  | hangUp : Steps k w .hangUp [] w.hangUp
  | raise : Steps k w .raise [] w.raise
  | leave : Steps k w .leave [] w.leave
  | receive {rest} : Steps k w .receive [] { w with responses := rest }
  | turn {h w'} (ht : Turns k w h w') : Steps k w .turn h w'

section

variable {k : EngineKind ε} {w w' w₀ : Worker ε} {a : Act} {acts : List Act} {h h₀ : List Deed}

theorem turns_of_turn (ht : w.turn k = some w') : Turns k w (w.deeds .turn) w' := by
  unfold turn at ht
  unfold deeds
  cases hp : w.phase with
  | idle =>
      simp only [hp] at ht ⊢
      cases hr : w.requests with
      | nil =>
          cases ho : w.isOpen with
          | true => simp [hr, ho] at ht
          | false =>
              obtain rfl : { w with phase := .stopped } = w' := by simpa [hr, ho] using ht
              exact .exhausted hp hr ho
      | cons r rest =>
          obtain rfl : { w with phase := .took r, requests := rest } = w' := by simpa [hr] using ht
          exact .took hp hr
  | took r =>
      simp only [hp] at ht ⊢
      cases hf : w.terminated with
      | true =>
          obtain rfl : { w with phase := .stopped } = w' := by simpa [hf] using ht
          exact .stopped (by simp [hp]) (.inl hf)
      | false =>
          obtain rfl : { w with phase := .handling r } = w' := by simpa [hf] using ht
          exact .began hp hf
  | handling r =>
      simp only [hp] at ht ⊢
      cases hf : w.terminated with
      | true =>
          obtain rfl : { w with phase := .stopped } = w' := by simpa [hf] using ht
          exact .stopped (by simp [hp]) (.inl hf)
      | false =>
          cases ha : answer k (w.engineOf k) r with
          | none => simp [hf, handle, ha] at ht
          | some a =>
              obtain rfl : { w with engine := some (w.engineOf k), phase := .answered a } = w' := by
                simpa [hf, handle, ha] using ht
              exact .answered hp hf ha
  | answered a =>
      simp only [hp] at ht ⊢
      cases hf : w.terminated with
      | true =>
          obtain rfl : { w with phase := .stopped } = w' := by simpa [hf] using ht
          exact .stopped (by simp [hp]) (.inl hf)
      | false =>
          obtain rfl : { w with phase := .sending a } = w' := by simpa [hf] using ht
          exact .kept hp hf
  | sending a =>
      simp only [hp] at ht ⊢
      cases hh : w.isHeard with
      | true =>
          obtain rfl : { w with phase := .idle, responses := w.responses ++ [a] } = w' := by
            simpa [hh] using ht
          exact .sent hp hh
      | false =>
          obtain rfl : { w with phase := .stopped } = w' := by simpa [hh] using ht
          exact .stopped (by simp [hp]) (.inr hh)
  | stopped => simp [hp] at ht

theorem steps_of_step (ha : step k w a = some w') : Steps k w a (w.deeds a) w' := by
  cases a with
  | ask r =>
      simp only [step] at ha
      cases hr : w.send r with
      | error flaw => simp [hr, Except.toOption] at ha
      | ok w₁ =>
          obtain rfl : w₁ = w' := by simpa [hr, Except.toOption] using ha
          obtain ⟨-, live, rfl⟩ := Session.send_eq_ok hr
          exact .ask live
  | hangUp => exact Option.some.inj ha ▸ .hangUp
  | raise => exact Option.some.inj ha ▸ .raise
  | leave => exact Option.some.inj ha ▸ .leave
  | receive =>
      simp only [step, receive?] at ha
      cases hr : w.responses with
      | nil => simp [hr] at ha
      | cons answer rest =>
          obtain rfl : { w with responses := rest } = w' := by simpa [hr] using ha
          exact .receive
  | turn => exact .turn (turns_of_turn ha)

/-- The loop rests only where the worker has stopped, waits for requests, or runs a program that
does not end. -/
theorem turn_eq_none (ht : w.turn k = none) :
    w.isStopped = true ∨ (w.phase = .idle ∧ w.requests = [] ∧ w.isOpen = true) ∨
      ∃ r, w.phase = .handling r ∧ w.terminated = false ∧ (w.handle k r).1 = none := by
  unfold turn at ht
  unfold isStopped
  cases hp : w.phase with
  | idle =>
      cases hr : w.requests with
      | nil => simpa [hp, hr] using ht
      | cons r rest => simp [hp, hr] at ht
  | handling r =>
      cases hf : w.terminated with
      | true => simp [hp, hf] at ht
      | false =>
          cases ha : answer k (w.engineOf k) r with
          | none => simp [handle, ha]
          | some a => simp [hp, hf, handle, ha] at ht
  | sending a => cases hh : w.isHeard <;> simp [hp, hh] at ht
  | stopped => simp
  | _ => simp [hp] at ht

theorem run_cons {a : Act} : run k w (a :: acts) = some (w', h) ↔
    ∃ w₁ h₁, step k w a = some w₁ ∧ run k w₁ acts = some (w', h₁) ∧ h = w.deeds a ++ h₁ := by
  simp only [run, Option.bind_eq_some_iff, Option.map_eq_some_iff, Prod.exists, Prod.mk.injEq]
  constructor
  · rintro ⟨w₁, hs, w'', h₁, hr, rfl, rfl⟩
    exact ⟨w₁, h₁, hs, hr, rfl⟩
  · rintro ⟨w₁, h₁, hs, hr, rfl⟩
    exact ⟨w₁, hs, w', h₁, hr, rfl, rfl⟩

/-- What every step keeps holds after every run. -/
theorem run_induction {motive : Worker ε → List Deed → Prop} (base : motive w h₀)
    (next : ∀ w w' h a, motive w h → step k w a = some w' → motive w' (h ++ w.deeds a))
    (hr : run k w acts = some (w', h)) : motive w' (h₀ ++ h) := by
  induction acts generalizing w h h₀ with
  | nil =>
      obtain ⟨rfl, rfl⟩ : w = w' ∧ [] = h := by simpa [run] using hr
      simpa using base
  | cons a acts ih =>
      obtain ⟨w₁, h₁, hs, hrest, rfl⟩ := run_cons.mp hr
      rw [← List.append_assoc]
      exact ih (next _ _ _ _ base hs) hrest

/-- The second part of a run begins where the first one ends. -/
theorem run_rest {acts' : List Act} (hr : run k w (acts ++ acts') = some (w', h))
    (h₁ : run k w acts = some (w₀, h₀)) : ∃ h', run k w₀ acts' = some (w', h') ∧ h = h₀ ++ h' := by
  induction acts generalizing w h h₀ with
  | nil =>
      obtain ⟨rfl, rfl⟩ : w = w₀ ∧ [] = h₀ := by simpa [run] using h₁
      exact ⟨h, hr, rfl⟩
  | cons a acts ih =>
      obtain ⟨w₁, t, hs, hrest, rfl⟩ := run_cons.mp hr
      obtain ⟨w₂, t', hs', hfirst, rfl⟩ := run_cons.mp h₁
      obtain rfl := Option.some.inj (hs.symm.trans hs')
      obtain ⟨h', hr', rfl⟩ := ih hrest hfirst
      exact ⟨h', hr', (List.append_assoc ..).symm⟩

/-! ### What the worker has answered -/

/-- The answers to requests that one worker handles one after the other. -/
def answersTo (k : EngineKind ε) : Worker ε → List Request → List (Option Response)
  | _, [] => []
  | w, r :: rs => (w.handle k r).1 :: answersTo k (w.handle k r).2 rs

/-- Whether an answer is one to a request: it has the id of the request, or tells of the engine. -/
def Fits (r : Request) (a : Response) : Prop :=
  a.id? = r.id? ∧ (r = .init → a = .ready ∨ ∃ message, a = .initFailed message)

/-- The engine is the same for all of them. -/
theorem answersTo_eq (k : EngineKind ε) (w : Worker ε) (rs : List Request) :
    answersTo k w rs = rs.map (answer k (w.engineOf k)) := by
  induction rs generalizing w with
  | nil => rfl
  | cons r rs ih => rw [answersTo, ih, engineOf_handle]; rfl

theorem fits_of_answer {engine : Except String ε} {r : Request} {a : Response}
    (ha : answer k engine r = some a) : Fits r a := by
  cases r with
  | init =>
      obtain rfl : Response.ofEngine engine = a := by simpa [answer, Request.submission?] using ha
      cases engine with
      | ok e => exact ⟨rfl, fun _ => .inl rfl⟩
      | error message => exact ⟨rfl, fun _ => .inr ⟨message, rfl⟩⟩
  | eval id code =>
      refine ⟨?_, by simp⟩
      cases engine with
      | ok e =>
          obtain ⟨o, -, rfl⟩ : ∃ o, k.run e (.script code) = some o ∧ .ofOutcome id o = a := by
            simpa [answer, Request.submission?, Option.map_eq_some_iff] using ha
          cases o <;> rfl
      | error reason =>
          obtain rfl : Response.unavailable id reason = a := by
            simpa [answer, Request.submission?] using ha
          rfl
  | evalModule id entry modules =>
      refine ⟨?_, by simp⟩
      cases engine with
      | ok e =>
          obtain ⟨o, -, rfl⟩ :
              ∃ o, k.run e (.module entry modules) = some o ∧ .ofOutcome id o = a := by
            simpa [answer, Request.submission?, Option.map_eq_some_iff] using ha
          cases o <;> rfl
      | error reason =>
          obtain rfl : Response.unavailable id reason = a := by
            simpa [answer, Request.submission?] using ha
          rfl

/-- What was taken and is not answered, by the place where the worker is. -/
inductive InHand (k : EngineKind ε) : Phase → List Request → Prop
  | idle : InHand k .idle []
  | took {r} : InHand k (.took r) [r]
  | handling {r} : InHand k (.handling r) [r]
  | answered {r a} (ha : answer k k.make r = some a) : InHand k (.answered a) [r]
  | sending {r a} (ha : answer k k.make r = some a) : InHand k (.sending a) [r]
  | stopped {last} : InHand k .stopped last

/-- Every request has got its answer, is in the worker's hand, or still waits. -/
structure Account (k : EngineKind ε) (w : Worker ε) (h : List Deed) (rs last : List Request) :
    Prop where
  engine : w.engineOf k = k.make
  queue : asked h = taken h ++ w.requests
  taken : taken h = rs ++ last
  replies : (sent h).map some = rs.map (answer k k.make)
  hand : InHand k w.phase last
  /-- A worker that stops of its own accord has nothing left to do. -/
  ended : w.phase = .stopped → w.terminated = false → w.isHeard = true →
    last = [] ∧ w.requests = [] ∧ w.isOpen = false

variable {rs last : List Request}

theorem account_start : Account k {} [] [] [] :=
  ⟨rfl, rfl, rfl, rfl, .idle, by simp⟩

theorem Account.turn (hs : Account k w h rs last) (ht : Turns k w h₀ w') :
    ∃ rs' last', Account k w' (h ++ h₀) rs' last' := by
  obtain ⟨engine, queue, taken, replies, hand, ended⟩ := hs
  cases ht with
  | @took r rest hp hr =>
      rw [hp] at hand
      cases hand
      refine ⟨rs, [r], engine, ?_, ?_, ?_, .took, by simp⟩
      · simpa [Worker.asked, Worker.taken, hr] using queue
      · simpa [Worker.taken] using taken
      · simpa [Worker.sent] using replies
  | exhausted hp hr ho =>
      rw [hp] at hand
      cases hand
      exact ⟨rs, [], engine, by simpa using queue, by simpa using taken, by simpa using replies,
        .stopped, fun _ _ _ => ⟨rfl, hr, ho⟩⟩
  | @began r hp hf =>
      rw [hp] at hand
      cases hand
      refine ⟨rs, [r], engine, ?_, ?_, ?_, .handling, by simp⟩
      · simpa [Worker.asked, Worker.taken] using queue
      · simpa [Worker.taken] using taken
      · simpa [Worker.sent] using replies
  | @answered r a hp hf ha =>
      rw [hp] at hand
      cases hand
      rw [engine] at ha
      exact ⟨rs, [r], by simpa [engineOf] using engine, by simpa using queue, by simpa using taken,
        by simpa using replies, .answered ha, by simp⟩
  | @kept a hp hf =>
      rw [hp] at hand
      cases hand with
      | @answered r _ ha =>
          exact ⟨rs, [r], engine, by simpa using queue, by simpa using taken,
            by simpa using replies, .sending ha, by simp⟩
  | @sent a hp hh =>
      rw [hp] at hand
      cases hand with
      | @sending r _ ha =>
          refine ⟨rs ++ [r], [], engine, ?_, ?_, ?_, .idle, by simp⟩
          · simpa [Worker.asked, Worker.taken] using queue
          · simpa [Worker.taken] using taken
          · simpa [Worker.sent, ha] using replies
  | stopped hp hc =>
      refine ⟨rs, last, engine, by simpa using queue, by simpa using taken, by simpa using replies,
        .stopped, fun _ hf hh => ?_⟩
      rcases hc with hc | hc <;> simp_all

theorem Account.step (hs : Account k w h rs last) (ha : Steps k w a h₀ w') :
    ∃ rs' last', Account k w' (h ++ h₀) rs' last' := by
  obtain ⟨engine, queue, taken, replies, hand, ended⟩ := hs
  cases ha with
  | turn ht => exact Account.turn ⟨engine, queue, taken, replies, hand, ended⟩ ht
  | @ask r hl =>
      refine ⟨rs, last, engine, ?_, ?_, ?_, hand, fun hw => ?_⟩
      · rw [asked_append, taken_append, queue]
        simp [Worker.asked, Worker.taken]
      · simpa [Worker.taken] using taken
      · simpa [Worker.sent] using replies
      · simp_all [isStopped]
  | raise =>
      exact ⟨rs, last, engine, by simpa [Worker.raise] using queue, by simpa using taken,
        by simpa using replies, hand, by simp [Worker.raise]⟩
  | leave =>
      exact ⟨rs, last, engine, by simpa [Worker.leave] using queue, by simpa using taken,
        by simpa using replies, hand, by simp [Worker.leave]⟩
  | hangUp =>
      exact ⟨rs, last, engine, by simpa [Worker.hangUp] using queue, by simpa using taken,
        by simpa using replies, hand, fun hw ht hh => by simp [Worker.hangUp, ended hw ht hh]⟩
  | receive =>
      exact ⟨rs, last, engine, by simpa using queue, by simpa using taken, by simpa using replies,
        hand, ended⟩

/-- **Every run keeps the account.** -/
theorem account_of_run (hr : run k {} acts = some (w, h)) : ∃ rs last, Account k w h rs last := by
  have := run_induction (motive := fun w h => ∃ rs last, Account k w h rs last)
    ⟨[], [], account_start⟩ (fun _ _ _ _ ⟨_, _, hs⟩ ha => hs.step (steps_of_step ha)) hr
  simpa using this

/-! ### The flags -/

theorem Turns.flags_eq (ht : Turns k w h w') :
    w'.terminated = w.terminated ∧ w'.isHeard = w.isHeard := by
  cases ht <;> exact ⟨rfl, rfl⟩

theorem Steps.flags (ha : Steps k w a h w') :
    (a ≠ .raise → w'.terminated = w.terminated) ∧ (w.terminated = true → w'.terminated = true) ∧
      (a ≠ .leave → w'.isHeard = w.isHeard) := by
  cases ha with
  | turn ht =>
      obtain ⟨ht, hh⟩ := ht.flags_eq
      exact ⟨fun _ => ht, ht.trans, fun _ => hh⟩
  | raise => exact ⟨fun hne => absurd rfl hne, fun _ => rfl, fun _ => rfl⟩
  | leave => exact ⟨fun _ => rfl, id, fun hne => absurd rfl hne⟩
  | _ => exact ⟨fun _ => rfl, id, fun _ => rfl⟩

/-- As long as nobody raises the flag or leaves, nothing keeps the worker from its work. -/
theorem flags_of_run (hr : run k w acts = some (w', h)) :
    (.raise ∉ acts → w'.terminated = w.terminated) ∧ (.leave ∉ acts → w'.isHeard = w.isHeard) := by
  induction acts generalizing w h with
  | nil =>
      obtain ⟨rfl, -⟩ : w = w' ∧ [] = h := by simpa [run] using hr
      exact ⟨fun _ => rfl, fun _ => rfl⟩
  | cons a acts ih =>
      obtain ⟨w₁, h₁, hs, hrest, -⟩ := run_cons.mp hr
      obtain ⟨raise, -, leave⟩ := (steps_of_step hs).flags
      obtain ⟨ihraise, ihleave⟩ := ih hrest
      simp only [List.mem_cons, not_or]
      exact ⟨fun ⟨hne, hm⟩ => (ihraise hm).trans (raise (Ne.symm hne)),
        fun ⟨hne, hm⟩ => (ihleave hm).trans (leave (Ne.symm hne))⟩

/-- Under a raised flag the worker begins nothing, and comes to send nothing. -/
theorem Steps.of_terminated (ht : w.terminated = true) (ha : Steps k w a h w') :
    begun h = [] ∧
      ((sent h = [] ∧ (∀ answer, w'.phase = .sending answer → w.phase = .sending answer)) ∨
        ∃ answer, w.phase = .sending answer ∧ sent h = [answer] ∧ w'.phase = .idle) := by
  cases ha with
  | turn hm =>
      cases hm with
      | began hp hf => simp [ht] at hf
      | answered hp hf => simp [ht] at hf
      | kept hp hf => simp [ht] at hf
      | @sent answer hp hh => exact ⟨rfl, .inr ⟨answer, hp, rfl, rfl⟩⟩
      | _ => exact ⟨rfl, .inl ⟨rfl, by simp⟩⟩
  | _ => exact ⟨rfl, .inl ⟨rfl, fun _ hp => hp⟩⟩

/-- **Under a raised flag** nothing is begun, and only an answer past the last look at the flag is
sent. -/
theorem run_of_terminated (ht : w.terminated = true) (hr : run k w acts = some (w', h)) :
    begun h = [] ∧ (sent h = [] ∨ ∃ answer, w.phase = .sending answer ∧ sent h = [answer]) := by
  induction acts generalizing w h with
  | nil =>
      obtain ⟨-, rfl⟩ : w = w' ∧ [] = h := by simpa [run] using hr
      exact ⟨rfl, .inl rfl⟩
  | cons a acts ih =>
      obtain ⟨w₁, h₁, hs, hrest, rfl⟩ := run_cons.mp hr
      have hm := steps_of_step hs
      obtain ⟨begun₁, sent₁⟩ := ih (hm.flags.2.1 ht) hrest
      obtain ⟨begun₀, ⟨sent₀, keeps⟩ | ⟨answer, hp, sent₀, idle⟩⟩ := hm.of_terminated ht
      · rw [begun_append, sent_append, begun₀, sent₀, begun₁]
        exact ⟨rfl, sent₁.imp_right fun ⟨answer, hp, hsent⟩ => ⟨answer, keeps answer hp, hsent⟩⟩
      · -- the answer is gone, and no other one gets past the flag
        have none : sent h₁ = [] := sent₁.resolve_right (by simp [idle])
        rw [begun_append, sent_append, begun₀, sent₀, begun₁, none]
        exact ⟨rfl, .inr ⟨answer, hp, rfl⟩⟩

/-! ### Whole runs -/

/-- What a new worker has done with its requests after a run. -/
structure Orderly (k : EngineKind ε) (acts : List Act) (w : Worker ε) (h : List Deed) :
    Prop where
  /-- What was sent are the answers to the first of the requests that the worker took, which are
  the first ones that were added: one for each, in order, and each fits its request. -/
  in_order : ∃ rs, rs <+: taken h ∧ taken h <+: asked h ∧ (sent h).map some = answersTo k {} rs ∧
    ∀ r a, (r, a) ∈ rs.zip (sent h) → Fits r a
  /-- If the flag was never raised and somebody still listens, a worker that has stopped has
  answered everything, and nothing can be added any more. -/
  complete : .raise ∉ acts → .leave ∉ acts → w.isStopped = true →
    w.isOpen = false ∧ (sent h).map some = answersTo k {} (asked h)
  /-- A worker that has not stopped goes on, unless it waits for requests that can still be added
  or runs a program that does not end. -/
  goes_on : w.turn k = none → w.isStopped = true ∨
    (w.phase = .idle ∧ w.requests = [] ∧ w.isOpen = true) ∨
      ∃ r, w.phase = .handling r ∧ w.terminated = false ∧ (w.handle k r).1 = none
  /-- After the flag was raised no request is handled, and at most one answer is sent: the one
  that the worker was just sending. -/
  flagged : ∀ before after w₀ h₀, acts = before ++ .raise :: after →
    run k {} before = some (w₀, h₀) → begun h = begun h₀ ∧
      (sent h = sent h₀ ∨ ∃ a, w₀.phase = .sending a ∧ sent h = sent h₀ ++ [a])

theorem zip_fits {engine : Except String ε} {rs : List Request} {as : List Response}
    (h : as.map some = rs.map (answer k engine)) : ∀ r a, (r, a) ∈ rs.zip as → Fits r a := by
  induction rs generalizing as with
  | nil => simp
  | cons r rs ih =>
      cases as with
      | nil => simp
      | cons a as =>
          obtain ⟨ha, hrest⟩ := List.cons.inj h
          intro r' a' hm
          rcases List.mem_cons.mp hm with he | hm
          · obtain ⟨rfl, rfl⟩ := Prod.mk.inj he
            exact fits_of_answer ha.symm
          · exact ih hrest r' a' hm

/-- **A worker serves in order and stops cleanly.** Whatever happens around its loop, it answers
the requests one after the other, and a flag that is raised lets at most one more answer out. -/
theorem served_in_order (hr : run k {} acts = some (w, h)) : Orderly k acts w h := by
  obtain ⟨rs, last, hs⟩ := account_of_run hr
  have replies : (sent h).map some = answersTo k {} rs := by rw [answersTo_eq]; exact hs.replies
  constructor
  · refine ⟨rs, hs.taken ▸ List.prefix_append _ _, hs.queue ▸ List.prefix_append _ _, replies, ?_⟩
    exact zip_fits hs.replies
  · intro hraise hleave hw
    obtain ⟨flag, heard⟩ := flags_of_run hr
    have stopped : w.phase = .stopped := by
      unfold isStopped at hw
      cases hp : w.phase <;> simp_all
    obtain ⟨rfl, hq, ho⟩ := hs.ended stopped (flag hraise) (heard hleave)
    refine ⟨ho, ?_⟩
    rw [replies, hs.queue, hs.taken, hq, List.append_nil, List.append_nil]
  · exact turn_eq_none
  · rintro before after w₀ h₀ rfl hbefore
    obtain ⟨t, hafter, rfl⟩ := run_rest hr hbefore
    obtain ⟨w₁, t', hstep, hrest, rfl⟩ := run_cons.mp hafter
    obtain rfl : w₀.raise = w₁ := Option.some.inj hstep
    obtain ⟨hbegun, hsent⟩ := run_of_terminated rfl hrest
    rw [begun_append, sent_append, hbegun, List.append_nil]
    refine ⟨rfl, ?_⟩
    rcases hsent with hnone | ⟨a, hp, ha⟩
    · exact .inl (by rw [hnone, List.append_nil])
    · exact .inr ⟨a, hp, by rw [ha]⟩

end

/-- Two requests, of which the second one waits while the flag is raised: the first one is being
answered, so its answer is sent, and the second one is taken and not handled. -/
theorem one_answer_past_the_flag :
    let k : EngineKind Unit := ⟨.ok (), fun _ _ => some (.error ⟨"no", []⟩)⟩
    let before : List Act :=
      [.ask .init, .ask (.eval 7 ""), .turn, .turn, .turn, .turn]
    let after : List Act := [.hangUp, .turn, .turn, .turn]
    ∃ w h, run k {} (before ++ .raise :: after) = some (w, h) ∧
      Orderly k (before ++ .raise :: after) w h ∧ w.isStopped = true ∧
      sent h = [.ready] ∧ taken h = [.init, .eval 7 ""] ∧ begun h = [.init] := by
  intro k before after
  refine ⟨_, _, rfl, served_in_order rfl, rfl, rfl, rfl, rfl⟩

end PatchSandbox.Worker
