import PatchSandbox.Proofs.Session.History

/-!
# Nothing is lost between a session and its worker

Requests go to the worker and answers come back through two queues. **`Channels`** accounts
for every one of them: what was put on a queue is what was taken off it and what still
waits there, what the worker took it has answered or holds in its hand, and what the router
took it has handed on or is just handing on.

Once the worker has stopped, a request or an answer it held is gone; then what came out is
still a prefix of what went in.
-/

namespace PatchSandbox

/-- The request a worker holds. -/
def Worker.Phase.request? : Worker.Phase → Option Request
  | .took r => some r
  | .handling r => some r
  | _ => none

/-- The answer a worker holds. -/
def Worker.Phase.answer? : Worker.Phase → Option Response
  | .answered a => some a
  | .sending a => some a
  | _ => none

/-- The answer the router is handing on. -/
def Router.answer? : Router → Option Response
  | .delivering a => some a
  | _ => none

namespace Session

variable {ε : Type} {k : EngineKind ε} {config : Config}

/-! ### What a history tells of the queues -/

/-- The requests that were put on the worker's queue by calls. -/
def sends (h : List Occurrence) : List Request := h.filterMap Occurrence.sent?

/-- The requests that the worker took. -/
def takes (h : List Occurrence) : List Request := h.filterMap Occurrence.taken?

/-- The requests that the worker answered, with the answers. -/
def answers (h : List Occurrence) : List (Request × Response) :=
  h.filterMap Occurrence.answered?

/-- The answers that were put on the queue of answers. -/
def reports (h : List Occurrence) : List Response := h.filterMap Occurrence.reported?

/-- The answers that the router took. -/
def receipts (h : List Occurrence) : List Response := h.filterMap Occurrence.received?

/-- The answers that the router handed on. -/
def deliveries (h : List Occurrence) : List Response := h.filterMap Occurrence.delivered?

@[simp] theorem sends_nil : sends [] = [] := rfl

@[simp] theorem sends_append (h h' : List Occurrence) : sends (h ++ h') = sends h ++ sends h' :=
  List.filterMap_append

@[simp] theorem takes_nil : takes [] = [] := rfl

@[simp] theorem takes_append (h h' : List Occurrence) : takes (h ++ h') = takes h ++ takes h' :=
  List.filterMap_append

@[simp] theorem answers_nil : answers [] = [] := rfl

@[simp] theorem answers_append (h h' : List Occurrence) :
    answers (h ++ h') = answers h ++ answers h' :=
  List.filterMap_append

@[simp] theorem reports_nil : reports [] = [] := rfl

@[simp] theorem reports_append (h h' : List Occurrence) :
    reports (h ++ h') = reports h ++ reports h' :=
  List.filterMap_append

@[simp] theorem receipts_nil : receipts [] = [] := rfl

@[simp] theorem receipts_append (h h' : List Occurrence) :
    receipts (h ++ h') = receipts h ++ receipts h' :=
  List.filterMap_append

@[simp] theorem deliveries_nil : deliveries [] = [] := rfl

@[simp] theorem deliveries_append (h h' : List Occurrence) :
    deliveries (h ++ h') = deliveries h ++ deliveries h' :=
  List.filterMap_append

@[simp] theorem sends_cons (e : Occurrence) (h : List Occurrence) :
    sends (e :: h) = e.sent?.toList ++ sends h := by
  unfold sends
  rw [List.filterMap_cons]
  cases e.sent? <;> rfl

@[simp] theorem takes_cons (e : Occurrence) (h : List Occurrence) :
    takes (e :: h) = e.taken?.toList ++ takes h := by
  unfold takes
  rw [List.filterMap_cons]
  cases e.taken? <;> rfl

@[simp] theorem answers_cons (e : Occurrence) (h : List Occurrence) :
    answers (e :: h) = e.answered?.toList ++ answers h := by
  unfold answers
  rw [List.filterMap_cons]
  cases e.answered? <;> rfl

@[simp] theorem reports_cons (e : Occurrence) (h : List Occurrence) :
    reports (e :: h) = e.reported?.toList ++ reports h := by
  unfold reports
  rw [List.filterMap_cons]
  cases e.reported? <;> rfl

@[simp] theorem receipts_cons (e : Occurrence) (h : List Occurrence) :
    receipts (e :: h) = e.received?.toList ++ receipts h := by
  unfold receipts
  rw [List.filterMap_cons]
  cases e.received? <;> rfl

@[simp] theorem deliveries_cons (e : Occurrence) (h : List Occurrence) :
    deliveries (e :: h) = e.delivered?.toList ++ deliveries h := by
  unfold deliveries
  rw [List.filterMap_cons]
  cases e.delivered? <;> rfl

theorem mem_sends {h : List Occurrence} {r : Request} : r ∈ sends h ↔ ∃ i, .sent i r ∈ h := by
  unfold sends
  rw [List.mem_filterMap]
  constructor
  · rintro ⟨e, he, hr⟩
    cases e <;> simp [Occurrence.sent?] at hr
    subst hr
    exact ⟨_, he⟩
  · rintro ⟨i, he⟩
    exact ⟨_, he, rfl⟩

theorem mem_reports {h : List Occurrence} {a : Response} : a ∈ reports h ↔ .reported a ∈ h := by
  unfold reports
  rw [List.mem_filterMap]
  constructor
  · rintro ⟨e, he, hr⟩
    cases e <;> simp [Occurrence.reported?] at hr
    subst hr
    exact he
  · exact fun he => ⟨_, he, rfl⟩

theorem mem_deliveries {h : List Occurrence} {a : Response} :
    a ∈ deliveries h ↔ .delivered a ∈ h := by
  unfold deliveries
  rw [List.mem_filterMap]
  constructor
  · rintro ⟨e, he, hr⟩
    cases e <;> simp [Occurrence.delivered?] at hr
    subst hr
    exact he
  · exact fun he => ⟨_, he, rfl⟩

/-- What happens has nothing to do with the queues. -/
def Silent (h : List Occurrence) : Prop :=
  sends h = [] ∧ takes h = [] ∧ answers h = [] ∧ reports h = [] ∧ receipts h = [] ∧
    deliveries h = []

theorem silent_nil : Silent [] := ⟨rfl, rfl, rfl, rfl, rfl, rfl⟩

/-! ### The account -/

/-- Every request and every answer is in one place. -/
structure Channels (w : Worker ε) (router : Router) (h : List Occurrence) : Prop where
  requests : .init :: sends h = takes h ++ w.requests
  held : w.isStopped = false → takes h = (answers h).map (·.1) ++ w.phase.request?.toList
  answered : (answers h).map (·.1) <+: takes h
  ready : w.isStopped = false → (answers h).map (·.2) = reports h ++ w.phase.answer?.toList
  reported : reports h <+: (answers h).map (·.2)
  responses : reports h = receipts h ++ w.responses
  received : receipts h = deliveries h ++ router.answer?.toList

section

variable {w w' : Worker ε} {router : Router} {h h' : List Occurrence}

theorem channels_start :
    Channels ({ requests := [.init] } : Worker ε) .idle [] where
  requests := rfl
  held := fun _ => rfl
  answered := List.nil_prefix
  ready := fun _ => rfl
  reported := List.nil_prefix
  responses := rfl
  received := rfl

theorem Channels.silent (hs : Channels w router h) (he : Silent h') :
    Channels w router (h ++ h') := by
  obtain ⟨hsend, htake, hanswer, hreport, hreceive, hdeliver⟩ := he
  constructor
  · simpa [hsend, htake] using hs.requests
  · simpa [htake, hanswer] using hs.held
  · simpa [htake, hanswer] using hs.answered
  · simpa [hanswer, hreport] using hs.ready
  · simpa [hanswer, hreport] using hs.reported
  · simpa [hreport, hreceive] using hs.responses
  · simpa [hreceive, hdeliver] using hs.received

/-- Only the queues of the worker and what it holds count. -/
theorem Channels.congr (hs : Channels w router h) (hp : w'.phase = w.phase)
    (hq : w'.requests = w.requests) (ha : w'.responses = w.responses) :
    Channels w' router h := by
  have hstop : w'.isStopped = w.isStopped := by simp only [Worker.isStopped, hp]
  constructor
  · simpa [hq] using hs.requests
  · simpa [hstop, hp] using hs.held
  · exact hs.answered
  · simpa [hstop, hp] using hs.ready
  · exact hs.reported
  · simpa [ha] using hs.responses
  · exact hs.received

/-- A worker that stops keeps the account, whatever it held. -/
theorem Channels.stop (hs : Channels w router h) :
    Channels { w with phase := .stopped } router h where
  requests := hs.requests
  held := by simp [Worker.isStopped]
  answered := hs.answered
  ready := by simp [Worker.isStopped]
  reported := hs.reported
  responses := hs.responses
  received := hs.received

/-- A worker that goes on with the same in hand keeps the account. -/
theorem Channels.goOn (hs : Channels w router h) {p : Worker.Phase} (live : w.isStopped = false)
    (hr : p.request? = w.phase.request?) (ha : p.answer? = w.phase.answer?) :
    Channels { w with phase := p } router h where
  requests := hs.requests
  held := fun _ => by rw [hs.held live, hr]
  answered := hs.answered
  ready := fun _ => by rw [hs.ready live, ha]
  reported := hs.reported
  responses := hs.responses
  received := hs.received

theorem Channels.send (hs : Channels w router h) (i : Nat) (r : Request) :
    Channels { w with requests := w.requests ++ [r] } router (h ++ [.sent i r]) where
  requests := by simp [← List.append_assoc, ← hs.requests]
  held := by simpa [Worker.isStopped] using hs.held
  answered := by simpa using hs.answered
  ready := by simpa [Worker.isStopped] using hs.ready
  reported := by simpa using hs.reported
  responses := by simpa using hs.responses
  received := by simpa using hs.received

theorem Channels.workerMove {e : Option Occurrence} (hs : Channels w router h)
    (hm : WorkerMove k w e w') : Channels w' router (h ++ e.toList) := by
  cases hm with
  | exhausted hp hr ho => simpa using hs.stop
  | refused hp ht => simpa using hs.stop
  | interrupted hp ht => simpa using hs.stop
  | withheld hp ht => simpa using hs.stop
  | unheard hp hh => simpa using hs.stop
  | @taken r rest hp hr =>
      have live : w.isStopped = false := by simp [Worker.isStopped, hp]
      constructor
      · simpa [hr] using hs.requests
      · simpa [hp, Worker.Phase.request?, Worker.isStopped] using hs.held live
      · simpa using hs.answered.trans (List.prefix_append _ [r])
      · simpa [hp, Worker.Phase.answer?, Worker.isStopped] using hs.ready live
      · simpa using hs.reported
      · simpa using hs.responses
      · simpa using hs.received
  | @begun r hp ht =>
      have live : w.isStopped = false := by simp [Worker.isStopped, hp]
      simpa using hs.goOn (p := .handling r) live (by rw [hp]; rfl) (by rw [hp]; rfl)
  | @answered r a hp ht ha =>
      have live : w.isStopped = false := by simp [Worker.isStopped, hp]
      have held : takes h = (answers h).map (·.1) ++ [r] := by
        simpa [hp, Worker.Phase.request?] using hs.held live
      have ready : (answers h).map (·.2) = reports h := by
        simpa [hp, Worker.Phase.answer?] using hs.ready live
      constructor
      · simpa using hs.requests
      · simp [held, Worker.Phase.request?]
      · simp [held]
      · simp [ready, Worker.Phase.answer?]
      · simp [ready]
      · simpa using hs.responses
      · simpa using hs.received
  | @kept a hp ht =>
      have live : w.isStopped = false := by simp [Worker.isStopped, hp]
      simpa using hs.goOn (p := .sending a) live (by rw [hp]; rfl) (by rw [hp]; rfl)
  | @reported a hp =>
      have live : w.isStopped = false := by simp [Worker.isStopped, hp]
      have ready : (answers h).map (·.2) = reports h ++ [a] := by
        simpa [hp, Worker.Phase.answer?] using hs.ready live
      constructor
      · simpa using hs.requests
      · simpa [hp, Worker.Phase.request?, Worker.isStopped] using hs.held live
      · simpa using hs.answered
      · simp [ready, Worker.Phase.answer?]
      · simp [ready]
      · simp [hs.responses]
      · simpa using hs.received

theorem Channels.receive {a : Response} {rest : List Response} (hs : Channels w .idle h)
    (ha : w.responses = a :: rest) :
    Channels { w with responses := rest } (.delivering a) (h ++ [.received a]) where
  requests := by simpa using hs.requests
  held := by simpa [Worker.isStopped] using hs.held
  answered := by simpa using hs.answered
  ready := by simpa [Worker.isStopped] using hs.ready
  reported := by simpa using hs.reported
  responses := by simpa [ha] using hs.responses
  received := by simpa [Router.answer?] using hs.received

theorem Channels.deliver {a : Response} (hs : Channels w (.delivering a) h) :
    Channels w .idle (h ++ [.delivered a]) where
  requests := by simpa using hs.requests
  held := by simpa using hs.held
  answered := by simpa using hs.answered
  ready := by simpa using hs.ready
  reported := by simpa using hs.reported
  responses := by simpa using hs.responses
  received := by simpa [Router.answer?] using hs.received

/-- Two routers that hand nothing on are alike. -/
theorem Channels.idle {router' : Router} (hs : Channels w router h)
    (hr : router.answer? = none) (hr' : router'.answer? = none) : Channels w router' h :=
  { hs with received := by simpa [hr, hr'] using hs.received }

end

/-! ### Moves keep the account -/

theorem send_eq_ok {w w' : Worker ε} {r : Request} (h : w.send r = .ok w') :
    w.isOpen = true ∧ w.isStopped = false ∧ w' = { w with requests := w.requests ++ [r] } := by
  unfold Worker.send at h
  cases ho : w.isOpen with
  | false => simp [ho] at h
  | true =>
      unfold Worker.isStopped
      cases hp : w.phase <;> simp [ho, hp] at h <;> simp [← h]

/-- A step of a call leaves the router alone, and changes the queues only by a request that
is sent. -/
theorem CallerMove.traffic {s t : Session ε} {i : Nat} {c c' : Caller} {e : Option Occurrence}
    (hm : CallerMove s i c e c' t) :
    t.router = s.router ∧
      ((∃ r, e = some (.sent i r) ∧
          t.worker = { s.worker with requests := s.worker.requests ++ [r] }) ∨
        (Silent e.toList ∧ t.worker.phase = s.worker.phase ∧
          t.worker.requests = s.worker.requests ∧ t.worker.responses = s.worker.responses)) := by
  cases hm with
  | sent hw hs =>
      obtain ⟨-, -, rfl⟩ := send_eq_ok hs
      exact ⟨rfl, .inl ⟨_, rfl, rfl⟩⟩
  | _ => exact ⟨rfl, .inr ⟨⟨rfl, rfl, rfl, rfl, rfl, rfl⟩, rfl, rfl, rfl⟩⟩

@[simp] theorem worker_deliver (s : Session ε) (a : Response) :
    (s.deliver a).worker = s.worker := by
  cases a <;> rfl

theorem callers_deliver (s : Session ε) (a : Response) : (s.deliver a).callers = s.callers := by
  cases a <;> rfl

/-- **One move** keeps the account. -/
theorem Channels.move {s s' : Session ε} {h : List Occurrence} {e : Option Occurrence}
    (hs : Channels s.worker s.router h) (hm : Move k s e s') :
    Channels s'.worker s'.router (h ++ e.toList) := by
  cases hm with
  | call task => exact hs.silent ⟨rfl, rfl, rfl, rfl, rfl, rfl⟩
  | dispose => exact hs.silent silent_nil
  | @caller i c e c' t hc hm =>
      obtain ⟨hr, ⟨r, rfl, hw⟩ | ⟨he, hp, hq, ha⟩⟩ := hm.traffic
      · have := hs.send i r
        rw [← hw, ← hr] at this
        exact this
      · have := (hs.congr hp hq ha).silent he
        rw [← hr] at this
        exact this
  | worker hm => exact hs.workerMove hm
  | loseWorker => exact hs.stop.silent silent_nil
  | router hm =>
      cases hm with
      | received hr ha => exact (hr ▸ hs).receive ha
      | ended hr ha hw hc => exact (hs.idle (by rw [hr]; rfl) rfl).silent silent_nil
      | workerLost hr ha hw hc =>
          exact (hs.idle (by rw [hr]; rfl) rfl).silent ⟨rfl, rfl, rfl, rfl, rfl, rfl⟩
      | @delivered a hr =>
          have := (hr ▸ hs).deliver
          rw [← worker_deliver s a] at this
          exact this
      | shut hr => exact (hs.idle (by rw [hr]; rfl) rfl).silent silent_nil

/-- **The account holds after every run.** -/
theorem channels_of_run {acts : List Action} {s : Session ε}
    (hr : runActions k (spawn config) acts = some s) :
    Channels s.worker s.router (history k (spawn config) acts) :=
  run_induction (motive := fun s h => Channels s.worker s.router h) channels_start
    (fun _ _ _ _ hs hm => hs.move hm) hr

end Session

end PatchSandbox
