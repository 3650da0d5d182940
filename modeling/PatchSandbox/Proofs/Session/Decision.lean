import PatchSandbox.Proofs.Module.Collapse
import PatchSandbox.Proofs.Session.Readying

/-!
# What is decided about modules

Before anything is sent for a call for modules, it is decided whether they may run. Several reasons
against that can apply at once, so the order in which they are looked at is part of the result.

* **`Task.Decision`** says what is decided about a map and an entry: no modules, then modules that
  are not admitted, with all that was found in each of them, then an entry that is not there.
* **`Task.check_modules_iff`**: this is what is decided, and nothing else is.
* **`Session.ModulesDecided`** is what becomes of the call, whatever else goes on in the session.
  It holds in every run: **`Session.modules_decided`**.
-/

namespace PatchSandbox

namespace Task

open ModuleName (canonical)

variable {limits : SourceLimits} {entry : String} {m : ModuleMap}
  {pairs : List (String × String)}

/-! ### The decision -/

/-- All modules of a map are admitted. -/
def Passed (limits : SourceLimits) (m : ModuleMap) : Prop :=
  ∀ name source, m.get? name = some source → Admission.check limits source = []

/-- The complete report on a map: its modules that are not admitted, in ascending order of their
names, with what was found in them. -/
structure Reports (limits : SourceLimits) (m : ModuleMap) (failures : List ModuleFailure) :
    Prop where
  ascending : failures.Pairwise fun f g => Text.utf8 f.moduleName < Text.utf8 g.moduleName
  exact : ∀ f, f ∈ failures ↔ f.errors ≠ [] ∧
    ∃ source, m.get? f.moduleName = some source ∧ f.errors = Admission.check limits source

/-- What is decided about modules and an entry. -/
inductive Decision (limits : SourceLimits) (entry : String) (m : ModuleMap) :
    Except SessionError Submission → Prop
  | noModules (hm : m.names = []) : Decision limits entry m (.error (.moduleNotFound entry))
  | rejected {failures : List ModuleFailure} (hf : failures ≠ [])
      (report : Reports limits m failures) :
      Decision limits entry m (.error (.modulesRejected failures))
  | noEntry (passed : Passed limits m) (missing : entry ∉ m.names) :
      Decision limits entry m (.error (.moduleNotFound entry))
  | admitted (passed : Passed limits m) (present : entry ∈ m.names) :
      Decision limits entry m (.ok (.module entry m))

/-- What is reported is there, and failed. -/
theorem Reports.not_passed {failures : List ModuleFailure} (report : Reports limits m failures)
    (hf : failures ≠ []) : ¬ Passed limits m := by
  obtain ⟨f, hmem⟩ := List.exists_mem_of_ne_nil failures hf
  obtain ⟨found, source, kept, errors⟩ := (report.exact f).mp hmem
  exact fun passed => found (errors.trans (passed _ source kept))

/-- There is one complete report. -/
theorem Reports.unique {failures failures' : List ModuleFailure}
    (report : Reports limits m failures) (report' : Reports limits m failures') :
    failures = failures' := by
  have perm : failures.Perm failures' := by
    have distinct {l : List ModuleFailure} (report : Reports limits m l) : l.Nodup :=
      report.ascending.imp fun {f g} hlt he => by
        subst he
        exact Std.lt_irrefl hlt
    refine (List.perm_ext_iff_of_nodup (distinct report) (distinct report')).mpr fun f => ?_
    rw [report.exact, report'.exact]
  exact List.Perm.eq_of_pairwise
    (fun f g _ _ hfg hgf => absurd hfg (Std.not_lt.mpr (Std.le_of_lt hgf)))
    report.ascending report'.ascending perm

/-- Modules that are not there are not reported. -/
theorem Reports.some_modules {failures : List ModuleFailure} (report : Reports limits m failures)
    (hf : failures ≠ []) : m.names ≠ [] := by
  obtain ⟨f, hmem⟩ := List.exists_mem_of_ne_nil failures hf
  obtain ⟨-, source, kept, -⟩ := (report.exact f).mp hmem
  obtain ⟨e, found, -⟩ := Option.map_eq_some_iff.mp kept
  exact List.ne_nil_of_mem (List.mem_map_of_mem (List.mem_of_find?_eq_some found))

/-- **Nothing else is decided.** -/
theorem Decision.unique {d d' : Except SessionError Submission} (h : Decision limits entry m d)
    (h' : Decision limits entry m d') : d = d' := by
  cases h with
  | noModules hm =>
      cases h' with
      | noModules _ => rfl
      | rejected hf report => exact absurd hm (report.some_modules hf)
      | noEntry _ _ => rfl
      | admitted _ present => simp [hm] at present
  | rejected hf report =>
      cases h' with
      | noModules hm => exact absurd hm (report.some_modules hf)
      | rejected _ report' => rw [report.unique report']
      | noEntry passed _ => exact absurd passed (report.not_passed hf)
      | admitted passed _ => exact absurd passed (report.not_passed hf)
  | noEntry passed missing =>
      cases h' with
      | noModules _ => rfl
      | rejected hf report => exact absurd passed (report.not_passed hf)
      | noEntry _ _ => rfl
      | admitted _ present => exact absurd present missing
  | admitted passed present =>
      cases h' with
      | noModules hm => simp [hm] at present
      | rejected hf report => exact absurd passed (report.not_passed hf)
      | noEntry _ missing => exact absurd present missing
      | admitted _ _ => rfl

/-! ### It is what is checked -/

theorem mem_failures_iff {f : ModuleFailure} :
    f ∈ failures limits m ↔ f.errors ≠ [] ∧
      ∃ source, (f.moduleName, source) ∈ m.entries ∧ f.errors = Admission.check limits source := by
  rw [failures, List.mem_filterMap]
  constructor
  · rintro ⟨⟨name, source⟩, kept, found⟩
    simp only [List.isEmpty_iff] at found
    split at found
    · cases found
    · rename_i bad
      cases found
      exact ⟨bad, source, kept, rfl⟩
  · obtain ⟨name, errors⟩ := f
    rintro ⟨bad, source, kept, rfl⟩
    exact ⟨(name, source), kept, by simpa using bad⟩

theorem reports_failures (limits : SourceLimits) (pairs : List (String × String)) :
    Reports limits (.ofPairs pairs) (failures limits (.ofPairs pairs)) where
  ascending := by
    refine List.pairwise_filterMap.mpr ((ModuleMap.pairwise_entries pairs).imp ?_)
    rintro ⟨name, source⟩ ⟨name', source'⟩ hlt f hf f' hf'
    simp only [Option.ite_none_left_eq_some, Option.some.injEq] at hf hf'
    rw [← hf.2, ← hf'.2]
    exact (Text.lt_iff_utf8_lt _ _).mp hlt
  exact := fun f => by simp only [mem_failures_iff, ModuleMap.mem_entries_iff]

theorem passed_of_failures (h : failures limits (.ofPairs pairs) = []) :
    Passed limits (.ofPairs pairs) := fun _ _ kept =>
  check_eq_nil_of_failures (List.isEmpty_iff.mpr h) (ModuleMap.mem_entries_iff.mpr kept)

/-- **The check of modules decides about them.** -/
theorem decision_check (limits : SourceLimits) (entry : String) (pairs : List (String × String)) :
    Decision limits (canonical entry) (.ofPairs pairs) (check limits (.modules entry pairs)) := by
  simp only [check, checkModules]
  split
  case isTrue none =>
      refine .noModules ?_
      rw [ModuleMap.names, List.isEmpty_iff.mp none, List.map_nil]
  case isFalse =>
      split
      case isTrue failed =>
          refine .rejected ?_ (reports_failures limits pairs)
          simpa using failed
      case isFalse passed =>
          have passed : Passed limits (.ofPairs pairs) := passed_of_failures (by simpa using passed)
          split
          case isTrue missing =>
              exact .noEntry passed (by simpa [← ModuleMap.contains_iff] using missing)
          case isFalse present =>
              exact .admitted passed (by simpa [← ModuleMap.contains_iff] using present)

/-- Only the map matters. -/
theorem check_modules_congr {pairs' : List (String × String)}
    (same : ModuleMap.ofPairs pairs' = .ofPairs pairs) :
    check limits (.modules entry pairs') = check limits (.modules entry pairs) := by
  simp only [check, checkModules, same]

theorem check_modules_iff {d : Except SessionError Submission} :
    check limits (.modules entry pairs) = d ↔
      Decision limits (canonical entry) (.ofPairs pairs) d := by
  constructor
  · rintro rfl
    exact decision_check limits entry pairs
  · exact (decision_check limits entry pairs).unique

end Task

/-- Where a call stands once it is decided whether it may run. -/
def Caller.decided : Except SessionError Submission → Caller
  | .ok p => .admitted p
  | .error e => .done (.error e)

namespace Session

open ModuleName (canonical)

variable {ε : Type} {k : EngineKind ε} {config : Config}

/-! ### What is sent for one call -/

/-- What a call that began with a task has sent, in the end: nothing, or what it was let through
as. -/
theorem sends_deeds_of_run {acts : List Action} {s : Session ε}
    (hr : runActions k (spawn config) acts = some s) {i : Nat} {task : Task}
    (hb : .began i task ∈ history k (spawn config) acts) :
    sends (deeds i (history k (spawn config) acts)) = [] ∨
      ∃ p id, task.check config.source = .ok p ∧
        sends (deeds i (history k (spawn config) acts)) = [p.request id] := by
  obtain ⟨calls, -⟩ := calls_of_run hr
  rcases (calls.tale i).sends with none | ⟨r, hsent, one⟩
  · exact .inl none
  · obtain ⟨before, after, he⟩ := List.append_of_mem (mem_of_mem_deeds hsent)
    obtain ⟨⟨task', p, id, hb', checked, rfl⟩, -⟩ := ordered_of_run hr before i r after he
    have hb' : .began i task' ∈ history k (spawn config) acts := he ▸ List.mem_append_left _ hb'
    obtain rfl := calls.began_unique hb hb'
    exact .inr ⟨p, id, checked, one⟩

theorem Calls.began_of_begun {s : Session ε} {h : List Occurrence} (hs : Calls s h) {i : Nat}
    {task : Task} (hc : s.caller? i = some (.begun task)) : .began i task ∈ h := by
  have story := hs.stories i _ hc
  generalize hd : deeds i h = es at story
  cases story
  exact mem_of_mem_deeds (i := i) (by simp [hd])

/-- A call that may run was let through for the task it began with. -/
theorem Calls.check_of_admitted {s : Session ε} {h : List Occurrence} (hs : Calls s h) {i : Nat}
    {p : Submission} {task : Task} (hc : s.caller? i = some (.admitted p))
    (hb : .began i task ∈ h) : task.check s.config.source = .ok p := by
  have story := hs.stories i _ hc
  generalize hd : deeds i h = es at story
  cases story with
  | @admitted task' _ checked =>
      have hb' : .began i task' ∈ h := mem_of_mem_deeds (i := i) (by simp [hd])
      rwa [hs.began_unique hb hb']

/-! ### The steps of a call that may run -/

theorem runActions_proceed {s u t : Session ε} {i : Nat} {c : Caller} {rest : List Action}
    (hc : s.caller? i = some c) (hp : s.proceed i c = some u) (hr : runActions k u rest = some t) :
    runActions k s (.proceed i :: rest) = some t := by
  rw [runActions, step, hc, Option.bind_some, hp, Option.bind_some, hr]

/-- A call that has its mailbox puts its request on the worker's queue, if the worker is there. -/
theorem sent_of_registered {s : Session ε} {i slot : Nat} {p : Submission} {id : RequestId}
    (hc : s.caller? i = some (.registered p id slot)) (handle : s.hasWorker = true)
    (channel : s.worker.isOpen = true) (running : s.worker.isStopped = false) :
    ∃ t, runActions k s [.proceed i] = some t ∧
      t.worker.requests = s.worker.requests ++ [p.request id] := by
  cases hh : s.handOver (p.request id) with
  | none => rcases handOver_eq_none hh with h | h | h <;> simp_all
  | some u =>
      obtain ⟨-, w, queued, rfl⟩ := handOver_eq_some hh
      obtain ⟨-, -, rfl⟩ := send_eq_ok queued
      exact ⟨_, runActions_proceed hc (by rw [proceed, hh]) rfl, rfl⟩

/-- **A call that may run** gets there with four steps of its own, if the engine is ready. -/
theorem sent_of_admitted {s : Session ε} {i : Nat} {p : Submission}
    (hc : s.caller? i = some (.admitted p)) (ready : s.readiness = .ready)
    (live : s.table.closed = false) (handle : s.hasWorker = true)
    (channel : s.worker.isOpen = true) (running : s.worker.isStopped = false) :
    ∃ t, runActions k s (List.replicate 4 (.proceed i)) = some t ∧
      t.worker.requests = s.worker.requests ++ [p.request s.nextId] := by
  obtain ⟨⟨slot, table⟩, opened⟩ : ∃ box, s.table.register? s.nextId = some box :=
    Option.ne_none_iff_exists'.mp fun h => by simp [PendingTable.register?_eq_none_iff, live] at h
  let cleared := s.setCaller i (.cleared p)
  let numbered := { cleared with nextId := s.nextId + 1 }.setCaller i (.numbered p s.nextId)
  let registered := { numbered with table }.setCaller i (.registered p s.nextId slot)
  have hcleared : cleared.caller? i = some (.cleared p) := caller?_setCaller_self hc
  have hnumbered : numbered.caller? i = some (.numbered p s.nextId) :=
    caller?_setCaller_self (c := .cleared p) hcleared
  have hregistered : registered.caller? i = some (.registered p s.nextId slot) :=
    caller?_setCaller_self (c := .numbered p s.nextId) hnumbered
  obtain ⟨t, ht, queued⟩ := sent_of_registered (k := k) hregistered handle channel running
  have number : cleared.proceed i (.cleared p) = some numbered := rfl
  have register : numbered.proceed i (.numbered p s.nextId) = some registered := by
    have opened : numbered.table.register? s.nextId = some (slot, table) := opened
    rw [proceed, opened]
  exact ⟨t, runActions_proceed hc (by rw [proceed, ready]) (runActions_proceed hcleared number
    (runActions_proceed hnumbered register ht)), queued⟩

/-! ### The decision about a call -/

theorem setCaller_setCaller (s : Session ε) (i : Nat) (c c' : Caller) :
    (s.setCaller i c).setCaller i c' = s.setCaller i c' := by
  simp only [setCaller, List.set_set]

section

variable {s : Session ε} {i : Nat} {task : Task}

/-- With its first step a call is decided. -/
theorem step_begun (hc : s.caller? i = some (.begun task)) (live : s.isDisposed = false) :
    s.step k (.proceed i) = some (s.setCaller i (.decided (task.check s.config.source))) := by
  rw [step, hc, Option.bind_some, proceed, if_neg (by simp [live])]
  cases task.check s.config.source <;> rfl

/-- After that it is forgotten which task the call began with. -/
theorem step_setCaller_begun (hc : s.caller? i = some (.begun task)) (live : s.isDisposed = false)
    {task' : Task} (same : task'.check s.config.source = task.check s.config.source) :
    (s.setCaller i (.begun task')).step k (.proceed i) = s.step k (.proceed i) := by
  have config_eq : (s.setCaller i (.begun task')).config = s.config := rfl
  rw [step_begun (caller?_setCaller_self hc) live, setCaller_setCaller, step_begun hc live,
    config_eq, same]

variable {acts more : List Action} {t : Session ε} {d : Except SessionError Submission}
  (hr : runActions k (spawn config) acts = some s) (hc : s.caller? i = some (.begun task))
  (live : s.isDisposed = false) (hd : task.check config.source = d)
  (ht : runActions k (s.setCaller i (.decided d)) more = some t)

include hr hc live hd

theorem step_decided : s.step k (.proceed i) = some (s.setCaller i (.decided d)) := by
  rw [step_begun hc live, (calls_of_run hr).2, hd]

theorem history_decided (more : List Action) :
    history k (spawn config) (acts ++ .proceed i :: more) =
      history k (spawn config) acts ++ history k (s.setCaller i (.decided d)) more := by
  rw [history_append hr, history, step_decided hr hc live hd]
  simp [occurrence?, hc, proceeding?]

theorem began_decided (more : List Action) :
    .began i task ∈ history k (spawn config) (acts ++ .proceed i :: more) := by
  rw [history_decided hr hc live hd]
  exact List.mem_append_left _ ((calls_of_run hr).1.began_of_begun hc)

include ht

/-- What goes on after the decision is part of a run of the session. -/
theorem run_decided : runActions k (spawn config) (acts ++ .proceed i :: more) = some t := by
  rw [runActions_append, hr, Option.bind_some, runActions, step_decided hr hc live hd,
    Option.bind_some, ht]

/-- **A call sends what it was let through as**, once, or nothing. -/
theorem sends_decided :
    sends (deeds i (history k (spawn config) acts ++
        history k (s.setCaller i (.decided d)) more)) = [] ∨
      ∃ p id, d = .ok p ∧
        sends (deeds i (history k (spawn config) acts ++
          history k (s.setCaller i (.decided d)) more)) = [p.request id] := by
  have all := sends_deeds_of_run (run_decided hr hc live hd ht) (began_decided hr hc live hd more)
  rwa [history_decided hr hc live hd, hd] at all

/-- **A call that waits for the engine** gets on as soon as it is ready. -/
theorem dispatched_decided {p : Submission} (hp : t.caller? i = some (.admitted p))
    (ready : t.readiness = .ready) (live' : t.isDisposed = false)
    (running : t.worker.isStopped = false) :
    d = .ok p ∧ ∃ u, runActions k t (List.replicate 4 (.proceed i)) = some u ∧
      u.worker.requests = t.worker.requests ++ [p.request t.nextId] := by
  have whole := run_decided hr hc live hd ht
  obtain ⟨calls, same⟩ := calls_of_run whole
  have closure := (regular_of_run whole).closure
  have handle : t.hasWorker = true :=
    closure.handle.resolve_right (by simpa [isDisposed] using live')
  have checked := calls.check_of_admitted hp (began_decided hr hc live hd more)
  rw [same, hd] at checked
  exact ⟨checked, sent_of_admitted hp ready live' handle (closure.channel.trans handle) running⟩

end

/-! ### What becomes of a call for modules -/

/-- What becomes of a call for modules, in a state `s` with the history `h` in which it is about
to be decided so. -/
structure ModulesDecided (k : EngineKind ε) (limits : SourceLimits) (s : Session ε)
    (h : List Occurrence) (i : Nat) (entry : String) (pairs : List (String × String))
    (d : Except SessionError Submission) : Prop where
  decision : ∀ d', Task.Decision limits (canonical entry) (.ofPairs pairs) d' ↔ d' = d
  /-- The next step of the call finds that out, and does nothing else. -/
  step : s.step k (.proceed i) = some (s.setCaller i (.decided d))
  /-- A call that is refused has ended, -/
  refused : ∀ e, d = .error e → ∀ more t,
    runActions k (s.setCaller i (.decided d)) more = some t → t.caller? i = some (.done (.error e))
  /-- and whatever happens before and after, nothing is sent for it. For one that may run, all of
  the map is sent, and that once at most, -/
  sent : ∀ more t, runActions k (s.setCaller i (.decided d)) more = some t →
    sends (deeds i (h ++ history k (s.setCaller i (.decided d)) more)) = [] ∨
      d = .ok (.module (canonical entry) (.ofPairs pairs)) ∧ ∃ id,
        sends (deeds i (h ++ history k (s.setCaller i (.decided d)) more)) =
          [.evalModule id (canonical entry) (.ofPairs pairs)]
  /-- and it is sent as soon as the engine is ready, unless the session or its worker has ended
  before. -/
  dispatched : ∀ more t p, runActions k (s.setCaller i (.decided d)) more = some t →
    t.caller? i = some (.admitted p) → t.readiness = .ready → t.isDisposed = false →
    t.worker.isStopped = false → ∃ u, runActions k t (List.replicate 4 (.proceed i)) = some u ∧
      u.worker.requests =
        t.worker.requests ++ [.evalModule t.nextId (canonical entry) (.ofPairs pairs)]
  /-- Where no spelling comes twice, the modules might have been given in any order. -/
  unordered : ∀ pairs' : List (String × String), pairs'.Perm pairs → (pairs.map (·.1)).Nodup →
    (s.setCaller i (.begun (.modules entry pairs'))).step k (.proceed i) = s.step k (.proceed i)
  /-- A spelling that is beaten might as well not have been given, whatever its source. -/
  beaten : ∀ before spelling source after, pairs = before ++ (spelling, source) :: after →
    ModuleMap.IsBeaten before spelling after →
      (s.setCaller i (.begun (.modules entry (before ++ after)))).step k (.proceed i) =
        s.step k (.proceed i)

/-- **A call for modules is decided in a fixed order and with a complete report**, in every run of
every session that takes calls: first that there are modules, then all that is wrong with any of
them, then that the entry is there. Only after that anything is sent, and that is the map. -/
theorem modules_decided {acts : List Action} {s : Session ε}
    (hr : runActions k (spawn config) acts = some s) {i : Nat} {entry : String}
    {pairs : List (String × String)} (hc : s.caller? i = some (.begun (.modules entry pairs)))
    (live : s.isDisposed = false) :
    ∃ d, ModulesDecided k config.source s (history k (spawn config) acts) i entry pairs d := by
  obtain ⟨d, hd⟩ : ∃ d, Task.check config.source (.modules entry pairs) = d := ⟨_, rfl⟩
  have replaced (pairs' : List (String × String))
      (same : ModuleMap.ofPairs pairs' = .ofPairs pairs) :
      (s.setCaller i (.begun (.modules entry pairs'))).step k (.proceed i) =
        s.step k (.proceed i) :=
    step_setCaller_begun hc live (Task.check_modules_congr same)
  refine ⟨d, ?_⟩
  constructor
  · exact fun d' => by rw [← Task.check_modules_iff, hd, eq_comm]
  · exact step_decided hr hc live hd
  · rintro e rfl more t ht
    exact runs_keep (P := fun u => u.caller? i = some (.done (.error e)))
      (fun _ _ _ hd hm => hm.done_stays hd) (caller?_setCaller_self hc) ht
  · intro more t ht
    refine (sends_decided hr hc live hd ht).imp_right ?_
    rintro ⟨p, id, rfl, one⟩
    cases Task.check_modules_iff.mp hd with
    | admitted passed present => exact ⟨rfl, id, one⟩
  · intro more t p ht hp ready live' running
    obtain ⟨rfl, sent⟩ := dispatched_decided hr hc live hd ht hp ready live' running
    cases Task.check_modules_iff.mp hd with
    | admitted passed present => exact sent
  · exact fun pairs' perm distinct => replaced pairs' (ModuleMap.ofPairs_perm perm distinct)
  · rintro before spelling source after rfl hb
    exact replaced _ (ModuleMap.ofPairs_of_isBeaten hb source).symm

/-- Of two spellings of one module the greater one is judged and the other one is not. Where two
modules are not admitted, it does not matter that the entry is missing, too. -/
theorem greater_spelling_judged :
    let judged := [("./a", "eval(1)"), ("a", "'use strict'")]
    let bad := [("b", "'use strict';eval(1)"), ("./a", "1")]
    let acts := turnaround ++ [.call (.modules "a" judged), .call (.modules "c" bad)]
    ∃ s failures, runActions echo (spawn {}) acts = some s ∧ s.readiness = .ready ∧
      failures.map ModuleFailure.moduleName = ["a", "b"] ∧
      ModulesDecided echo {} s (history echo (spawn {}) acts) 0 "a" judged
        (.ok (.module "a" ⟨[("a", "'use strict'")]⟩)) ∧
      ModulesDecided echo {} s (history echo (spawn {}) acts) 1 "c" bad
        (.error (.modulesRejected failures)) := by
  intro judged bad acts
  have runs : (runActions echo (spawn {}) acts).any (fun s =>
      s.readiness == .ready && !s.isDisposed) = true := by
    decide +kernel
  obtain ⟨s, hr, facts⟩ := (Option.any_eq_true ..).mp runs
  simp only [Bool.and_eq_true, beq_iff_eq, Bool.not_eq_true'] at facts
  have callers : (runActions echo (spawn {}) acts).map callers =
      some [.begun (.modules "a" judged), .begun (.modules "c" bad)] := rfl
  rw [hr, Option.map_some, Option.some.injEq] at callers
  have one : ModuleMap.ofPairs judged = ⟨[("a", "'use strict'")]⟩ := by
    have beaten : ModuleMap.IsBeaten [] "./a" [("a", "'use strict'")] :=
      .inr ⟨("a", "'use strict'"), by decide +kernel⟩
    exact (ModuleMap.ofPairs_of_isBeaten beaten "eval(1)").trans (by decide +kernel)
  have two : ModuleMap.ofPairs bad = ⟨[("a", "1"), ("b", "'use strict';eval(1)")]⟩ := by
    have ordered := Json.mergeSort_eq_of_perm
      (List.Perm.swap ("./a", "1") ("b", "'use strict';eval(1)") []) (by decide +kernel)
    rw [ModuleMap.ofPairs, ordered]
    exact congrArg ModuleMap.mk (Json.sortFields_eq_self (by decide +kernel))
  refine ⟨s, Task.failures {} (.ofPairs bad), hr, facts.1, by rw [two]; decide +kernel, ?_, ?_⟩
  · obtain ⟨d, decided⟩ := modules_decided hr (i := 0) (by rw [caller?, callers]; rfl) facts.2
    have passed : Task.failures {} (.ofPairs judged) = [] := by rw [one]; decide +kernel
    have present : canonical "a" ∈ (ModuleMap.ofPairs judged).names := by rw [one]; decide +kernel
    obtain rfl := (decided.decision _).mp (.admitted (Task.passed_of_failures passed) present)
    have name : canonical "a" = "a" := by decide +kernel
    rwa [name, one] at decided
  · obtain ⟨d, decided⟩ := modules_decided hr (i := 1) (by rw [caller?, callers]; rfl) facts.2
    obtain rfl := (decided.decision _).mp
      (.rejected (by rw [two]; decide +kernel) (Task.reports_failures {} bad))
    exact decided

end Session

end PatchSandbox
