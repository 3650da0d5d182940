import PatchSandbox.Proofs.Module.Map
import PatchSandbox.Proofs.Session.Calls

/-!
# What reaches the worker

Checking a task, waiting for the engine, getting an id and sending are steps of their own,
and anything may happen between them. Still a request that is sent asks for what its call
began with, what it asks for has passed admission, and the worker had an engine before.

* **`Request.Admitted`** says of a request alone that all it would run has passed.
* **`sent_admitted`** says so of every request in every run.
-/

namespace PatchSandbox

/-- All that a request would run has passed admission. Modules are named canonically, and the
entry is one of them. -/
inductive Request.Admitted (limits : SourceLimits) : Request → Prop
  | eval {id code} (passed : Admission.check limits code = []) :
      Request.Admitted limits (.eval id code)
  | evalModule {id entry modules}
      (names : ∀ name source, (name, source) ∈ modules.entries →
        ModuleName.canonical name = name)
      (passed : ∀ name source, (name, source) ∈ modules.entries →
        Admission.check limits source = [])
      (canonical : ModuleName.canonical entry = entry)
      (present : modules.contains entry = true) :
      Request.Admitted limits (.evalModule id entry modules)

/-- A request asks for what a task is about. -/
inductive Request.AsksFor : Task → Request → Prop
  | script {id code} : Request.AsksFor (.script code) (.eval id code)
  | modules {id entry pairs} :
      Request.AsksFor (.modules entry pairs)
        (.evalModule id (ModuleName.canonical entry) (ModuleMap.ofPairs pairs))

namespace Task

variable {limits : SourceLimits}

/-- Where no module failed, each has passed. -/
theorem check_eq_nil_of_failures {m : ModuleMap} (h : (failures limits m).isEmpty = true)
    {name source : String} (hm : (name, source) ∈ m.entries) :
    Admission.check limits source = [] := by
  rw [List.isEmpty_iff, failures, List.filterMap_eq_nil_iff] at h
  have := h _ hm
  by_cases hf : (Admission.check limits source).isEmpty = true
  · exact List.isEmpty_iff.mp hf
  · simp [hf] at this

/-- What a task is let through as. -/
theorem request_of_check {task : Task} {p : Submission} (h : task.check limits = .ok p)
    (id : RequestId) : (p.request id).Admitted limits ∧ (p.request id).AsksFor task := by
  cases task with
  | script code =>
      simp only [check, checkScript] at h
      split at h
      · rename_i hf
        cases h
        exact ⟨.eval (List.isEmpty_iff.mp hf), .script⟩
      · cases h
  | modules entry pairs =>
      simp only [check, checkModules] at h
      split at h
      · cases h
      · split at h
        · cases h
        · split at h
          · cases h
          · rename_i hf hc
            cases h
            refine ⟨.evalModule ?_ ?_ ?_ ?_, .modules⟩
            · exact fun name source => ModuleMap.canonical_of_mem
            · exact fun name source => check_eq_nil_of_failures (by simpa using hf)
            · exact ModuleName.canonical_canonical entry
            · simpa using hc

end Task

namespace Session

variable {ε : Type} {k : EngineKind ε} {config : Config}

/-- Requests are sent in their place: for a task that was begun and let through before, and
after the worker had an engine. -/
def Ordered (limits : SourceLimits) (h : List Occurrence) : Prop :=
  ∀ before i r after, h = before ++ .sent i r :: after →
    (∃ task p id, .began i task ∈ before ∧ task.check limits = .ok p ∧ r = p.request id) ∧
      .reported .ready ∈ before

/-- Something in a longer history is in the history before, or comes last. -/
theorem eq_append_cons_cases {h before after : List Occurrence} {e : Option Occurrence}
    {x : Occurrence} (he : h ++ e.toList = before ++ x :: after) :
    (∃ rest, h = before ++ x :: rest) ∨ (before = h ∧ e = some x) := by
  cases e with
  | none => exact .inl ⟨after, by simpa using he⟩
  | some y =>
      rcases List.eq_nil_or_concat after with rfl | ⟨rest, z, rfl⟩
      · obtain ⟨hb, hx⟩ := List.append_inj' he rfl
        simp only [Option.toList, List.cons.injEq, and_true] at hx
        exact .inr ⟨hb.symm, congrArg some hx⟩
      · rw [List.concat_eq_append, ← List.cons_append, ← List.append_assoc] at he
        exact .inl ⟨rest, (List.append_inj' he rfl).1⟩

/-- A request is sent by a call that was let through, and after the engine was there. -/
theorem Move.sent {s t : Session ε} {h : List Occurrence} {i : Nat} {r : Request}
    (hs : Calls s h) (hm : Move k s (some (.sent i r)) t) :
    (∃ task p id, .began i task ∈ h ∧ task.check s.config.source = .ok p ∧ r = p.request id) ∧
      .reported .ready ∈ h := by
  generalize he : some (Occurrence.sent i r) = e at hm
  cases hm with
  | @caller j c e c' u hc hm =>
      cases hm with
      | @sent p id slot w hw hq =>
          obtain ⟨rfl, rfl⟩ := Occurrence.sent.inj (Option.some.inj he)
          have story := hs.stories i _ hc
          generalize hd : deeds i h = es at story
          cases story with
          | @registered task _ _ _ hp hr =>
              have hb : .began i task ∈ h := mem_of_mem_deeds (i := i) (by simp [hd])
              exact ⟨⟨task, p, id, hb, hp, rfl⟩, mem_reports.mp hr⟩
      | _ => simp at he
  | worker hm => cases hm <;> simp at he
  | router hm => cases hm <;> simp at he
  | _ => simp at he

theorem ordered_of_run {acts : List Action} {s : Session ε}
    (hr : runActions k (spawn config) acts = some s) :
    Ordered config.source (history k (spawn config) acts) := by
  have all := run_induction
    (motive := fun s h =>
      (Channels s.worker s.router h ∧ Calls s h ∧ s.config = config) ∧ Ordered config.source h)
    ⟨⟨channels_start, calls_spawn, rfl⟩, by simp [Ordered]⟩
    ?_ hr
  · exact all.2
  · rintro s h e t ⟨⟨hch, hs, rfl⟩, ho⟩ hm
    refine ⟨⟨hch.move hm, hs.move hch hm, hm.config_eq⟩, ?_⟩
    intro before i r after he
    rcases eq_append_cons_cases he with ⟨rest, he⟩ | ⟨rfl, rfl⟩
    · exact ho before i r rest he
    · exact hm.sent hs

/-- **Nothing unchecked reaches the worker.** What is put on the queue of requests besides
the first one is what calls send. Each such request has passed admission, asks for what its
call began with, and is sent after the worker has reported its engine. -/
theorem sent_admitted {acts : List Action} {s : Session ε}
    (hr : runActions k (spawn config) acts = some s) :
    .init :: sends (history k (spawn config) acts) =
        takes (history k (spawn config) acts) ++ s.worker.requests ∧
      ∀ before i r after, history k (spawn config) acts = before ++ .sent i r :: after →
        r.Admitted config.source ∧ (∃ task, .began i task ∈ before ∧ r.AsksFor task) ∧
          .reported .ready ∈ before := by
  refine ⟨(channels_of_run hr).requests, fun before i r after he => ?_⟩
  obtain ⟨⟨task, p, id, hb, hp, rfl⟩, ready⟩ := ordered_of_run hr before i r after he
  obtain ⟨admitted, asks⟩ := Task.request_of_check hp id
  exact ⟨admitted, ⟨task, hb, asks⟩, ready⟩

/-- A script and a module are sent, the one after the other. -/
theorem script_and_module_sent :
    let acts := turnaround ++
      [.call (.script "'use strict'"), .call (.modules "./m" [("m//.", "'use strict'")])] ++
      List.replicate 5 (.proceed 0) ++ List.replicate 5 (.proceed 1)
    sends (history echo (spawn {}) acts) =
        [.eval 1 "'use strict'", .evalModule 2 "m" ⟨[("m", "'use strict'")]⟩] ∧
      ∀ before i r after, history echo (spawn {}) acts = before ++ .sent i r :: after →
        r.Admitted {} ∧ (∃ task, .began i task ∈ before ∧ r.AsksFor task) ∧
          .reported .ready ∈ before := by
  intro acts
  have runs : (runActions echo (spawn {}) acts).isSome = true := by decide +kernel
  exact ⟨by decide +kernel, (sent_admitted (Option.some_get runs).symm).2⟩

end Session

end PatchSandbox
