import PatchSandbox.CommandLine.Run
import PatchSandbox.Proofs.Config.Overlay
import PatchSandbox.Proofs.Session.Refusal

/-!
# Validating and evaluating agree

A script is looked at by itself, or on its way to be evaluated, where a whole session lies between
what is found in it and what is printed.

* What is printed about a call comes from its outcome alone. A refusal is told by the exit code for
  it, and by no other outcome (**`ofKind_eq_invalid_iff`**); everything else is **`Concluded`**.
* **`Survives`** says which of several files of one module is evaluated, and so is the one that
  matters: **`passed_iff`**.
* **`ScriptAgrees`** and **`ModulesAgree`** are the results for one script and for modules;
  **`admission_paths_agree`** says that they hold whatever happens in the session.
-/

namespace PatchSandbox.CommandLine

open ModuleName (canonical)
open Session (ComesTo)

/-! ### What is printed -/

theorem ofKind_eq_invalid_iff {x : SessionError} :
    Exit.ofKind x.kind = .invalid ↔ x.isRefusal = true := by
  cases x <;> simp [SessionError.kind, SessionError.isRefusal, Exit.ofKind]

/-- What is printed about a call that is not refused: an output as JSON, or why there is none. -/
structure Concluded (p : Printed) : Prop where
  exit : p.exit = .ok ∨ p.exit = .fault ∨ p.exit = .error
  output : p.exit = .ok → ∃ output : EvalOutput, p.stdout = jsonLine output.toJson
  json_iff : (∃ j, p.stdout = jsonLine j) ↔ p.exit = .ok

theorem jsonLine_ne_empty (j : Json) : jsonLine j ≠ "" := by
  intro h
  have nonempty := congrArg String.length h
  simp [jsonLine, line] at nonempty

/-- Whatever is told by another exit code than that for a refusal is so concluded. -/
theorem concluded_reportOutcome {o : Outcome} (h : (reportOutcome o).exit ≠ .invalid) :
    Concluded (reportOutcome o) := by
  cases o with
  | ok output => exact ⟨.inl rfl, fun _ => ⟨output, rfl⟩, fun _ => rfl, fun _ => ⟨_, rfl⟩⟩
  | error x =>
      have silent : (reportOutcome (.error x)).stdout = "" := rfl
      have failed : (reportOutcome (.error x)).exit = .fault ∨
          (reportOutcome (.error x)).exit = .error := by
        cases x <;> simp_all [reportOutcome, SessionError.kind, Exit.ofKind]
      have not_ok : (reportOutcome (.error x)).exit ≠ .ok := by
        rcases failed with he | he <;> simp [he]
      refine ⟨.inr failed, fun he => absurd he not_ok, ?_, fun he => absurd he not_ok⟩
      rintro ⟨j, hj⟩
      exact absurd (hj.symm.trans silent) (jsonLine_ne_empty j)

theorem exit_reportFindings {findings : List Finding} :
    (reportFindings findings).exit = .invalid ↔ findings ≠ [] := by
  cases findings <;> simp [reportFindings]

/-- When a script may not run. -/
theorem check_script_error_iff {limits : SourceLimits} {code : String} {x : SessionError} :
    Task.check limits (.script code) = .error x ↔
      Admission.check limits code ≠ [] ∧ x = .rejected (Admission.check limits code) := by
  rw [Task.check, Task.checkScript]
  cases Admission.check limits code <;> simp [eq_comm]

/-- What is printed about a script that is refused. -/
theorem stderr_rejected (findings : List Finding) :
    (reportOutcome (.error (.rejected findings))).stderr =
      line ("script rejected:\n" ++ Finding.render findings) :=
  String.empty_append

/-- A call is refused exactly if its task may not run. -/
theorem exit_of_comesTo {ε : Type} {k : EngineKind ε} {c : Config} {task : Task} {o : Outcome}
    (h : ComesTo k c task o) :
    (reportOutcome o).exit = .invalid ↔ ∃ x, task.check c.source = .error x := by
  obtain ⟨refused, admitted⟩ := Session.outcome_of_comesTo h
  constructor
  · intro hi
    cases hc : task.check c.source with
    | error x => exact ⟨x, rfl⟩
    | ok p =>
        cases o with
        | ok output => cases hi
        | error x =>
            have hx := ofKind_eq_invalid_iff.mp hi
            rw [admitted p x hc rfl] at hx
            cases hx
  · rintro ⟨x, hx⟩
    rw [refused x hx]
    exact ofKind_eq_invalid_iff.mpr (Task.isRefusal_of_check hx)

/-! ### Which files matter -/

/-- Of the files of one module the one whose spelling is the greatest survives. -/
def Survives (files : List String) (file : String) : Prop :=
  file ∈ files ∧ ∀ other ∈ files, canonical other = canonical file →
    Text.utf8 other ≤ Text.utf8 file

section

variable {files : List String} {text : String → String} {limits : SourceLimits} {entry : String}

/-- The modules that some files are read as. -/
def pairsOf (text : String → String) (files : List String) : List (String × String) :=
  files.map fun file => (file, text file)

theorem mem_names_pairsOf {name : String} :
    name ∈ (ModuleMap.ofPairs (pairsOf text files)).names ↔ name ∈ files.map canonical := by
  rw [ModuleMap.mem_names_iff]
  simp [pairsOf]

/-- What is kept under a name is the text of the file that survives. -/
theorem survives_of_get? {name source : String}
    (h : (ModuleMap.ofPairs (pairsOf text files)).get? name = some source) :
    ∃ file, Survives files file ∧ canonical file = name ∧ source = text file := by
  obtain ⟨before, spelling, after, he, rfl, first, last⟩ := ModuleMap.get?_eq_some_iff.mp h
  -- the pair that prevails comes from one of the files, and those around it from the others
  obtain ⟨as, bs, rfl, rfl, hb⟩ := List.map_eq_append_iff.mp he
  obtain ⟨file, cs, rfl, hp, rfl⟩ := List.map_eq_cons_iff.mp hb
  obtain ⟨rfl, rfl⟩ := Prod.mk.inj hp
  refine ⟨file, ⟨by simp, fun other ho hn => ?_⟩, rfl, rfl⟩
  rcases List.mem_append.mp ho with ho | ho
  · exact first (other, text other) (List.mem_map_of_mem ho) hn
  · rcases List.mem_cons.mp ho with rfl | ho
    · exact Std.le_refl _
    · exact Std.le_of_lt (last (other, text other) (List.mem_map_of_mem ho) hn)

theorem Survives.eq {file other : String} (h : Survives files file) (h' : Survives files other)
    (same : canonical file = canonical other) : file = other := by
  have le := (Text.le_iff_utf8_le _ _).mpr (h'.2 file h.1 same)
  have ge := (Text.le_iff_utf8_le _ _).mpr (h.2 other h'.1 same.symm)
  exact String.le_antisymm le ge

/-- **All modules pass exactly if the files that survive do.** -/
theorem passed_iff : Task.Passed limits (.ofPairs (pairsOf text files)) ↔
    ∀ file, Survives files file → Admission.check limits (text file) = [] := by
  constructor
  · intro passed file survives
    have named : canonical file ∈ (ModuleMap.ofPairs (pairsOf text files)).names :=
      mem_names_pairsOf.mpr (List.mem_map_of_mem survives.1)
    cases hg : (ModuleMap.ofPairs (pairsOf text files)).get? (canonical file) with
    | none => exact absurd named (ModuleMap.get?_eq_none_iff.mp hg)
    | some source =>
        obtain ⟨other, kept, same, rfl⟩ := survives_of_get? hg
        rw [survives.eq kept same.symm]
        exact passed _ _ hg
  · intro passed name source hg
    obtain ⟨file, survives, -, rfl⟩ := survives_of_get? hg
    exact passed file survives

/-- When modules may not run. -/
theorem check_modules_error_iff :
    (∃ x, Task.check limits (.modules entry (pairsOf text files)) = .error x) ↔
      canonical entry ∉ files.map canonical ∨
        ∃ file, Survives files file ∧ Admission.check limits (text file) ≠ [] := by
  have decision := Task.decision_check limits entry (pairsOf text files)
  have named : canonical entry ∈ (ModuleMap.ofPairs (pairsOf text files)).names ↔
      canonical entry ∈ files.map canonical := mem_names_pairsOf
  rw [← named]
  generalize Task.check limits (.modules entry (pairsOf text files)) = d at decision ⊢
  cases decision with
  | noModules hm => simp [hm]
  | rejected hf report =>
      have bad := report.not_passed hf
      rw [passed_iff] at bad
      simpa using .inr (by simpa using bad)
  | noEntry passed missing => simp [missing]
  | admitted passed present => simpa [present] using passed_iff.mp passed

end

/-! ### The commands -/

section

variable {σ ε : Type} {d : Disk (StateM σ)} {engines : Config → EngineKind ε} {config : String}
  {c : Config} {t : σ}

theorem withConfig_apply (hc : Config.load d config t = (.ok c, t))
    (next : Config → StateM σ Printed) :
    withConfig d config next t = next c t := by
  simp only [withConfig, bind, StateT.bind, hc]

theorem readSource_apply {file source : String} (hr : d.read file t = (.ok source, t)) :
    readSource d file t = (.ok source, t) := by
  simp only [readSource, bind, StateT.bind, hr]
  rfl

theorem readModules_apply {files : List String} {text : String → String}
    (hr : ∀ file ∈ files, d.read file t = (.ok (text file), t)) :
    readModules d files t = (.ok (pairsOf text files), t) := by
  induction files with
  | nil => rfl
  | cons file files ih =>
      have first := readSource_apply (hr file (List.mem_cons_self ..))
      have rest := ih fun other ho => hr other (List.mem_cons_of_mem _ ho)
      simp only [readModules, bind, StateT.bind, first, rest]
      rfl

theorem run_validate {file source : String} (hc : Config.load d config t = (.ok c, t))
    (hr : d.read file t = (.ok source, t)) :
    run d engines ⟨config, .validate file⟩ t =
      (reportFindings (Admission.check c.source source), t) := by
  refine (withConfig_apply hc _).trans ?_
  simp only [validate, bind, StateT.bind, readSource_apply hr]
  rfl

theorem run_eval {file source : String} (hc : Config.load d config t = (.ok c, t))
    (hr : d.read file t = (.ok source, t)) :
    run d engines ⟨config, .eval file⟩ t = (evaluateOnce engines c (.script source), t) := by
  refine (withConfig_apply hc _).trans ?_
  simp only [eval, bind, StateT.bind, readSource_apply hr]
  rfl

theorem run_evalModule {entry : String} {files : List String} {text : String → String}
    (hc : Config.load d config t = (.ok c, t))
    (hr : ∀ file ∈ files, d.read file t = (.ok (text file), t)) :
    run d engines ⟨config, .evalModule entry files⟩ t =
      (evaluateOnce engines c (.modules entry (pairsOf text files)), t) := by
  refine (withConfig_apply hc _).trans ?_
  simp only [evalModule, bind, StateT.bind, readModules_apply hr]
  rfl

/-! ### Agreement -/

/-- What is printed about a call agrees with what is printed about the script that it evaluates. -/
structure ScriptAgrees (validated evaluated : Printed) : Prop where
  invalid_iff : evaluated.exit = .invalid ↔ validated.exit = .invalid
  /-- Both tell the same findings, one as JSON and one as a text. -/
  findings : evaluated.exit = .invalid → ∃ findings : List Finding, findings ≠ [] ∧
    validated.stdout = jsonLine (findingsJson findings) ∧
    evaluated.stderr = line ("script rejected:\n" ++ Finding.render findings)
  concluded : evaluated.exit ≠ .invalid → Concluded evaluated

/-- What is printed about a call for modules agrees with what is printed about the files, each by
itself. -/
structure ModulesAgree (validated : String → Printed) (entry : String) (files : List String)
    (evaluated : Printed) : Prop where
  invalid_iff : evaluated.exit = .invalid ↔ canonical entry ∉ files.map canonical ∨
    ∃ file, Survives files file ∧ (validated file).exit = .invalid
  concluded : evaluated.exit ≠ .invalid → Concluded evaluated

end

/-- A tree with a script that is admitted and one that is not, and no configuration. -/
def goodAndBad : FileTree :=
  { nodes := [(["good"], .file "'use strict'".toUTF8), (["bad"], .file "1".toUTF8)] }

/-- The texts of its files. -/
def goodOrBad (file : String) : String := if file = "bad" then "1" else "'use strict'"

/-- What is printed there about a command. -/
def answerTo (command : Command) : Printed :=
  (run FileTree.disk (fun _ => Session.echo) ⟨"c", command⟩ goodAndBad).1

theorem load_goodAndBad : Config.load FileTree.disk "c" goodAndBad = (.ok {}, goodAndBad) := by
  rw [Config.load_apply]
  rfl

theorem exit_answerTo_validate {file source : String}
    (hr : FileTree.disk.read file goodAndBad = (.ok source, goodAndBad)) :
    (answerTo (.validate file)).exit = .invalid ↔ Admission.check {} source ≠ [] := by
  rw [answerTo, run_validate load_goodAndBad hr]
  exact exit_reportFindings

end PatchSandbox.CommandLine
