import Mathlib.Data.List.Perm.Subperm
import PatchSandbox.Evaluation.Evaluate
import PatchSandbox.Evaluation.Loader
import PatchSandbox.Proofs.Evaluation.Drain
import PatchSandbox.Proofs.Module.Map

/-!
# What requiring modules comes to

Loading runs scripts, and scripts load: a module may be required while it runs, by itself or by
what it requires, and after it failed.

* **`Program`** is any program that acts on the loader only by calling `require`. A **`Realm`**
  says which program each text, each getter and each job is; the loader is the real one.
* **`Sound`** is what holds between any two deeds of a run. It ties the record that the loader
  keeps for a name to the deeds that were done with that name.
* **`load_cases`** is the step with an argument: a record is entered before anything of its module
  runs. **`goes_exec`** lifts it to programs, and **`goes_load`** to calls however deep they nest.
* **`modules_run_once`** is about whole evaluations.

All of it rests on one thing: that making a record runs nothing that calls `require`. It is an
assignment, and where a script has put a setter in its way, **`double_run`** is what may happen.
-/

namespace PatchSandbox

namespace Loader

variable {α : Type} {l : Loader α} {name other : String} {record r : α}

/-- The record that is kept for a name. -/
def record? (l : Loader α) (canonical : String) : Option α :=
  (l.slot? canonical).bind l.arena.restore?

/-- The names of the modules that were entered, the first one first. -/
def entered (l : Loader α) : List String := (l.loaded.map (·.1)).reverse

@[simp] theorem modules_enter : (l.enter name record).modules = l.modules := rfl

@[simp] theorem entered_enter : (l.enter name record).entered = l.entered ++ [name] := by
  simp [entered, enter]

@[simp] theorem record?_enter_self : (l.enter name record).record? name = some record := by
  rw [record?, slot?_enter_self]
  exact Arena.restore?_retain_self l.arena record

theorem lt_size_of_restore? {a : Arena α} {slot : Nat} (h : a.restore? slot = some r) :
    slot < a.size := by
  obtain ⟨hlt, -⟩ := Array.getElem?_eq_some_iff.mp h
  exact hlt

/-- What is kept for a name stays. -/
theorem record?_enter_of_ne (hne : other ≠ name) (h : l.record? other = some r) :
    (l.enter name record).record? other = some r := by
  obtain ⟨slot, hs, hr⟩ := Option.bind_eq_some_iff.mp h
  rw [record?, slot?_enter_of_ne l record hne, hs, Option.bind_some]
  exact (Arena.restore?_retain_of_lt l.arena record (lt_size_of_restore? hr)).trans hr

theorem slot?_eq_none_iff : l.slot? name = none ↔ name ∉ l.entered := by
  simp only [slot?, List.lookup_eq_none_iff, entered, List.mem_reverse, List.mem_map, not_exists,
    not_and, bne_iff_ne, ne_eq]
  constructor
  · intro h p hp he
    exact h p hp he.symm
  · intro h p hp he
    exact h p hp he.symm

end Loader

namespace Loading

/-! ### Programs -/

/-- A program that acts on the loader only by calling `require`, with a result of some type or an
exception at its end. Everything else that it does, it does to a heap. -/
inductive Program (σ α ρ : Type) where
  | done (outcome : Except String ρ)
  /-- Changes the heap and goes on with what it saw there. -/
  | act (change : σ → σ) (next : σ → Program σ α ρ)
  /-- Calls `require` and goes on with what the call returned or threw. -/
  | require (spelling : String) (next : Except String α → Program σ α ρ)

/-- The program never calls `require`. -/
def Program.IsQuiet {σ α ρ : Type} : Program σ α ρ → Prop
  | .done _ => True
  | .act _ next => ∀ h, (next h).IsQuiet
  | .require _ _ => False

/-- Something that loading does about the module of a canonical name. -/
inductive Deed (α : Type) where
  /-- Runs the text around its source, with a record for it. -/
  | runs (name text : String) (record : α)
  /-- Reads what its record exports. -/
  | reads (name : String) (record : α)
  | refuses (name : String) (flaw : Loader.Flaw)

/-- Where a run stands. -/
structure World (σ α : Type) where
  loader : Loader α
  heap : σ
  /-- What loading has done so far. -/
  deeds : List (Deed α) := []

/-- A piece of a run. An exception leaves the world as it stands. -/
abbrev Run (σ α : Type) : Type → Type := ExceptT String (StateM (World σ α))

/-- Everything that is done by scripts, or depends on them. -/
structure Realm (σ α : Type) where
  /-- Makes a record and the object that it exports. -/
  newRecord : Program σ α (α × α)
  /-- Reads what a record exports. -/
  exportsOf : α → Program σ α α
  /-- What a text does that stands for a function. -/
  code : (text : String) → (record exports require : α) → Program σ α Unit
  /-- Makes the JSON form of a result. -/
  toJson : α → Program σ α Json
  /-- Takes the first promise job that waits. -/
  next? : σ → Option (Program σ α Unit × σ)
  /-- Takes what was seen of the run. -/
  seen : σ → Array Event × σ
  undefined : α
  require : α

variable {σ α ρ τ : Type}

/-- Notes a deed. -/
def World.note (w : World σ α) (d : Deed α) : World σ α := { w with deeds := w.deeds ++ [d] }

/-- Enters a module with a record, and notes that its wrapper is run. -/
def World.enter (w : World σ α) (name source : String) (record : α) : World σ α :=
  { w with loader := w.loader.enter name record }.note (.runs name (Loader.wrap source) record)

/-- Notes a deed. -/
def noted (d : Deed α) : Run σ α Unit := modify (World.note · d)

/-- Carries a program out, given what a call of `require` does. -/
def exec (load : String → Run σ α α) : Program σ α ρ → Run σ α ρ
  | .done outcome => fun w => (outcome, w)
  | .act change next => fun w => exec load (next w.heap) { w with heap := change w.heap }
  | .require spelling next => fun w =>
    let (answer, w) := load spelling w
    exec load (next answer) w

namespace Realm

variable (R : Realm σ α)

/-- How the module of a canonical name is loaded. -/
def host (load : String → Run σ α α) (name : String) : Loader.Host (Run σ α) α where
  get := return (← get).loader
  set loader := modify ({ · with loader })
  newRecord := exec load R.newRecord
  exportsOf record := do
    noted (.reads name record)
    exec load (R.exportsOf record)
  run text record exports require := do
    noted (.runs name text record)
    exec load (R.code text record exports require)
  undefined := R.undefined
  refuse flaw := do
    noted (.refuses name flaw)
    throw flaw.message

/-- Calls `require`. So deep calls may nest until the stack is full. -/
def load : Nat → String → Run σ α α
  | 0, _ => throw "stack overflow"
  | depth + 1, spelling =>
    Loader.load (R.host (load depth) (ModuleName.canonical spelling)) spelling

/-- Carries a program out, as a turn of a run. -/
def turn (x : Run σ α ρ) (w : World σ α) : Turn (World σ α) ρ :=
  let (outcome, w) := x w
  let (events, heap) := R.seen w.heap
  ⟨outcome, events, { w with heap }⟩

/-- Carries the module of that name out: loads it and makes the JSON form of its exports. -/
def runner (depth : Nat) (entry : String) : Runner (World σ α) (Program σ α Unit) where
  jobs :=
    { next? := fun w => (R.next? w.heap).map fun (job, heap) => (job, { w with heap })
      perform := fun job => R.turn (exec (R.load depth) job) }
  body := R.turn do exec (R.load depth) (R.toJson (← R.load depth entry))
  close w := { w with loader := w.loader.close }

/-- Where a run begins. -/
def start (modules : ModuleMap) (heap : σ) : World σ α :=
  { loader := ({ modules } : Loader α).bindRequire R.require, heap }

end Realm

/-! ### What holds between two deeds -/

/-- The names of the modules whose wrappers were run, in order. -/
def ran (deeds : List (Deed α)) : List String :=
  deeds.filterMap fun
    | .runs name _ _ => some name
    | .reads _ _ => none
    | .refuses _ _ => none

/-- The record that a deed is about, with its name. -/
def Deed.record? : Deed α → Option (String × α)
  | .runs name _ record => some (name, record)
  | .reads name record => some (name, record)
  | .refuses _ _ => none

/-- A deed of a run with some modules: what is run is the wrapper of one of them, and what is
refused is none. -/
def Deed.Proper (modules : ModuleMap) : Deed α → Prop
  | .runs name text _ => ∃ source, modules.get? name = some source ∧ text = Loader.wrap source
  | .reads _ _ => True
  | .refuses name flaw => flaw = .missing name ∧ modules.get? name = none

/-- What holds of a world whenever a program is at work in it. -/
structure Sound (modules : ModuleMap) (w : World σ α) : Prop where
  same_modules : w.loader.modules = modules
  /-- The modules that were entered are those whose wrapper was run, each of them once. -/
  ran_eq : ran w.deeds = w.loader.entered
  once : w.loader.entered.Nodup
  canonical : ∀ name ∈ w.loader.entered, ModuleName.canonical name = name
  kept : ∀ name ∈ w.loader.entered, ∃ record, w.loader.record? name = some record
  proper : ∀ d ∈ w.deeds, d.Proper modules
  /-- Every deed with a record is about the one that is kept for the name. -/
  agrees : ∀ d ∈ w.deeds, ∀ name record, d.record? = some (name, record) →
    w.loader.record? name = some record

/-- A world that may follow: no record is exchanged for another, and no deed undone. -/
structure Later (w w' : World σ α) : Prop where
  keeps : ∀ name record, w.loader.record? name = some record →
    w'.loader.record? name = some record
  deeds : w.deeds <+: w'.deeds

theorem Later.refl (w : World σ α) : Later w w := ⟨fun _ _ h => h, List.prefix_rfl⟩

theorem Later.trans {w w' w'' : World σ α} (h : Later w w') (h' : Later w' w'') : Later w w'' :=
  ⟨fun name record hr => h'.keeps name record (h.keeps name record hr), h.deeds.trans h'.deeds⟩

/-- A piece of a run keeps worlds sound and leads to later ones. -/
def Goes (modules : ModuleMap) (x : Run σ α ρ) : Prop :=
  ∀ w, Sound modules w → Sound modules (x w).2 ∧ Later w (x w).2

section

variable {modules : ModuleMap} {w : World σ α} {x : Run σ α ρ} {f : ρ → Run σ α τ}
  {load : String → Run σ α α} {R : Realm σ α} {name spelling : String} {record : α} {d : Deed α}

@[simp] theorem ran_append (ds es : List (Deed α)) : ran (ds ++ es) = ran ds ++ ran es := by
  simp [ran]

theorem mem_ran_iff {deeds : List (Deed α)} :
    name ∈ ran deeds ↔ ∃ text record, Deed.runs name text record ∈ deeds := by
  rw [ran, List.mem_filterMap]
  constructor
  · rintro ⟨d, hd, hn⟩
    cases d with
    | runs name' text record =>
        cases hn
        exact ⟨text, record, hd⟩
    | reads _ _ => cases hn
    | refuses _ _ => cases hn
  · rintro ⟨text, record, hd⟩
    exact ⟨_, hd, rfl⟩

/-- The heap is no concern of the loader's. -/
theorem Sound.withHeap (h : Sound modules w) (heap : σ) : Sound modules { w with heap } :=
  ⟨h.same_modules, h.ran_eq, h.once, h.canonical, h.kept, h.proper, h.agrees⟩

/-- One deed more that enters no module. -/
theorem Sound.note (h : Sound modules w) (hr : ran [d] = []) (hp : d.Proper modules)
    (ha : ∀ name record, d.record? = some (name, record) → w.loader.record? name = some record) :
    Sound modules (w.note d) where
  same_modules := h.same_modules
  ran_eq := by
    rw [World.note, ran_append, hr, List.append_nil]
    exact h.ran_eq
  once := h.once
  canonical := h.canonical
  kept := h.kept
  proper := by
    intro e he
    rcases List.mem_append.mp he with he | he
    · exact h.proper e he
    · exact List.mem_singleton.mp he ▸ hp
  agrees := by
    intro e he
    rcases List.mem_append.mp he with he | he
    · exact h.agrees e he
    · exact List.mem_singleton.mp he ▸ ha

theorem later_note (w : World σ α) (d : Deed α) : Later w (w.note d) :=
  ⟨fun _ _ h => h, List.prefix_append ..⟩

theorem later_heap (w : World σ α) (heap : σ) : Later w { w with heap } :=
  ⟨fun _ _ h => h, List.prefix_rfl⟩

theorem bind_apply (x : Run σ α ρ) (f : ρ → Run σ α τ) (w : World σ α) :
    (x >>= f) w = match x w with
      | (.ok a, w') => f a w'
      | (.error e, w') => (.error e, w') := by
  simp only [bind, ExceptT.bind, ExceptT.mk, StateT.bind]
  rcases x w with ⟨_ | _, _⟩ <;> rfl

theorem Goes.bind (hx : Goes modules x) (hf : ∀ a, Goes modules (f a)) :
    Goes modules (x >>= f) := by
  intro w h
  have first := hx w h
  rw [bind_apply]
  rcases hw : x w with ⟨_ | a, w'⟩ <;> rw [hw] at first
  · exact first
  · obtain ⟨hs, later⟩ := hf a w' first.1
    exact ⟨hs, first.2.trans later⟩

/-- **A program goes where its calls of `require` go.** -/
theorem goes_exec (hl : ∀ spelling, Goes modules (load spelling)) (p : Program σ α ρ) :
    Goes modules (exec load p) := by
  induction p with
  | done outcome => exact fun w h => ⟨h, .refl w⟩
  | act change next ih =>
      intro w h
      obtain ⟨hs, later⟩ := ih w.heap _ (h.withHeap (change w.heap))
      exact ⟨hs, (later_heap w _).trans later⟩
  | require spelling next ih =>
      intro w h
      obtain ⟨hs, later⟩ := hl spelling w h
      obtain ⟨hs', later'⟩ := ih (load spelling w).1 _ hs
      exact ⟨hs', later.trans later'⟩

/-- A quiet program leaves the loader alone. -/
theorem exec_quiet {p : Program σ α ρ} (hq : p.IsQuiet) (load : String → Run σ α α)
    (w : World σ α) :
    ∃ outcome heap, exec load p w = (outcome, { w with heap }) := by
  induction p generalizing w with
  | done outcome => exact ⟨outcome, w.heap, rfl⟩
  | act change next ih => exact ih w.heap (hq w.heap) _
  | require spelling next => exact hq.elim

/-- What a record exports is read in a sound world, if the record is the one kept for the name. -/
theorem goes_reads (hl : ∀ spelling, Goes modules (load spelling))
    (h : Sound modules w) (hr : w.loader.record? name = some record) :
    Sound modules ((R.host load name).exportsOf record w).2 ∧
      Later w ((R.host load name).exportsOf record w).2 := by
  have noted : Sound modules (w.note (.reads name record)) := by
    refine h.note rfl trivial ?_
    rintro _ _ ⟨⟩
    exact hr
  obtain ⟨hs, later⟩ := goes_exec hl (R.exportsOf record) _ noted
  exact ⟨hs, (later_note w _).trans later⟩

/-- **Entering a module and running its wrapper is one step.** -/
theorem Sound.enter {source : String} (h : Sound modules w) (hn : name ∉ w.loader.entered)
    (hc : ModuleName.canonical name = name) (hm : modules.get? name = some source) (record : α) :
    Sound modules (w.enter name source record) where
  same_modules := h.same_modules
  ran_eq := by
    rw [World.enter, World.note, ran_append, h.ran_eq, Loader.entered_enter]
    rfl
  once := by
    rw [World.enter, World.note, Loader.entered_enter]
    refine List.nodup_append.mpr ⟨h.once, by simp, ?_⟩
    rintro other ho _ hm rfl
    exact hn (List.mem_singleton.mp hm ▸ ho)
  canonical := by
    intro other ho
    rw [World.enter, World.note, Loader.entered_enter] at ho
    rcases List.mem_append.mp ho with ho | ho
    · exact h.canonical other ho
    · exact List.mem_singleton.mp ho ▸ hc
  kept := by
    intro other ho
    by_cases he : other = name
    · exact ⟨record, he ▸ Loader.record?_enter_self⟩
    · rw [World.enter, World.note, Loader.entered_enter] at ho
      have old : other ∈ w.loader.entered := by simpa [he] using ho
      obtain ⟨r, hr⟩ := h.kept other old
      exact ⟨r, Loader.record?_enter_of_ne he hr⟩
  proper := by
    intro d hd
    rcases List.mem_append.mp hd with hd | hd
    · exact h.proper d hd
    · rw [List.mem_singleton.mp hd]
      exact ⟨source, hm, rfl⟩
  agrees := by
    intro d hd other r hr
    rcases List.mem_append.mp hd with hd | hd
    · have old := h.agrees d hd other r hr
      refine Loader.record?_enter_of_ne ?_ old
      rintro rfl
      rw [Loader.record?, Loader.slot?_eq_none_iff.mpr hn] at old
      cases old
    · rw [List.mem_singleton.mp hd] at hr
      cases hr
      exact Loader.record?_enter_self

theorem later_enter (hn : name ∉ w.loader.entered) (source : String) (record : α) :
    Later w (w.enter name source record) where
  keeps := by
    intro other r hr
    refine Loader.record?_enter_of_ne ?_ hr
    rintro rfl
    simp [Loader.record?, Loader.slot?_eq_none_iff.mpr hn] at hr
  deeds := List.prefix_append ..

/-- A module that was entered is found as it stands. -/
theorem load_cached (hr : w.loader.record? (ModuleName.canonical spelling) = some record) :
    Loader.load (R.host load name) spelling w = (R.host load name).exportsOf record w := by
  obtain ⟨slot, hs, hv⟩ := Option.bind_eq_some_iff.mp hr
  have cached : w.loader.request spelling = .cached slot := by simp only [Loader.request, hs]
  have got : (R.host load name).get w = (.ok w.loader, w) := rfl
  rw [Loader.load, bind_apply]
  simp only [got, cached, hv]

/-- A name that stands for no module is refused. -/
theorem load_missing (hn : ModuleName.canonical spelling ∉ w.loader.entered)
    (hm : w.loader.modules.get? (ModuleName.canonical spelling) = none) :
    Loader.load (R.host load name) spelling w =
      (.error (Loader.Flaw.missing (ModuleName.canonical spelling)).message,
        w.note (.refuses name (.missing (ModuleName.canonical spelling)))) := by
  have missing : w.loader.request spelling = .missing (ModuleName.canonical spelling) := by
    simp only [Loader.request, Loader.slot?_eq_none_iff.mpr hn, hm]
  have got : (R.host load name).get w = (.ok w.loader, w) := rfl
  rw [Loader.load, bind_apply]
  simp only [got, missing]
  rfl

/-- A module is entered and run, once a record was made for it. -/
theorem load_fresh {source : String} (hn : ModuleName.canonical spelling ∉ w.loader.entered)
    (hm : w.loader.modules.get? (ModuleName.canonical spelling) = some source) :
    Loader.load (R.host load (ModuleName.canonical spelling)) spelling w =
      match exec load R.newRecord w with
      | (.error e, w) => (.error e, w)
      | (.ok (record, exports), w) =>
        let w := w.enter (ModuleName.canonical spelling) source record
        (do
          exec load (R.code (Loader.wrap source) record exports
            (w.loader.require?.getD R.undefined))
          (R.host load (ModuleName.canonical spelling)).exportsOf record : Run σ α α) w := by
  have fresh : w.loader.request spelling = .fresh (ModuleName.canonical spelling) source := by
    simp only [Loader.request, Loader.slot?_eq_none_iff.mpr hn, hm]
  have got : (R.host load (ModuleName.canonical spelling)).get w = (.ok w.loader, w) := rfl
  have made : (R.host load (ModuleName.canonical spelling)).newRecord = exec load R.newRecord := rfl
  rw [Loader.load, bind_apply]
  simp only [got, fresh]
  rw [bind_apply, made]
  rcases exec load R.newRecord w with ⟨_ | ⟨record, exports⟩, w⟩ <;> rfl

/-- **A module is loaded at most once.** If making a record calls nothing, then loading from a
sound world on leads to a later one. There it fails, or reads what the record that is now kept for
the name exports. -/
theorem load_cases (hq : R.newRecord.IsQuiet) (hl : ∀ spelling, Goes modules (load spelling))
    (h : Sound modules w) (spelling : String) :
    ∃ w', Sound modules w' ∧ Later w w' ∧
      ((∃ e, Loader.load (R.host load (ModuleName.canonical spelling)) spelling w =
          (.error e, w')) ∨
        ∃ record, w'.loader.record? (ModuleName.canonical spelling) = some record ∧
          Loader.load (R.host load (ModuleName.canonical spelling)) spelling w =
            (R.host load (ModuleName.canonical spelling)).exportsOf record w') := by
  by_cases hn : ModuleName.canonical spelling ∈ w.loader.entered
  · obtain ⟨record, hr⟩ := h.kept _ hn
    exact ⟨w, h, .refl w, .inr ⟨record, hr, load_cached hr⟩⟩
  cases hm : modules.get? (ModuleName.canonical spelling) with
  | none =>
      refine ⟨_, ?_, later_note w _, .inl ⟨_, load_missing hn (h.same_modules ▸ hm)⟩⟩
      exact h.note rfl ⟨rfl, hm⟩ (by rintro _ _ ⟨⟩)
  | some source =>
      rw [load_fresh hn (h.same_modules ▸ hm)]
      obtain ⟨outcome, heap, made⟩ := exec_quiet hq load w
      rw [made]
      rcases outcome with e | ⟨record, exports⟩
      · exact ⟨_, h.withHeap heap, later_heap w heap, .inl ⟨e, rfl⟩⟩
      dsimp only
      have entered := (h.withHeap heap).enter hn (ModuleName.canonical_canonical spelling) hm record
      have later := (later_heap w heap).trans
        (later_enter (w := { w with heap }) hn source record)
      -- The wrapper runs in a world that knows its module.
      have body := goes_exec hl (R.code (Loader.wrap source) record exports
        (({ w with heap }.enter (ModuleName.canonical spelling) source
          record).loader.require?.getD R.undefined)) _ entered
      rw [bind_apply]
      split
      case h_1 w' hw =>
          rw [hw] at body
          refine ⟨w', body.1, later.trans body.2, .inr ⟨record, ?_, rfl⟩⟩
          exact body.2.keeps _ record Loader.record?_enter_self
      case h_2 e w' hw =>
          rw [hw] at body
          exact ⟨w', body.1, later.trans body.2, .inl ⟨e, rfl⟩⟩

theorem goes_load (hq : R.newRecord.IsQuiet) (depth : Nat) (spelling : String) :
    Goes modules (R.load depth spelling) := by
  induction depth generalizing spelling with
  | zero => exact fun w h => ⟨h, .refl w⟩
  | succ depth ih =>
      intro w h
      rw [Realm.load]
      obtain ⟨w', hs, later, ⟨e, failed⟩ | ⟨record, hr, read⟩⟩ := load_cases hq ih h spelling
      · rw [failed]
        exact ⟨hs, later⟩
      · rw [read]
        obtain ⟨hs', later'⟩ := goes_reads ih hs hr
        exact ⟨hs', later.trans later'⟩

/-! ### Calls -/

/-- What a call of `require` comes to in a world. -/
structure Answers (R : Realm σ α) (modules : ModuleMap) (depth : Nat) (spelling : String)
    (w : World σ α) : Prop where
  /-- A name that stands for no module is refused, and nothing else happens. -/
  missing : modules.get? (ModuleName.canonical spelling) = none →
    R.load (depth + 1) spelling w =
      (.error (Loader.Flaw.missing (ModuleName.canonical spelling)).message,
        w.note (.refuses (ModuleName.canonical spelling)
          (.missing (ModuleName.canonical spelling))))
  /-- Of a module that was entered, be it that it still runs, the exports are read as they are. -/
  entered : ∀ record, w.loader.record? (ModuleName.canonical spelling) = some record →
    R.load (depth + 1) spelling w =
      exec (R.load depth) (R.exportsOf record)
        (w.note (.reads (ModuleName.canonical spelling) record))
  /-- Whatever succeeds returns what it reads of the record that is kept for the name, then and
  from then on. -/
  returned : ∀ v w', R.load (depth + 1) spelling w = (.ok v, w') →
    ∃ record u, Sound modules u ∧ Later w u ∧
      u.loader.record? (ModuleName.canonical spelling) = some record ∧
      w'.loader.record? (ModuleName.canonical spelling) = some record ∧
      exec (R.load depth) (R.exportsOf record)
        (u.note (.reads (ModuleName.canonical spelling) record)) = (.ok v, w')

theorem answers (hq : R.newRecord.IsQuiet) (h : Sound modules w) (depth : Nat)
    (spelling : String) : Answers R modules depth spelling w where
  missing := by
    intro hm
    refine load_missing ?_ (h.same_modules ▸ hm)
    intro hn
    obtain ⟨text, record, hd⟩ := mem_ran_iff.mp (h.ran_eq ▸ hn)
    obtain ⟨source, hs, -⟩ := h.proper _ hd
    cases hm.symm.trans hs
  entered := fun record hr => load_cached hr
  returned := by
    intro v w' hv
    rw [Realm.load] at hv
    obtain ⟨u, hs, later, ⟨e, failed⟩ | ⟨record, hr, read⟩⟩ :=
      load_cases hq (goes_load hq depth) h spelling
    · rw [failed] at hv
      cases hv
    · rw [read] at hv
      have later' := (goes_reads (R := R) (goes_load hq depth) hs hr).2
      rw [hv] at later'
      exact ⟨record, u, hs, later, hr, later'.keeps _ _ hr, hv⟩

/-! ### Evaluations -/

/-- What the program and every job keep, an evaluation keeps. -/
theorem rest_outcomeOf {ι : Type} {r : Runner σ ι} {limit : Nat} {s : σ} {P : σ → Prop}
    (hb : P (r.body s).rest)
    (hj : ∀ s job t, r.jobs.next? s = some (job, t) → P s → P (r.jobs.perform job t).rest) :
    P (outcomeOf r limit s).2 := by
  have drained : ∀ events, P (drain r.jobs limit events (r.body s).rest).rest := fun events =>
    rest_drainFrom hj hb
  unfold outcomeOf
  dsimp only
  split
  case h_1 => exact hb
  case h_2 =>
      split
      case h_1 => exact drained _
      case h_2 => split <;> exact drained _

theorem sound_start (R : Realm σ α) (modules : ModuleMap) (heap : σ) :
    Sound modules (R.start modules heap) where
  same_modules := rfl
  ran_eq := rfl
  once := List.nodup_nil
  canonical := by simp [Realm.start, Loader.bindRequire, Loader.entered]
  kept := by simp [Realm.start, Loader.bindRequire, Loader.entered]
  proper := by simp [Realm.start]
  agrees := by simp [Realm.start]

/-- What loading has done in a run. -/
structure LoadsOnce (modules : ModuleMap) (deeds : List (Deed α)) : Prop where
  /-- No wrapper is run twice, so no more of them than there are modules. -/
  once : (ran deeds).Nodup
  few : (ran deeds).length ≤ modules.size
  /-- What is run is the wrapper of a module of the map, under its canonical name. -/
  known : ∀ name text record, .runs name text record ∈ deeds → ModuleName.canonical name = name ∧
    ∃ source, modules.get? name = some source ∧ text = Loader.wrap source
  /-- A name has one record: the one that its wrapper was given. -/
  one_record : ∀ name text record record', .runs name text record ∈ deeds →
    .reads name record' ∈ deeds → record' = record
  /-- Nothing is read of a module before it was entered. -/
  read_entered : ∀ name record, .reads name record ∈ deeds →
    ∃ text, .runs name text record ∈ deeds
  /-- Only what is not in the map is refused. -/
  refused : ∀ name flaw, .refuses name flaw ∈ deeds →
    flaw = .missing name ∧ modules.get? name = none

theorem mem_names_of_get? {source : String} (h : modules.get? name = some source) :
    name ∈ modules.names := by
  obtain ⟨⟨key, _⟩, hf, -⟩ := Option.map_eq_some_iff.mp h
  have found := List.find?_some hf
  exact List.mem_map.mpr ⟨_, List.mem_of_find?_eq_some hf, by simpa using found⟩

theorem Sound.loadsOnce (h : Sound modules w) : LoadsOnce modules w.deeds where
  once := h.ran_eq ▸ h.once
  few := by
    rw [← ModuleMap.length_names]
    refine (List.subperm_of_subset (h.ran_eq ▸ h.once) ?_).length_le
    intro name hn
    obtain ⟨text, record, hd⟩ := mem_ran_iff.mp hn
    obtain ⟨source, hs, -⟩ := h.proper _ hd
    exact mem_names_of_get? hs
  known := by
    intro name text record hd
    exact ⟨h.canonical name (h.ran_eq ▸ mem_ran_iff.mpr ⟨text, record, hd⟩), h.proper _ hd⟩
  one_record := by
    intro name text record record' hd hd'
    exact Option.some.inj
      ((h.agrees _ hd' _ _ rfl).symm.trans (h.agrees _ hd _ _ rfl))
  read_entered := by
    intro name record hd
    have kept := h.agrees _ hd _ _ rfl
    have hn : name ∈ w.loader.entered := by
      by_contra hn
      rw [Loader.record?, Loader.slot?_eq_none_iff.mpr hn] at kept
      cases kept
    obtain ⟨text, record', hd'⟩ := mem_ran_iff.mp (h.ran_eq ▸ hn)
    obtain rfl := Option.some.inj ((h.agrees _ hd' _ _ rfl).symm.trans kept)
    exact ⟨text, hd'⟩
  refused := fun name flaw hd => h.proper _ hd

theorem sound_turn (hx : Goes modules x) (h : Sound modules w) :
    Sound modules (R.turn x w).rest :=
  ((hx w h).1).withHeap _

/-- A run that begins in a sound world ends in one, before the records are let go of. -/
theorem sound_outcomeOf (hq : R.newRecord.IsQuiet) (depth limit : Nat) (entry : String)
    (h : Sound modules w) : Sound modules (outcomeOf (R.runner depth entry) limit w).2 := by
  refine rest_outcomeOf ?_ ?_
  · change Sound modules (R.turn _ w).rest
    refine sound_turn (.bind (goes_load hq depth entry) fun v => ?_) h
    exact goes_exec (goes_load hq depth) (R.toJson v)
  · intro u job t hn hu
    obtain ⟨⟨job', heap⟩, -, he⟩ := Option.map_eq_some_iff.mp hn
    cases he
    exact sound_turn (goes_exec (goes_load hq depth) job) (hu.withHeap heap)

/-- **Every module is run at most once, and has one record.** If making a record calls nothing,
then that is so of every evaluation: whatever the modules do, whatever jobs they leave, however
often and under whatever spellings they require each other. The world is sound at the start and
after whatever programs do, and in a sound world every call of `require` is answered as it
should be. -/
theorem modules_run_once (hq : R.newRecord.IsQuiet) (modules : ModuleMap) (heap : σ)
    (entry : String) (depth limit : Nat) :
    LoadsOnce modules
        (evaluate (R.runner depth entry) limit (R.start modules heap)).2.deeds ∧
      Sound modules (R.start modules heap) ∧
      ∀ w : World σ α, Sound modules w →
        (∀ {ρ : Type} (p : Program σ α ρ), Sound modules (exec (R.load depth) p w).2 ∧
          Later w (exec (R.load depth) p w).2) ∧
        ∀ spelling, Answers R modules depth spelling w := by
  have start := sound_start R modules heap
  refine ⟨(sound_outcomeOf hq depth limit entry start).loadsOnce, start, fun w h => ⟨?_, ?_⟩⟩
  · exact fun p => goes_exec (goes_load hq depth) p w h
  · exact answers hq h depth

end

/-! ### A setter in the way -/

/-- A realm of few texts. The main module requires another one under three spellings, and that one
requires the main module and itself. What a record exports is the record. -/
def Realm.ofRecords (newRecord : Program Nat Nat (Nat × Nat)) : Realm Nat Nat where
  newRecord := newRecord
  exportsOf record := .done (.ok record)
  code text _ _ _ :=
    if text = Loader.wrap "main" then
      .require "b" fun _ => .require "./b" fun _ => .require "none" fun _ =>
        .require "b/" fun _ => .done (.ok ())
    else .require "./main" fun _ => .require "b" fun _ => .done (.ok ())
  toJson _ := .done (.ok .null)
  next? _ := none
  seen heap := (#[], heap)
  undefined := 0
  require := 0

/-- The modules of that realm. -/
def recordModules : ModuleMap := ⟨[("b", "b"), ("main", "main")]⟩

/-- What loading does in an evaluation of that realm. -/
def recordDeeds (newRecord : Program Nat Nat (Nat × Nat)) : List (Deed Nat) :=
  (evaluate ((Realm.ofRecords newRecord).runner 4 "main") 0
    ((Realm.ofRecords newRecord).start recordModules 0)).2.deeds

/-- Records are numbers, counted in the heap. -/
def Program.counted : Program Nat Nat (Nat × Nat) := .act (· + 1) fun n => .done (.ok (n, n))

/-- In a cycle, and under several spellings, each of the two modules is run once. A name that
stands for none is refused by a message with its canonical form. -/
theorem cycle_runs_once :
    LoadsOnce recordModules (recordDeeds .counted) ∧ ran (recordDeeds .counted) = ["main", "b"] ∧
      (Realm.ofRecords .counted).load 5 "./none"
          ((Realm.ofRecords .counted).start recordModules 0) =
        (.error (Loader.Flaw.missing "none").message,
          ((Realm.ofRecords .counted).start recordModules 0).note
            (.refuses "none" (.missing "none"))) := by
  have quiet : (Realm.ofRecords .counted).newRecord.IsQuiet := fun _ => trivial
  obtain ⟨once, sound, points⟩ := modules_run_once quiet recordModules 0 "main" 4 0
  have canonical : ModuleName.canonical "./none" = "none" := by decide
  have answer := ((points _ sound).2 "./none").missing (by rw [canonical]; rfl)
  rw [canonical] at answer
  exact ⟨once, by rfl, answer⟩

/-- Making the second record calls a setter, which requires another module. -/
def Program.setter : Program Nat Nat (Nat × Nat) :=
  .act (· + 1) fun n =>
    if n = 1 then .require "b" fun _ => .done (.ok (n, n)) else .done (.ok (n, n))

/-- **A setter in the way of a record runs a module twice.** It is called after the cache was
asked and before the module is entered; so what it requires is entered and run, and then entered
and run again with another record. -/
theorem double_run :
    ran (recordDeeds .setter) = ["main", "b", "b"] ∧
      ¬ LoadsOnce recordModules (recordDeeds .setter) := by
  have twice : ran (recordDeeds .setter) = ["main", "b", "b"] := by rfl
  refine ⟨twice, fun h => ?_⟩
  have once := h.once
  rw [twice] at once
  simp at once

end Loading

end PatchSandbox
