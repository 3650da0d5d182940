import PatchSandbox.Machine.Engine
import PatchSandbox.Proofs.Evaluation.Failure

/-!
# What the loader keeps in its arena

Slots are places in an arena that only grows while a run is open. A record gets its slot before the
wrapper of its module runs, and whatever runs may load more modules, the same one included.

* **`Scope`** is what an engine brings to an evaluation, from the binding of the bridge to the
  promise jobs. **`Scope.Points`** are the worlds of an evaluation while it is open: those between
  any two actions of its programs (**`Visits`**), however deep their calls of `require` nest.
* **`Held`** is what holds at all of them. The arena is nothing but the history of the run: the
  function `require`, and then the record of each wrapper that was run, in that order. So the slots
  are the places in that history.
* **`Held.carried`** is the step, for each program that a call of `require` carries out;
  **`held_load`** and **`Held.visits`** lift it to calls and to programs.
* **`no_handle_dangles`** reads off it what may be relied on, up to the end of the run, where the
  arena is emptied.
-/

namespace PatchSandbox

namespace Loading

/-! ### What comes around the programs -/

variable {σ α β ρ τ : Type}

/-- Goes on with what a program returns. -/
def Program.bind (next : ρ → Program σ α τ) : Program σ α ρ → Program σ α τ
  | .done (.ok a) => next a
  | .done (.error e) => .done (.error e)
  | .act change after => .act change fun h => (after h).bind next
  | .require spelling after => .require spelling fun answer => (after answer).bind next

/-- What an engine does in an evaluation. Some of its values are objects. -/
structure Scope (σ α β : Type) where
  /-- An object as a value. -/
  ofObject : β → α
  /-- The object that a value is. -/
  asObject : α → Option β
  asObject_ofObject : ∀ o, asObject (ofObject o) = some o
  /-- Makes the record of a module and the object that it exports, and assigns the second to the
  first. -/
  newModule : Program σ α (β × β)
  /-- Reads what an object exports. -/
  getExports : β → Program σ α α
  /-- What a text does that stands for a function. -/
  code : (text : String) → (record exports require : α) → Program σ α Unit
  toJson : α → Program σ α Json
  /-- Takes the first promise job that waits. -/
  next? : σ → Option (Program σ α Unit × σ)
  /-- Takes what was seen of the run. -/
  seen : σ → Array Event × σ
  undefined : α
  /-- Binds the functions of the bridge. -/
  bridge : Program σ α Unit
  /-- Makes the function `require`. -/
  newRequire : Program σ α α
  /-- Adds that function to the global object. -/
  setRequire : α → Program σ α Unit
  harden : Program σ α Unit
  script : (code : String) → Program σ α α

/-- The modules that come with a submission. -/
def modulesOf : Submission → ModuleMap
  | .script _ => ⟨[]⟩
  | .module _ modules => modules

/-- How deep calls of `require` may nest. A script has no such function to call: calls fail, as they
do where the stack is full. -/
def reach (depth : Nat) : Submission → Nat
  | .script _ => 0
  | .module _ _ => depth

/-- Where an evaluation begins. -/
def opened (p : Submission) (heap : σ) : World σ α :=
  { loader := { modules := modulesOf p }, heap }

/-- Binds the function `require`, if there is one. -/
def World.bound (w : World σ α) : Option α → World σ α
  | none => w
  | some f => { w with loader := w.loader.bindRequire f }

namespace Scope

variable (S : Scope σ α β)

/-- What a record exports. -/
def exportsOf (record : α) : Program σ α α :=
  match S.asObject record with
  | some o => S.getExports o
  | none => .done (.error "module record is not an object")

/-- The realm in which modules are loaded. -/
def realm : Realm σ α where
  newRecord := S.newModule.bind fun made => .done (.ok (S.ofObject made.1, S.ofObject made.2))
  exportsOf := S.exportsOf
  code := S.code
  toJson := S.toJson
  next? := S.next?
  seen := S.seen
  undefined := S.undefined
  -- in a scope the function is made by a program
  require := S.undefined

/-- What is done before the function `require` is bound: the function, if the submission has use
for one. -/
def opening (p : Submission) : Program σ α (Option α) :=
  S.bridge.bind fun _ =>
    match p with
    | .script _ => .done (.ok none)
    | .module _ _ => S.newRequire.bind fun f => .done (.ok (some f))

/-- What is done from then on, up to the JSON form of the result. -/
def course (p : Submission) (require : Option α) : Program σ α Json :=
  (require.elim (.done (.ok ())) S.setRequire).bind fun _ => S.harden.bind fun _ =>
    match p with
    | .script code => (S.script code).bind S.toJson
    | .module entry _ => .require entry fun answer => (Program.done answer).bind S.toJson

/-- Carries a submission out, without the jobs it leaves. -/
def body (depth : Nat) (p : Submission) : Run σ α Json := do
  let require ← exec (S.realm.load 0) (S.opening p)
  modify (World.bound · require)
  exec (S.realm.load (reach depth p)) (S.course p require)

/-- How a submission is carried out. The jobs and the closing are those of the realm, which here has
no entry of its own. -/
def runner (depth : Nat) (p : Submission) : Runner (World σ α) (Program σ α Unit) :=
  { S.realm.runner (reach depth p) "" with body := S.realm.turn (S.body depth p) }

end Scope

/-! ### Points of a run -/

/-- The programs that a call of `require` carries out, each with the world in which it begins. Calls
may nest so deep in them. -/
inductive Carries (R : Realm σ α) (depth : Nat) (spelling : String) (w : World σ α) :
    {ρ : Type} → Program σ α ρ → World σ α → Prop
  /-- The record of a new module is made; -/
  | record {name source : String} (fresh : w.loader.request spelling = .fresh name source) :
      Carries R depth spelling w R.newRecord w
  /-- it is entered, and the wrapper runs; -/
  | wrapper {name source : String} {record exports : α} {u : World σ α}
      (fresh : w.loader.request spelling = .fresh name source)
      (made : exec (R.load depth) R.newRecord w = (.ok (record, exports), u)) :
      Carries R depth spelling w (R.wrapper name source record exports u)
        (u.enter name source record)
  /-- then its exports are read. -/
  | reads {name source : String} {record exports : α} {u v : World σ α}
      (fresh : w.loader.request spelling = .fresh name source)
      (made : exec (R.load depth) R.newRecord w = (.ok (record, exports), u))
      (ran : exec (R.load depth) (R.wrapper name source record exports u)
        (u.enter name source record) = (.ok (), v)) :
      Carries R depth spelling w (R.exportsOf record) (v.note (.reads name record))
  /-- Of a module that was entered, the exports are read at once. -/
  | again {slot : Nat} {record : α} (cached : w.loader.request spelling = .cached slot)
      (kept : w.loader.arena.restore? slot = some record) :
      Carries R depth spelling w (R.exportsOf record)
        (w.note (.reads (ModuleName.canonical spelling) record))

/-- The worlds that are passed while a program is carried out, with calls of `require` that nest
so deep. -/
inductive Visits (R : Realm σ α) :
    Nat → {ρ : Type} → Program σ α ρ → World σ α → World σ α → Prop
  | here {ρ : Type} (depth : Nat) (p : Program σ α ρ) (w : World σ α) : Visits R depth p w w
  | act {ρ : Type} {depth : Nat} {change : σ → σ} {next : σ → Program σ α ρ} {w u : World σ α}
      (h : Visits R depth (next w.heap) { w with heap := change w.heap } u) :
      Visits R depth (.act change next) w u
  /-- Within a call of `require`, -/
  | within {ρ ρ' : Type} {depth : Nat} {spelling : String} {next : Except String α → Program σ α ρ}
      {w w' u : World σ α} {p : Program σ α ρ'} (hp : Carries R depth spelling w p w')
      (h : Visits R depth p w' u) : Visits R (depth + 1) (.require spelling next) w u
  /-- and after it. -/
  | after {ρ : Type} {depth : Nat} {spelling : String} {next : Except String α → Program σ α ρ}
      {w u : World σ α}
      (h : Visits R depth (next (R.load depth spelling w).1) (R.load depth spelling w).2 u) :
      Visits R depth (.require spelling next) w u

/-- The worlds between the turns of an evaluation, with what `require` was bound to. -/
inductive Scope.Rests (S : Scope σ α β) (depth : Nat) (p : Submission) (heap : σ) :
    Option α → World σ α → Prop
  | body {f : Option α} {w w' : World σ α} {output : Json}
      (first : exec (S.realm.load 0) (S.opening p) (opened p heap) = (.ok f, w))
      (rest : exec (S.realm.load (reach depth p)) (S.course p f) (w.bound f) = (.ok output, w')) :
      Rests S depth p heap f { w' with heap := (S.seen w'.heap).2 }
  | job {f : Option α} {w w' : World σ α} {job : Program σ α Unit} {left : σ}
      (h : Rests S depth p heap f w) (taken : S.next? w.heap = some (job, left))
      (done : exec (S.realm.load (reach depth p)) job { w with heap := left } = (.ok (), w')) :
      Rests S depth p heap f { w' with heap := (S.seen w'.heap).2 }

/-- The worlds of an evaluation from its opening until it comes to its end, with what `require` is
bound to. Any number of jobs may follow the program. -/
inductive Scope.Points (S : Scope σ α β) (depth : Nat) (p : Submission) (heap : σ) :
    Option α → World σ α → Prop
  | opening {u : World σ α} (h : Visits S.realm 0 (S.opening p) (opened p heap) u) :
      Points S depth p heap none u
  | course {f : Option α} {w u : World σ α}
      (first : exec (S.realm.load 0) (S.opening p) (opened p heap) = (.ok f, w))
      (h : Visits S.realm (reach depth p) (S.course p f) (w.bound f) u) :
      Points S depth p heap f u
  | job {f : Option α} {w u : World σ α} {job : Program σ α Unit} {left : σ}
      (rest : Rests S depth p heap f w) (taken : S.next? w.heap = some (job, left))
      (h : Visits S.realm (reach depth p) job { w with heap := left } u) :
      Points S depth p heap f u

/-! ### What holds at every point -/

/-- The records that wrappers were run with, the first one first. -/
def records (deeds : List (Deed α)) : List (String × α) :=
  deeds.filterMap fun
    | .runs name _ record => some (name, record)
    | .reads _ _ => none
    | .refuses _ _ => none

/-- The record that the wrapper of a module was last run with. -/
def lastRecord? (deeds : List (Deed α)) (name : String) : Option α :=
  (records deeds).reverse.lookup name

/-- A deed fits what wrappers were run with: no other record is read, and nothing is refused but
for want of a module. -/
def Deed.Fits (kept : List (String × α)) : Deed α → Prop
  | .runs _ _ _ => True
  | .reads name record => (name, record) ∈ kept
  | .refuses name flaw => flaw = .missing name

/-- What the loader keeps is the history of the run, if `require` is bound to that value. All
records are of one kind. -/
structure Held (IsRecord : α → Prop) (f : Option α) (w : World σ α) : Prop where
  values : w.loader.arena.values.toList = f.toList ++ (records w.deeds).map Prod.snd
  loaded : w.loader.loaded.reverse = ((records w.deeds).map Prod.fst).zipIdx f.toList.length
  requireSlot : w.loader.requireSlot = f.map fun _ => 0
  kept : ∀ name, w.loader.record? name = lastRecord? w.deeds name
  isRecord : ∀ name record, (name, record) ∈ records w.deeds → IsRecord record
  fits : ∀ d ∈ w.deeds, d.Fits (records w.deeds)

/-- A piece of a run keeps it so. -/
def KeepsHeld (IsRecord : α → Prop) (f : Option α) (x : Run σ α ρ) : Prop :=
  ∀ w, Held IsRecord f w → Held IsRecord f (x w).2

section

variable {IsRecord : α → Prop} {f : Option α} {w w' u : World σ α} {R : Realm σ α}
  {load : String → Run σ α α} {depth : Nat} {name spelling : String} {record : α} {slot : Nat}

@[simp] theorem records_append (ds es : List (Deed α)) :
    records (ds ++ es) = records ds ++ records es := by
  simp [records]

theorem mem_records_of_runs {deeds : List (Deed α)} {text : String}
    (h : .runs name text record ∈ deeds) : (name, record) ∈ records deeds :=
  List.mem_filterMap.mpr ⟨_, h, rfl⟩

theorem mem_records_of_lastRecord? {deeds : List (Deed α)}
    (h : lastRecord? deeds name = some record) :
    (name, record) ∈ records deeds := by
  obtain ⟨before, after, he, -⟩ := List.lookup_eq_some_iff.mp h
  rw [← List.mem_reverse, he]
  simp

theorem lastRecord?_concat (deeds : List (Deed α)) (name text : String) (record : α)
    (other : String) : lastRecord? (deeds ++ [.runs name text record]) other =
      if other = name then some record else lastRecord? deeds other := by
  have one : records [Deed.runs name text record] = [(name, record)] := rfl
  rw [lastRecord?, records_append, one, List.reverse_concat, List.lookup_cons]
  by_cases h : other = name
  · simp [h]
  · have : (other == name) = false := by simpa using h
    rw [this, if_neg h]
    rfl

/-- The heap is no concern of the loader's. -/
theorem Held.withHeap (h : Held IsRecord f w) (heap : σ) :
    Held IsRecord f { w with heap } :=
  ⟨h.values, h.loaded, h.requireSlot, h.kept, h.isRecord, h.fits⟩

theorem Held.size_eq (h : Held IsRecord f w) :
    w.loader.arena.size = f.toList.length + (records w.deeds).length := by
  rw [Arena.size, ← Array.length_toList, h.values, List.length_append, List.length_map]

/-- **A slot that is kept for a name is a place in the history**: that of a record of the name. -/
theorem Held.of_mem_loaded (h : Held IsRecord f w) (hs : (name, slot) ∈ w.loader.loaded) :
    ∃ i record, slot = f.toList.length + i ∧ (records w.deeds)[i]? = some (name, record) ∧
      w.loader.arena.restore? slot = some record := by
  rw [← List.mem_reverse, h.loaded, List.mk_mem_zipIdx_iff_le_and_getElem?_sub] at hs
  obtain ⟨hle, hi⟩ := hs
  rw [List.getElem?_map] at hi
  obtain ⟨⟨name', record⟩, hr, rfl⟩ := Option.map_eq_some_iff.mp hi
  refine ⟨slot - f.toList.length, record, by omega, hr, ?_⟩
  rw [Arena.restore?, ← Array.getElem?_toList, h.values, List.getElem?_append_right hle,
    List.getElem?_map, hr]
  rfl

theorem mem_loaded_of_slot? {l : Loader α} (h : l.slot? name = some slot) :
    (name, slot) ∈ l.loaded := by
  obtain ⟨before, after, he, -⟩ := List.lookup_eq_some_iff.mp h
  rw [he]
  simp

/-- What is restored for a name is the last record of the name. -/
theorem Held.restore?_eq (h : Held IsRecord f w) (hs : w.loader.slot? name = some slot) :
    ∃ record, w.loader.arena.restore? slot = some record ∧
      lastRecord? w.deeds name = some record := by
  obtain ⟨-, record, -, -, hr⟩ := h.of_mem_loaded (mem_loaded_of_slot? hs)
  refine ⟨record, hr, ?_⟩
  rw [← h.kept, Loader.record?, hs, Option.bind_some, hr]

/-- The function that is passed to wrappers is the one that was bound. -/
theorem Held.require?_eq (h : Held IsRecord f w) : w.loader.require? = f := by
  rw [Loader.require?, h.requireSlot]
  cases f with
  | none => rfl
  | some f =>
      rw [Option.map_some, Option.bind_some, Arena.restore?, ← Array.getElem?_toList, h.values]
      rfl

/-! ### Steps -/

theorem fits_concat {deeds : List (Deed α)} {d : Deed α}
    (h : ∀ e ∈ deeds, e.Fits (records deeds)) (hd : d.Fits (records deeds)) :
    ∀ e ∈ deeds ++ [d], e.Fits (records (deeds ++ [d])) := by
  have more {e : Deed α} (he : e.Fits (records deeds)) : e.Fits (records (deeds ++ [d])) := by
    rw [records_append]
    cases e with
    | runs _ _ _ => trivial
    | reads _ _ => exact List.mem_append_left _ he
    | refuses _ _ => exact he
  intro e he
  rcases List.mem_append.mp he with he | he
  · exact more (h e he)
  · exact List.mem_singleton.mp he ▸ more hd

/-- A deed that runs nothing leaves everything in its place. -/
theorem Held.note (h : Held IsRecord f w) {d : Deed α} (hn : records [d] = [])
    (hd : d.Fits (records w.deeds)) : Held IsRecord f (w.note d) := by
  have same : records (w.note d).deeds = records w.deeds := by
    rw [World.note, records_append, hn, List.append_nil]
  constructor
  · rw [same]
    exact h.values
  · rw [same]
    exact h.loaded
  · exact h.requireSlot
  · intro name
    rw [lastRecord?, same]
    exact h.kept name
  · rw [same]
    exact h.isRecord
  · exact fits_concat h.fits hd

/-- **A record gets the next slot**, also where its name had one already. -/
theorem Held.enter (h : Held IsRecord f w) (hr : IsRecord record) (name source : String) :
    Held IsRecord f (w.enter name source record) where
  values := by
    rw [World.enter, World.note, records_append, List.map_append, ← List.append_assoc, ← h.values]
    simp [Loader.enter, Arena.retain, records]
  loaded := by
    -- the new slot is the number of values so far, which is the index of the new record
    have next := h.size_eq
    rw [World.enter, World.note, records_append, List.map_append, List.zipIdx_append, ← h.loaded,
      List.length_map, ← next]
    simp [Loader.enter, Arena.retain, Arena.size, records]
  requireSlot := h.requireSlot
  kept := by
    intro other
    rw [World.enter, World.note, lastRecord?_concat, ← h.kept]
    by_cases he : other = name
    · rw [if_pos he, he]
      exact Loader.record?_enter_self
    · rw [if_neg he, Loader.record?, Loader.slot?_enter_of_ne _ record he]
      cases hs : w.loader.slot? other with
      | none => rw [Loader.record?, hs, Option.bind_none, Option.bind_none]
      | some slot =>
          obtain ⟨r, hr, -⟩ := h.restore?_eq hs
          rw [Loader.record?, hs, Option.bind_some, Option.bind_some]
          exact Arena.restore?_retain_of_lt w.loader.arena record (Loader.lt_size_of_restore? hr)
  isRecord := by
    intro name' record' hm
    rw [World.enter, World.note, records_append, List.mem_append] at hm
    rcases hm with hm | hm
    · exact h.isRecord _ _ hm
    · cases List.mem_singleton.mp hm
      exact hr
  fits := fits_concat h.fits trivial

/-! ### Programs and calls -/

/-- A program keeps what its changes of the heap and its calls keep. -/
theorem keeps_exec {P : World σ α → Prop} (hh : ∀ w heap, P w → P { w with heap })
    (hl : ∀ spelling w, P w → P (load spelling w).2) (p : Program σ α ρ) (h : P w) :
    P (exec load p w).2 := by
  induction p generalizing w with
  | done outcome => exact h
  | act change next ih => exact ih w.heap (hh w _ h)
  | require spelling next ih => exact ih _ (hl spelling w h)

theorem held_exec (hl : ∀ spelling, KeepsHeld IsRecord f (load spelling)) (p : Program σ α ρ) :
    KeepsHeld IsRecord f (exec load p) :=
  fun _ h => keeps_exec (fun _ heap h => h.withHeap heap) hl p h

/-- What was run with a record stays so. -/
theorem Comes.mem_records (h : Comes w u) (hr : (name, record) ∈ records w.deeds) :
    (name, record) ∈ records u.deeds := by
  obtain ⟨since, hs⟩ := h.follows
  rw [hs.deeds, records_append]
  exact List.mem_append_left _ hr

theorem request_eq_cached (hs : w.loader.slot? (ModuleName.canonical spelling) = some slot) :
    w.loader.request spelling = .cached slot := by
  simp only [Loader.request, hs]

theorem slot?_of_request (h : w.loader.request spelling = .cached slot) :
    w.loader.slot? (ModuleName.canonical spelling) = some slot := by
  unfold Loader.request at h
  dsimp only at h
  split at h
  · cases h
    assumption
  · split at h <;> cases h

section

variable (hnew : ∀ load w made u, exec load R.newRecord w = (.ok made, u) → IsRecord made.1)

include hnew

/-- **Every program that a call of `require` carries out begins in such a world**, if all calls
within the call keep them. -/
theorem Held.carried {p : Program σ α ρ}
    (hl : ∀ spelling, KeepsHeld IsRecord f (R.load depth spelling))
    (h : Held IsRecord f w) (hp : Carries R depth spelling w p w') : Held IsRecord f w' := by
  have entered : ∀ name source {record exports u},
      exec (R.load depth) R.newRecord w = (.ok (record, exports), u) →
        Held IsRecord f (u.enter name source record) := by
    intro name source record exports u made
    have hu := held_exec hl R.newRecord w h
    rw [made] at hu
    exact hu.enter (hnew _ _ _ _ made) name source
  cases hp with
  | record fresh => exact h
  | wrapper fresh made => exact entered _ _ made
  | @reads name source record exports u v fresh made ran =>
      -- whatever the wrapper did, its own run is still part of the history
      have hv := held_exec hl (R.wrapper name source record exports u) _ (entered name source made)
      have later := comes_exec R depth (R.wrapper name source record exports u)
        (u.enter name source record)
      rw [ran] at hv later
      have runs : .runs name (Loader.wrap source) record ∈ (u.enter name source record).deeds :=
        List.mem_append_right _ (List.mem_singleton_self _)
      exact hv.note rfl (later.mem_records (mem_records_of_runs runs))
  | again cached kept =>
      obtain ⟨record', hr, last⟩ := h.restore?_eq (slot?_of_request cached)
      cases hr.symm.trans kept
      exact h.note rfl (mem_records_of_lastRecord? last)

/-- **A call of `require`** leads to such a world, however deep it nests. -/
theorem held_load (depth : Nat) (spelling : String) :
    KeepsHeld IsRecord f (R.load depth spelling) := by
  induction depth generalizing spelling with
  | zero => exact fun w h => h
  | succ depth ih =>
      intro w h
      have carried : ∀ {ρ : Type} {p : Program σ α ρ} {w' : World σ α},
          Carries R depth spelling w p w' → Held IsRecord f (exec (R.load depth) p w').2 :=
        fun {_ p w'} hp => held_exec ih p w' (h.carried hnew ih hp)
      rw [Realm.load]
      cases hs : w.loader.slot? (ModuleName.canonical spelling) with
      | some slot =>
          -- here a slot without a value would be refused as released
          obtain ⟨record, hr, -⟩ := h.restore?_eq hs
          rw [load_cached (by rw [Loader.record?, hs, Option.bind_some, hr])]
          exact carried (.again (request_eq_cached hs) hr)
      | none =>
          have hn := Loader.slot?_eq_none_iff.mp hs
          cases hm : w.loader.modules.get? (ModuleName.canonical spelling) with
          | none =>
              rw [load_missing hn hm]
              exact h.note rfl rfl
          | some source =>
              have fresh : w.loader.request spelling =
                  .fresh (ModuleName.canonical spelling) source := by
                simp only [Loader.request, hs, hm]
              rw [load_fresh hn hm]
              have made := carried (.record fresh)
              rcases hu : exec (R.load depth) R.newRecord w with ⟨e | ⟨record, exports⟩, u⟩
              · rw [hu] at made
                exact made
              have body := carried (.wrapper fresh hu)
              dsimp only
              rw [bind_apply]
              unfold Realm.wrapper at body
              split
              case h_1 v hv => exact carried (.reads fresh hu hv)
              case h_2 e v hv =>
                  rw [hv] at body
                  exact body

/-- **Every world that a program passes** is such a world. -/
theorem Held.visits {p : Program σ α ρ} (hv : Visits R depth p w u) (h : Held IsRecord f w) :
    Held IsRecord f u := by
  induction hv with
  | here => exact h
  | act _ ih => exact ih (h.withHeap _)
  | within hp _ ih => exact ih (h.carried hnew (held_load hnew _) hp)
  | after _ ih => exact ih (held_load hnew _ _ _ h)

end

/-- The end of a program is passed too. -/
theorem visits_exec (R : Realm σ α) (depth : Nat) (p : Program σ α ρ) (w : World σ α) :
    Visits R depth p w (exec (R.load depth) p w).2 := by
  induction p generalizing w with
  | done outcome => exact .here ..
  | act change next ih => exact .act (ih _ _)
  | require spelling next ih => exact .after (ih _ _)

theorem visits_of_exec {p : Program σ α ρ} {outcome : Except String ρ}
    (done : exec (R.load depth) p w = (outcome, w')) : Visits R depth p w w' := by
  have last := visits_exec R depth p w
  rwa [done] at last

/-! ### Evaluations -/

/-- An evaluation begins with nothing kept. -/
theorem held_opened (IsRecord : α → Prop) (p : Submission) (heap : σ) :
    Held IsRecord none (opened p heap) where
  values := rfl
  loaded := rfl
  requireSlot := rfl
  kept := fun _ => rfl
  isRecord := by simp [opened, records]
  fits := by simp [opened]

/-- The function `require` is the first thing that is kept. -/
theorem Held.bound (h : Held IsRecord none w) (hd : w.deeds = []) (f : Option α) :
    Held IsRecord f (w.bound f) := by
  cases f with
  | none => exact h
  | some f =>
      have empty : w.loader.arena.values = #[] := by simpa [hd, records] using h.values
      have nothing : w.loader.loaded = [] := by simpa [hd, records] using h.loaded
      have deeds : (w.bound (some f)).deeds = [] := hd
      constructor
      · simp [World.bound, Loader.bindRequire, Arena.retain, empty, hd, records]
      · simp [World.bound, Loader.bindRequire, Arena.retain, nothing, hd, records]
      · simp [World.bound, Loader.bindRequire, Arena.retain, empty]
      · intro name
        simp [World.bound, Loader.bindRequire, Arena.retain, nothing, hd, records,
          Loader.record?, Loader.slot?, lastRecord?]
      · simp [deeds, records]
      · simp [deeds]

/-- Nothing is loaded before `require` is bound. -/
theorem deeds_exec_unbound (R : Realm σ α) (p : Program σ α ρ) (hd : w.deeds = []) :
    (exec (R.load 0) p w).2.deeds = [] :=
  keeps_exec (P := fun w : World σ α => w.deeds = []) (fun _ _ hd => hd) (fun _ _ hd => hd) p hd

theorem exec_bind (load : String → Run σ α α) (p : Program σ α ρ) (next : ρ → Program σ α τ)
    (w : World σ α) :
    exec load (p.bind next) w = (exec load p >>= fun a => exec load (next a)) w := by
  induction p generalizing w with
  | done outcome => cases outcome <;> rfl
  | act change after ih => exact ih _ _
  | require spelling after ih => exact ih _ _

variable {S : Scope σ α β} {p : Submission} {heap : σ}

/-- A value is an object. -/
def Scope.IsObject (S : Scope σ α β) (v : α) : Prop := ∃ o, S.asObject v = some o

/-- The record of a module is an object. -/
theorem Scope.isObject_newRecord {made : α × α}
    (h : exec load S.realm.newRecord w = (.ok made, u)) :
    S.IsObject made.1 := by
  have step := exec_bind load S.newModule
    (fun made => .done (.ok (S.ofObject made.1, S.ofObject made.2))) w
  rw [bind_apply] at step
  rw [Scope.realm, step] at h
  split at h
  case h_1 made' w' hm =>
      cases h
      exact ⟨made'.1, S.asObject_ofObject _⟩
  case h_2 => cases h

theorem Scope.held_visits {q : Program σ α ρ} (hv : Visits S.realm depth q w u)
    (h : Held S.IsObject f w) : Held S.IsObject f u :=
  h.visits (fun _ _ _ _ => S.isObject_newRecord) hv

/-- The first part of an evaluation ends with `require` bound. -/
theorem Scope.held_bound
    (first : exec (S.realm.load 0) (S.opening p) (opened p heap) = (.ok f, w)) :
    Held S.IsObject f (w.bound f) := by
  -- nothing was kept before, so `require` comes first in the arena
  have held := S.held_visits (visits_of_exec first) (held_opened S.IsObject p heap)
  have deeds := deeds_exec_unbound S.realm (S.opening p) (w := opened p heap) rfl
  rw [first] at deeds
  exact held.bound deeds f

theorem Scope.Rests.held (h : S.Rests depth p heap f w) : Held S.IsObject f w := by
  induction h with
  | body first rest =>
      exact (S.held_visits (visits_of_exec rest) (S.held_bound first)).withHeap _
  | job _ taken done ih => exact (S.held_visits (visits_of_exec done) (ih.withHeap _)).withHeap _

/-- **At every point of an evaluation** the arena is the history of the run. -/
theorem Scope.Points.held (h : S.Points depth p heap f u) : Held S.IsObject f u := by
  cases h with
  | opening hv => exact S.held_visits hv (held_opened S.IsObject p heap)
  | course first hv => exact S.held_visits hv (S.held_bound first)
  | job rest taken hv => exact S.held_visits hv (rest.held.withHeap _)

/-! ### The end -/

/-- A world in which the loader is as at some point of the evaluation. -/
def Scope.IsAtPoint (S : Scope σ α β) (depth : Nat) (p : Submission) (heap : σ) (w : World σ α) :
    Prop :=
  ∃ f u, S.Points depth p heap f u ∧ w.loader = u.loader ∧ w.deeds = u.deeds

theorem Scope.Rests.isAtPoint (h : S.Rests depth p heap f w) : S.IsAtPoint depth p heap w := by
  cases h with
  | body first rest => exact ⟨f, _, .course first (visits_of_exec rest), rfl, rfl⟩
  | job before taken done => exact ⟨f, _, .job before taken (visits_of_exec done), rfl, rfl⟩

/-- A turn is what the program came to, without what was seen. -/
theorem turn_eq {x : Run σ α ρ} {outcome : Except String ρ} (done : x w = (outcome, w')) :
    R.turn x w = ⟨outcome, (R.seen w'.heap).1, { w' with heap := (R.seen w'.heap).2 }⟩ := by
  rw [Realm.turn, done]

theorem Scope.Rests.isAtPoint_drainFrom (h : S.Rests depth p heap f w) (limit n : Nat)
    (events : Array Event) : S.IsAtPoint depth p heap
      (drainFrom (S.runner depth p).jobs limit n events w).rest := by
  induction n generalizing w events with
  | zero =>
      rw [drainFrom]
      split <;> exact h.isAtPoint
  | succ n ih =>
      rw [drainFrom]
      split
      case h_1 => exact h.isAtPoint
      case h_2 job t hn =>
          obtain ⟨⟨_, left⟩, taken, he⟩ := Option.map_eq_some_iff.mp hn
          cases he
          rcases done : exec (S.realm.load (reach depth p)) job { w with heap := left } with
            ⟨outcome, w'⟩
          have turn : (S.runner depth p).jobs.perform job { w with heap := left } = _ :=
            turn_eq (R := S.realm) done
          rw [turn]
          cases outcome with
          | ok _ => exact ih (.job h taken done) _
          | error e => exact ⟨f, _, .job h taken (visits_of_exec done), rfl, rfl⟩

theorem Scope.body_eq {outcome : Except String Json}
    (first : exec (S.realm.load 0) (S.opening p) (opened p heap) = (.ok f, w))
    (rest : exec (S.realm.load (reach depth p)) (S.course p f) (w.bound f) = (outcome, w')) :
    S.body depth p (opened p heap) = (outcome, w') := by
  rw [Scope.body, bind_apply, first]
  exact rest

/-- **The end of an evaluation** is one of its points, but for what is taken out of the heap. -/
theorem Scope.isAtPoint_outcomeOf (S : Scope σ α β) (p : Submission) (depth limit : Nat)
    (heap : σ) : S.IsAtPoint depth p heap
      (outcomeOf (S.runner depth p) limit (opened p heap)).2 := by
  have body : (S.runner depth p).body = S.realm.turn (S.body depth p) := rfl
  rw [outcomeOf, body]
  rcases first : exec (S.realm.load 0) (S.opening p) (opened p heap) with ⟨e | f, w⟩
  · have failed : S.body depth p (opened p heap) = (.error e, w) := by
      rw [Scope.body, bind_apply, first]
    rw [turn_eq failed]
    exact ⟨none, _, .opening (visits_of_exec first), rfl, rfl⟩
  rcases rest : exec (S.realm.load (reach depth p)) (S.course p f) (w.bound f) with ⟨outcome, w'⟩
  rw [turn_eq (S.body_eq first rest)]
  cases outcome with
  | error e => exact ⟨f, _, .course first (visits_of_exec rest), rfl, rfl⟩
  | ok output =>
      have drained := (Scope.Rests.body first rest).isAtPoint_drainFrom limit limit
      dsimp only
      split
      · exact drained _
      · split <;> exact drained _

/-! ### Handles -/

/-- Nothing that the loader holds on to dangles, where `require` is bound to that value. -/
structure Scope.Handles (S : Scope σ α β) (f : Option α) (w : World σ α) : Prop where
  cached_lt : ∀ name slot, w.loader.slot? name = some slot → slot < w.loader.arena.size
  require_lt : ∀ slot, w.loader.requireSlot = some slot → slot < w.loader.arena.size
  /-- No slot serves two names, or a name and the function `require`. -/
  distinct : ∀ name other slot, w.loader.slot? name = some slot →
    w.loader.slot? other = some slot → name = other
  apart : ∀ name slot, w.loader.slot? name = some slot → w.loader.requireSlot ≠ some slot
  /-- The slot of a name gives back the record that was made for it. -/
  restored : ∀ name slot, w.loader.slot? name = some slot → ∃ record,
    lastRecord? w.deeds name = some record ∧ w.loader.arena.restore? slot = some record
  /-- The slot of `require` gives back the function that was bound. -/
  require : w.loader.requireSlot.map w.loader.arena.restore? = f.map some
  /-- Whatever was read was the record of a wrapper of that name, and an object. -/
  read : ∀ name record, .reads name record ∈ w.deeds →
    (name, record) ∈ records w.deeds ∧ S.IsObject record
  /-- Whatever was refused was so because there is no such module. -/
  refused : ∀ name flaw, .refuses name flaw ∈ w.deeds → flaw = .missing name

theorem Held.handles (h : Held S.IsObject f w) : S.Handles f w where
  cached_lt := by
    intro name slot hs
    obtain ⟨record, hr, -⟩ := h.restore?_eq hs
    exact Loader.lt_size_of_restore? hr
  require_lt := by
    intro slot hs
    rw [h.requireSlot] at hs
    obtain ⟨g, rfl, rfl⟩ := Option.map_eq_some_iff.mp hs
    rw [h.size_eq, Option.toList_some, List.length_singleton]
    omega
  distinct := by
    intro name other slot hs ho
    obtain ⟨i, record, hi, hn, -⟩ := h.of_mem_loaded (mem_loaded_of_slot? hs)
    obtain ⟨j, record', hj, hm, -⟩ := h.of_mem_loaded (mem_loaded_of_slot? ho)
    obtain rfl : i = j := by omega
    cases hn.symm.trans hm
    rfl
  apart := by
    intro name slot hs hr
    rw [h.requireSlot] at hr
    obtain ⟨g, rfl, rfl⟩ := Option.map_eq_some_iff.mp hr
    obtain ⟨i, -, hi, -⟩ := h.of_mem_loaded (mem_loaded_of_slot? hs)
    rw [Option.toList_some, List.length_singleton] at hi
    omega
  restored := by
    intro name slot hs
    obtain ⟨record, hr, last⟩ := h.restore?_eq hs
    exact ⟨record, last, hr⟩
  require := by
    have bound := h.require?_eq
    rw [Loader.require?, h.requireSlot] at bound
    rw [h.requireSlot]
    cases f with
    | none => rfl
    | some g => simpa using bound
  read := fun name record hd => ⟨h.fits _ hd, h.isRecord name record (h.fits _ hd)⟩
  refused := fun name flaw hd => h.fits _ hd

/-- The records that the machine makes are objects. -/
theorem isObject_of_newRecord {i : Machine.Interp} {s t : Machine.State}
    {made : Machine.Value × Machine.Value} (h : Machine.loading.newRecord i s = .ok made t) :
    ∃ r, made.1 = .object r := by
  simp only [Machine.loading, bind, ReaderT.bind, EStateM.bind, pure, ReaderT.pure,
    EStateM.pure] at h
  split at h
  case h_2 => cases h
  case h_1 record u hr =>
      split at h
      case h_2 => cases h
      case h_1 exports v he =>
          split at h
          case h_2 => cases h
          case h_1 =>
              cases h
              exact ⟨record, rfl⟩

/-- **No handle dangles.** In every evaluation, whatever its programs do and however deep they nest,
what the loader holds on to is as it should be at every point, up to the end, which is such a point.
There the arena is emptied, however the evaluation ends, and nothing else is gone yet. The same is
done at the end of every evaluation of the machine, whose records are objects. -/
theorem no_handle_dangles (S : Scope σ α β) (p : Submission) (depth limit : Nat) (heap : σ) :
    ((∀ f u, S.Points depth p heap f u → S.Handles f u) ∧
      S.IsAtPoint depth p heap (outcomeOf (S.runner depth p) limit (opened p heap)).2 ∧
      (evaluate (S.runner depth p) limit (opened p heap)).2.loader.arena.size = 0 ∧
      (evaluate (S.runner depth p) limit (opened p heap)).2.heap =
        (outcomeOf (S.runner depth p) limit (opened p heap)).2.heap) ∧
    (∀ s : Machine.State, (evaluate (Machine.runner p) limit s).2.loader.arena.size = 0 ∧
      (evaluate (Machine.runner p) limit s).2.objects =
        (outcomeOf (Machine.runner p) limit s).2.objects) ∧
    ∀ i s made t, Machine.loading.newRecord i s = .ok made t → ∃ r, made.1 = .object r :=
  ⟨⟨fun _ _ hu => hu.held.handles, S.isAtPoint_outcomeOf p depth limit heap, rfl, rfl⟩,
    fun _ => ⟨rfl, rfl⟩, fun _ _ _ _ h => isObject_of_newRecord h⟩

end

/-- A scope in which every value is an object, and objects are counted. Its texts are those of
`Realm.ofRecords`. -/
def Scope.counting : Scope Nat Nat Nat where
  ofObject o := o
  asObject v := some v
  asObject_ofObject _ := rfl
  newModule := .act (· + 2) fun n => .done (.ok (n, n + 1))
  getExports o := .done (.ok (o + 1))
  code := (Realm.ofRecords .counted).code
  toJson _ := .done (.ok .null)
  next? _ := none
  seen heap := (#[], heap)
  undefined := 0
  bridge := .done (.ok ())
  newRequire := .act (· + 1) fun n => .done (.ok n)
  setRequire _ := .done (.ok ())
  harden := .done (.ok ())
  script _ := .done (.ok 0)

/-- An evaluation of two modules that require each other. -/
def countedPair : Submission := .module "main" recordModules

/-- The world in which it comes to its end. -/
def countedEnd : World Nat Nat :=
  (exec (Scope.counting.realm.load 4) (Scope.counting.course countedPair (some 7))
    ((opened countedPair 8 : World Nat Nat).bound (some 7))).2

/-- Three values are kept at its end: the function `require` and two records. Then none is. -/
theorem counted_pair_released : Scope.counting.Points 4 countedPair 7 (some 7) countedEnd ∧
    countedEnd.loader.arena.values = #[7, 8, 10] ∧
    countedEnd.loader.loaded = [("b", 2), ("main", 1)] ∧
    Scope.counting.Handles (some 7) countedEnd ∧
    (evaluate (Scope.counting.runner 4 countedPair) 0 (opened countedPair 7)).2.loader.arena.size
      = 0 := by
  have point : Scope.counting.Points 4 countedPair 7 (some 7) countedEnd :=
    .course (w := opened countedPair 8) rfl (visits_exec ..)
  obtain ⟨⟨handles, -, released, -⟩, -⟩ := no_handle_dangles Scope.counting countedPair 4 0 7
  exact ⟨point, rfl, rfl, handles _ _ point, released⟩

end Loading

end PatchSandbox
