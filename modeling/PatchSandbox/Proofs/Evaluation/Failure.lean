import Mathlib.Logic.Relation
import PatchSandbox.Proofs.Evaluation.Loading

/-!
# Modules that fail while they are loaded

A record is entered before the wrapper of its module is run. Nothing takes it out again, also if the
wrapper cannot be compiled or throws.

* **`Comes`** relates a point of a run to a later one, by what **`Happens`** in between. All that a
  program does is of this kind (**`comes_exec`**), however deep its calls of `require` nest and
  whatever the making of a record does. So is what the jobs do that follow (**`comes_drain`**).
* **`Follows`** is what then still holds of the records: a name that has one keeps one, and it is
  the same one as long as its wrapper is not run again.
* **`failed_module_served`** is the result: from the failure on, `require` gives what the record
  exports, under every spelling of the name, as if the module had been loaded.
* **`half_initialized_served`** is an evaluation in which that happens.
-/

namespace PatchSandbox

namespace Loading

variable {σ α ρ : Type}

/-! ### What happens in a run -/

/-- One thing that happens in a run. -/
inductive Happens : World σ α → World σ α → Prop
  /-- A script changes the heap, or the host does. -/
  | change (w : World σ α) (heap : σ) : Happens w { w with heap }
  /-- Loading does something without running a wrapper. -/
  | deed (w : World σ α) (d : Deed α) (hd : ran [d] = []) : Happens w (w.note d)
  /-- A module is entered, and its wrapper begins to run. -/
  | enter (w : World σ α) (name source : String) (record : α) :
      Happens w (w.enter name source record)

/-- A point of a run and a later one. -/
def Comes : World σ α → World σ α → Prop := Relation.ReflTransGen Happens

/-- The wrapper of a module that is about to be entered, given what it is to be called with. -/
def Realm.wrapper (R : Realm σ α) (name source : String) (record exports : α) (w : World σ α) :
    Program σ α Unit :=
  R.code (Loader.wrap source) record exports
    ((w.enter name source record).loader.require?.getD R.undefined)

/-- What is kept of the records between two points of a run. -/
structure Follows (w w' : World σ α) (since : List (Deed α)) : Prop where
  deeds : w'.deeds = w.deeds ++ since
  kept : ∀ name record, w.loader.record? name = some record →
    ∃ record', w'.loader.record? name = some record'
  same : ∀ name record, w.loader.record? name = some record → name ∉ ran since →
    w'.loader.record? name = some record

section

variable {w w' w'' u : World σ α} {since more : List (Deed α)} {load : String → Run σ α α}
  {R : Realm σ α} {name spelling : String} {record : α}

theorem Follows.refl (w : World σ α) : Follows w w [] :=
  ⟨(List.append_nil _).symm, fun _ record hr => ⟨record, hr⟩, fun _ _ hr _ => hr⟩

theorem Follows.trans (h : Follows w w' since) (h' : Follows w' w'' more) :
    Follows w w'' (since ++ more) where
  deeds := by rw [h'.deeds, h.deeds, List.append_assoc]
  kept := by
    intro name record hr
    obtain ⟨record', hr'⟩ := h.kept name record hr
    exact h'.kept name record' hr'
  same := by
    intro name record hr hn
    rw [ran_append, List.mem_append, not_or] at hn
    exact h'.same name record (h.same name record hr hn.1) hn.2

/-- **One thing** that happens keeps the records, but for that of a module which is entered. -/
theorem Happens.follows (h : Happens w w') : ∃ since, Follows w w' since := by
  cases h with
  | change heap =>
      exact ⟨[], (List.append_nil _).symm, fun _ record hr => ⟨record, hr⟩, fun _ _ hr _ => hr⟩
  | deed d hd => exact ⟨[d], rfl, fun _ record hr => ⟨record, hr⟩, fun _ _ hr _ => hr⟩
  | enter name source record =>
      refine ⟨[.runs name (Loader.wrap source) record], rfl, fun other r hr => ?_,
        fun other r hr hn => ?_⟩
      · by_cases he : other = name
        · exact ⟨record, he ▸ Loader.record?_enter_self⟩
        · exact ⟨r, Loader.record?_enter_of_ne he hr⟩
      · refine Loader.record?_enter_of_ne ?_ hr
        rintro rfl
        exact hn (mem_ran_iff.mpr ⟨_, _, List.mem_singleton_self _⟩)

/-- **A whole run** keeps them. -/
theorem Comes.follows (h : Comes w w') : ∃ since, Follows w w' since := by
  induction h with
  | refl => exact ⟨[], .refl w⟩
  | tail _ step ih =>
      obtain ⟨since, hs⟩ := ih
      obtain ⟨more, hm⟩ := step.follows
      exact ⟨since ++ more, hs.trans hm⟩

theorem ran_enter (w : World σ α) (name source : String) (record : α) :
    ran (w.enter name source record).deeds = ran w.deeds ++ [name] := by
  rw [World.enter, World.note, ran_append]
  rfl

/-! ### Programs -/

/-- All that a program does happens in the run, if that is so of its calls. -/
theorem comes_exec_of (hl : ∀ spelling w, Comes w (load spelling w).2) (p : Program σ α ρ)
    (w : World σ α) : Comes w (exec load p w).2 := by
  induction p generalizing w with
  | done outcome => exact .refl
  | act change next ih => exact .head (.change w _) (ih w.heap _)
  | require spelling next ih => exact (hl spelling w).trans (ih _ _)

/-- A record without a value in its slot is refused. -/
theorem load_released {slot : Nat}
    (hs : w.loader.slot? (ModuleName.canonical spelling) = some slot)
    (hr : w.loader.arena.restore? slot = none) :
    Loader.load (R.host load name) spelling w =
      (.error Loader.Flaw.released.message, w.note (.refuses name .released)) := by
  have cached : w.loader.request spelling = .cached slot := by simp only [Loader.request, hs]
  have got : (R.host load name).get w = (.ok w.loader, w) := rfl
  rw [Loader.load, bind_apply]
  simp only [got, cached, hr]
  rfl

theorem comes_load (R : Realm σ α) (depth : Nat) (spelling : String) (w : World σ α) :
    Comes w (R.load depth spelling w).2 := by
  induction depth generalizing spelling w with
  | zero => exact .refl
  | succ depth ih =>
      have reads : ∀ u record, Comes u ((R.host (R.load depth)
          (ModuleName.canonical spelling)).exportsOf record u).2 := fun u record =>
        .head (.deed u (.reads _ record) rfl) (comes_exec_of ih (R.exportsOf record) _)
      rw [Realm.load]
      cases hs : w.loader.slot? (ModuleName.canonical spelling) with
      | some slot =>
          cases hr : w.loader.arena.restore? slot with
          | some record =>
              rw [load_cached (by rw [Loader.record?, hs, Option.bind_some, hr])]
              exact reads w record
          | none =>
              rw [load_released hs hr]
              exact .single (.deed w _ rfl)
      | none =>
          have hn := Loader.slot?_eq_none_iff.mp hs
          cases hm : w.loader.modules.get? (ModuleName.canonical spelling) with
          | none =>
              rw [load_missing hn hm]
              exact .single (.deed w _ rfl)
          | some source =>
              rw [load_fresh hn hm]
              -- To make the record may run code, which may require the very same module.
              have made := comes_exec_of ih R.newRecord w
              rcases hu : exec (R.load depth) R.newRecord w with ⟨e | ⟨record, exports⟩, u⟩ <;>
                rw [hu] at made
              · exact made
              have entered := made.tail (.enter u (ModuleName.canonical spelling) source record)
              have body := comes_exec_of ih
                (R.wrapper (ModuleName.canonical spelling) source record exports u)
                (u.enter (ModuleName.canonical spelling) source record)
              unfold Realm.wrapper at body
              dsimp only
              rw [bind_apply]
              split
              case h_1 v hv =>
                  rw [hv] at body
                  exact (entered.trans body).trans (reads v record)
              case h_2 e v hv =>
                  rw [hv] at body
                  exact entered.trans body

/-- **All that a program does happens in the run**, however deep its calls nest. -/
theorem comes_exec (R : Realm σ α) (depth : Nat) (p : Program σ α ρ) (w : World σ α) :
    Comes w (exec (R.load depth) p w).2 :=
  comes_exec_of (comes_load R depth) p w

/-- The jobs that follow a program happen in its run too. -/
theorem comes_drain (R : Realm σ α) (depth limit : Nat) (entry : String) (seen : Array Event)
    (w : World σ α) : Comes w (drain (R.runner depth entry).jobs limit seen w).rest := by
  refine rest_drainFrom (P := Comes w) (fun u job t hn hu => ?_) .refl
  obtain ⟨⟨job', heap⟩, -, he⟩ := Option.map_eq_some_iff.mp hn
  cases he
  -- The job is taken out of the heap, is carried out, and what was seen of it is taken too.
  have taken : Comes w { u with heap } := hu.tail (.change u heap)
  exact (taken.trans (comes_exec R depth job _)).tail (.change _ _)

/-! ### A module that fails -/

/-- A call of `require` fails inside the module: there is such a module, which was not entered
before, and once a record was made and entered, its wrapper fails. It cannot be compiled, or it
throws. -/
inductive FailsInside (R : Realm σ α) (depth : Nat) (spelling : String) (w : World σ α) :
    α → String → World σ α → Prop
  | intro {source record exports u message w'}
      (hn : ModuleName.canonical spelling ∉ w.loader.entered)
      (hm : w.loader.modules.get? (ModuleName.canonical spelling) = some source)
      (made : exec (R.load depth) R.newRecord w = (.ok (record, exports), u))
      (failed : exec (R.load depth)
        (R.wrapper (ModuleName.canonical spelling) source record exports u)
        (u.enter (ModuleName.canonical spelling) source record) = (.error message, w')) :
      FailsInside R depth spelling w record message w'

variable {depth : Nat} {message : String}

/-- Then the call throws what the wrapper did. -/
theorem FailsInside.load_eq (hf : FailsInside R depth spelling w record message w') :
    R.load (depth + 1) spelling w = (.error message, w') := by
  cases hf with
  | intro hn hm made failed =>
      rw [Realm.load, load_fresh hn hm, made]
      dsimp only
      rw [bind_apply]
      unfold Realm.wrapper at failed
      rw [failed]

/-- And the record stays, as the module's only one if the wrapper is not run again. -/
theorem FailsInside.kept (hf : FailsInside R depth spelling w record message w')
    (hc : Comes w' w'') :
    ∃ kept, w''.loader.record? (ModuleName.canonical spelling) = some kept ∧
      ((ran w''.deeds).count (ModuleName.canonical spelling) ≤ 1 → kept = record) := by
  cases hf with
  | @intro source record exports u message w' hn hm made failed =>
      have body := comes_exec R depth
        (R.wrapper (ModuleName.canonical spelling) source record exports u)
        (u.enter (ModuleName.canonical spelling) source record)
      rw [failed] at body
      obtain ⟨since, hs⟩ := Comes.follows (body.trans hc)
      -- The name was entered before the wrapper began, so it has a record ever after.
      obtain ⟨kept, hkept⟩ := hs.kept _ record Loader.record?_enter_self
      refine ⟨kept, hkept, fun once => ?_⟩
      -- This run of the wrapper is one already, so none can follow.
      have fresh : ModuleName.canonical spelling ∉ ran since := by
        intro again
        have twice := List.count_pos_iff.mpr again
        rw [hs.deeds, ran_append, ran_enter, List.count_append, List.count_append,
          List.count_singleton_self] at once
        omega
      exact Option.some.inj (hkept.symm.trans (hs.same _ record Loader.record?_enter_self fresh))

/-- **A module that failed is served like a loaded one.** At every later point of the run, `require`
reads what the record exports that was entered for the name, under whatever spelling: it runs
nothing of the module, and does not fail unless that reading does. The record is the one that the
module failed with, if its wrapper was run no second time. Every program comes to later points
only, and so do the jobs that follow it. -/
theorem failed_module_served (hf : FailsInside R depth spelling w record message w') :
    R.load (depth + 1) spelling w = (.error message, w') ∧
      (∀ w'', Comes w' w'' → ∃ kept,
        w''.loader.record? (ModuleName.canonical spelling) = some kept ∧
        ((ran w''.deeds).count (ModuleName.canonical spelling) ≤ 1 → kept = record) ∧
        ∀ depth' again, ModuleName.canonical again = ModuleName.canonical spelling →
          R.load (depth' + 1) again w'' = exec (R.load depth') (R.exportsOf kept)
            (w''.note (.reads (ModuleName.canonical spelling) kept))) ∧
      (∀ {ρ : Type} (p : Program σ α ρ) (depth' : Nat) (u : World σ α),
        Comes u (exec (R.load depth') p u).2) ∧
      ∀ (depth' limit : Nat) (entry : String) (seen : Array Event) (u : World σ α),
        Comes u (drain (R.runner depth' entry).jobs limit seen u).rest := by
  refine ⟨hf.load_eq, fun w'' hc => ?_, fun p depth' u => comes_exec R depth' p u,
    fun depth' limit entry seen u => comes_drain R depth' limit entry seen u⟩
  obtain ⟨kept, hkept, same⟩ := hf.kept hc
  refine ⟨kept, hkept, same, fun depth' again he => ?_⟩
  rw [Realm.load, load_cached (he ▸ hkept), he]
  rfl

end

/-- No module that has failed is taken for a loaded one: from then on, no `require` of it returns
anything. -/
def RemembersFailures (R : Realm σ α) : Prop :=
  ∀ depth spelling w record message w', FailsInside R depth spelling w record message w' →
    ∀ w'', Comes w' w'' → ∀ depth' again,
      ModuleName.canonical again = ModuleName.canonical spelling →
        ∀ v u, R.load depth' again w'' ≠ (.ok v, u)

/-- A realm of two texts. The main module requires the other one under two spellings, and writes
down what that comes to. The other one changes what it exports, and fails. -/
def Realm.broken : Realm (Nat × List (Except String Nat)) Nat where
  newRecord := .done (.ok (0, 0))
  exportsOf _ := .act id fun heap => .done (.ok heap.1)
  code text _ _ _ :=
    if text = Loader.wrap "main" then
      .require "b" fun first => .act (fun heap => (heap.1, heap.2 ++ [first])) fun _ =>
        .require "./b" fun second => .act (fun heap => (heap.1, heap.2 ++ [second])) fun _ =>
          .done (.ok ())
    else .act (fun heap => (1, heap.2)) fun _ => .done (.error "broken")
  toJson _ := .done (.ok .null)
  next? _ := none
  seen heap := (#[], heap)
  undefined := 0
  require := 0

/-- Where an evaluation in that realm begins. -/
def brokenStart : World (Nat × List (Except String Nat)) Nat :=
  Realm.broken.start recordModules (0, [])

/-- The other module fails when it is required, and again it is served with what it had changed by
then. -/
theorem broken_module_served : ∃ w', FailsInside Realm.broken 1 "b" brokenStart 0 "broken" w' ∧
    Realm.broken.load 2 "b" brokenStart = (.error "broken", w') ∧
      (Realm.broken.load 2 "./b" w').1 = .ok 1 := by
  have fails : FailsInside Realm.broken 1 "b" brokenStart 0 "broken" _ :=
    .intro (by decide) rfl rfl rfl
  obtain ⟨thrown, later, -⟩ := failed_module_served fails
  obtain ⟨kept, -, -, served⟩ := later _ .refl
  refine ⟨_, fails, thrown, ?_⟩
  rw [served 1 "./b" (by decide)]
  rfl

/-- **Half of a module** is what `require` returns after the module has failed. -/
theorem half_initialized_served :
    (evaluate (Realm.broken.runner 3 "main") 0 brokenStart).2.heap.2 =
        [.error "broken", .ok 1] ∧
      ¬ RemembersFailures Realm.broken := by
  refine ⟨rfl, fun h => ?_⟩
  have fails : FailsInside Realm.broken 1 "b" brokenStart 0 "broken" _ :=
    .intro (by decide) rfl rfl rfl
  exact h _ _ _ _ _ _ fails _ .refl 2 "./b" (by decide) 1 _ rfl

end Loading

end PatchSandbox
