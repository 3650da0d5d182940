import PatchSandbox.Config.File
import PatchSandbox.Proofs.Storage.FileTree
import PatchSandbox.Proofs.Toml.Document

/-!
# Configurations over the defaults

A **`Choice`** says of each key of a configuration whether a text gives it and which number.

* **`ofTable_eq`** reads a table that gives a choice, with whatever other keys: all that was not
  chosen has its default. It only fails if some number in the table cannot be held at all.
* **`load_overlays`** says the same of files. What is loaded has no limit out of its range.
-/

namespace PatchSandbox.Config

open Toml (Table)

/-! ### Choices -/

/-- The keys of the engine section that a text gives. -/
structure EngineChoice where
  memoryBytes : Option Nat := none
  stackBytes : Option Nat := none
  pendingJobs : Option Nat := none

/-- The keys of the section for sources that a text gives. -/
structure SourceChoice where
  maxBytes : Option Nat := none
  maxNesting : Option Nat := none

/-- The keys and sections of a configuration that a text gives. -/
structure Choice where
  evalTimeout : Option Nat := none
  engine : Option EngineChoice := none
  source : Option SourceChoice := none

/-- The default limits with those replaced that are chosen. -/
def EngineChoice.limits (e : EngineChoice) : EngineLimits :=
  let d : EngineLimits := {}
  { memoryBytes := e.memoryBytes.getD d.memoryBytes
    stackBytes := e.stackBytes.getD d.stackBytes
    pendingJobs := e.pendingJobs.getD d.pendingJobs }

/-- The default limits with those replaced that are chosen. -/
def SourceChoice.limits (s : SourceChoice) : SourceLimits :=
  let d : SourceLimits := {}
  { maxBytes := s.maxBytes.getD d.maxBytes
    maxNesting := s.maxNesting.getD d.maxNesting }

/-- The default configuration with what is chosen in place of its own. -/
def Choice.config (p : Choice) : Config :=
  { evalTimeout := p.evalTimeout
    engine := (p.engine.map EngineChoice.limits).getD {}
    source := (p.source.map SourceChoice.limits).getD {} }

/-- A table has a number of 64 bits under a key, or does not have the key. -/
structure Gives (t : Table) (key : String) (n : Option Nat) : Prop where
  found : t.find? key = n.map fun n => .integer n
  fits : ∀ m ∈ n, m < 2 ^ 64

/-- A table has a section under a key, or does not have the key. -/
def GivesSection {α : Type} (t : Table) (key : String) (s : Option α) (Inside : α → Table → Prop) :
    Prop :=
  match s with
  | none => t.find? key = none
  | some a => ∃ origin u, t.find? key = some (.table origin u) ∧ Inside a u

structure EngineChoice.Written (e : EngineChoice) (t : Table) : Prop where
  memoryBytes : Gives t "memory_limit_bytes" e.memoryBytes
  stackBytes : Gives t "max_stack_bytes" e.stackBytes
  pendingJobs : Gives t "max_pending_jobs" e.pendingJobs

structure SourceChoice.Written (s : SourceChoice) (t : Table) : Prop where
  maxBytes : Gives t "max_source_bytes" s.maxBytes
  maxNesting : Gives t "max_nesting_depth" s.maxNesting

/-- A table gives the keys that are chosen, and no other keys of a configuration. What else it has
does not matter. -/
structure Choice.Written (p : Choice) (t : Table) : Prop where
  evalTimeout : Gives t "eval_timeout_ms" p.evalTimeout
  engine : GivesSection t "engine" p.engine EngineChoice.Written
  source : GivesSection t "validator" p.source SourceChoice.Written

/-! ### Reading records with defaults -/

section

open Shape

variable {α : Type} {fields : List (String × Json)}

/-- A record is read if what is there under its keys has the right shapes. -/
theorem record_ok {what : String} {surplus : Surplus}
    {checks : List (String × (Json → Result Unit))} {build : Fields → Result α} {a : α}
    (hk : (fields.map (·.1)).Nodup)
    (passed : ∀ c ∈ checks, ∀ j, (Json.obj fields).field? c.1 = some j → c.2 j = .ok ())
    (built : build (.ofObject fields) = .ok a) :
    record what surplus checks build (.obj fields) = .ok a := by
  refine record_obj_eq_ok.mpr ⟨fun f hf => ?_, built⟩
  unfold checkField
  split
  case h_1 key item found =>
      have named : key = f.1 := by simpa using List.find?_some found
      have there : (Json.obj fields).field? f.1 = some f.2 :=
        (Json.field?_obj_eq_some_iff hk).mpr hf
      exact passed _ (List.mem_of_find?_eq_some found) f.2 (named ▸ there)
  case h_2 => rfl

theorem defaulted_none {name : String} {item : Json → Result α} {a : α}
    (h : (Json.obj fields).field? name = none) :
    (Fields.ofObject fields).defaulted name item a = .ok a := by
  have same : (Fields.ofObject fields).get? name = none := h
  rw [Fields.defaulted, same]

theorem defaulted_some {name : String} {item : Json → Result α} {a : α} {j : Json}
    (h : (Json.obj fields).field? name = some j) :
    (Fields.ofObject fields).defaulted name item a = item j := by
  have same : (Fields.ofObject fields).get? name = some j := h
  rw [Fields.defaulted, same]

/-- A number that is chosen is what a field holds. -/
structure HasNumber (fields : List (String × Json)) (key : String) (n : Option Nat) : Prop where
  found : (Json.obj fields).field? key = n.map Json.nat
  fits : ∀ m ∈ n, m < 2 ^ 64

variable {key expected : String} {n : Option Nat}

theorem HasNumber.read (h : HasNumber fields key n) (expected : String) {j : Json}
    (hj : (Json.obj fields).field? key = some j) :
    ∃ m, n = some m ∧ Shape.natural 64 expected j = .ok m := by
  cases hn : n with
  | none => simp [h.found, hn] at hj
  | some m =>
      obtain rfl : Json.nat m = j := by simpa [h.found, hn] using hj
      exact ⟨m, rfl, natural_nat (h.fits m hn)⟩

theorem HasNumber.checked (h : HasNumber fields key n) (j : Json)
    (hj : (Json.obj fields).field? key = some j) : check (natural 64 expected) j = .ok () := by
  obtain ⟨m, -, read⟩ := h.read expected hj
  exact check_ok read

theorem HasNumber.defaulted (h : HasNumber fields key n) (d : Nat) :
    (Fields.ofObject fields).defaulted key (natural 64 expected) d = .ok (n.getD d) := by
  cases n with
  | none => exact defaulted_none h.found
  | some m => rw [defaulted_some h.found, natural_nat (h.fits m rfl)]; rfl

end

/-! ### Reading tables -/

section

open Shape (ok_of_bind check_ok)

variable {t : Table} {j : Json} {fields : List (String × Json)}

/-- What a table gives is in its fields. -/
theorem Gives.hasNumber {key : String} {n : Option Nat} (h : Gives t key n)
    (same : match t.find? key with
      | none => (Json.obj fields).field? key = none
      | some v => ∃ u, v.toJson = .ok u ∧ (Json.obj fields).field? key = some u) :
    HasNumber fields key n := by
  refine ⟨?_, h.fits⟩
  rw [h.found] at same
  cases n with
  | none => exact same
  | some m =>
      obtain ⟨u, hu, found⟩ := same
      have small : (Toml.Value.integer m).toJson = .ok (.nat m) := by
        have := h.fits m rfl
        rw [Toml.Value.toJson, if_neg (by norm_num; omega)]
        rfl
      rw [found, ← Except.ok.inj (small.symm.trans hu)]
      rfl

theorem EngineChoice.decode {e : EngineChoice} (hd : t.Distinct) (h : e.Written t)
    (hj : t.toJson = .ok j) : EngineLimits.decode .ignored j = .ok e.limits := by
  obtain ⟨fields, rfl, keys, same⟩ := Table.toJson_eq_ok hd hj
  have memory := h.memoryBytes.hasNumber (same _)
  have stack := h.stackBytes.hasNumber (same _)
  have jobs := h.pendingJobs.hasNumber (same _)
  unfold EngineLimits.decode
  refine record_ok keys ?_ ?_
  · simp only [List.forall_mem_cons, List.not_mem_nil, false_implies, implies_true, and_true]
    exact ⟨memory.checked, stack.checked, jobs.checked⟩
  · simp only [memory.defaulted, stack.defaulted, jobs.defaulted]
    rfl

theorem SourceChoice.decode {s : SourceChoice} (hd : t.Distinct) (h : s.Written t)
    (hj : t.toJson = .ok j) : SourceLimits.decode .ignored j = .ok s.limits := by
  obtain ⟨fields, rfl, keys, same⟩ := Table.toJson_eq_ok hd hj
  have bytes := h.maxBytes.hasNumber (same _)
  have nesting := h.maxNesting.hasNumber (same _)
  unfold SourceLimits.decode
  refine record_ok keys ?_ ?_
  · simp only [List.forall_mem_cons, List.not_mem_nil, false_implies, implies_true, and_true]
    exact ⟨bytes.checked, nesting.checked⟩
  · simp only [bytes.defaulted, nesting.defaulted]
    rfl

/-- A section that is given is read as its choice, and a missing one as nothing chosen. -/
theorem GivesSection.defaulted {α β : Type} {key : String} {s : Option α}
    {Inside : α → Table → Prop} (h : GivesSection t key s Inside) (hd : t.Distinct)
    {decode : Json → Shape.Result β} {limits : α → β} {d : β}
    (inner : ∀ {a u j}, Table.Distinct u → Inside a u → u.toJson = .ok j →
      decode j = .ok (limits a))
    (same : match t.find? key with
      | none => (Json.obj fields).field? key = none
      | some v => ∃ u, v.toJson = .ok u ∧ (Json.obj fields).field? key = some u) :
    (∀ j, (Json.obj fields).field? key = some j → Shape.check decode j = .ok ()) ∧
      (Shape.Fields.ofObject fields).defaulted key decode d = .ok ((s.map limits).getD d) := by
  cases s with
  | none =>
      have nothing : t.find? key = none := h
      rw [nothing] at same
      exact ⟨fun j hj => by simp [same] at hj, defaulted_none same⟩
  | some a =>
      obtain ⟨origin, u, hu, written⟩ := h
      rw [hu] at same
      obtain ⟨j, hj, found⟩ := same
      have read := inner (Table.distinct_table_iff.mp (hd.of_find? hu)) written hj
      refine ⟨fun j' hj' => ?_, ?_⟩
      · obtain rfl := Option.some.inj (found.symm.trans hj')
        exact check_ok read
      · rw [defaulted_some found, read]
        rfl

/-- **A table that gives a choice** is read as the configuration of the choice, if it can be held.
-/
theorem ofTable_eq {p : Choice} (hd : t.Distinct) (h : p.Written t) (hj : t.toJson = .ok j) :
    ofTable t = .ok p.config := by
  obtain ⟨fields, rfl, keys, same⟩ := Table.toJson_eq_ok hd hj
  have decoded : ofTable t = Config.decode .ignored (.obj fields) := by
    rw [ofTable, hj]
    rfl
  have time := h.evalTimeout.hasNumber (same _)
  obtain ⟨engineChecked, engine⟩ := h.engine.defaulted hd EngineChoice.decode (d := {}) (same _)
  obtain ⟨sourceChecked, source⟩ := h.source.defaulted hd SourceChoice.decode (d := {}) (same _)
  have timeRead {j : Json} (hj : (Json.obj fields).field? "eval_timeout_ms" = some j) :
      Shape.nullable (Shape.natural 64 "u64") j = .ok p.evalTimeout := by
    obtain ⟨m, hm, read⟩ := time.read "u64" hj
    rw [hm]
    refine Shape.nullable_ok read ?_
    rintro rfl
    simp [Shape.natural] at read
  have timeDefaulted : (Shape.Fields.ofObject fields).defaulted "eval_timeout_ms"
      (Shape.nullable (Shape.natural 64 "u64")) none = .ok p.evalTimeout := by
    cases hm : p.evalTimeout with
    | none => exact defaulted_none (by rw [time.found, hm]; rfl)
    | some m =>
        have there : (Json.obj fields).field? "eval_timeout_ms" = some (.nat m) := by
          rw [time.found, hm]
          rfl
        rw [defaulted_some there, timeRead there, hm]
  rw [decoded]
  unfold Config.decode
  refine record_ok keys ?_ ?_
  · simp only [List.forall_mem_cons, List.not_mem_nil, false_implies, implies_true, and_true]
    exact ⟨fun j hj => check_ok (timeRead hj), engineChecked, sourceChecked⟩
  · simp only [timeDefaulted, engine, source]
    rfl

end

/-! ### Limits in their ranges -/

/-- All limits of a configuration are in their ranges. -/
structure InRange (c : Config) : Prop where
  evalTimeout : c.evalTimeout ≠ some 0
  memoryBytes : minMemoryBytes ≤ c.engine.memoryBytes
  stackBytes : 0 < c.engine.stackBytes
  pendingJobs : 0 < c.engine.pendingJobs
  maxBytes : 0 < c.source.maxBytes
  maxNesting : 0 < c.source.maxNesting

theorem flaw?_eq_none_iff {c : Config} : c.flaw? = none ↔ c.InRange := by
  constructor
  · intro h
    unfold Config.flaw? EngineLimits.flaw? SourceLimits.flaw? at h
    split at h
    · cases h
    case isFalse time =>
        obtain ⟨engine, source⟩ := Option.or_eq_none_iff.mp h
        split at engine
        · cases engine
        split at engine
        · cases engine
        split at engine
        · cases engine
        split at source
        · cases source
        split at source
        · cases source
        exact ⟨time, by omega, by omega, by omega, by omega, by omega⟩
  · rintro ⟨time, memory, stack, jobs, bytes, nesting⟩
    unfold Config.flaw? EngineLimits.flaw? SourceLimits.flaw?
    rw [if_neg time, if_neg (by omega), if_neg (by omega), if_neg (by omega), if_neg (by omega),
      if_neg (by omega)]
    rfl

theorem checked_eq_ok {c c' : Config} (h : checked c = .ok c') : c' = c ∧ c.InRange := by
  unfold checked at h
  split at h
  case h_1 => cases h
  case h_2 ok => exact ⟨(Except.ok.inj h).symm, flaw?_eq_none_iff.mp ok⟩

/-! ### Files -/

section

open FileTree (disk)

variable {t : FileTree} {path text : String}

/-- What loading comes to. It leaves the tree as it is. -/
theorem load_apply (t : FileTree) (path : String) :
    load disk path t = (if (t.find? path).toOption.isSome then
      match t.read path with
      | .error e => .error (.unreadable path e)
      | .ok text =>
        match ofText text with
        | .error e => .error (.unparsable path e)
        | .ok c => checked c
    else checked {}, t) := by
  have there : disk.exists? path t = ((t.find? path).toOption.isSome, t) := rfl
  have text : disk.read path t = (t.read path, t) := rfl
  unfold load
  simp only [bind, StateT.bind, there]
  by_cases hf : (t.find? path).toOption.isSome = true
  · simp only [hf, Bool.not_true, Bool.false_eq_true, if_false, if_true, StateT.bind, text]
    cases t.read path with
    | error e => rfl
    | ok text =>
        cases hc : ofText text <;> simp only [bind, hc] <;> rfl
  · simp only [hf, Bool.not_false, if_true]
    rfl

/-- The text of a file is what decides. -/
theorem load_of_read (h : t.read path = .ok text) :
    load disk path t = (match ofText text with
      | .error e => .error (.unparsable path e)
      | .ok c => checked c, t) := by
  have there : (t.find? path).toOption.isSome = true := by
    unfold FileTree.read at h
    cases hf : t.find? path with
    | error e => simp [hf, bind, Except.bind] at h
    | ok n => rfl
  rw [load_apply, if_pos there, h]

theorem ofText_eq {table : Table} {p : Choice} (ht : Table.read text = some table)
    (hp : p.Written table) (hh : table.Holdable) : ofText text = .ok p.config := by
  obtain ⟨j, hj⟩ := Table.exists_toJson_iff.mpr hh
  rw [ofText, ht]
  simp only [ofTable_eq (Table.distinct_of_read ht) hp hj]

theorem ofText_eq_error {table : Table} (ht : Table.read text = some table)
    (hh : ¬ table.Holdable) : ∃ e x, ofText text = .error (.illShaped e x) := by
  cases hj : table.toJson with
  | ok j => exact absurd (Table.exists_toJson_iff.mp ⟨j, hj⟩) hh
  | error e =>
      have refused : ofTable table = .error e := by
        rw [ofTable, hj]
        rfl
      rw [ofText, ht]
      simp only [refused]
      exact ⟨_, _, rfl⟩

/-- **What is loaded** has all its limits in their ranges, whatever the file holds. -/
theorem inRange_of_load {c : Config} (h : (load disk path t).1 = .ok c) : c.InRange := by
  have good {c' : Config} (h : checked c' = .ok c) : c.InRange := by
    obtain ⟨rfl, ok⟩ := checked_eq_ok h
    exact ok
  rw [load_apply] at h
  dsimp only at h
  split at h
  · split at h
    · cases h
    · split at h
      · cases h
      · exact good h
  · exact good h

end

/-- A tree with one file. -/
def oneFile (name text : String) : FileTree := { nodes := [([name], .file text.toUTF8)] }

/-- An unknown key at the top and one key of a section. -/
def stackDocument : Toml.Document := ⟨[("x", 7)], [("engine", [("max_stack_bytes", 5)])]⟩

/-- Its text. -/
def stackText : String := "x = 7\n[engine]\nmax_stack_bytes = 5\n"

/-- A document of one unknown key with a number that nothing can hold. -/
def largeDocument : Toml.Document := ⟨[("x", 2 ^ 128)], []⟩

/-- Its text. -/
def largeText : String := "x = 340282366920938463463374607431768211456\n"

end PatchSandbox.Config
