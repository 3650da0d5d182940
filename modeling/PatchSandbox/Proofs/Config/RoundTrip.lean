import PatchSandbox.Proofs.Config.Overlay
import PatchSandbox.Proofs.Config.Save

/-!
# Saving is all or nothing

* **`ofText_render`** says that the text of a configuration is read as the configuration.
* **`save_all_or_nothing`** says what saving means for the file at the target. After a success the
  configuration is loaded from there. After a failure the file is the one that was there before, if
  there was one.

What a failure can do is to let the path lead somewhere that it did not lead before: the directories
on the way are made first, and once they are there, a step up from them may lead to a file. A path
without steps up, or one whose directory was there, has the same file as before or none, as before.
-/

namespace PatchSandbox.Config

open FileTree (disk Grows)
open FilePath (steps)
open Toml.Reader (Line)

variable {t t' : FileTree} {path name : String} {d : Place} {content : ByteArray} {c : Config}

/-! ### The text of a configuration -/

/-- All limits are numbers of 64 bits. -/
structure Fits (c : Config) : Prop where
  evalTimeout : ∀ ms ∈ c.evalTimeout, ms < 2 ^ 64
  memoryBytes : c.engine.memoryBytes < 2 ^ 64
  stackBytes : c.engine.stackBytes < 2 ^ 64
  pendingJobs : c.engine.pendingJobs < 2 ^ 64
  maxBytes : c.source.maxBytes < 2 ^ 64
  maxNesting : c.source.maxNesting < 2 ^ 64

/-- All keys are chosen, but for the timeout if there is none. -/
def whole (c : Config) : Choice :=
  { evalTimeout := c.evalTimeout
    engine := some
      { memoryBytes := some c.engine.memoryBytes
        stackBytes := some c.engine.stackBytes
        pendingJobs := some c.engine.pendingJobs }
    source := some { maxBytes := some c.source.maxBytes, maxNesting := some c.source.maxNesting } }

/-- The keys of the engine section. -/
def engineNumbers (c : Config) : Toml.Numbers :=
  [("memory_limit_bytes", c.engine.memoryBytes), ("max_stack_bytes", c.engine.stackBytes),
    ("max_pending_jobs", c.engine.pendingJobs)]

/-- The keys of the section for sources. -/
def sourceNumbers (c : Config) : Toml.Numbers :=
  [("max_source_bytes", c.source.maxBytes), ("max_nesting_depth", c.source.maxNesting)]

/-- The document of a configuration. -/
def document (c : Config) : Toml.Document where
  top := match c.evalTimeout with
    | some ms => [("eval_timeout_ms", ms)]
    | none => []
  sections := [("engine", c.engineNumbers), ("validator", c.sourceNumbers)]

/-- The lines of a configuration. -/
def lines (c : Config) : List Line :=
  (match c.evalTimeout with
    | some ms => [.number ["eval_timeout_ms"] ms, .blank]
    | none => []) ++
  [.header ["engine"], .number ["memory_limit_bytes"] c.engine.memoryBytes,
    .number ["max_stack_bytes"] c.engine.stackBytes,
    .number ["max_pending_jobs"] c.engine.pendingJobs, .blank,
    .header ["validator"], .number ["max_source_bytes"] c.source.maxBytes,
    .number ["max_nesting_depth"] c.source.maxNesting, .blank]

theorem config_whole (c : Config) : c.whole.config = c := rfl

theorem toList_render (c : Config) : c.render.toList = c.lines.flatMap Line.text := by
  have line (key : String) (n : Nat) :
      (numberLine key n).toList = (Line.number [key] n).text := by
    simp [numberLine, Line.text, Toml.Reader.keyText]
  unfold render lines
  cases c.evalTimeout <;> simp [line, Line.text, Toml.Reader.keyText]

/-- The keys of a configuration need no quotes. -/
theorem isBarePath_of_mem : ∀ key ∈ ["eval_timeout_ms", "engine", "memory_limit_bytes",
    "max_stack_bytes", "max_pending_jobs", "validator", "max_source_bytes", "max_nesting_depth"],
    Toml.Reader.IsBarePath [key] := by
  decide +kernel

theorem lines_plain (c : Config) : ∀ l ∈ c.lines, l.IsPlain := by
  unfold lines
  cases c.evalTimeout <;> simp [Line.IsPlain, isBarePath_of_mem]

theorem states_lines (c : Config) : c.lines.filterMap Line.statement? = c.document.statements := by
  unfold lines document
  cases c.evalTimeout <;> rfl

theorem distinct_document (c : Config) : c.document.Distinct := by
  refine ⟨?_, by simp [document, engineNumbers, sourceNumbers]⟩
  unfold document
  cases c.evalTimeout <;> simp

theorem gives_numbers {es : Toml.Numbers} {key : String} {n : Nat} (h : es.lookup key = some n)
    (fits : n < 2 ^ 64) : Gives es.table key (some n) :=
  ⟨by rw [Toml.Numbers.find?_table, h]; rfl, by simpa using fits⟩

/-- The document gives all keys, but for the timeout if there is none. -/
theorem written_whole (h : c.Fits) : c.whole.Written c.document.table where
  evalTimeout := by
    refine ⟨?_, h.evalTimeout⟩
    rw [Toml.Document.find?_table]
    unfold document whole
    cases c.evalTimeout <;> rfl
  engine := by
    refine ⟨.opened, c.engineNumbers.table, ?_, gives_numbers rfl h.memoryBytes,
      gives_numbers rfl h.stackBytes, gives_numbers rfl h.pendingJobs⟩
    rw [Toml.Document.find?_table]
    unfold document
    cases c.evalTimeout <;> rfl
  source := by
    refine ⟨.opened, c.sourceNumbers.table, ?_, gives_numbers rfl h.maxBytes,
      gives_numbers rfl h.maxNesting⟩
    rw [Toml.Document.find?_table]
    unfold document
    cases c.evalTimeout <;> rfl

theorem holdable_document (h : c.Fits) : c.document.table.Holdable := by
  have large {n : Nat} (hn : n < 2 ^ 64) : n < 2 ^ 128 := by omega
  rw [Toml.Document.holdable_iff]
  unfold document engineNumbers sourceNumbers
  simp only [List.forall_mem_cons, List.not_mem_nil, false_implies, implies_true, and_true]
  refine ⟨?_, ⟨large h.memoryBytes, large h.stackBytes, large h.pendingJobs⟩, large h.maxBytes,
    large h.maxNesting⟩
  cases ht : c.evalTimeout with
  | none => simp
  | some ms => simpa using large (h.evalTimeout ms ht)

/-- **The text of a configuration** is read as the configuration. -/
theorem ofText_render (h : c.Fits) : ofText c.render = .ok c := by
  have read := Toml.Document.read_text c.distinct_document c.lines c.lines_plain c.states_lines
    c.toList_render
  exact ofText_eq read (written_whole h) (holdable_document h)

/-! ### The file at the target -/

/-- What a path leads to in the directory depends on the directory alone, unless it is one itself.
-/
theorem locate_of_same (hn : FilePath.name? path = some name)
    (hd : t.locate (directoryOf path) = .ok d) (keeps : FileTree.Keeps t t')
    (same : t'.node? d = t.node? d) (free : t'.node? (d ++ [name]) ≠ some .directory)
    (h : t'.locate path = .ok (d ++ [name])) : t.locate path = .ok (d ++ [name]) := by
  obtain ⟨parts, root⟩ := steps_eq_directoryOf hn
  obtain ⟨some_text, noNul, walked, directory⟩ := FileTree.locate_eq_ok_iff.mp h
  obtain ⟨-, -, above, -⟩ := FileTree.locate_eq_ok_iff.mp hd
  have origin : t.origin path = t.origin (directoryOf path) := by
    rw [FileTree.origin, FileTree.origin, root]
  rw [keeps.origin, origin, parts, FileTree.walk_concat] at walked
  obtain ⟨d', walked, step⟩ := walked
  obtain rfl := Except.ok.inj (walked.symm.trans (keeps.walk above))
  refine FileTree.locate_eq_ok_iff.mpr
    ⟨some_text, noNul, ?_, fun ends => absurd (directory ends) free⟩
  rw [origin, parts, FileTree.walk_concat]
  exact ⟨d', above, (FileTree.follow_congr same.symm).trans step⟩

/-- What is staged in a directory that is there does not matter to the target. -/
theorem fileAt?_stagedIn (hn : FilePath.name? path = some name)
    (hd : t.locate (directoryOf path) = .ok d)
    (free : t.node? (stagingPlace d name) ≠ some .directory) :
    (stagedIn t d name content).fileAt? path = t.fileAt? path := by
  have kept : FileTree.Keeps t (stagedIn t d name content) := keeps_stagedIn free
  refine Option.ext fun bytes => ?_
  simp only [FileTree.fileAt?_eq_some_iff]
  constructor
  · rintro ⟨q, leads, file⟩
    obtain ⟨d', found, -, rfl⟩ := directory_of_target hn leads
    obtain rfl := Except.ok.inj (found.symm.trans (kept.locate hd))
    have inside : d' ≠ stagingPlace d' name := by simp [stagingPlace]
    refine ⟨_, locate_of_same hn hd kept (node?_stagedIn_of_ne inside) (by simp [file]) leads, ?_⟩
    rwa [node?_stagedIn_of_ne (target_ne_staging _ name)] at file
  · rintro ⟨q, leads, file⟩
    obtain ⟨d', found, -, rfl⟩ := directory_of_target hn leads
    obtain rfl := Except.ok.inj (found.symm.trans hd)
    refine ⟨_, kept.locate leads, ?_⟩
    rwa [node?_stagedIn_of_ne (target_ne_staging _ name)]

/-- New directories do not take a file away, and every file that a path leads to was there. -/
theorem fileAt?_of_grows {way : String} (h : Grows way t t') (content : ByteArray) :
    (t.fileAt? path = some content → t'.fileAt? path = some content) ∧
      (t'.fileAt? path = some content →
        ∃ q, t'.locate path = .ok q ∧ t.node? q = some (.file content)) := by
  simp only [FileTree.fileAt?_eq_some_iff]
  constructor
  · rintro ⟨q, leads, file⟩
    refine ⟨q, h.keeps.locate leads, ?_⟩
    obtain same | ⟨none, -⟩ := h.node q
    · rw [same, file]
    · simp [file] at none
  · rintro ⟨q, leads, file⟩
    refine ⟨q, leads, ?_⟩
    obtain same | ⟨-, made, -⟩ := h.node q
    · rw [← same, file]
    · simp [file] at made

/-- A path without steps up leads to the same file or to none, as before. -/
theorem fileAt?_eq_of_grows {way : String} (h : Grows way t t') (tree : t.IsTree)
    (up : ['.', '.'] ∉ steps path) : t'.fileAt? path = t.fileAt? path := by
  refine Option.ext fun content => ⟨fun found => ?_, (fileAt?_of_grows h content).1⟩
  obtain ⟨q, leads, file⟩ := (fileAt?_of_grows h content).2 found
  have there : t'.node? q ≠ some .directory := by
    obtain same | ⟨none, -⟩ := h.node q
    · simp [same, file]
    · simp [file] at none
  exact FileTree.fileAt?_eq_some_iff.mpr
    ⟨q, tree.locate h.here up leads (by simp [file]) fun made => absurd made there, file⟩

/-- **The file at the target after a failure** is that of a tree with the same files. -/
theorem fileAt?_of_error {overwrite : Bool} {e : ConfigError}
    (h : save disk path c overwrite t = (.error e, t')) :
    ∃ t₁, Grows (directoryOf path) t t₁ ∧
      (t.find? (directoryOf path) = .ok .directory → t₁ = t) ∧ FileTree.Keeps t₁ t' ∧
      t'.fileAt? path = t₁.fileAt? path := by
  obtain ⟨-, rfl⟩ | ⟨-, grows, same⟩ | ⟨-, t₁, name, d, ready, rfl⟩ := save_eq_error h
  · exact ⟨_, .refl _ _, fun _ => rfl, .refl _, rfl⟩
  · exact ⟨_, grows, same, .refl _, rfl⟩
  · exact ⟨t₁, ready.grows, ready.same, keeps_stagedIn ready.free,
      fileAt?_stagedIn ready.named ready.leads ready.free⟩

/-- What was saved is loaded. -/
theorem load_of_save {overwrite : Bool} (fits : c.Fits)
    (h : save disk path c overwrite t = (.ok (), t')) :
    c.flaw? = none ∧ load disk path t' = (.ok c, t') := by
  obtain ⟨ok, -, t₁, name, d, -, -, leads, rfl⟩ := save_eq_ok h
  have text := FileTree.read_of_find? (FileTree.find?_eq_ok_iff.mpr
    ⟨_, leads, node?_installedIn_target⟩)
  refine ⟨ok, ?_⟩
  rw [load_of_read text, ofText_render fits]
  simp only [checked, ok]

/-- **Saving is all or nothing**, for every tree, path and configuration of 64-bit limits. -/
theorem save_all_or_nothing {t : FileTree} (tree : t.IsTree) (path : String) {c : Config}
    (fits : c.Fits) (overwrite : Bool) :
    (∀ t', save disk path c overwrite t = (.ok (), t') →
      c.flaw? = none ∧ load disk path t' = (.ok c, t')) ∧
    (∀ n, t.find? path = .ok n → overwrite = false → (save disk path c overwrite t).1 ≠ .ok ()) ∧
    ∀ e t', save disk path c overwrite t = (.error e, t') →
      (∀ content, t.fileAt? path = some content → t'.fileAt? path = some content) ∧
      (∀ content, t'.fileAt? path = some content →
        ∃ q, t'.locate path = .ok q ∧ t.node? q = some (.file content)) ∧
      (t.find? (directoryOf path) = .ok .directory ∨ ['.', '.'] ∉ steps path →
        t'.fileAt? path = t.fileAt? path) := by
  refine ⟨fun t' h => load_of_save fits h, fun n hn replace h => ?_, fun e t' h => ?_⟩
  · obtain ⟨-, free, -⟩ := save_eq_ok (Prod.ext h (Eq.refl (save disk path c overwrite t).2))
    exact free replace n hn
  · obtain ⟨t₁, grows, same, keeps, file⟩ := fileAt?_of_error h
    rw [file]
    refine ⟨fun content => (fileAt?_of_grows grows content).1, fun content found => ?_, ?_⟩
    · obtain ⟨q, leads, old⟩ := (fileAt?_of_grows grows content).2 found
      exact ⟨q, keeps.locate leads, old⟩
    · rintro (there | up)
      · rw [same there]
      · exact fileAt?_eq_of_grows grows tree up

/-- The default configuration is loaded from where it was saved; a file is not replaced unless asked
for, and it is still there after saving has failed. -/
theorem default_saved_and_loaded :
    load disk "c" (save disk "c" {} false {}).2 = (.ok {}, (save disk "c" {} false {}).2) ∧
      (save disk "c" {} false (oneFile "c" "old")).1 ≠ .ok () ∧
      (save disk "c" {} false (oneFile "c" "old")).2.fileAt? "c" =
        (oneFile "c" "old").fileAt? "c" := by
  have fits : Fits {} := ⟨by simp, by decide, by decide, by decide, by decide, by decide⟩
  have empty : FileTree.IsTree {} := FileTree.isTree_of_nodes (by simp)
  have tree : (oneFile "c" "old").IsTree :=
    FileTree.isTree_of_nodes (by simp [oneFile, FileTree.node?_root])
  have ok : (save disk "c" {} false {}).1 = .ok () := rfl
  have failed : (save disk "c" {} false (oneFile "c" "old")).1 = .error (.occupied "c") := rfl
  obtain ⟨loaded, -, -⟩ := save_all_or_nothing empty "c" fits false
  obtain ⟨-, kept, left⟩ := save_all_or_nothing tree "c" fits false
  exact ⟨(loaded _ (by rw [← ok, Prod.eta])).2, kept (.file "old".toUTF8) rfl rfl,
    (left (.occupied "c") (save disk "c" {} false (oneFile "c" "old")).2
      (by rw [← failed, Prod.eta])).2.2 (.inl rfl)⟩

/-- A file below where paths begin, and a directory in the way of the text to be staged. -/
def stagingBlocked : FileTree :=
  { nodes := [(["b"], .file "old".toUTF8), ([".b.partial"], .directory)] }

/-- A path that goes up from a missing directory leads to no file; once saving has made the
directory and failed, it leads to one. -/
theorem failure_reveals_file :
    (save disk "a/../b" {} true stagingBlocked).1 =
        .error (.notStaged "a/../.b.partial" .isDirectory) ∧
      stagingBlocked.IsTree ∧ stagingBlocked.fileAt? "a/../b" = none ∧
      (save disk "a/../b" {} true stagingBlocked).2.fileAt? "a/../b" = some "old".toUTF8 := by
  refine ⟨rfl, ?_, rfl, rfl⟩
  exact FileTree.isTree_of_nodes (by simp [stagingBlocked, FileTree.node?_root])

end PatchSandbox.Config
