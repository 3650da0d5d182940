import PatchSandbox.Config.File
import PatchSandbox.Proofs.Storage.FileTree

/-!
# What saving a configuration leaves

The text of a configuration is put into a file beside the target, and then moved into place.

* **`steps_stagingPath`** says where the text is staged: in the directory of the target, under a
  name of its own.
* **`Saved`** lists the ways in which saving ends, and **`saved`** says that it always ends in one
  of them.
* **`save_eq_ok`** and **`save_eq_error`** say what the tree is after a success and after a failure.
* **`save_touches`** goes over all ends of saving and says what is left at every place of the tree.

After a success the target has the text, there is nothing where the text was staged, and whatever
else there is was there before or is a directory on the way to the target. So nothing but the
target is touched exactly if there was nothing where the text is staged: a file of that name is
lost. After a failure there may be new directories on the way to the target. If moving the text into
place fails, the text also stays where it was staged. Otherwise a failure leaves the tree as it
was if the directory of the target was there.
-/

namespace PatchSandbox.Config

open FileTree (disk change change_apply Keeps Grows GrowsAt)
open FilePath (isIdle steps isFromRoot OnWay)

variable {t t' t₁ : FileTree} {path name text : String} {d q r : Place} {content : ByteArray}
  {c : Config} {overwrite : Bool}

/-! ### The directory and the names in it -/

theorem directoryOf_ne_empty (path : String) : directoryOf path ≠ "" := by
  unfold directoryOf
  split
  case h_1 parent _ =>
      split
      case isTrue => decide
      case isFalse h => simpa using h
  case h_2 => decide

theorem mem_of_mem_directoryOf {c : Char} (h : c ∈ (directoryOf path).toList) (slash : c ≠ '/')
    (dot : c ≠ '.') : c ∈ path.toList := by
  have inDot (h : c ∈ ".".toList) : c ∈ path.toList := absurd (List.mem_singleton.mp h) dot
  unfold directoryOf at h
  split at h
  case h_1 parent hp =>
      split at h
      case isTrue => exact inDot h
      case isFalse => exact FilePath.mem_of_mem_parent hp h slash
  case h_2 => exact inDot h

/-- A path is the path of its directory and one step more, its name. -/
theorem steps_eq_directoryOf (h : FilePath.name? path = some name) :
    steps path = steps (directoryOf path) ++ [name.toList] ∧
      isFromRoot path = isFromRoot (directoryOf path) := by
  obtain ⟨parent, hp, parts, root, relative⟩ := FilePath.steps_of_name? h
  unfold directoryOf
  rw [hp]
  by_cases he : parent = ""
  · subst he
    exact ⟨parts, relative rfl⟩
  · simp only [String.isEmpty_iff, he, if_false]
    exact ⟨parts, (root he).symm⟩

theorem slash_not_mem_name (h : FilePath.name? path = some name) : '/' ∉ name.toList := by
  have last : name.toList ∈ steps path := by
    rw [(steps_eq_directoryOf h).1]
    simp
  exact FilePath.slash_not_mem_of_mem_split (List.mem_filter.mp last).1

theorem name_ne_up (h : FilePath.name? path = some name) : name.toList ≠ ['.', '.'] := by
  obtain ⟨-, last, -, rfl, -, up⟩ := FilePath.exists_last_of_name? h
  exact up

theorem length_stagingName (name : String) :
    (stagingName name).toList.length = name.toList.length + 9 := by
  simp [stagingName]

theorem stagingName_ne (name : String) : stagingName name ≠ name := by
  intro h
  have length := length_stagingName name
  rw [h] at length
  omega

theorem stagingName_ne_up (name : String) : (stagingName name).toList ≠ ['.', '.'] := by
  intro h
  have length := length_stagingName name
  rw [h] at length
  simp at length

theorem not_isIdle_stagingName (name : String) : isIdle (stagingName name).toList = false := by
  have length := length_stagingName name
  cases h : (stagingName name).toList with
  | nil => simp [h] at length
  | cons c cs =>
      cases cs with
      | nil => simp [h] at length
      | cons d cs => simp [isIdle]

theorem slash_not_mem_stagingName (h : '/' ∉ name.toList) : '/' ∉ (stagingName name).toList := by
  simp [stagingName, h]

/-- The path of the file that a text is first put into. -/
def stagingPath (path name : String) : String :=
  FilePath.child (directoryOf path) (stagingName name)

theorem steps_stagingPath (h : FilePath.name? path = some name) :
    steps (stagingPath path name) = steps (directoryOf path) ++ [(stagingName name).toList] ∧
      isFromRoot (stagingPath path name) = isFromRoot (directoryOf path) :=
  FilePath.steps_child (directoryOf_ne_empty path)
    (slash_not_mem_stagingName (slash_not_mem_name h)) (not_isIdle_stagingName name)

theorem mem_stagingPath {c : Char} (h : c ∈ (directoryOf path).toList) :
    c ∈ (stagingPath path name).toList := by
  unfold stagingPath FilePath.child
  split
  · simp_all
  · split <;> simp [h]

/-! ### The places -/

/-- A path of one step more than that of the directory leads into the directory. -/
theorem directory_of_step {whole last : String}
    (parts : steps whole = steps (directoryOf path) ++ [last.toList])
    (root : isFromRoot whole = isFromRoot (directoryOf path)) (up : last.toList ≠ ['.', '.'])
    (nul : '\x00' ∈ (directoryOf path).toList → '\x00' ∈ whole.toList)
    (h : t.locate whole = .ok q) :
    ∃ d, t.locate (directoryOf path) = .ok d ∧ t.node? d = some .directory ∧ q = d ++ [last] := by
  obtain ⟨d, walked, directory, rfl⟩ := FileTree.exists_parent_of_locate h parts up
  have free := (FileTree.locate_eq_ok_iff.mp h).2.1
  refine ⟨d, FileTree.locate_eq_ok_iff.mpr ⟨directoryOf_ne_empty path, fun hz => free (nul hz), ?_,
    fun _ => directory⟩, directory, rfl⟩
  rw [← walked, FileTree.origin, FileTree.origin, root]

/-- The target is in its directory. -/
theorem directory_of_target (hn : FilePath.name? path = some name) (h : t.locate path = .ok q) :
    ∃ d, t.locate (directoryOf path) = .ok d ∧ t.node? d = some .directory ∧ q = d ++ [name] := by
  obtain ⟨parts, root⟩ := steps_eq_directoryOf hn
  exact directory_of_step parts root (name_ne_up hn)
    (fun hz => mem_of_mem_directoryOf hz (by decide) (by decide)) h

/-- What is put beside the target is in the same directory. -/
theorem directory_of_staging (hn : FilePath.name? path = some name)
    (h : t.locate (stagingPath path name) = .ok q) :
    ∃ d, t.locate (directoryOf path) = .ok d ∧ t.node? d = some .directory ∧
      q = d ++ [stagingName name] := by
  obtain ⟨parts, root⟩ := steps_stagingPath hn
  exact directory_of_step parts root (stagingName_ne_up name) mem_stagingPath h

theorem withoutSlashes_stagingPath (path name : String) :
    FileTree.withoutSlashes (stagingPath path name) = stagingPath path name := by
  apply FileTree.withoutSlashes_of_not_endsInSlash
  obtain ⟨front, whole⟩ : ∃ front, (stagingPath path name).toList = front ++ ".partial".toList := by
    unfold stagingPath FilePath.child stagingName
    split
    · exact ⟨_, String.toList_append ..⟩
    · split
      · exact ⟨(directoryOf path ++ ("." ++ name)).toList, by simp⟩
      · exact ⟨(directoryOf path ++ "/" ++ ("." ++ name)).toList, by simp⟩
  have last : (stagingPath path name).toList.getLast? = some 'l' := by
    rw [whole, List.getLast?_append_of_ne_nil _ (by decide)]
    decide
  rw [FileTree.endsInSlash, last]
  decide

/-- The place of the file that a text is first put into. -/
def stagingPlace (d : Place) (name : String) : Place := d ++ [stagingName name]

theorem target_ne_staging (d : Place) (name : String) : d ++ [name] ≠ stagingPlace d name := by
  simpa [stagingPlace] using (stagingName_ne name).symm

/-- A tree with a text beside the target. -/
def stagedIn (t : FileTree) (d : Place) (name : String) (content : ByteArray) : FileTree :=
  t.put (stagingPlace d name) (.file content)

/-- A tree with a text at the target that has been beside it. -/
def installedIn (t : FileTree) (d : Place) (name : String) (content : ByteArray) : FileTree :=
  ((stagedIn t d name content).remove (stagingPlace d name)).put (d ++ [name]) (.file content)

theorem node?_stagedIn_self : (stagedIn t d name content).node? (stagingPlace d name) =
    some (.file content) :=
  FileTree.node?_put_self _ (by simp [stagingPlace])

theorem node?_stagedIn_of_ne (h : r ≠ stagingPlace d name) :
    (stagedIn t d name content).node? r = t.node? r :=
  FileTree.node?_put_of_ne _ h

theorem node?_installedIn_target : (installedIn t d name content).node? (d ++ [name]) =
    some (.file content) :=
  FileTree.node?_put_self _ (by simp)

theorem node?_installedIn_staging :
    (installedIn t d name content).node? (stagingPlace d name) = none := by
  rw [installedIn, FileTree.node?_put_of_ne _ (target_ne_staging d name).symm]
  exact FileTree.node?_remove_self (by simp [stagingPlace])

theorem node?_installedIn_of_ne (target : r ≠ d ++ [name]) (staging : r ≠ stagingPlace d name) :
    (installedIn t d name content).node? r = t.node? r := by
  rw [installedIn, FileTree.node?_put_of_ne _ target, FileTree.node?_remove_of_ne staging,
    node?_stagedIn_of_ne staging]

theorem keeps_stagedIn (h : t.node? (stagingPlace d name) ≠ some .directory) :
    Keeps t (stagedIn t d name content) :=
  FileTree.keeps_put _ h

theorem keeps_installedIn (h : t.node? (d ++ [name]) ≠ some .directory) :
    Keeps (stagedIn t d name content) (installedIn t d name content) := by
  refine (FileTree.keeps_remove (by simp [node?_stagedIn_self])).trans (FileTree.keeps_put _ ?_)
  rwa [FileTree.node?_remove_of_ne (target_ne_staging d name),
    node?_stagedIn_of_ne (target_ne_staging d name)]

/-- All that staging does. -/
theorem staged (hn : FilePath.name? path = some name)
    (h : t.write (stagingPath path name) text = .ok t') :
    ∃ d, t.locate (directoryOf path) = .ok d ∧ t.node? (stagingPlace d name) ≠ some .directory ∧
      t' = stagedIn t d name text.toUTF8 := by
  obtain ⟨q, leads, free, rfl⟩ := FileTree.write_eq_ok h
  rw [withoutSlashes_stagingPath] at leads
  obtain ⟨d, found, -, rfl⟩ := directory_of_staging hn leads
  exact ⟨d, found, free, rfl⟩

/-- All that moving the text into place does. -/
theorem installed (hn : FilePath.name? path = some name) (hd : t.locate (directoryOf path) = .ok d)
    (free : t.node? (stagingPlace d name) ≠ some .directory)
    (h : (stagedIn t d name content).rename (stagingPath path name) path = .ok t') :
    t.node? (d ++ [name]) ≠ some .directory ∧ t'.locate path = .ok (d ++ [name]) ∧
      t' = installedIn t d name content := by
  have kept : (stagedIn t d name content).locate (directoryOf path) = .ok d :=
    (keeps_stagedIn free).locate hd
  obtain ⟨p, q, moved, source, target, file, other, ends, rfl⟩ := FileTree.rename_eq_ok h
  rw [FileTree.withoutSlashes_of_not_endsInSlash ends] at target
  obtain ⟨d₁, found, -, rfl⟩ := directory_of_staging hn source
  obtain rfl := Except.ok.inj (found.symm.trans kept)
  obtain ⟨d₂, found', -, rfl⟩ := directory_of_target hn target
  obtain rfl := Except.ok.inj (found'.symm.trans kept)
  obtain rfl : moved = content := by simpa using file.symm.trans node?_stagedIn_self
  rw [node?_stagedIn_of_ne (target_ne_staging _ name)] at other
  exact ⟨other, (keeps_installedIn other).locate target, rfl⟩

/-! ### How saving ends -/

/-- The ways in which saving ends, with the tree that is left. -/
inductive Saved (t : FileTree) (path : String) (c : Config) (overwrite : Bool) :
    Except ConfigError Unit → FileTree → Prop
  | flaw {f} (hf : c.flaw? = some f) : Saved t path c overwrite (.error (.flaw f)) t
  | occupied (hf : c.flaw? = none) (ho : overwrite = false) {n} (hn : t.find? path = .ok n) :
      Saved t path c overwrite (.error (.occupied path)) t
  | noDirectory (hf : c.flaw? = none) {t₁ e}
      (hd : disk.makeDirectories (directoryOf path) t = (.error e, t₁)) :
      Saved t path c overwrite (.error (.noDirectory (directoryOf path) e)) t₁
  | nameless (hf : c.flaw? = none) {t₁}
      (hd : disk.makeDirectories (directoryOf path) t = (.ok (), t₁))
      (hn : FilePath.name? path = none) : Saved t path c overwrite (.error (.nameless path)) t₁
  | notStaged (hf : c.flaw? = none) {t₁ name e}
      (hd : disk.makeDirectories (directoryOf path) t = (.ok (), t₁))
      (hn : FilePath.name? path = some name)
      (hw : t₁.write (stagingPath path name) c.render = .error e) :
      Saved t path c overwrite
        (.error (.notStaged (stagingPath path name) e)) t₁
  | notInstalled (hf : c.flaw? = none) {t₁ t₂ name e}
      (hd : disk.makeDirectories (directoryOf path) t = (.ok (), t₁))
      (hn : FilePath.name? path = some name)
      (hw : t₁.write (stagingPath path name) c.render = .ok t₂)
      (hr : t₂.rename (stagingPath path name) path = .error e) :
      Saved t path c overwrite (.error (.notInstalled path e)) t₂
  | installed (hf : c.flaw? = none) (ho : overwrite = false → ∀ n, t.find? path ≠ .ok n)
      {t₁ t₂ t₃ name}
      (hd : disk.makeDirectories (directoryOf path) t = (.ok (), t₁))
      (hn : FilePath.name? path = some name)
      (hw : t₁.write (stagingPath path name) c.render = .ok t₂)
      (hr : t₂.rename (stagingPath path name) path = .ok t₃) :
      Saved t path c overwrite (.ok ()) t₃

theorem saved (t : FileTree) (path : String) (c : Config) (overwrite : Bool) :
    Saved t path c overwrite (save disk path c overwrite t).1 (save disk path c overwrite t).2 := by
  unfold save
  cases hf : c.flaw? with
  | some f => exact .flaw hf
  | none =>
      have there : disk.exists? path t = ((t.find? path).toOption.isSome, t) := rfl
      have write (p s : String) (u : FileTree) : disk.write p s u = change (·.write p s) u := rfl
      have rename (p q : String) (u : FileTree) : disk.rename p q u = change (·.rename p q) u := rfl
      have staging (name : String) :
          FilePath.child (directoryOf path) (stagingName name) = stagingPath path name := rfl
      simp only [bind, StateT.bind, there, staging]
      by_cases occupied : (!overwrite && (t.find? path).toOption.isSome) = true
      · rw [if_pos occupied]
        rw [Bool.and_eq_true, Bool.not_eq_true'] at occupied
        cases hn : t.find? path with
        | error e => simp [hn, Except.toOption] at occupied
        | ok n => exact .occupied hf occupied.1 hn
      · rw [if_neg occupied]
        have free : overwrite = false → ∀ n, t.find? path ≠ .ok n := by
          rintro rfl n hn
          simp [hn, Except.toOption] at occupied
        obtain ⟨made, t₁, hd⟩ : ∃ made t₁, disk.makeDirectories (directoryOf path) t = (made, t₁) :=
          ⟨_, _, rfl⟩
        simp only [StateT.bind, hd, bind]
        cases made with
        | error e => exact .noDirectory hf hd
        | ok =>
            cases hn : FilePath.name? path with
            | none => exact .nameless hf hd hn
            | some name =>
                simp only [StateT.bind, write, change_apply, bind]
                cases hw : t₁.write (stagingPath path name) c.render with
                | error e => exact .notStaged hf hd hn hw
                | ok t₂ =>
                    simp only [StateT.bind, rename, change_apply, bind]
                    cases hr : t₂.rename (stagingPath path name) path with
                    | error e => exact .notInstalled hf hd hn hw hr
                    | ok t₃ => exact .installed hf free hd hn hw hr

/-! ### What is left -/

/-- The directory of the target is there, and there is no directory where the text is staged. -/
structure Prepared (t t₁ : FileTree) (path name : String) (d : Place) : Prop where
  grows : Grows (directoryOf path) t t₁
  same : t.find? (directoryOf path) = .ok .directory → t₁ = t
  named : FilePath.name? path = some name
  leads : t₁.locate (directoryOf path) = .ok d
  free : t₁.node? (stagingPlace d name) ≠ some .directory

theorem same_of_makeDirectories {made : Except DiskFlaw Unit}
    (h : disk.makeDirectories path t = (made, t₁)) (hd : t.find? path = .ok .directory) :
    t₁ = t := by
  rw [FileTree.makeDirectories_of_directory hd] at h
  exact (congrArg Prod.snd h).symm

theorem grows_of_makeDirectories {made : Except DiskFlaw Unit}
    (h : disk.makeDirectories path t = (made, t₁)) : Grows path t t₁ := by
  have grows := FileTree.growing_makeDirectories path t
  rwa [h] at grows

theorem prepared (hd : disk.makeDirectories (directoryOf path) t = (.ok (), t₁))
    (hn : FilePath.name? path = some name)
    (hw : t₁.write (stagingPath path name) text = .ok t') :
    ∃ d, Prepared t t₁ path name d ∧ t' = stagedIn t₁ d name text.toUTF8 := by
  obtain ⟨d, leads, free, rfl⟩ := staged hn hw
  exact ⟨d, ⟨grows_of_makeDirectories hd, same_of_makeDirectories hd, hn, leads, free⟩, rfl⟩

/-- **The tree after a success.** -/
theorem save_eq_ok (h : save disk path c overwrite t = (.ok (), t')) :
    c.flaw? = none ∧ (overwrite = false → ∀ n, t.find? path ≠ .ok n) ∧
      ∃ t₁ name d, Prepared t t₁ path name d ∧ t₁.node? (d ++ [name]) ≠ some .directory ∧
        t'.locate path = .ok (d ++ [name]) ∧ t' = installedIn t₁ d name c.render.toUTF8 := by
  have ends := saved t path c overwrite
  rw [h] at ends
  cases ends with
  | installed hf ho hd hn hw hr =>
      obtain ⟨d, ready, rfl⟩ := prepared hd hn hw
      exact ⟨hf, ho, _, _, d, ready, installed hn ready.leads ready.free hr⟩

/-- **The tree after a failure.** -/
theorem save_eq_error {e : ConfigError} (h : save disk path c overwrite t = (.error e, t')) :
    ((∃ f, e = .flaw f) ∨ e = .occupied path) ∧ t' = t ∨
      ((∃ f, e = .noDirectory (directoryOf path) f) ∨ e = .nameless path ∨
        ∃ name f, e = .notStaged (stagingPath path name) f) ∧
        Grows (directoryOf path) t t' ∧ (t.find? (directoryOf path) = .ok .directory → t' = t) ∨
      (∃ f, e = .notInstalled path f) ∧ ∃ t₁ name d, Prepared t t₁ path name d ∧
        t' = stagedIn t₁ d name c.render.toUTF8 := by
  have ends := saved t path c overwrite
  rw [h] at ends
  cases ends with
  | flaw => exact .inl ⟨.inl ⟨_, rfl⟩, rfl⟩
  | occupied => exact .inl ⟨.inr rfl, rfl⟩
  | noDirectory _ hd =>
      exact .inr (.inl ⟨.inl ⟨_, rfl⟩, grows_of_makeDirectories hd, same_of_makeDirectories hd⟩)
  | nameless _ hd =>
      exact .inr (.inl ⟨.inr (.inl rfl), grows_of_makeDirectories hd, same_of_makeDirectories hd⟩)
  | notStaged _ hd =>
      exact .inr (.inl ⟨.inr (.inr ⟨_, _, rfl⟩), grows_of_makeDirectories hd,
        same_of_makeDirectories hd⟩)
  | notInstalled _ hd hn hw =>
      obtain ⟨d, ready, rfl⟩ := prepared hd hn hw
      exact .inr (.inr ⟨⟨_, rfl⟩, _, _, d, ready, rfl⟩)

/-! ### What saving touches -/

/-- Except at a path, there is what was there, or a new directory on the way to the path. -/
def TouchesOnly (path : String) (t t' : FileTree) : Prop :=
  ∀ r, t'.locate path ≠ .ok r → GrowsAt (directoryOf path) t t' r

/-- Where there is the same, the same has come about. -/
theorem growsAt_congr (keeps : FileTree.Keeps t₁ t') (h : GrowsAt path t t₁ r)
    (same : t'.node? r = t₁.node? r) : GrowsAt path t t' r := by
  obtain old | ⟨none, made, a, way, leads⟩ := h
  · exact .inl (same.trans old)
  · exact .inr ⟨none, same.trans made, a, way, keeps.locate leads⟩

theorem Prepared.growsAt_stagedIn (h : Prepared t t₁ path name d) (hr : r ≠ stagingPlace d name) :
    GrowsAt (directoryOf path) t (stagedIn t₁ d name content) r :=
  growsAt_congr (keeps_stagedIn h.free) (h.grows.node r) (node?_stagedIn_of_ne hr)

theorem Prepared.growsAt_installedIn (h : Prepared t t₁ path name d)
    (free : t₁.node? (d ++ [name]) ≠ some .directory) (target : r ≠ d ++ [name])
    (staging : r ≠ stagingPlace d name) :
    GrowsAt (directoryOf path) t (installedIn t₁ d name content) r :=
  growsAt_congr ((keeps_stagedIn h.free).trans (keeps_installedIn free)) (h.grows.node r)
    (node?_installedIn_of_ne target staging)

/-- Nothing but the target is touched, unless there was something where the text is staged. -/
theorem Prepared.touchesOnly_iff (h : Prepared t t₁ path name d)
    (free : t₁.node? (d ++ [name]) ≠ some .directory)
    (leads : (installedIn t₁ d name content).locate path = .ok (d ++ [name])) :
    TouchesOnly path t (installedIn t₁ d name content) ↔ t.node? (stagingPlace d name) = none := by
  constructor
  · intro touches
    have other : (installedIn t₁ d name content).locate path ≠ .ok (stagingPlace d name) := by
      rw [leads]
      exact fun he => target_ne_staging d name (Except.ok.inj he)
    obtain same | ⟨none, -⟩ := touches _ other
    · exact same.symm.trans node?_installedIn_staging
    · exact none
  · intro nothing r hr
    have target : r ≠ d ++ [name] := by
      rintro rfl
      exact hr leads
    by_cases staging : r = stagingPlace d name
    · subst staging
      exact .inl (node?_installedIn_staging.trans nothing.symm)
    · exact h.growsAt_installedIn free target staging

/-- **What saving touches**, for every tree, path, configuration and way in which it ends. -/
theorem save_touches (t : FileTree) (path : String) (c : Config) (overwrite : Bool) :
    (∀ t', save disk path c overwrite t = (.ok (), t') →
      ∃ name d, FilePath.name? path = some name ∧ t'.locate path = .ok (d ++ [name]) ∧
        t'.node? (d ++ [name]) = some (.file c.render.toUTF8) ∧
        t'.node? (stagingPlace d name) = none ∧
        (∀ r, r ≠ d ++ [name] → r ≠ stagingPlace d name → GrowsAt (directoryOf path) t t' r) ∧
        (TouchesOnly path t t' ↔ t.node? (stagingPlace d name) = none)) ∧
    (∀ e t', save disk path c overwrite t = (.error e, t') →
      match e with
      | .flaw _ | .occupied _ => t' = t
      | .notInstalled _ _ => ∃ name d, FilePath.name? path = some name ∧
          t'.locate (directoryOf path) = .ok d ∧
          t'.node? (stagingPlace d name) = some (.file c.render.toUTF8) ∧
          ∀ r, r ≠ stagingPlace d name → GrowsAt (directoryOf path) t t' r
      | _ => Grows (directoryOf path) t t' ∧
          (t.find? (directoryOf path) = .ok .directory → t' = t)) := by
  refine ⟨fun t' h => ?_, fun e t' h => ?_⟩
  · obtain ⟨-, -, t₁, name, d, ready, free, leads, rfl⟩ := save_eq_ok h
    exact ⟨name, d, ready.named, leads, node?_installedIn_target, node?_installedIn_staging,
      fun r => ready.growsAt_installedIn free, ready.touchesOnly_iff free leads⟩
  · obtain ⟨⟨f, rfl⟩ | rfl, same⟩ | ⟨⟨f, rfl⟩ | rfl | ⟨name, f, rfl⟩, grows, same⟩ |
      ⟨⟨f, rfl⟩, t₁, name, d, ready, rfl⟩ := save_eq_error h
    · exact same
    · exact same
    · exact ⟨grows, same⟩
    · exact ⟨grows, same⟩
    · exact ⟨grows, same⟩
    · exact ⟨name, d, ready.named, (keeps_stagedIn ready.free).locate ready.leads,
        node?_stagedIn_self, fun r => ready.growsAt_stagedIn⟩

/-- A tree in which a file has the name under which the text is staged. -/
def stagingTaken : FileTree := { nodes := [([".c.toml.partial"], .file "keep".toUTF8)] }

/-- A tree in which the target is a directory. -/
def targetDirectory : FileTree := { nodes := [(["d"], .directory)] }

/-- Nothing but a new target is touched, and a text that is not moved onto a directory stays. -/
theorem new_target_touched_and_text_left :
    TouchesOnly "c.toml" {} (save disk "c.toml" {} false {}).2 ∧
      ∃ name d, FilePath.name? "d" = some name ∧
        (save disk "d" {} true targetDirectory).2.node? (stagingPlace d name) =
          some (.file (render {}).toUTF8) := by
  have ok : (save disk "c.toml" {} false {}).1 = .ok () := rfl
  have failed : (save disk "d" {} true targetDirectory).1 =
      .error (.notInstalled "d" .isDirectory) := rfl
  obtain ⟨_, _, -, -, -, -, -, touches⟩ :=
    (save_touches {} "c.toml" {} false).1 (save disk "c.toml" {} false {}).2
      (by rw [← ok, Prod.eta])
  obtain ⟨name, d, named, -, left, -⟩ :=
    (save_touches targetDirectory "d" {} true).2 (.notInstalled "d" .isDirectory)
      (save disk "d" {} true targetDirectory).2 (by rw [← failed, Prod.eta])
  exact ⟨touches.mpr (by simp [FileTree.node?, stagingPlace]), name, d, named, left⟩

/-- A file of the name under which the text is staged is lost in a success, and a failure leaves
one. -/
theorem staged_file_lost_or_left :
    ((save disk "c.toml" {} false stagingTaken).1 = .ok () ∧
      (stagingTaken.node? [".c.toml.partial"]).isSome ∧
      ((save disk "c.toml" {} false stagingTaken).2.node? [".c.toml.partial"]).isNone) ∧
    (save disk "d" {} true targetDirectory).1 = .error (.notInstalled "d" .isDirectory) ∧
      (targetDirectory.node? [".d.partial"]).isNone ∧
      ((save disk "d" {} true targetDirectory).2.node? [".d.partial"]).isSome := by
  exact ⟨⟨rfl, by decide +kernel, by decide +kernel⟩, rfl, by decide +kernel, by decide +kernel⟩

end PatchSandbox.Config
