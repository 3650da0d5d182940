import PatchSandbox.Proofs.Storage.Path
import PatchSandbox.Storage.FileTree

/-!
# Where paths lead, and what the operations do

* **`locate_eq_ok_iff`** says where a path leads: to what its steps come to, one after the other,
  each from a directory.
* **`Keeps`** says of two trees that what is a directory in the first is one in the second. Every
  operation keeps directories, so a path that leads somewhere leads there afterwards as well
  (**`Keeps.locate`**).
* **`makeDirectory_eq_ok`**, **`write_eq_ok`** and **`rename_eq_ok`** say all that an operation does
  if it succeeds.
* **`Grows`** says that one tree has what the other has, and more directories on the way to a path.
* **`grows_makeDirectories`** says that to make a directory, with those it is in, does no more than
  that, whether it succeeds or not.
* **`makeDirectories_of_directory`** says that nothing is done for a directory that is there.
-/

namespace PatchSandbox.FileTree

open FilePath (isIdle steps isFromRoot split)

variable {t t' : FileTree} {p q r : Place}

/-! ### What is where -/

@[simp] theorem node?_root (t : FileTree) : t.node? [] = some .directory := if_pos rfl

theorem lookup_filter_self (nodes : List (Place × Node)) (p : Place) :
    (nodes.filter (·.1 != p)).lookup p = none := by
  rw [List.lookup_eq_none_iff]
  intro e he
  rw [bne_comm]
  exact (List.mem_filter.mp he).2

theorem lookup_filter_of_ne (nodes : List (Place × Node)) (h : r ≠ p) :
    (nodes.filter (·.1 != p)).lookup r = nodes.lookup r := by
  induction nodes with
  | nil => rfl
  | cons e nodes ih =>
      obtain ⟨k, n⟩ := e
      by_cases hk : k = p
      · subst hk
        have other : (r == k) = false := by simpa using h
        rw [List.filter_cons_of_neg (by simp), ih, List.lookup_cons, other]
      · rw [List.filter_cons_of_pos (by simpa using hk), List.lookup_cons, List.lookup_cons, ih]

theorem node?_put_self (n : Node) (hp : p ≠ []) : (t.put p n).node? p = some n := by
  rw [node?, if_neg hp]
  exact List.lookup_cons_self

theorem node?_put_of_ne (n : Node) (h : r ≠ p) : (t.put p n).node? r = t.node? r := by
  have other : (r == p) = false := by simpa using h
  unfold node? put
  rw [List.lookup_cons, other, lookup_filter_of_ne _ h]

theorem node?_remove_self (hp : p ≠ []) : (t.remove p).node? p = none := by
  rw [node?, if_neg hp]
  exact lookup_filter_self _ _

theorem node?_remove_of_ne (h : r ≠ p) : (t.remove p).node? r = t.node? r := by
  unfold node? remove
  rw [lookup_filter_of_ne _ h]

/-! ### One step -/

/-- Steps are made from directories. -/
theorem directory_of_follow {part : List Char} (h : t.follow p part = .ok q) :
    t.node? p = some .directory := by
  unfold follow at h
  split at h
  case h_1 => cases h
  case h_2 => cases h
  case h_3 hn => exact hn

theorem follow_congr {part : List Char} (h : t'.node? p = t.node? p) :
    t'.follow p part = t.follow p part := by
  unfold follow
  rw [h]

theorem follow_idle_iff {part : List Char} (hi : isIdle part = true) :
    t.follow p part = .ok q ↔ t.node? p = some .directory ∧ p = q := by
  unfold follow
  split <;> simp_all

/-- A step by name goes into the directory. -/
theorem follow_name {name : String} (hi : isIdle name.toList = false)
    (hu : name.toList ≠ ['.', '.']) (h : t.follow p name.toList = .ok q) : q = p ++ [name] := by
  unfold follow at h
  split at h
  case h_1 => cases h
  case h_2 => cases h
  case h_3 =>
      rw [if_neg (by simp [hi]), if_neg hu, String.ofList_toList] at h
      dsimp only at h
      split at h
      · cases h
      · exact (Except.ok.inj h).symm

/-! ### Steps, one after the other -/

/-- Where some pieces lead. -/
def walk (t : FileTree) (p : Place) (parts : List (List Char)) : Except DiskFlaw Place :=
  parts.foldlM t.follow p

@[simp] theorem walk_nil : t.walk p [] = .ok p := rfl

theorem walk_concat (parts : List (List Char)) (part : List Char) :
    t.walk p (parts ++ [part]) = .ok r ↔
      ∃ q, t.walk p parts = .ok q ∧ t.follow q part = .ok r := by
  unfold walk
  rw [List.foldlM_append]
  cases parts.foldlM t.follow p with
  | error e => simp [bind, Except.bind]
  | ok q => simp [bind, Except.bind, List.foldlM, pure, Except.pure]; cases t.follow q part <;> simp

/-- Whether the last of some pieces is idle, so that they only lead to a directory. -/
def EndsIdle (parts : List (List Char)) : Prop :=
  ∃ part, parts.getLast? = some part ∧ isIdle part = true

/-- Idle pieces lead nowhere. All that the last one does is to ask for a directory. -/
theorem walk_eq_ok_iff (parts : List (List Char)) :
    t.walk p parts = .ok q ↔
      t.walk p (parts.filter (!isIdle ·)) = .ok q ∧
        (EndsIdle parts → t.node? q = some .directory) := by
  induction parts using List.reverseRecOn generalizing q with
  | nil => simp [EndsIdle]
  | append_singleton parts part ih =>
      have ends : EndsIdle (parts ++ [part]) ↔ isIdle part = true := by simp [EndsIdle]
      rw [walk_concat, ends, List.filter_append]
      by_cases hi : isIdle part = true
      · simp only [hi, follow_idle_iff, forall_const, List.filter_cons, Bool.not_true,
          Bool.false_eq_true, if_false, List.filter_nil, List.append_nil, ih]
        constructor
        · rintro ⟨_, ⟨walked, -⟩, directory, rfl⟩
          exact ⟨walked, directory⟩
        · rintro ⟨walked, directory⟩
          exact ⟨q, ⟨walked, fun _ => directory⟩, directory, rfl⟩
      · simp only [hi, List.filter_cons, Bool.not_false, if_true, List.filter_nil, walk_concat, ih,
          Bool.false_eq_true, false_implies, and_true]
        constructor
        · rintro ⟨d, ⟨walked, -⟩, step⟩
          exact ⟨d, walked, step⟩
        · rintro ⟨d, walked, step⟩
          exact ⟨d, ⟨walked, fun _ => directory_of_follow step⟩, step⟩

/-! ### Paths -/

/-- Where a path begins. -/
def origin (t : FileTree) (path : String) : Place := if isFromRoot path then [] else t.here

/-- **Where a path leads.** -/
theorem locate_eq_ok_iff {path : String} :
    t.locate path = .ok q ↔
      path ≠ "" ∧ '\x00' ∉ path.toList ∧ t.walk (t.origin path) (steps path) = .ok q ∧
        (EndsIdle (split path).2 → t.node? q = some .directory) := by
  have whole : t.walk (t.origin path) (split path).2 = .ok q ↔
      t.walk (t.origin path) (steps path) = .ok q ∧
        (EndsIdle (split path).2 → t.node? q = some .directory) := walk_eq_ok_iff _
  rw [← whole]
  unfold locate
  by_cases hn : path = ""
  · simp [hn]
  · by_cases hz : '\x00' ∈ path.toList
    · simp [hn, hz]
    · rw [if_neg (by simpa using hn), if_neg (by simpa using hz)]
      simp only [ne_eq, hn, not_false_eq_true, hz, true_and]
      exact Iff.rfl

/-- Slashes at the end of a path are no steps. -/
theorem steps_append_slashes {path : String} (front : String) (hf : front ≠ "") (n : Nat)
    (h : path.toList = front.toList ++ List.replicate n '/') :
    steps path = steps front ∧ isFromRoot path = isFromRoot front := by
  induction n generalizing path with
  | zero =>
      obtain rfl : path = front := String.toList_injective (by simpa using h)
      exact ⟨rfl, rfl⟩
  | succ n ih =>
      rw [List.replicate_succ', ← List.append_assoc] at h
      obtain ⟨shorter, hs⟩ : ∃ s : String, s.toList = front.toList ++ List.replicate n '/' :=
        ⟨_, String.toList_ofList ..⟩
      obtain ⟨parts, root⟩ := ih hs
      have some_text : shorter ≠ "" := by
        rintro rfl
        exact hf (String.toList_eq_nil_iff.mp (List.append_eq_nil_iff.mp hs.symm).1)
      have whole := FilePath.split_append_slash [] some_text (hs ▸ h)
      rw [← parts, ← root, steps, steps, isFromRoot, isFromRoot, whole, List.filter_append]
      simp [FilePath.pieces, isFromRoot]

theorem exists_slashes (cs : List Char) :
    ∃ n, cs = cs.rdropWhile (· == '/') ++ List.replicate n '/' := by
  induction cs using List.reverseRecOn with
  | nil => exact ⟨0, rfl⟩
  | append_singleton cs c ih =>
      by_cases hc : c = '/'
      · obtain ⟨n, hn⟩ := ih
        refine ⟨n + 1, ?_⟩
        subst hc
        rw [List.rdropWhile_concat_pos _ _ _ (by simp), List.replicate_succ',
          ← List.append_assoc, ← hn]
      · refine ⟨0, ?_⟩
        rw [List.rdropWhile_concat_neg _ _ _ (by simpa using hc)]
        simp

/-- A path without the slashes at its end has the same steps. -/
theorem steps_withoutSlashes (path : String) :
    steps (withoutSlashes path) = steps path ∧
      isFromRoot (withoutSlashes path) = isFromRoot path ∧
      (withoutSlashes path ≠ "" ↔ path ≠ "") ∧
      ('\x00' ∉ (withoutSlashes path).toList ↔ '\x00' ∉ path.toList) := by
  obtain ⟨n, hn⟩ := exists_slashes path.toList
  have rest : withoutSlashes path =
      if (path.toList.rdropWhile (· == '/')).isEmpty && !path.isEmpty then "/"
      else String.ofList (path.toList.rdropWhile (· == '/')) := rfl
  by_cases hp : path = ""
  · subst hp
    decide
  · by_cases he : path.toList.rdropWhile (· == '/') = []
    · -- nothing but slashes
      rw [he, List.nil_append] at hn
      obtain ⟨m, rfl⟩ : ∃ m, n = m + 1 := by
        refine Nat.exists_eq_succ_of_ne_zero fun hz => hp (String.toList_eq_nil_iff.mp ?_)
        rw [hn, hz, List.replicate_zero]
      have slash : withoutSlashes path = "/" := by simp [rest, he, hp]
      obtain ⟨parts, root⟩ := steps_append_slashes "/" (by decide) m hn
      rw [slash, parts, root, hn]
      simp [hp]
    · have front : withoutSlashes path = String.ofList (path.toList.rdropWhile (· == '/')) := by
        simp [rest, he]
      have chars : path.toList = (withoutSlashes path).toList ++ List.replicate n '/' := by
        rw [front, String.toList_ofList, ← hn]
      have some_text : withoutSlashes path ≠ "" := by
        intro hw
        rw [front] at hw
        exact he (String.ofList_eq_empty_iff.mp hw)
      obtain ⟨parts, root⟩ := steps_append_slashes _ some_text n chars
      refine ⟨parts.symm, root.symm, iff_of_true some_text hp, not_congr ?_⟩
      rw [chars, List.mem_append, or_iff_left fun hm => ?_]
      cases List.eq_of_mem_replicate hm

theorem origin_withoutSlashes (t : FileTree) (path : String) :
    t.origin (withoutSlashes path) = t.origin path := by
  rw [origin, origin, (steps_withoutSlashes path).2.1]

/-- A path to a directory may have slashes at its end. -/
theorem locate_withoutSlashes_iff {path : String} (hd : t.node? q = some .directory) :
    t.locate (withoutSlashes path) = .ok q ↔ t.locate path = .ok q := by
  obtain ⟨parts, -, some_text, free⟩ := steps_withoutSlashes path
  simp only [locate_eq_ok_iff, parts, origin_withoutSlashes, some_text, free, hd, implies_true]

/-- A path ends with its last step. -/
theorem exists_parent_of_locate {path name : String} {front : List (List Char)}
    (h : t.locate path = .ok q) (hs : steps path = front ++ [name.toList])
    (hu : name.toList ≠ ['.', '.']) :
    ∃ d, t.walk (t.origin path) front = .ok d ∧ t.node? d = some .directory ∧ q = d ++ [name] := by
  obtain ⟨-, -, walked, -⟩ := locate_eq_ok_iff.mp h
  have last : name.toList ∈ steps path := by
    rw [hs]
    simp
  have idle := FilePath.not_isIdle_of_mem_steps last
  rw [hs, walk_concat] at walked
  obtain ⟨d, walked, step⟩ := walked
  exact ⟨d, walked, directory_of_follow step, follow_name idle hu step⟩

/-! ### Directories stay -/

/-- What is a directory in the first tree is one in the second. -/
structure Keeps (t t' : FileTree) : Prop where
  here : t'.here = t.here
  directory : ∀ r, t.node? r = some .directory → t'.node? r = some .directory

theorem Keeps.refl (t : FileTree) : Keeps t t := ⟨rfl, fun _ h => h⟩

theorem Keeps.trans {t'' : FileTree} (h : Keeps t t') (h' : Keeps t' t'') : Keeps t t'' :=
  ⟨h'.here.trans h.here, fun r hr => h'.directory r (h.directory r hr)⟩

theorem Keeps.walk (h : Keeps t t') {parts : List (List Char)} (hw : t.walk p parts = .ok q) :
    t'.walk p parts = .ok q := by
  induction parts using List.reverseRecOn generalizing q with
  | nil => exact hw
  | append_singleton parts part ih =>
      rw [walk_concat] at hw ⊢
      obtain ⟨d, walked, step⟩ := hw
      have directory := directory_of_follow step
      refine ⟨d, ih walked, ?_⟩
      rw [follow_congr ((h.directory d directory).trans directory.symm)]
      exact step

theorem Keeps.origin (h : Keeps t t') (path : String) : t'.origin path = t.origin path := by
  unfold FileTree.origin
  rw [h.here]

/-- **A path that leads somewhere** leads there afterwards as well. -/
theorem Keeps.locate (h : Keeps t t') {path : String} (hl : t.locate path = .ok q) :
    t'.locate path = .ok q := by
  obtain ⟨hn, hz, walked, directory⟩ := locate_eq_ok_iff.mp hl
  refine locate_eq_ok_iff.mpr ⟨hn, hz, ?_, fun he => h.directory q (directory he)⟩
  rw [h.origin]
  exact h.walk walked

theorem ne_root_of_not_directory (h : t.node? p ≠ some .directory) : p ≠ [] := by
  rintro rfl
  exact h (node?_root t)

/-- Whatever is put where there is no directory, directories stay. -/
theorem keeps_put (n : Node) (h : t.node? p ≠ some .directory) : Keeps t (t.put p n) := by
  refine ⟨rfl, fun r hr => ?_⟩
  have other : r ≠ p := fun hrp => h (hrp ▸ hr)
  rw [node?_put_of_ne n other, hr]

theorem keeps_remove (h : t.node? p ≠ some .directory) : Keeps t (t.remove p) := by
  refine ⟨rfl, fun r hr => ?_⟩
  have other : r ≠ p := fun hrp => h (hrp ▸ hr)
  rw [node?_remove_of_ne other, hr]

/-! ### Trees -/

/-- Whatever there is is in a directory. -/
def IsTree (t : FileTree) : Prop :=
  ∀ p name, t.node? (p ++ [name]) ≠ none → t.node? p = some .directory

theorem isTree_of_nodes (h : ∀ e ∈ t.nodes, t.node? e.1.dropLast = some .directory) : t.IsTree := by
  intro p name hn
  rw [node?, if_neg (by simp)] at hn
  obtain ⟨n, hl⟩ := Option.ne_none_iff_exists'.mp hn
  obtain ⟨before, after, whole, -⟩ := List.lookup_eq_some_iff.mp hl
  simpa using h (p ++ [name], n) (by simp [whole])

/-- In a tree, names lead to whatever is there. -/
theorem IsTree.walk (h : t.IsTree) {parts : List (List Char)} (up : ['.', '.'] ∉ parts)
    (idle : ∀ part ∈ parts, isIdle part = false) (h' : t'.walk p parts = .ok q)
    (hq : t.node? q ≠ none) : t.walk p parts = .ok q := by
  induction parts using List.reverseRecOn generalizing q with
  | nil => exact h'
  | append_singleton parts part ih =>
      obtain ⟨name, rfl⟩ : ∃ name : String, name.toList = part := ⟨_, String.toList_ofList ..⟩
      have notUp : name.toList ≠ ['.', '.'] := fun he => up (by simp [he])
      rw [walk_concat] at h' ⊢
      obtain ⟨d, walked, step⟩ := h'
      obtain rfl := follow_name (idle _ (by simp)) notUp step
      have directory : t.node? d = some .directory := h d name hq
      refine ⟨d, ih (fun hm => up (List.mem_append_left _ hm))
        (fun part hp => idle part (List.mem_append_left _ hp)) walked (by simp [directory]), ?_⟩
      rw [← step]
      exact follow_congr (directory.trans (directory_of_follow step).symm)

/-- **A path without steps up** leads to whatever is there, in every tree that has it. -/
theorem IsTree.locate (h : t.IsTree) {path : String} (here : t'.here = t.here)
    (up : ['.', '.'] ∉ steps path) (h' : t'.locate path = .ok q) (hq : t.node? q ≠ none)
    (hd : t'.node? q = some .directory → t.node? q = some .directory) :
    t.locate path = .ok q := by
  obtain ⟨hn, hz, walked, directory⟩ := locate_eq_ok_iff.mp h'
  refine locate_eq_ok_iff.mpr ⟨hn, hz, ?_, fun he => hd (directory he)⟩
  have origin : t'.origin path = t.origin path := by
    unfold FileTree.origin
    rw [here]
  rw [origin] at walked
  exact h.walk up (fun part hp => FilePath.not_isIdle_of_mem_steps hp) walked hq

/-! ### Operations -/

/-- The text of the file that a path leads to. -/
def fileAt? (t : FileTree) (path : String) : Option ByteArray :=
  match t.find? path with
  | .ok (.file content) => some content
  | _ => none

theorem find?_eq_ok_iff {path : String} {n : Node} :
    t.find? path = .ok n ↔ ∃ q, t.locate path = .ok q ∧ t.node? q = some n := by
  unfold find?
  cases t.locate path with
  | error e => simp [bind, Except.bind]
  | ok q => cases hq : t.node? q <;> simp [bind, Except.bind, hq, pure, Except.pure]

theorem fileAt?_eq_some_iff {path : String} {content : ByteArray} :
    t.fileAt? path = some content ↔
      ∃ q, t.locate path = .ok q ∧ t.node? q = some (.file content) := by
  rw [← find?_eq_ok_iff, fileAt?]
  split
  case h_1 found => simp [found]
  case h_2 other => simpa using fun found => other _ found

/-- A text is read as it was put. -/
theorem read_of_find? {path text : String} (h : t.find? path = .ok (.file text.toUTF8)) :
    t.read path = .ok text := by
  have whole : String.fromUTF8? text.toUTF8 = some text := dif_pos text.isValidUTF8
  simp only [read, h, bind, Except.bind, whole]

theorem withoutSlashes_of_not_endsInSlash {path : String} (h : endsInSlash path = false) :
    withoutSlashes path = path := by
  have last : path.toList.reverse.head? ≠ some '/' := by simpa [endsInSlash] using h
  have same : (path.toList.reverse.dropWhile (· == '/')).reverse = path.toList := by
    cases hr : path.toList.reverse with
    | nil => simpa using hr
    | cons c cs =>
        rw [hr] at last
        rw [List.dropWhile_cons_of_neg (by simpa using last), ← hr, List.reverse_reverse]
  unfold withoutSlashes
  rw [same]
  simp

/-- A directory is made where there is nothing. -/
theorem makeDirectory_eq_ok {path : String} (h : t.makeDirectory path = .ok t') :
    ∃ q, t.locate (withoutSlashes path) = .ok q ∧ t.node? q = none ∧ t' = t.put q .directory := by
  unfold makeDirectory at h
  cases hl : t.locate (withoutSlashes path) with
  | error e =>
      rw [hl] at h
      cases h
  | ok q =>
      cases hq : t.node? q with
      | some n => simp [hl, bind, Except.bind, hq] at h
      | none =>
          simp only [hl, bind, Except.bind, hq, Except.ok.injEq] at h
          exact ⟨q, rfl, hq, h.symm⟩

/-- A text is put where there is no directory. -/
theorem write_eq_ok {path text : String} (h : t.write path text = .ok t') :
    ∃ q, t.locate (withoutSlashes path) = .ok q ∧ t.node? q ≠ some .directory ∧
      t' = t.put q (.file text.toUTF8) := by
  unfold write writeBytes at h
  cases hl : t.locate (withoutSlashes path) with
  | error e =>
      rw [hl] at h
      cases h
  | ok q =>
      simp only [hl, bind, Except.bind] at h
      split at h
      case h_1 => cases h
      case h_2 other =>
          split at h
          · cases h
          · exact ⟨q, rfl, other, (Except.ok.inj h).symm⟩

/-- A file is moved to where there is no directory. -/
theorem rename_eq_ok {source target : String} (h : t.rename source target = .ok t') :
    ∃ p q content, t.locate source = .ok p ∧ t.locate (withoutSlashes target) = .ok q ∧
      t.node? p = some (.file content) ∧ t.node? q ≠ some .directory ∧
      endsInSlash target = false ∧ t' = (t.remove p).put q (.file content) := by
  unfold rename at h
  cases hs : t.locate source with
  | error e =>
      rw [hs] at h
      cases h
  | ok p =>
      cases ht : t.locate (withoutSlashes target) with
      | error e =>
          rw [hs, ht] at h
          cases h
      | ok q =>
          simp only [hs, ht, bind, Except.bind] at h
          split at h
          case h_1 => cases h
          case h_2 => cases h
          case h_3 _ _ content hp =>
              split at h
              case isTrue => cases h
              case isFalse ends =>
                  split at h
                  case h_1 => cases h
                  case h_2 directory =>
                      exact ⟨p, q, content, rfl, rfl, hp, directory, by simpa using ends,
                        (Except.ok.inj h).symm⟩

end PatchSandbox.FileTree

/-! ### Making the directories of a path -/

namespace PatchSandbox

/-- A path, and the paths of the directories that it is in. -/
inductive FilePath.OnWay : String → String → Prop
  | self (path) : OnWay path path
  | up {path a b} (h : OnWay path a) (hb : FilePath.parent? a = some b) : OnWay path b

namespace FilePath.OnWay

theorem of_up {path parent a : String} (hp : parent? path = some parent) (h : OnWay parent a) :
    OnWay path a := by
  induction h with
  | self => exact .up (.self _) hp
  | up _ hb ih => exact .up ih hb

end FilePath.OnWay

namespace FileTree

open FilePath (OnWay)

variable {t t' t'' : FileTree} {path : String}

/-- At a place there is what was there, or a new directory on the way to a path. -/
def GrowsAt (path : String) (t t' : FileTree) (r : Place) : Prop :=
  t'.node? r = t.node? r ∨
    t.node? r = none ∧ t'.node? r = some .directory ∧ ∃ a, OnWay path a ∧ t'.locate a = .ok r

/-- The second tree has what the first one has. Where it has more, it has directories, and these are
on the way to a path. -/
structure Grows (path : String) (t t' : FileTree) : Prop where
  here : t'.here = t.here
  node : ∀ r, GrowsAt path t t' r

theorem Grows.refl (path : String) (t : FileTree) : Grows path t t := ⟨rfl, fun _ => .inl rfl⟩

theorem Grows.keeps (h : Grows path t t') : Keeps t t' := by
  refine ⟨h.here, fun r hr => ?_⟩
  obtain same | ⟨none, -⟩ := h.node r
  · exact same.trans hr
  · rw [hr] at none
    cases none

theorem Grows.trans (h : Grows path t t') (h' : Grows path t' t'') : Grows path t t'' := by
  refine ⟨h'.here.trans h.here, fun r => ?_⟩
  obtain same | ⟨none, made, a, way, leads⟩ := h.node r
  · obtain same' | ⟨none, made, more⟩ := h'.node r
    · exact .inl (same'.trans same)
    · exact .inr ⟨same ▸ none, made, more⟩
  · exact .inr ⟨none, h'.keeps.directory r made, a, way, h'.keeps.locate leads⟩

theorem Grows.of_up {parent : String} (hp : FilePath.parent? path = some parent)
    (h : Grows parent t t') : Grows path t t' := by
  refine ⟨h.here, fun r => ?_⟩
  obtain same | ⟨none, made, a, way, leads⟩ := h.node r
  · exact .inl same
  · exact .inr ⟨none, made, a, way.of_up hp, leads⟩

/-- One directory more. -/
theorem grows_of_makeDirectory (h : t.makeDirectory path = .ok t') : Grows path t t' := by
  obtain ⟨q, leads, nothing, rfl⟩ := makeDirectory_eq_ok h
  have free : t.node? q ≠ some .directory := by simp [nothing]
  have made : (t.put q .directory).node? q = some .directory :=
    node?_put_self _ (ne_root_of_not_directory free)
  have keeps : Keeps t (t.put q .directory) := keeps_put _ free
  refine ⟨rfl, fun r => ?_⟩
  by_cases hrq : r = q
  · subst hrq
    exact .inr ⟨nothing, made, path, .self path,
      (locate_withoutSlashes_iff made).mp (keeps.locate leads)⟩
  · exact .inl (node?_put_of_ne _ hrq)

/-- A change that fails leaves the tree as it is. -/
theorem change_apply (f : FileTree → Except DiskFlaw FileTree) (t : FileTree) :
    change f t = match f t with
      | .ok t' => (.ok (), t')
      | .error e => (.error e, t) := rfl

/-- A program that makes no more than directories on the way to a path. -/
def Growing (path : String) {α : Type} (m : StateM FileTree α) : Prop :=
  ∀ t, Grows path t (m t).2

section

variable {α β : Type} {m : StateM FileTree α} {f : α → StateM FileTree β}

theorem Growing.pure (a : α) : Growing path (pure a : StateM FileTree α) := fun t => .refl path t

theorem Growing.bind (h : Growing path m) (hf : ∀ a, Growing path (f a)) :
    Growing path (m >>= f) := fun t => (h t).trans (hf _ _)

theorem Growing.of_up {parent : String} (hp : FilePath.parent? path = some parent)
    (h : Growing parent m) : Growing path m := fun t => (h t).of_up hp

end

theorem growing_makeDirectory (path : String) : Growing path (disk.makeDirectory path) := by
  intro t
  have one : disk.makeDirectory path t = change (·.makeDirectory path) t := rfl
  rw [one, change_apply]
  cases h : t.makeDirectory path with
  | error e => exact .refl path t
  | ok t' => exact grows_of_makeDirectory h

/-- What is there already is no failure. -/
theorem growing_isDirectory (path : String) (e : DiskFlaw) :
    Growing path (do if ← disk.isDirectory path then return .ok () else return .error e :
      StateM FileTree (Except DiskFlaw Unit)) := by
  refine .bind (fun t => .refl path t) fun b => ?_
  cases b <;> exact .pure _

theorem growing_makeDirectoriesIn (n : Nat) (path : String) :
    Growing path (disk.makeDirectoriesIn n path) := by
  induction n generalizing path with
  | zero => exact .pure _
  | succ n ih =>
      rw [Disk.makeDirectoriesIn]
      split
      case isTrue => exact .pure _
      case isFalse =>
          refine .bind (growing_makeDirectory path) fun first => ?_
          split
          case h_1 => exact .pure _
          case h_2 =>
              split
              case h_1 => exact .pure _
              case h_2 parent hp =>
                  refine .bind ((ih parent).of_up hp) fun above => ?_
                  split
                  case h_1 => exact .pure _
                  case h_2 =>
                      refine .bind (growing_makeDirectory path) fun again => ?_
                      split
                      case h_1 => exact .pure _
                      case h_2 => exact growing_isDirectory path _
          case h_3 => exact growing_isDirectory path _

/-- **To make a directory with those it is in** makes directories on the way to it. -/
theorem growing_makeDirectories (path : String) : Growing path (disk.makeDirectories path) :=
  growing_makeDirectoriesIn _ path

/-- **Nothing is done** for a directory that is there. -/
theorem makeDirectories_of_directory (h : t.find? path = .ok .directory) :
    disk.makeDirectories path t = (.ok (), t) := by
  obtain ⟨q, leads, directory⟩ := find?_eq_ok_iff.mp h
  have some_text : path.isEmpty = false := by
    simpa using (locate_eq_ok_iff.mp leads).1
  have there : t.makeDirectory path = .error .alreadyExists := by
    simp [makeDirectory, (locate_withoutSlashes_iff directory).mpr leads, directory, bind,
      Except.bind]
  have one : disk.makeDirectory path t = (.error .alreadyExists, t) := by
    have same : disk.makeDirectory path t = change (·.makeDirectory path) t := rfl
    rw [same, change_apply]
    simp only [there]
  have is : disk.isDirectory path t = (true, t) := by simp [disk, h]
  rw [Disk.makeDirectories, Disk.makeDirectoriesIn, if_neg (by simp [some_text])]
  simp only [bind, StateT.bind, one, is]
  rfl

end FileTree

end PatchSandbox
