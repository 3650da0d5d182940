import PatchSandbox.Script.Tree

/-!
# Places in a tree

A **place** is a path from the root: of which part to go on in, again and again. It tells two
nodes apart that look alike. Going over a tree, every node before its parts, comes to every
place once: **`Node.exists_places`**. What is below a place comes after the node at it:
**`Node.cons_nodes_sublist`**.
-/

namespace PatchSandbox.Script

/-- The node at a place. -/
def Node.at? (n : Node) : List Nat → Option Node
  | [] => some n
  | i :: path => (n.form.children[i]?).bind fun m => m.at? path

/-- The node at a place in a list of trees. -/
def treesAt? (ns : List Node) : List Nat → Option Node
  | [] => none
  | i :: path => (ns[i]?).bind fun n => n.at? path

/-- The node at a place in a program. -/
def Program.at? (p : Program) : List Nat → Option Node :=
  treesAt? (p.directives ++ p.statements)

/-- Places, in the order of a list of nodes: each that there is, once. -/
structure Lists (at? : List Nat → Option Node) (places : List (List Nat)) (ns : List Node) :
    Prop where
  once : places.Nodup
  all : ∀ path, path ∈ places ↔ (at? path).isSome = true
  nodes : places.map at? = ns.map some

/-- The same place in a list with one tree more in front. -/
def shift : List Nat → List Nat
  | [] => []
  | i :: path => (i + 1) :: path

theorem shift_injective {a b : List Nat} (h : shift a = shift b) : a = b := by
  cases a <;> cases b <;> simp_all [shift]

theorem treesAt?_shift (n : Node) (ns : List Node) (path : List Nat) :
    treesAt? (n :: ns) (shift path) = treesAt? ns path := by
  cases path <;> rfl

/-- The places in a list of trees are those in its trees. -/
theorem lists_trees {ns : List Node} (h : ∀ n ∈ ns, ∃ places, Lists n.at? places n.nodes) :
    ∃ places, Lists (treesAt? ns) places (ns.flatMap Node.nodes) := by
  induction ns with
  | nil =>
      refine ⟨[], by simp, fun path => ?_, rfl⟩
      cases path <;> simp [treesAt?]
  | cons n ns ih =>
      obtain ⟨heads, hh⟩ := h n (by simp)
      obtain ⟨tails, ht⟩ := ih fun m hm => h m (by simp [hm])
      refine ⟨heads.map (0 :: ·) ++ tails.map shift, ?_, ?_, ?_⟩
      · refine List.nodup_append.mpr ⟨?_, ?_, ?_⟩
        · exact List.pairwise_map.mpr (hh.once.imp fun hne he => hne (List.cons.inj he).2)
        · exact List.pairwise_map.mpr (ht.once.imp fun hne he => hne (shift_injective he))
        · intro a ha b hb he
          obtain ⟨x, -, rfl⟩ := List.mem_map.mp ha
          obtain ⟨y, -, rfl⟩ := List.mem_map.mp hb
          cases y <;> simp [shift] at he
      · intro path
        rw [List.mem_append, List.mem_map, List.mem_map]
        constructor
        · rintro (⟨x, hx, rfl⟩ | ⟨x, hx, rfl⟩)
          · exact (hh.all x).mp hx
          · rw [treesAt?_shift]
            exact (ht.all x).mp hx
        · intro hp
          match path with
          | [] => simp [treesAt?] at hp
          | 0 :: x => exact .inl ⟨x, (hh.all x).mpr hp, rfl⟩
          | (i + 1) :: x => exact .inr ⟨i :: x, (ht.all (i :: x)).mpr hp, rfl⟩
      · rw [List.map_append, List.map_map, List.map_map, List.flatMap_cons, List.map_append,
          ← hh.nodes, ← ht.nodes]
        congr 1
        exact List.map_congr_left fun path _ => treesAt?_shift n ns path

/-- Going over a tree comes to every place in it once. -/
theorem Node.exists_places (n : Node) : ∃ places, Lists n.at? places n.nodes := by
  match n with
  | .mk span form =>
      obtain ⟨places, hp⟩ : ∃ places, Lists (treesAt? form.children) places _ :=
        lists_trees fun m hm => m.exists_places
      have below (i : Nat) (path : List Nat) :
          (Node.mk span form).at? (i :: path) = treesAt? form.children (i :: path) := rfl
      have none : [] ∉ places := by simp [hp.all, treesAt?]
      refine ⟨[] :: places, List.nodup_cons.mpr ⟨none, hp.once⟩, ?_, ?_⟩
      · intro path
        cases path with
        | nil => simp [at?]
        | cons i path => simp [below, hp.all]
      · rw [nodes_mk, List.map_cons, List.map_cons, ← hp.nodes]
        refine congrArg (some (Node.mk span form) :: ·) (List.map_congr_left fun path hm => ?_)
        cases path with
        | nil => exact absurd hm none
        | cons i path => exact below i path
termination_by sizeOf n
decreasing_by exact sizeOf_lt_of_mem_children hm

/-- The same of a program. -/
theorem Program.exists_places (p : Program) :
    ∃ places, Lists p.at? places ((p.directives ++ p.statements).flatMap Node.nodes) :=
  lists_trees fun n _ => n.exists_places

/-- The nodes that going over a program comes to are those at its places. -/
theorem Program.mem_nodes_iff {p : Program} {n : Node} :
    n ∈ (p.directives ++ p.statements).flatMap Node.nodes ↔ ∃ path, p.at? path = some n := by
  obtain ⟨places, h⟩ := p.exists_places
  have same : some n ∈ places.map p.at? ↔
      n ∈ (p.directives ++ p.statements).flatMap Node.nodes := by
    simp [h.nodes]
  rw [← same, List.mem_map]
  constructor
  · rintro ⟨path, -, hp⟩
    exact ⟨path, hp⟩
  · rintro ⟨path, hp⟩
    exact ⟨path, (h.all path).mpr (by simp [hp]), hp⟩

/-! ### Places below a place -/

theorem Node.at?_append (n : Node) (path more : List Nat) :
    n.at? (path ++ more) = (n.at? path).bind fun m => m.at? more := by
  induction path generalizing n with
  | nil => rfl
  | cons i path ih => simp [at?, ih, Option.bind_assoc]

theorem Program.at?_append {p : Program} {path : List Nat} {n : Node} (h : p.at? path = some n)
    (more : List Nat) : p.at? (path ++ more) = n.at? more := by
  unfold Program.at? at *
  cases path with
  | nil => simp [treesAt?] at h
  | cons i path =>
      obtain ⟨m, hm, hn⟩ := Option.bind_eq_some_iff.mp h
      rw [List.cons_append, treesAt?, hm, Option.bind_some, Node.at?_append, hn, Option.bind_some]

theorem Node.mem_nodes (n : Node) : n ∈ n.nodes := by
  cases n
  simp [nodes_mk]

theorem nodes_sublist_of_mem {n : Node} {ns : List Node} (h : n ∈ ns) :
    n.nodes.Sublist (ns.flatMap Node.nodes) := by
  rw [List.flatMap_def]
  exact List.sublist_flatten_of_mem (List.mem_map_of_mem h)

/-- What is at a place in a tree is gone over with it, -/
theorem Node.nodes_sublist {n m : Node} {path : List Nat} (h : n.at? path = some m) :
    m.nodes.Sublist n.nodes := by
  induction path generalizing n with
  | nil =>
      cases h
      exact List.Sublist.refl _
  | cons i path ih =>
      obtain ⟨span, form⟩ := n
      obtain ⟨k, hk, hm⟩ := Option.bind_eq_some_iff.mp h
      rw [nodes_mk]
      exact ((ih hm).trans (nodes_sublist_of_mem (List.mem_of_getElem? hk))).cons _

/-- and so is what is at a place in a list of trees. -/
theorem nodes_sublist_trees {ns : List Node} {m : Node} {path : List Nat}
    (h : treesAt? ns path = some m) : m.nodes.Sublist (ns.flatMap Node.nodes) := by
  cases path with
  | nil => simp [treesAt?] at h
  | cons i path =>
      obtain ⟨k, hk, hm⟩ := Option.bind_eq_some_iff.mp h
      exact (Node.nodes_sublist hm).trans (nodes_sublist_of_mem (List.mem_of_getElem? hk))

/-- What is below a place is gone over after the node at it. -/
theorem Node.cons_nodes_sublist {n m : Node} {path : List Nat} (hp : path ≠ [])
    (h : n.at? path = some m) : (n :: m.nodes).Sublist n.nodes := by
  obtain ⟨span, form⟩ := n
  cases path with
  | nil => exact absurd rfl hp
  | cons i path =>
      have below : treesAt? form.children (i :: path) = some m := h
      rw [nodes_mk]
      exact (nodes_sublist_trees below).cons_cons _

end PatchSandbox.Script
