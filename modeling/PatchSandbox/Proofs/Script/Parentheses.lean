import Mathlib.Data.List.Forall2
import Mathlib.Tactic.DeriveTraversable
import PatchSandbox.Script.Tree

/-!
# Trees but for parentheses

Two trees may be the same but for parentheses. Parentheses also end an optional chain, so that the
mark of its end goes with them: in `a?.b()` it stands around the call, in `(a?.b)()` around the
member.

* **`Form.head`** is a form without its parts.
* **`Node.Reparenthesized`** relates two such trees, and **`Program.Reparenthesized`** two such
  programs.
* **`Node.Reparenthesized.filter_nodes`**: their nodes correspond, apart from parentheses and ends
  of chains.
-/

namespace PatchSandbox.Script

deriving instance Functor for Form

namespace Form

variable {ν : Type} {f g : Form ν}

/-- A form without its parts: what it is, and how many parts it has. -/
def head (form : Form ν) : Form Unit := (fun _ => ()) <$> form

/-- Whether a form is a link of a chain; only with one of these a chain ends. -/
def isLink : Form ν → Bool
  | .call _ _ _ => true
  | .member _ _ _ => true
  | .index _ _ _ => true
  | .privateMember _ _ _ => true
  | _ => false

/-- Whether a form is an expression in parentheses. -/
def isParen : Form ν → Bool
  | .paren _ => true
  | _ => false

theorem isLink_head (f : Form ν) : f.head.isLink = f.isLink := by
  cases f <;> rfl

theorem isParen_head (f : Form ν) : f.head.isParen = f.isParen := by
  cases f <;> rfl

theorem isParen_eq_of_head (h : f.head = g.head) : f.isParen = g.isParen := by
  rw [← isParen_head, h, isParen_head]

theorem eq_paren_of_isParen (h : f.isParen = true) : ∃ body, f = .paren body := by
  cases f <;> cases h
  exact ⟨_, rfl⟩

theorem children_head (f : Form ν) : f.head.children = f.children.map fun _ => () := by
  cases f <;> simp [head, Functor.map, Form.map, children, Option.toList_map, -List.map_const']

/-- Forms of one head have as many parts. -/
theorem length_children_of_head (h : f.head = g.head) :
    f.children.length = g.children.length := by
  have := congrArg (fun form => form.children.length) h
  simpa [children_head] using this

theorem eq_name_of_head {text : String} (h : f.head = .name text) : f = .name text := by
  cases f <;> cases h
  rfl

theorem eq_member_of_head {isOptional : Bool} {u : Unit} {text : String}
    (h : f.head = .member isOptional u text) : ∃ target, f = .member isOptional target text := by
  cases f <;> cases h
  exact ⟨_, rfl⟩

theorem eq_index_of_head {isOptional : Bool} {u v : Unit} (h : f.head = .index isOptional u v) :
    ∃ target key, f = .index isOptional target key := by
  cases f <;> cases h
  exact ⟨_, _, rfl⟩

end Form

/-- Two trees that are the same but for parentheses, wherever and however many. -/
inductive Node.Reparenthesized : Node → Node → Prop
  | parts {s s' : Span} {f f' : Form Node} (head : f.head = f'.head)
      (each : ∀ n m, (n, m) ∈ f.children.zip f'.children → Reparenthesized n m) :
      Reparenthesized (.mk s f) (.mk s' f')
  | parenLeft {s : Span} {n m : Node} (inner : Reparenthesized n m) :
      Reparenthesized (.mk s (.paren n)) m
  | parenRight {s : Span} {n m : Node} (inner : Reparenthesized n m) :
      Reparenthesized n (.mk s (.paren m))
  | chainLeft {s : Span} {n m : Node} (link : n.form.isLink = true)
      (inner : Reparenthesized n m) : Reparenthesized (.mk s (.chain n)) m
  | chainRight {s : Span} {n m : Node} (link : m.form.isLink = true)
      (inner : Reparenthesized n m) : Reparenthesized n (.mk s (.chain m))

/-- The same of programs. -/
structure Program.Reparenthesized (p q : Program) : Prop where
  directives : List.Forall₂ Node.Reparenthesized p.directives q.directives
  statements : List.Forall₂ Node.Reparenthesized p.statements q.statements

namespace Node.Reparenthesized

theorem of_forall₂ {s s' : Span} {f f' : Form Node} (head : f.head = f'.head)
    (each : List.Forall₂ Reparenthesized f.children f'.children) :
    Reparenthesized (.mk s f) (.mk s' f') :=
  .parts head fun _ _ h => (List.forall₂_iff_zip.mp each).2 h

theorem refl (n : Node) : Reparenthesized n n := by
  match n with
  | .mk s f => exact of_forall₂ rfl (List.forall₂_same.mpr fun a ha => refl a)
termination_by sizeOf n
decreasing_by exact sizeOf_lt_of_mem_children ha

variable {n m : Node}

/-- Induction by the outermost parentheses: two nodes in none, or one more pair around one of them.
That both are in parentheses is the same as one after the other. -/
theorem outside_in {motive : ∀ n m, Reparenthesized n m → Prop}
    (bare : ∀ {s s' : Span} {f f' : Form Node} (head : f.head = f'.head)
      (each : ∀ n m, (n, m) ∈ f.children.zip f'.children → Reparenthesized n m),
      f.isParen = false → f'.isParen = false → motive (.mk s f) (.mk s' f') (.parts head each))
    (left : ∀ {s : Span} {n m : Node} (inner : Reparenthesized n m), motive n m inner →
      motive (.mk s (.paren n)) m (.parenLeft inner))
    (right : ∀ {s : Span} {n m : Node} (inner : Reparenthesized n m), motive n m inner →
      motive n (.mk s (.paren m)) (.parenRight inner))
    (chainLeft : ∀ {s : Span} {n m : Node} (link : n.form.isLink = true)
      (inner : Reparenthesized n m), motive n m inner →
      motive (.mk s (.chain n)) m (.chainLeft link inner))
    (chainRight : ∀ {s : Span} {n m : Node} (link : m.form.isLink = true)
      (inner : Reparenthesized n m), motive n m inner →
      motive n (.mk s (.chain m)) (.chainRight link inner))
    (h : Reparenthesized n m) : motive n m h := by
  induction h with
  | @parts s s' f f' head each ih =>
      have parens := Form.isParen_eq_of_head head
      cases hp : f.isParen with
      | true =>
          obtain ⟨body, rfl⟩ := Form.eq_paren_of_isParen hp
          obtain ⟨body', rfl⟩ := Form.eq_paren_of_isParen (parens.symm.trans hp)
          exact left _ (right _ (ih body body' (by simp [Form.children])))
      | false => exact bare head each hp (parens.symm.trans hp)
  | parenLeft inner ih => exact left inner ih
  | parenRight inner ih => exact right inner ih
  | chainLeft link inner ih => exact chainLeft link inner ih
  | chainRight link inner ih => exact chainRight link inner ih

/-- A node goes with the same node with parentheses around it. -/
theorem around (s : Span) (n : Node) : Reparenthesized n (.mk s (.paren n)) :=
  .parenRight (refl n)

theorem nodes_filter_mk {keep : Form Unit → Bool} (s : Span) (f : Form Node) :
    (Node.mk s f).nodes.filter (fun a => keep a.form.head) =
      (if keep f.head then [.mk s f] else []) ++
        f.children.flatMap fun a => a.nodes.filter fun b => keep b.form.head := by
  rw [nodes_mk, List.filter_cons, List.filter_flatMap]
  cases h : keep f.head <;> simp [form, h]

/-- **The nodes of such trees correspond**, one by one in the order of the text, but for the
parentheses and the ends of chains themselves. -/
theorem filter_nodes {keep : Form Unit → Bool} (paren : keep (.paren ()) = false)
    (chain : keep (.chain ()) = false) (h : Reparenthesized n m) :
    List.Forall₂ Reparenthesized (n.nodes.filter fun a => keep a.form.head)
      (m.nodes.filter fun a => keep a.form.head) := by
  have inParens (s : Span) (a : Node) : (Node.mk s (.paren a)).nodes.filter
      (fun b => keep b.form.head) = a.nodes.filter fun b => keep b.form.head := by
    rw [nodes_filter_mk]
    simp [Form.head, Functor.map, Form.map, paren, Form.children]
  have inChain (s : Span) (a : Node) : (Node.mk s (.chain a)).nodes.filter
      (fun b => keep b.form.head) = a.nodes.filter fun b => keep b.form.head := by
    rw [nodes_filter_mk]
    simp [Form.head, Functor.map, Form.map, chain, Form.children]
  induction h with
  | @parts s s' f f' head each ih =>
      rw [nodes_filter_mk, nodes_filter_mk, ← head]
      refine List.rel_append ?_ ?_
      · cases keep f.head with
        | true => exact .cons (.parts head each) .nil
        | false => exact .nil
      · have below : List.Forall₂ (fun a b => List.Forall₂ Reparenthesized
            (a.nodes.filter fun b => keep b.form.head)
            (b.nodes.filter fun b => keep b.form.head)) f.children f'.children :=
          List.forall₂_iff_zip.mpr ⟨Form.length_children_of_head head, fun h => ih _ _ h⟩
        exact List.rel_flatMap below fun a b h => h
  | parenLeft _ ih =>
      rw [inParens]
      exact ih
  | parenRight _ ih =>
      rw [inParens]
      exact ih
  | chainLeft _ _ ih =>
      rw [inChain]
      exact ih
  | chainRight _ _ ih =>
      rw [inChain]
      exact ih

end Node.Reparenthesized

end PatchSandbox.Script
