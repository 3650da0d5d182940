import PatchSandbox.Proofs.Script.Spelling
import PatchSandbox.Script.Grammar.Basic

/-!
# Words in a tree

The words of a source have no line feed, also where they are spelled with escapes. Of these words a
tree quotes some: the names of meta properties.

* **`Tidy`** — words, and whatever quotes them: tokens, nodes, and what is made of these.
* **`Keeps`** — a reader that begins at a tidy token ends at one, and what it reads is tidy.

Readers that keep things tidy are put together to readers that do. These are instances, so that a
reader without cases keeps things tidy because its parts do. What one part gives to the next is of
a subtype: so an instance knows that it is tidy.
-/

namespace PatchSandbox.Script

open Text (IsOneLine)

/-! ### Tokens -/

/-- A token that is no word, or a word without a line feed. -/
def Token.IsTidy (t : Token) : Prop :=
  ∀ name escaped, t.kind = .word name escaped → IsOneLine name

theorem isTidy_of_token {newLine : Bool} {offset : Nat} {cs : List Char} {t : Token}
    (h : Lexer.token newLine offset cs = .ok t) : t.IsTidy := by
  intro name escaped hk
  obtain ⟨-, hs⟩ := shape_of_token h
  generalize t.kind = k, t.rest = rest at hk hs
  cases hs with
  | word hw =>
      cases hk
      exact isOneLine_of_word hw (by decide)
  | string hq hs =>
      obtain ⟨v, l, hv⟩ := kind_of_string hs
      cases hv.symm.trans hk
  | template hs =>
      obtain ⟨quasi, closes, hv⟩ := kind_of_template hs
      cases hv.symm.trans hk
  | number hn =>
      rcases hn.kind with ⟨v, f, hv⟩ | ⟨v, hv⟩ <;> cases hv.symm.trans hk
  | _ => cases hk

theorem isTidy_of_next {goal : Goal} {offset : Nat} {cs : List Char} {t : Token}
    (h : Lexer.next goal offset cs = .ok t) : t.IsTidy := by
  obtain ⟨g, -, h⟩ := ok_of_bind h
  exact isTidy_of_token h

theorem isTidy_of_first {goal : Goal} {cs : List Char} {t : Token}
    (h : Lexer.first goal cs = .ok t) : t.IsTidy := isTidy_of_next h

/-- What follows a substitution is no word. -/
theorem isTidy_of_templateTail {t u : Token} (h : Lexer.templateTail t = .ok u) : u.IsTidy := by
  intro name escaped hk
  obtain ⟨q, hq, h⟩ := ok_of_bind h
  cases h
  obtain ⟨quasi, closes, hv⟩ := kind_of_template hq
  cases hv.symm.trans hk

/-- The words that a node quotes itself. -/
@[reducible] def Form.quoted : Form Node → List String
  | .metaProperty o p => [o, p]
  | _ => []

/-- Every word that a tree quotes is one line. -/
def Node.IsTidy (n : Node) : Prop := ∀ m ∈ n.nodes, ∀ s ∈ m.form.quoted, IsOneLine s

theorem Node.isTidy_mk {span : Span} {form : Form Node} :
    (Node.mk span form).IsTidy ↔
      (∀ s ∈ form.quoted, IsOneLine s) ∧ ∀ n ∈ form.children, n.IsTidy := by
  unfold IsTidy
  rw [nodes_mk, List.forall_mem_cons]
  refine and_congr Iff.rfl ?_
  simp only [List.mem_flatMap, forall_exists_index, and_imp]
  exact ⟨fun h n hn m hm => h m n hn hm, fun h m n hn hm => h n hn m hm⟩

namespace Grammar

/-! ### What is tidy -/

/-- What it means that things of a type are tidy. Most types quote no words. -/
class Quotes (α : Type) where
  IsTidy : α → Prop

instance (priority := low) quotes_nothing (α : Type) : Quotes α := ⟨fun _ => True⟩

instance quotes_string : Quotes String := ⟨IsOneLine⟩

instance quotes_token : Quotes Token := ⟨Token.IsTidy⟩

instance quotes_node : Quotes Node := ⟨Node.IsTidy⟩

section

variable {α β : Type}

instance quotes_list [Quotes α] : Quotes (List α) := ⟨fun l => ∀ a ∈ l, Quotes.IsTidy a⟩

instance quotes_option [Quotes α] : Quotes (Option α) := ⟨fun o => ∀ a ∈ o, Quotes.IsTidy a⟩

instance quotes_prod [Quotes α] [Quotes β] : Quotes (α × β) :=
  ⟨fun p => Quotes.IsTidy p.1 ∧ Quotes.IsTidy p.2⟩

instance quotes_state : Quotes ReaderState :=
  ⟨fun s => Quotes.IsTidy s.token ∧ Quotes.IsTidy s.decorators⟩

/-- The words that something quotes are one line each. -/
class Tidy [Quotes α] (a : α) : Prop where
  tidy : Quotes.IsTidy a

/-- A reader that keeps things tidy. -/
class Keeps [Quotes α] (m : P α) : Prop where
  keeps : ∀ c s a s', Tidy s → m c s = .ok a s' → Tidy s' ∧ Tidy a

end

set_option synthInstance.maxSize 1024

section

variable {α β : Type} [Quotes α] [Quotes β]

/-! ### Things that are put together -/

instance tidy_any {α : Type} (a : α) : @Tidy α (quotes_nothing α) a := ⟨trivial⟩

instance tidy_items {α : Type} (l : List α) :
    @Tidy (List α) (@quotes_list α (quotes_nothing α)) l :=
  ⟨fun _ _ => trivial⟩

instance tidy_val (a : { a : α // Tidy a }) : Tidy a.val := a.property

instance tidy_nil : Tidy ([] : List α) := ⟨fun _ h => by cases h⟩

instance tidy_cons (a : α) (l : List α) [ha : Tidy a] [hl : Tidy l] : Tidy (a :: l) :=
  ⟨List.forall_mem_cons.mpr ⟨ha.tidy, hl.tidy⟩⟩

instance tidy_append (l m : List α) [hl : Tidy l] [hm : Tidy m] : Tidy (l ++ m) :=
  ⟨List.forall_mem_append.mpr ⟨hl.tidy, hm.tidy⟩⟩

instance tidy_reverse (l : List α) [hl : Tidy l] : Tidy l.reverse :=
  ⟨fun a h => hl.tidy a (List.mem_reverse.mp h)⟩

instance tidy_none : Tidy (none : Option α) := ⟨fun _ h => by cases h⟩

instance tidy_some (a : α) [ha : Tidy a] : Tidy (some a) :=
  ⟨fun b h => by cases h; exact ha.tidy⟩

theorem Tidy.of_some {a : α} (h : Tidy (some a)) : Tidy a := ⟨h.tidy a rfl⟩

instance tidy_toList (o : Option α) [ho : Tidy o] : Tidy o.toList :=
  ⟨fun a h => ho.tidy a (Option.mem_toList.mp h)⟩

instance tidy_pair (a : α) (b : β) [ha : Tidy a] [hb : Tidy b] : Tidy (a, b) :=
  ⟨ha.tidy, hb.tidy⟩

theorem Tidy.of_pair {a : α} {b : β} (h : Tidy (a, b)) : Tidy a ∧ Tidy b :=
  ⟨⟨h.tidy.1⟩, ⟨h.tidy.2⟩⟩

instance tidy_current (s : ReaderState) [hs : Tidy s] : Tidy s.token := ⟨hs.tidy.1⟩

instance tidy_decorators (s : ReaderState) [hs : Tidy s] : Tidy s.decorators := ⟨hs.tidy.2⟩

theorem tidy_word {t : Token} {name : String} {escaped : Bool} [ht : Tidy t]
    (h : t.kind = .word name escaped) : Tidy name := ⟨ht.tidy name escaped h⟩

/-! ### Readers that are put together -/

/-- One reader after another. -/
theorem Keeps.bind {m : P α} {f : α → P β} (hm : Keeps m) (hf : ∀ a, Tidy a → Keeps (f a)) :
    Keeps (m >>= f) := by
  refine ⟨fun c s b s'' hs h => ?_⟩
  simp only [Bind.bind, ReaderT.bind, EStateM.bind] at h
  split at h
  case h_1 a s' he =>
      obtain ⟨hs', ha⟩ := hm.keeps c s a s' hs he
      exact (hf a ha).keeps c s' b s'' hs' h
  case h_2 => cases h

instance keeps_pure (a : α) [ha : Tidy a] : Keeps (pure a) := by
  refine ⟨fun c s b s' hs h => ?_⟩
  cases h
  exact ⟨hs, ha⟩

instance keeps_bind {m : P α} {f : α → P β} [hm : Keeps m]
    [hf : ∀ a : { a : α // Tidy a }, Keeps (f a.val)] : Keeps (m >>= f) :=
  hm.bind fun a ha => hf ⟨a, ha⟩

theorem Keeps.ite {p : Prop} [Decidable p] {m n : P α} (hm : Keeps m) (hn : Keeps n) :
    Keeps (if p then m else n) := by
  split
  · exact hm
  · exact hn

instance keeps_ite {p : Prop} [Decidable p] {m n : P α} [hm : Keeps m] [hn : Keeps n] :
    Keeps (if p then m else n) := hm.ite hn

instance keeps_map {m : P α} {f : α → β} [hm : Keeps m]
    [hf : ∀ a : { a : α // Tidy a }, Tidy (f a.val)] : Keeps (f <$> m) := by
  rw [← bind_pure_comp]
  infer_instance

instance keeps_discard {m : P α} [Keeps m] : Keeps (discard m) := keeps_map

instance keeps_throw (flaw : Flaw) : Keeps (throw flaw : P α) :=
  ⟨fun _ _ _ _ _ h => by cases h⟩

instance keeps_read : Keeps (read : P Context) := by
  refine ⟨fun c s a s' hs h => ?_⟩
  cases h
  exact ⟨hs, tidy_any _⟩

instance keeps_get : Keeps (get : P ReaderState) := by
  refine ⟨fun c s a s' hs h => ?_⟩
  cases h
  exact ⟨hs, hs⟩

theorem keeps_modify {f : ReaderState → ReaderState} (hf : ∀ s, Tidy s → Tidy (f s)) :
    Keeps (modify f : P Unit) := by
  refine ⟨fun c s a s' hs h => ?_⟩
  cases h
  exact ⟨hf s hs, tidy_any _⟩

instance keeps_withReader {f : Context → Context} {m : P α} [hm : Keeps m] :
    Keeps (withReader f m) :=
  ⟨fun c s a s' hs h => hm.keeps (f c) s a s' hs h⟩

instance keeps_fail (cause : Cause) (offset : Nat) : Keeps (fail cause offset : P α) :=
  keeps_throw _

instance keeps_reject (cause : Cause) (offset : Nat) : Keeps (reject cause offset : P α) :=
  ⟨fun _ _ _ _ _ h => by cases h⟩

instance keeps_report (cause : Cause) (offset : Nat) : Keeps (report cause offset) :=
  keeps_modify fun _ hs => ⟨hs.tidy⟩

instance keeps_current : Keeps current := by
  unfold current
  infer_instance

instance keeps_unexpected : Keeps (unexpected : P α) := by
  unfold unexpected
  infer_instance

theorem keeps_lexed_of {r : Lexer.Read α} (hr : ∀ a, r = .ok a → Tidy a) : Keeps (lexed r) := by
  cases r with
  | error flaw => exact keeps_throw flaw
  | ok a =>
      have := hr a rfl
      exact keeps_pure a

instance keeps_lexed {r : Lexer.Read α} [ha : ∀ a : α, Tidy a] : Keeps (lexed r) :=
  keeps_lexed_of fun a _ => ha a

instance keeps_next (goal : Goal) (offset : Nat) (cs : List Char) :
    Keeps (lexed (Lexer.next goal offset cs)) := keeps_lexed_of fun _ h => ⟨isTidy_of_next h⟩

instance keeps_templateTail (t : Token) : Keeps (lexed (Lexer.templateTail t)) :=
  keeps_lexed_of fun _ h => ⟨isTidy_of_templateTail h⟩

instance keeps_peek : Keeps peek := by
  unfold peek
  infer_instance

instance keeps_reread (t : Token) [ht : Tidy t] : Keeps (reread t) :=
  keeps_modify fun _ hs => ⟨ht.tidy, hs.tidy.2⟩

instance keeps_advance : Keeps advance :=
  keeps_peek.bind fun _ ht => keeps_modify fun _ hs => ⟨ht.tidy, hs.tidy.2⟩

instance keeps_advanceKeyword : Keeps advanceKeyword := by
  refine keeps_current.bind fun t ht => ?_
  dsimp only
  split <;> infer_instance

instance keeps_here : Keeps here := by
  unfold here
  infer_instance

instance keeps_node (start : Nat) (form : Form Node) [hc : Tidy form.children]
    [hq : Tidy form.quoted] : Keeps (node start form) := by
  refine ⟨fun c s n s' hs h => ?_⟩
  cases h
  exact ⟨hs, ⟨Node.isTidy_mk.mpr ⟨hq.tidy, hc.tidy⟩⟩⟩

instance keeps_at (p : Punct) : Keeps (at? p) := by
  unfold at?
  infer_instance

instance keeps_atWord (name : String) : Keeps (atWord? name) := by
  unfold atWord?
  infer_instance

instance keeps_eat (p : Punct) : Keeps (eat p) := by
  unfold eat
  infer_instance

instance keeps_eatWord (name : String) : Keeps (eatWord name) := by
  unfold eatWord
  infer_instance

instance keeps_expect (p : Punct) : Keeps (expect p) := by
  unfold expect
  infer_instance

instance keeps_expectWord (name : String) : Keeps (expectWord name) := by
  unfold expectWord
  infer_instance

instance keeps_mayEnd : Keeps mayEnd := by
  unfold mayEnd
  infer_instance

instance keeps_endStatement : Keeps endStatement := by
  unfold endStatement
  infer_instance

instance keeps_before (close : Punct) : Keeps (before? close) := by
  unfold before?
  infer_instance

instance keeps_allowingIn {m : P α} [Keeps m] : Keeps (allowingIn m) := keeps_withReader

instance keeps_forbiddingIn {m : P α} [Keeps m] : Keeps (forbiddingIn m) := keeps_withReader

instance keeps_inside {isAsync isGenerator : Bool} {m : P α} [Keeps m] :
    Keeps (inside isAsync isGenerator m) := keeps_withReader

/-- A trial that fails goes back to where it began. -/
instance keeps_attempt {m : P α} [hm : Keeps m] : Keeps (attempt m) := by
  refine ⟨fun c s o s' hs h => ?_⟩
  unfold attempt at h
  split at h
  case h_1 a s₁ he =>
      cases h
      obtain ⟨hs', ha⟩ := hm.keeps c s a s' hs he
      exact ⟨hs', tidy_some a⟩
  case h_2 =>
      split at h
      · cases h
      · cases h
        exact ⟨⟨hs.tidy⟩, tidy_none⟩

instance keeps_lookAhead {m : P α} [hm : Keeps m] : Keeps (lookAhead m) := by
  refine keeps_get.bind fun s hs => hm.bind fun a ha => ?_
  refine Keeps.bind (α := PUnit) ⟨fun c _ _ s' _ h => ?_⟩ fun _ _ => keeps_pure a
  cases h
  exact ⟨hs, tidy_any _⟩

/-! ### Repetition -/

instance keeps_repeatUpTo {step : P (Option α)} [hstep : Keeps step] (n : Nat) (acc : List α)
    [hacc : Tidy acc] : Keeps (repeatUpTo step n acc) := by
  induction n generalizing acc with
  | zero => exact keeps_pure _
  | succ n ih =>
      refine hstep.bind fun a ha => ?_
      cases a with
      | some a =>
          have := ha.of_some
          exact ih _
      | none => exact keeps_pure _

instance keeps_repeating {step : P (Option α)} [Keeps step] : Keeps (repeating step) := by
  unfold repeating
  infer_instance

instance keeps_while {test : P Bool} {item : P α} [Keeps test] [Keeps item] :
    Keeps (while? test item) := by
  unfold while?
  infer_instance

instance keeps_listStep (close : Punct) (keepComma : Bool) {item : P α} [Keeps item]
    (first : Bool) : Keeps (listStep close keepComma item first) := by
  unfold listStep
  dsimp only
  infer_instance

instance keeps_commaList (close : Punct) (keepComma : Bool) {item : P α} [Keeps item] :
    Keeps (commaList close keepComma item) := by
  refine Keeps.bind inferInstance fun a ha => ?_
  cases a with
  | none => exact keeps_pure _
  | some a =>
      have := ha.of_some
      infer_instance

theorem Keeps.forIn {α : Type} {f : α → PUnit → P (ForInStep PUnit)}
    (hf : ∀ a, Keeps (f a ⟨⟩)) (l : List α) : Keeps (forIn l ⟨⟩ f) := by
  induction l with
  | nil => exact keeps_pure _
  | cons a l ih =>
      rw [List.forIn_cons]
      refine (hf a).bind fun step _ => ?_
      cases step with
      | done _ => exact keeps_pure _
      | yield _ => exact ih

/-! ### Names -/

instance keeps_checkIdentifier (name : String) (offset : Nat) :
    Keeps (checkIdentifier name offset) := by
  unfold checkIdentifier
  dsimp only
  infer_instance

instance keeps_identifier (otherwise : TokenKind → Cause) : Keeps (identifier otherwise) := by
  refine keeps_current.bind fun t ht => ?_
  split <;> infer_instance

instance keeps_bindingIdentifier : Keeps bindingIdentifier := keeps_identifier _

/-- A word that is read is one line. -/
instance keeps_anyName : Keeps anyName := by
  refine keeps_current.bind fun t ht => ?_
  split
  case h_1 name _ hk =>
      have := tidy_word hk
      infer_instance
  case h_2 => infer_instance

/-! ### Readers of nonterminals -/

/-- Every reader keeps things tidy. -/
class Keeping (g : Knot) : Prop where
  keeps : ∀ n, Keeps (g n)

instance keeps_knot {g : Knot} [hg : Keeping g] (n : Nonterminal) : Keeps (g n) := hg.keeps n

instance keeps_sequenceFrom {g : Knot} [Keeping g] (start : Nat) (first : Node) [Tidy first] :
    Keeps (sequenceFrom g start first) := by
  unfold sequenceFrom
  infer_instance

end

end Grammar

end PatchSandbox.Script
