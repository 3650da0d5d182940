import PatchSandbox.Proofs.Script.Reading
import PatchSandbox.Proofs.Script.Spelling
import PatchSandbox.Script.Grammar.Basic

/-!
# Readers and brackets

A reader goes from the current token to a later one. What it goes over is a part of a reading
of the source.

* **`Walks`** — a reader that begins at a token between some brackets ends between others.
* **`Even`** — it ends between the same ones, wherever it begins.
* **`Still`** — it does not leave the current token.

There is a rule for every way in which readers are put together: what is shown of a reader
follows its text.
-/

namespace PatchSandbox.Script

/-- A piece of a template that opens none. -/
def Token.isTail (t : Token) : Bool :=
  match t.kind with
  | .template _ false _ => true
  | _ => false

theorem not_isTail_of_next {goal : Goal} {offset : Nat} {cs : List Char} {t : Token}
    (h : Lexer.next goal offset cs = .ok t) : t.isTail = false := by
  obtain ⟨g, -, h⟩ := ok_of_bind h
  obtain ⟨-, hs⟩ := shape_of_token h
  unfold Token.isTail
  generalize g.rest = text, t.kind = k, t.rest = rest at hs
  cases hs with
  | eof => rfl
  | punct => rfl
  | string hq hs =>
      obtain ⟨v, l, hv⟩ := kind_of_string hs
      rw [hv]
  | template hs =>
      obtain ⟨quasi, closes, hv⟩ := kind_of_template hs
      rw [hv]
  | number hn =>
      rcases hn.kind with ⟨v, f, hv⟩ | ⟨v, hv⟩ <;> rw [hv]
  | privateName => rfl
  | word => rfl

/-! ### Places -/

theorem Reads.trans {σ σ' τ : List Bracket} {t u v : Token} {ls ms : List Lexeme}
    (h : Reads σ t ls σ' u) (h' : Reads σ' u ms τ v) : Reads σ t (ls ++ ms) τ v := by
  induction h with
  | refl => exact h'
  | token ha hu _ ih => exact .token ha hu (ih h')
  | regex hs hr hu _ ih => exact .regex hs hr hu (ih h')
  | resume hb hu _ ih => exact .resume hb hu (ih h')

/-- The token is reached in the source, between these brackets. -/
def Reaches (source : List Char) (σ : List Bracket) (t : Token) : Prop :=
  ∃ ls, Stage source ls σ t

/-- It is reached, and it is no piece of a template that goes on. -/
structure Stands (source : List Char) (σ : List Bracket) (t : Token) : Prop where
  reaches : Reaches source σ t
  fresh : t.isTail = false

/-- One token comes right after the other. -/
def Follows (t u : Token) : Prop := Lexer.next .module t.span.stop t.rest = .ok u

theorem Follows.unique {t u v : Token} (h : Follows t u) (h' : Follows t v) : u = v :=
  Except.ok.inj (h.symm.trans h')

section

variable {source : List Char} {σ σ' : List Bracket} {t u : Token}

theorem Reaches.reads {ls : List Lexeme} (h : Reaches source σ t) (hr : Reads σ t ls σ' u) :
    Reaches source σ' u := by
  obtain ⟨ms, first, hf, hs⟩ := h
  exact ⟨ms ++ ls, first, hf, hs.trans hr⟩

theorem Reaches.next (h : Reaches source σ t) (ha : t.kind.around σ = some σ')
    (hu : Follows t u) : Stands source σ' u :=
  ⟨h.reads (.token ha hu (.refl _ _)), not_isTail_of_next hu⟩

end

namespace Grammar

/-! ### Readers -/

section

variable {α β : Type}

/-- A reader that does not leave the current token. -/
def Still (m : P α) : Prop := ∀ c s a s', m c s = .ok a s' → s'.token = s.token

/-- A reader that begins at a token between some brackets and ends between others. -/
def Walks (source : List Char) (t : Token) (σ τ : List Bracket) (m : P α) : Prop :=
  ∀ c s a s', c.goal = .module → s.token = t → Stands source σ t → m c s = .ok a s' →
    Stands source τ s'.token

/-- A reader that ends between the brackets that it begins between. -/
def Even (source : List Char) (m : P α) : Prop := ∀ t σ, Walks source t σ σ m

theorem ok_of_bind_reader {m : P α} {f : α → P β} {c : Context} {s s'' : ReaderState} {b : β}
    (h : (m >>= f) c s = .ok b s'') : ∃ a s', m c s = .ok a s' ∧ f a c s' = .ok b s'' := by
  simp only [bind, ReaderT.bind, EStateM.bind] at h
  split at h
  · rename_i a s' hm
    exact ⟨a, s', hm, h⟩
  · cases h

theorem Still.pure (a : α) : Still (pure a : P α) := by
  intro c s b s' h
  cases h
  rfl

theorem Still.bind {m : P α} {f : α → P β} (hm : Still m) (hf : ∀ a, Still (f a)) :
    Still (m >>= f) := by
  intro c s b s'' h
  obtain ⟨a, s', ha, hb⟩ := ok_of_bind_reader h
  exact (hf a c s' b s'' hb).trans (hm c s a s' ha)

/-- A reader that fails ends nowhere. -/
theorem ne_ok_of_throw {flaw : Flaw} {c : Context} {s s' : ReaderState} {a : α} :
    (throw flaw : P α) c s ≠ .ok a s' := by
  intro h
  change EStateM.Result.error flaw s = .ok a s' at h
  cases h

theorem Still.throw (flaw : Flaw) : Still (throw flaw : P α) :=
  fun _ _ _ _ h => (ne_ok_of_throw h).elim

theorem Still.fail (cause : Cause) (offset : Nat) : Still (fail cause offset : P α) := .throw _

theorem still_current : Still current := by
  intro c s a s' h
  cases h
  rfl

theorem still_read : Still (read : P Context) := by
  intro c s a s' h
  cases h
  rfl

theorem still_get : Still (get : P ReaderState) := by
  intro c s a s' h
  cases h
  rfl

theorem still_modify {f : ReaderState → ReaderState} (hf : ∀ s, (f s).token = s.token) :
    Still (modify f : P Unit) := by
  intro c s a s' h
  cases h
  exact hf s

theorem still_report (cause : Cause) (offset : Nat) : Still (report cause offset) :=
  still_modify fun _ => rfl

theorem still_here : Still here := .bind still_current fun _ => .pure _

theorem still_node (start : Nat) (form : Form Node) : Still (node start form) :=
  .bind still_get fun _ => .pure _

theorem still_at (p : Punct) : Still (at? p) := .bind still_current fun _ => .pure _

theorem still_atWord (name : String) : Still (atWord? name) :=
  .bind still_current fun _ => .pure _

theorem still_mayEnd : Still mayEnd := .bind still_current fun _ => .pure _

theorem still_before (close : Punct) : Still (before? close) :=
  .bind still_current fun _ => .pure _

theorem still_lexed {r : Lexer.Read α} : Still (lexed r) := by
  cases r with
  | error flaw => exact .throw flaw
  | ok a => exact .pure a

theorem still_peek : Still peek :=
  .bind still_current fun _ => .bind still_read fun _ => still_lexed

theorem Still.ite {c : Prop} [Decidable c] {m n : P α} (hm : Still m) (hn : Still n) :
    Still (if c then m else n) := by
  split
  · exact hm
  · exact hn

theorem still_checkIdentifier (name : String) (offset : Nat) :
    Still (checkIdentifier name offset) :=
  .bind still_read fun _ =>
    .ite (.bind (still_report _ _) fun _ => .ite (still_report _ _) (.pure _))
      (.ite (still_report _ _) (.pure _))

/-- Reading ahead leaves the current token, whatever is read. -/
theorem still_lookAhead (m : P α) : Still (lookAhead m) := by
  intro c s a s' h
  obtain ⟨before, s₁, hb, h⟩ := ok_of_bind_reader h
  obtain ⟨b, s₂, hm, h⟩ := ok_of_bind_reader h
  obtain ⟨_, s₃, hset, h⟩ := ok_of_bind_reader h
  cases hb
  cases hset
  cases h
  rfl

end

/-! ### Walking -/

section

variable {α β : Type} {source : List Char} {t : Token} {σ σ' τ : List Bracket}

theorem Still.walks {m : P α} (hm : Still m) : Walks source t σ σ m := by
  intro c s a s' _ ht hs h
  rw [hm c s a s' h, ht]
  exact hs

theorem walks_node {start : Nat} {form : Form Node} : Walks source t σ σ (node start form) :=
  (still_node start form).walks

theorem Walks.pure (a : α) : Walks source t σ σ (pure a : P α) := (Still.pure a).walks

theorem Walks.fail (cause : Cause) (offset : Nat) : Walks source t σ τ (fail cause offset : P α) :=
  fun _ _ _ _ _ _ _ h => (ne_ok_of_throw h).elim

/-- One reader after another. -/
theorem Walks.bind {m : P α} {f : α → P β} (hm : Walks source t σ σ' m)
    (hf : ∀ a u, Walks source u σ' τ (f a)) : Walks source t σ τ (m >>= f) := by
  intro c s b s'' hc ht hs h
  obtain ⟨a, s', ha, hb⟩ := ok_of_bind_reader h
  exact hf a s'.token c s' b s'' hc rfl (hm c s a s' hc ht hs ha) hb

/-- Nothing follows a flaw that ends reading, -/
theorem Walks.fails {f : α → P β} (cause : Cause) (offset : Nat) :
    Walks source t σ τ (Grammar.fail cause offset >>= f) := by
  intro c s b s'' _ _ _ h
  obtain ⟨a, s', ha, -⟩ := ok_of_bind_reader h
  exact (ne_ok_of_throw ha).elim

/-- nor one that ends it for good. -/
theorem Walks.rejects {f : α → P β} (cause : Cause) (offset : Nat) :
    Walks source t σ τ (reject cause offset >>= f) := by
  intro c s b s'' _ _ _ h
  obtain ⟨a, s', ha, -⟩ := ok_of_bind_reader h
  obtain ⟨_, s₁, -, ha⟩ := ok_of_bind_reader ha
  exact (ne_ok_of_throw ha).elim

theorem Walks.map {m : P α} {f : α → β} (hm : Walks source t σ τ m) :
    Walks source t σ τ (f <$> m) := by
  rw [← bind_pure_comp]
  exact .bind hm fun _ _ => .pure _

/-- What does not leave the token. -/
theorem Walks.still {m : P α} {f : α → P β} (hm : Still m) (hf : ∀ a, Walks source t σ τ (f a)) :
    Walks source t σ τ (m >>= f) := by
  intro c s b s'' hc ht hs h
  obtain ⟨a, s', ha, hb⟩ := ok_of_bind_reader h
  have he : s'.token = t := (hm c s a s' ha).trans ht
  exact hf a c s' b s'' hc he (he ▸ hs) hb

/-- A flaw that is reported or not. -/
theorem Walks.reportIf {p : Prop} [Decidable p] {cause : Cause} {offset : Nat} {f : Unit → P β}
    (hf : Walks source t σ τ (f ())) :
    Walks source t σ τ (if p then report cause offset >>= f else f ()) := by
  split
  · exact .still (still_report cause offset) fun _ => hf
  · exact hf

/-- A flaw that ends reading or not. -/
theorem Walks.failIf {p : Prop} [Decidable p] {cause : Cause} {offset : Nat} {f : Unit → P β}
    (hf : Walks source t σ τ (f ())) :
    Walks source t σ τ (if p then Grammar.fail cause offset >>= f else f ()) := by
  split
  · exact .fails cause offset
  · exact hf

theorem Walks.ite {p : Prop} [Decidable p] {m n : P α} (hm : p → Walks source t σ τ m)
    (hn : ¬ p → Walks source t σ τ n) : Walks source t σ τ (if p then m else n) := by
  split
  · exact hm ‹_›
  · exact hn ‹_›

/-- Two ways to go on that meet again. -/
theorem Walks.join {p : Prop} [Decidable p] {m n : P α} {k : α → P β}
    (hm : p → Walks source t σ σ' m) (hn : ¬ p → Walks source t σ σ' n)
    (hk : ∀ a u, Walks source u σ' τ (k a)) :
    Walks source t σ τ (if p then m >>= k else n >>= k) :=
  .ite (fun h => .bind (hm h) hk) fun h => .bind (hn h) hk

/-- The current token is known. -/
theorem Walks.current {f : Token → P β} (hf : Walks source t σ τ (f t)) :
    Walks source t σ τ (current >>= f) := by
  intro c s b s'' hc ht hs h
  obtain ⟨a, s', ha, hb⟩ := ok_of_bind_reader h
  cases ha
  exact hf c s b s'' hc ht hs (ht ▸ hb)

theorem Walks.at? {p : Punct} {f : Bool → P β} (hf : Walks source t σ τ (f (t.isPunct p))) :
    Walks source t σ τ (at? p >>= f) := by
  intro c s b s'' hc ht hs h
  obtain ⟨a, s', ha, hb⟩ := ok_of_bind_reader h
  cases ha
  exact hf c s b s'' hc ht hs (ht ▸ hb)

theorem Walks.atWord? {name : String} {f : Bool → P β}
    (hf : Walks source t σ τ (f (t.isWord name))) : Walks source t σ τ (atWord? name >>= f) := by
  intro c s b s'' hc ht hs h
  obtain ⟨a, s', ha, hb⟩ := ok_of_bind_reader h
  cases ha
  exact hf c s b s'' hc ht hs (ht ▸ hb)

theorem walks_unexpected : Walks source t σ τ (unexpected : P α) := .current (.fail _ _)

theorem follows_of_peek {c : Context} {s s' : ReaderState} {u : Token} (hc : c.goal = .module)
    (h : peek c s = .ok u s') : s' = s ∧ Follows s.token u := by
  obtain ⟨t, s₁, ht, h⟩ := ok_of_bind_reader h
  cases ht
  obtain ⟨d, s₂, hd, h⟩ := ok_of_bind_reader h
  cases hd
  unfold Follows
  rw [hc] at h
  cases hl : Lexer.next .module s.token.span.stop s.token.rest with
  | error flaw =>
      rw [hl] at h
      cases h
  | ok v =>
      rw [hl] at h
      cases h
      exact ⟨rfl, rfl⟩

theorem Walks.lexed {r : Lexer.Read α} {f : α → P β}
    (hf : ∀ a, r = .ok a → Walks source t σ τ (f a)) :
    Walks source t σ τ (Grammar.lexed r >>= f) := by
  intro c s b s'' hc ht hs h
  obtain ⟨a, s', ha, hb⟩ := ok_of_bind_reader h
  cases r with
  | error flaw => exact (ne_ok_of_throw ha).elim
  | ok a =>
      cases ha
      exact hf a rfl c s b s'' hc ht hs hb

/-- The next token is known before it is read. -/
theorem Walks.peek {f : Token → P β} (hf : ∀ u, Follows t u → Walks source t σ τ (f u)) :
    Walks source t σ τ (peek >>= f) := by
  intro c s b s'' hc ht hs h
  obtain ⟨u, s', ha, hb⟩ := ok_of_bind_reader h
  obtain ⟨rfl, hu⟩ := follows_of_peek hc ha
  exact hf u (ht ▸ hu) c s' b s'' hc ht hs hb

/-- A reader that goes on to the next token. -/
def Advances (m : P Unit) : Prop :=
  ∀ c s a s', c.goal = .module → m c s = .ok a s' → Follows s.token s'.token

theorem advances_advance : Advances advance := by
  intro c s a s' hc h
  obtain ⟨u, s₁, hp, hm⟩ := ok_of_bind_reader h
  obtain ⟨rfl, hu⟩ := follows_of_peek hc hp
  cases hm
  exact hu

theorem Advances.still {m : P α} {f : α → P Unit} (hm : Still m) (hf : ∀ a, Advances (f a)) :
    Advances (m >>= f) := by
  intro c s b s'' hc h
  obtain ⟨a, s', ha, hb⟩ := ok_of_bind_reader h
  rw [← hm c s a s' ha]
  exact hf a c s' b s'' hc hb

theorem advances_advanceKeyword : Advances advanceKeyword := by
  refine .still still_current fun t => ?_
  dsimp only
  split
  · exact .still (still_report _ _) fun _ => advances_advance
  · exact advances_advance

theorem Advances.walks {m : P Unit} (hm : Advances m) (ha : t.kind.around σ = some σ') :
    Walks source t σ σ' m := by
  intro c s a s' hc ht hs h
  have hu := hm c s a s' hc h
  rw [ht] at hu
  exact hs.reaches.next ha hu

/-- Going on to the next token. -/
theorem Walks.next {m : P Unit} {f : Unit → P β} (hm : Advances m)
    (ha : t.kind.around σ = some σ') (hf : ∀ u, Follows t u → Walks source u σ' τ (f ())) :
    Walks source t σ τ (m >>= f) := by
  intro c s b s'' hc ht hs h
  obtain ⟨a, s', hadv, hb⟩ := ok_of_bind_reader h
  have hu := hm c s a s' hc hadv
  rw [ht] at hu
  exact hf s'.token hu c s' b s'' hc rfl (hs.reaches.next ha hu) hb

theorem Walks.advance {f : Unit → P β} (ha : t.kind.around σ = some σ')
    (hf : ∀ u, Walks source u σ' τ (f ())) : Walks source t σ τ (advance >>= f) :=
  .next advances_advance ha fun u _ => hf u

theorem Walks.keyword {f : Unit → P β} (ha : t.kind.around σ = some σ')
    (hf : ∀ u, Walks source u σ' τ (f ())) : Walks source t σ τ (advanceKeyword >>= f) :=
  .next advances_advanceKeyword ha fun u _ => hf u

/-! ### Marks and words -/

theorem around_of_kind {k : TokenKind} (h : t.kind = k) : t.kind.around σ = k.around σ := by
  rw [h]

theorem around_of_isPunct {p : Punct} (h : t.isPunct p = true) :
    t.kind.around σ = (TokenKind.punct p).around σ :=
  around_of_kind (kind_of_isPunct h)

/-- A token that is a word. -/
def IsWord (t : Token) : Prop := ∃ name escaped, t.kind = .word name escaped

theorem isWord_of_isWord {name : String} (h : t.isWord name = true) : IsWord t := by
  unfold Token.isWord at h
  split at h
  · exact ⟨_, _, ‹_›⟩
  · cases h

theorem IsWord.around (h : IsWord t) : t.kind.around σ = some σ := by
  obtain ⟨name, escaped, h⟩ := h
  rw [h]
  rfl

/-- A word that is known to be there. -/
theorem Walks.word {f : Unit → P β} (ht : IsWord t) (hf : ∀ u, Walks source u σ τ (f ())) :
    Walks source t σ τ (advanceKeyword >>= f) :=
  .keyword ht.around hf

/-- A mark that may be there. -/
theorem Walks.eat {p : Punct} {f : Bool → P β} (hp : (TokenKind.punct p).around σ = some σ')
    (yes : ∀ u, Walks source u σ' τ (f true))
    (no : t.isPunct p = false → Walks source t σ τ (f false)) :
    Walks source t σ τ (eat p >>= f) := by
  rw [Grammar.eat, bind_assoc]
  refine .at? ?_
  split
  · rw [bind_assoc]
    exact .advance ((around_of_isPunct ‹_›).trans hp) fun u => (pure_bind true f).symm ▸ yes u
  · exact (pure_bind false f).symm ▸ no (eq_false_of_ne_true ‹_›)

theorem Walks.eatWord {name : String} {f : Bool → P β}
    (yes : ∀ u, Walks source u σ τ (f true))
    (no : t.isWord name = false → Walks source t σ τ (f false)) :
    Walks source t σ τ (eatWord name >>= f) := by
  rw [Grammar.eatWord, bind_assoc]
  refine .atWord? ?_
  split
  · rw [bind_assoc]
    exact .word (isWord_of_isWord ‹_›) fun u => (pure_bind true f).symm ▸ yes u
  · exact (pure_bind false f).symm ▸ no (eq_false_of_ne_true ‹_›)

theorem Walks.ifAt {p : Punct} {m n : P α} (yes : t.isPunct p = true → Walks source t σ τ m)
    (no : t.isPunct p = false → Walks source t σ τ n) :
    Walks source t σ τ (do if ← Grammar.at? p then m else n) :=
  .at? (.ite yes fun h => no (eq_false_of_ne_true h))

theorem Walks.ifAtWord {name : String} {m n : P α}
    (yes : t.isWord name = true → Walks source t σ τ m)
    (no : t.isWord name = false → Walks source t σ τ n) :
    Walks source t σ τ (do if ← Grammar.atWord? name then m else n) :=
  .atWord? (.ite yes fun h => no (eq_false_of_ne_true h))

theorem Walks.ifEat {p : Punct} {m n : P α} (hp : (TokenKind.punct p).around σ = some σ')
    (yes : ∀ u, Walks source u σ' τ m) (no : Walks source t σ τ n) :
    Walks source t σ τ (do if ← Grammar.eat p then m else n) :=
  .eat hp (fun u => .ite (fun _ => yes u) fun h => absurd rfl h)
    fun _ => .ite (fun h => Bool.noConfusion h) fun _ => no

theorem Walks.ifEatWord {name : String} {m n : P α} (yes : ∀ u, Walks source u σ τ m)
    (no : Walks source t σ τ n) :
    Walks source t σ τ (do if ← Grammar.eatWord name then m else n) :=
  .eatWord (fun u => .ite (fun _ => yes u) fun h => absurd rfl h)
    fun _ => .ite (fun h => Bool.noConfusion h) fun _ => no

/-- What a word begins, if it is there. -/
theorem Walks.joinEatWord {name : String} {b : α} {m : P α} {k : α → P β}
    (hm : ∀ u, Walks source u σ σ m) (hk : ∀ a u, Walks source u σ τ (k a)) :
    Walks source t σ τ (do if ← Grammar.eatWord name then m >>= k else Pure.pure b >>= k) :=
  .ifEatWord (fun u => .bind (hm u) hk) (.bind (.pure b) hk)

/-- A mark that has to be there. -/
theorem Walks.expect {p : Punct} {f : Unit → P β} (hp : (TokenKind.punct p).around σ = some σ')
    (hf : ∀ u, Walks source u σ' τ (f ())) : Walks source t σ τ (expect p >>= f) := by
  rw [Grammar.expect, bind_assoc]
  refine .current ?_
  split
  · exact .advance ((around_of_isPunct ‹_›).trans hp) fun u => hf u
  · exact .fails _ _

theorem Walks.expectWord {name : String} {f : Unit → P β}
    (hf : ∀ u, Walks source u σ τ (f ())) : Walks source t σ τ (expectWord name >>= f) := by
  rw [Grammar.expectWord, bind_assoc]
  refine .current ?_
  split
  · exact .word (isWord_of_isWord ‹_›) fun u => hf u
  · exact .fails _ _

theorem walks_expect {p : Punct} (hp : (TokenKind.punct p).around σ = some τ) :
    Walks source t σ τ (expect p) := by
  rw [← bind_pure (expect p)]
  exact .expect hp fun _ => .pure _

theorem even_expectWord (name : String) : Even source (expectWord name) := by
  intro t σ
  rw [← bind_pure (expectWord name)]
  exact .expectWord fun _ => .pure _

theorem even_eat {p : Punct} (hp : ∀ σ, (TokenKind.punct p).around σ = some σ) :
    Even source (eat p) := by
  intro t σ
  rw [← bind_pure (eat p)]
  exact .eat (hp σ) (fun _ => .pure _) fun _ => .pure _

theorem even_eatWord (name : String) : Even source (eatWord name) := by
  intro t σ
  rw [← bind_pure (eatWord name)]
  exact .eatWord (fun _ => .pure _) fun _ => .pure _

theorem even_endStatement : Even source endStatement := by
  intro t σ
  refine .still still_mayEnd fun ends => ?_
  split
  · exact .map (even_eat (fun _ => rfl) t σ)
  · exact .still still_get fun _ => .fail _ _

/-! ### Contexts -/

theorem Walks.withReader {h : Context → Context} {m : P α} (hg : ∀ c, (h c).goal = c.goal)
    (hm : Walks source t σ τ m) : Walks source t σ τ (withReader h m) :=
  fun c s a s' hc ht hs hr => hm (h c) s a s' ((hg c).trans hc) ht hs hr

theorem Walks.allowingIn {m : P α} (hm : Walks source t σ τ m) :
    Walks source t σ τ (allowingIn m) :=
  .withReader (fun _ => rfl) hm

theorem Walks.forbiddingIn {m : P α} (hm : Walks source t σ τ m) :
    Walks source t σ τ (forbiddingIn m) :=
  .withReader (fun _ => rfl) hm

theorem Walks.inside {m : P α} {isAsync isGenerator : Bool} (hm : Walks source t σ τ m) :
    Walks source t σ τ (inside isAsync isGenerator m) :=
  .withReader (fun _ => rfl) hm

theorem attempt_of_ok {m : P α} {c : Context} {s s' : ReaderState} {a : α}
    (h : m c s = .ok a s') : attempt m c s = .ok (some a) s' := by
  simp only [Grammar.attempt, h]

theorem attempt_of_error {m : P α} {c : Context} {s s' : ReaderState} {flaw : Flaw}
    (h : m c s = .error flaw s') :
    attempt m c s = if s'.isRejected then .error flaw s'
      else .ok none { s with notArrow := s'.notArrow } := by
  simp only [Grammar.attempt, h]

theorem still_attempt {m : P α} (hm : Still m) : Still (Grammar.attempt m) := by
  intro c s a s' h
  cases hr : m c s with
  | ok b s₁ =>
      rw [attempt_of_ok hr] at h
      cases h
      exact hm c s b s' hr
  | error flaw s₁ =>
      rw [attempt_of_error hr] at h
      split at h
      · cases h
      · cases h
        rfl

/-- What fails is as if it had not been tried. -/
theorem Walks.attempt {m : P α} {f : Option α → P β} (hm : Walks source t σ σ' m)
    (done : ∀ a u, Walks source u σ' τ (f (some a))) (failed : Walks source t σ τ (f none)) :
    Walks source t σ τ (attempt m >>= f) := by
  intro c s b s'' hc ht hs h
  obtain ⟨r, s', ha, hb⟩ := ok_of_bind_reader h
  cases hr : m c s with
  | ok a s₁ =>
      rw [attempt_of_ok hr] at ha
      cases ha
      exact done a s'.token c s' b s'' hc rfl (hm c s a s' hc ht hs hr) hb
  | error flaw s₁ =>
      rw [attempt_of_error hr] at ha
      split at ha
      · cases ha
      · cases ha
        exact failed c { s with notArrow := s₁.notArrow } b s'' hc ht hs hb

/-! ### Repetition -/

theorem even_repeatUpTo {step : P (Option α)} (h : Even source step) (n : Nat) (acc : List α) :
    Even source (repeatUpTo step n acc) := by
  induction n generalizing acc with
  | zero => exact fun _ _ => .pure _
  | succ n ih =>
      intro t σ
      refine .bind (h t σ) fun r u => ?_
      cases r with
      | some a => exact ih (a :: acc) u σ
      | none => exact .pure _

theorem even_repeating {step : P (Option α)} (h : Even source step) :
    Even source (repeating step) :=
  fun t σ => .still still_read fun _ => even_repeatUpTo h _ _ t σ

theorem even_sequenceFrom {g : Nonterminal → P Node} (hg : Even source (g .assignment))
    (start : Nat) (first : Node) : Even source (sequenceFrom g start first) := by
  refine fun t σ => .ifAt (fun _ => ?_) fun _ => .pure _
  refine .bind (even_repeating (fun t σ => .ifEat rfl (fun u => ?_) (.pure _)) t σ)
    fun rest u => walks_node
  exact .bind (hg u σ) fun _ _ => .pure _

/-- Items that begin with a mark. -/
theorem even_whileAt {p : Punct} {item : P α}
    (h : ∀ t σ, t.isPunct p = true → Walks source t σ σ item) :
    Even source (while? (at? p) item) := by
  refine even_repeating fun t σ => .at? (.ite (fun hp => ?_) fun _ => .pure _)
  exact .bind (h t σ hp) fun _ _ => .pure _

/-- Items up to a mark. -/
theorem even_whileBefore {close : Punct} {item : P α} (h : Even source item) :
    Even source (while? (before? close) item) := by
  refine even_repeating fun t σ => .still (still_before close) fun goesOn => ?_
  exact .ite (fun _ => .bind (h t σ) fun _ _ => .pure _) fun _ => .pure _

theorem even_listStep {item : P α} (h : Even source item) (close : Punct)
    (keepComma first : Bool) : Even source (listStep close keepComma item first) := by
  intro t σ
  have further : Walks source t σ σ (do
      expect .comma
      if ← Grammar.at? close then return none else return some (← item)) := by
    refine .expect rfl fun u => .at? (.ite (fun _ => .pure _) fun _ => ?_)
    exact .bind (h u σ) fun _ _ => .pure _
  refine .still (still_before close) fun goesOn => ?_
  refine .ite (fun _ => .pure _) fun _ => .ite (fun _ => ?_) fun _ => ?_
  · exact .bind (h t σ) fun _ _ => .pure _
  · refine .ite (fun _ => ?_) fun _ => further
    refine .still (still_at _) fun comma => .still still_peek fun next => ?_
    exact .ite (fun _ => .pure _) fun _ => further

theorem even_commaList {item : P α} (h : Even source item) (close : Punct) (keepComma : Bool) :
    Even source (commaList close keepComma item) := by
  intro t σ
  refine .bind (even_listStep h close keepComma true t σ) fun r u => ?_
  cases r with
  | none => exact .pure _
  | some a => exact .still still_read fun _ => even_repeatUpTo (even_listStep h _ _ _) _ _ u σ

/-! ### Names -/

theorem even_identifier (otherwise : TokenKind → Cause) : Even source (identifier otherwise) := by
  intro t σ
  refine .current ?_
  split
  · rename_i name escaped hk
    refine .ite (fun _ => .fail _ _) fun _ => .still (still_checkIdentifier _ _) fun _ => ?_
    exact .advance (IsWord.around ⟨_, _, hk⟩) fun u => walks_node
  · exact .fail _ _

theorem even_bindingIdentifier : Even source bindingIdentifier := even_identifier _

theorem even_anyName : Even source anyName := by
  intro t σ
  refine .current ?_
  split
  · rename_i name escaped hk
    exact .advance (IsWord.around ⟨_, _, hk⟩) fun u => .pure _
  · exact walks_unexpected

end

/-! ### Readers that need each other -/

/-- Whether a nonterminal begins with a word of its own. -/
def isDeclaration : Nonterminal → Bool
  | .importDeclaration => true
  | .exportDeclaration => true
  | _ => false

/-- The readers of a knot end between the brackets that they begin between. -/
structure Balanced (source : List Char) (g : Knot) : Prop where
  even : ∀ n, isDeclaration n = false → Even source (g n)
  declaration : ∀ n t σ, isDeclaration n = true → IsWord t → Walks source t σ σ (g n)

end Grammar

end PatchSandbox.Script
