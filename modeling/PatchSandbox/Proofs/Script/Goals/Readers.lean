import PatchSandbox.Proofs.Script.Goals.Text
import PatchSandbox.Script.Grammar.Basic

/-!
# Readers and goals

Readers that do the same for a script as for a module, in a source that is neutral, unless they
reject the script.

* **`Agreement`** — what may come out for a script and for a module.
* **`AgreesAt`** and **`Agrees`** — a reader does the same where it begins at a token that is
  known, and wherever it begins.
* **`Agrees.asks`** and **`Agrees.rejects`** — a reader that asks for the context asks for what
  is the same, or in order to reject scripts.

Readers that agree are put together to readers that agree. These are instances, so that a reader
without cases agrees because its parts do.
-/

namespace PatchSandbox.Script.Grammar

/-- Contexts of a script and of a module that differ in nothing else. At the top, only a module
is asynchronous. -/
inductive Paired : Context → Context → Prop where
  | mk (c : Context) (inAsync : Bool) :
      Paired { c with goal := .script } { c with goal := .module, inAsync }

section

variable {α β : Type}

/-- What comes out for a script and for a module is the same, at a token of the source; or the
script is rejected. -/
inductive Agreement (source : List Char) :
    EStateM.Result Flaw ReaderState α → EStateM.Result Flaw ReaderState α → Prop where
  | ok (a : α) (s : ReaderState) : Meets source s.token → Agreement source (.ok a s) (.ok a s)
  | error (flaw : Flaw) (s : ReaderState) : Agreement source (.error flaw s) (.error flaw s)
  | rejected (flaw : Flaw) (s : ReaderState) (r : EStateM.Result Flaw ReaderState α) :
      s.isRejected = true → Agreement source (.error flaw s) r

theorem Agreement.eq_ok {source : List Char} {a : α} {s : ReaderState}
    {r : EStateM.Result Flaw ReaderState α} (h : Agreement source (.ok a s) r) : r = .ok a s := by
  cases h
  rfl

/-- A reader does the same for scripts and for modules where it begins at a token. -/
def AgreesAt (source : List Char) (t : Token) (m : P α) : Prop :=
  ∀ c d s, Paired c d → s.token = t → Meets source t → Agreement source (m c s) (m d s)

/-- A reader does the same for scripts and for modules, wherever it begins. -/
class Agrees (source : List Char) (m : P α) : Prop where
  at_ : ∀ t, AgreesAt source t m

variable {source : List Char} {t : Token}

/-! ### Rules -/

theorem AgreesAt.of {m : P α} (hm : Agrees source m) : AgreesAt source t m := hm.at_ t

/-- One reader after another. -/
theorem AgreesAt.bind {m : P α} {f : α → P β} (hm : AgreesAt source t m)
    (hf : ∀ a, Agrees source (f a)) : AgreesAt source t (m >>= f) := by
  intro c d s hcd ht hs
  have h := hm c d s hcd ht hs
  simp only [Bind.bind, ReaderT.bind, EStateM.bind]
  generalize m c s = r, m d s = r' at h
  cases h with
  | ok a s' hs' => exact (hf a).at_ _ c d s' hcd rfl hs'
  | error flaw s' => exact .error flaw s'
  | rejected flaw s' r hr => exact .rejected flaw s' _ hr

/-- The current token is known. -/
theorem AgreesAt.current {f : Token → P β} (hf : Meets source t → AgreesAt source t (f t)) :
    AgreesAt source t (current >>= f) := by
  rintro c d s hcd rfl hs
  exact hf hs c d s hcd rfl hs

theorem AgreesAt.here {f : Nat → P β} (hf : AgreesAt source t (f t.span.start)) :
    AgreesAt source t (here >>= f) := by
  rintro c d s hcd rfl hs
  exact hf c d s hcd rfl hs

/-- A reader begins at a token of the source. -/
theorem AgreesAt.meets {m : P α} (h : Meets source t → AgreesAt source t m) :
    AgreesAt source t m :=
  fun c d s hcd ht hs => h hs c d s hcd ht hs

theorem AgreesAt.lexed {r : Lexer.Read α} {f : α → P β}
    (hf : ∀ a, r = .ok a → AgreesAt source t (f a)) :
    AgreesAt source t (Grammar.lexed r >>= f) := by
  cases r with
  | error flaw => exact fun _ _ s _ _ _ => .error flaw s
  | ok a => exact hf a rfl

/-- The lexer reads the same token for scripts and for modules. -/
theorem AgreesAt.next {offset : Nat} {cs : List Char} {f : Token → P β}
    (he : Lexer.next .script offset cs = Lexer.next .module offset cs)
    (hf : ∀ u, Lexer.next .module offset cs = .ok u → AgreesAt source t (f u)) :
    AgreesAt source t (do
      let c ← read
      let u ← Grammar.lexed (Lexer.next c.goal offset cs)
      f u) := by
  rintro _ _ s ⟨c, inAsync⟩ ht hs
  have h := AgreesAt.lexed hf _ _ s (.mk c inAsync) ht hs
  exact cast (congrArg (Agreement source · _) (by rw [← he]; rfl)) h

theorem AgreesAt.peek [Neutral source] {f : Token → P β}
    (hf : ∀ u, Lexer.next .module t.span.stop t.rest = .ok u → AgreesAt source t (f u)) :
    AgreesAt source t (peek >>= f) := by
  rintro c d s hcd rfl hs
  exact AgreesAt.next hs.next_script_eq hf c d s hcd rfl hs

theorem Agrees.bind {m : P α} {f : α → P β} (hm : Agrees source m)
    (hf : ∀ a, Agrees source (f a)) : Agrees source (m >>= f) :=
  ⟨fun t => .bind (hm.at_ t) hf⟩

/-- A context is asked for what scripts and modules have in common. -/
theorem Agrees.asks {f : Context → P β} (hf : ∀ c, Agrees source (f c))
    (hc : ∀ c goal inAsync, f { c with goal, inAsync } = f c) : Agrees source (read >>= f) := by
  constructor
  rintro t _ _ s ⟨c, inAsync⟩ ht hs
  have h := (hf c).at_ t _ _ s (.mk c inAsync) ht hs
  rw [← hc c .script c.inAsync] at h
  have he : f { c with goal := .module, inAsync } = f { c with goal := .script } := by
    rw [hc c .module inAsync, ← hc c .script c.inAsync]
  exact cast (congrArg _ (congrFun (congrFun he.symm _) s)) h

/-- A reader that rejects what it reads. -/
class Rejects (m : P α) : Prop where
  rejects : ∀ c s, ∃ flaw s', m c s = .error flaw s' ∧ s'.isRejected = true

instance rejects_reject (cause : Cause) (offset : Nat) : Rejects (reject cause offset : P α) :=
  ⟨fun _ s => ⟨⟨cause, offset⟩, { s with isRejected := true }, rfl, rfl⟩⟩

instance rejects_bind {m : P α} {f : α → P β} [hm : Rejects m] : Rejects (m >>= f) := by
  refine ⟨fun c s => ?_⟩
  obtain ⟨flaw, s', he, hr⟩ := hm.rejects c s
  exact ⟨flaw, s', by simp only [Bind.bind, ReaderT.bind, EStateM.bind, he], hr⟩

instance rejects_get {f : ReaderState → P β} [hf : ∀ s, Rejects (f s)] : Rejects (get >>= f) :=
  ⟨fun c s => (hf s).rejects c s⟩

instance rejects_here {f : Nat → P β} [hf : ∀ n, Rejects (f n)] : Rejects (here >>= f) :=
  ⟨fun c s => (hf s.token.span.start).rejects c s⟩

/-- Some scripts are rejected, and no modules. -/
theorem Agrees.rejects {q : Context → Prop} [∀ c, Decidable (q c)] {m k : P β} [hm : Rejects m]
    [hk : Agrees source k] (hq : ∀ c, c.goal = .module → ¬ q c) :
    Agrees source (do
      let c ← read
      if q c then m else k) := by
  constructor
  rintro t _ _ s ⟨c, inAsync⟩ ht hs
  change Agreement source ((if q { c with goal := .script } then m else k) _ s)
    ((if q { c with goal := .module, inAsync } then m else k) _ s)
  rw [if_neg (hq { c with goal := .module, inAsync } rfl)]
  split
  · obtain ⟨flaw, s', he, hr⟩ := hm.rejects { c with goal := .script } s
    rw [he]
    exact .rejected flaw s' _ hr
  · exact hk.at_ t _ _ s (.mk c inAsync) ht hs

-- an instance for a whole reader is as large as its text
set_option synthInstance.maxSize 1024

/-! ### Readers that are put together -/

instance agrees_pure (a : α) : Agrees source (pure a : P α) :=
  ⟨fun _ _ _ s _ ht hs => .ok a s (ht ▸ hs)⟩

instance agrees_bind {m : P α} {f : α → P β} [hm : Agrees source m]
    [hf : ∀ a, Agrees source (f a)] : Agrees source (m >>= f) := hm.bind hf

theorem Agrees.ite {p : Prop} [Decidable p] {m n : P α} (hm : Agrees source m)
    (hn : Agrees source n) : Agrees source (if p then m else n) := by
  split
  · exact hm
  · exact hn

instance agrees_ite {p : Prop} [Decidable p] {m n : P α} [hm : Agrees source m]
    [hn : Agrees source n] : Agrees source (if p then m else n) := hm.ite hn

instance agrees_map {f : α → β} {m : P α} [Agrees source m] : Agrees source (f <$> m) := by
  rw [← bind_pure_comp]
  infer_instance

instance agrees_discard {m : P α} [Agrees source m] : Agrees source (discard m) :=
  agrees_map

instance agrees_throw (flaw : Flaw) : Agrees source (throw flaw : P α) :=
  ⟨fun _ _ _ s _ _ _ => .error flaw s⟩

instance agrees_get : Agrees source (get : P ReaderState) :=
  ⟨fun _ _ _ s _ ht hs => .ok s s (ht ▸ hs)⟩

theorem agrees_modify {f : ReaderState → ReaderState} (hf : ∀ s, (f s).token = s.token) :
    Agrees source (modify f : P Unit) :=
  ⟨fun _ _ _ s _ ht hs => .ok () (f s) (hf s ▸ ht ▸ hs)⟩

theorem agrees_withReader {f : Context → Context} {m : P α} [hm : Agrees source m]
    (hf : ∀ c d, Paired c d → Paired (f c) (f d)) : Agrees source (withReader f m) :=
  ⟨fun t c d s hcd ht hs => hm.at_ t _ _ s (hf c d hcd) ht hs⟩

instance agrees_fail (cause : Cause) (offset : Nat) : Agrees source (fail cause offset : P α) :=
  agrees_throw _

/-- Nothing follows a flaw that ends reading. -/
instance agrees_fails {f : α → P β} (cause : Cause) (offset : Nat) :
    Agrees source (fail cause offset >>= f) :=
  ⟨fun _ _ _ s _ _ _ => .error ⟨cause, offset⟩ s⟩

instance agrees_reject (cause : Cause) (offset : Nat) :
    Agrees source (reject cause offset : P α) :=
  ⟨fun _ _ _ _ _ _ _ => .rejected _ _ _ rfl⟩

instance agrees_report (cause : Cause) (offset : Nat) : Agrees source (report cause offset) :=
  agrees_modify fun _ => rfl

instance agrees_current : Agrees source current := agrees_bind

instance agrees_unexpected : Agrees source (unexpected : P α) := agrees_bind

instance agrees_lexed {r : Lexer.Read α} : Agrees source (lexed r) := by
  cases r with
  | error flaw => exact agrees_throw flaw
  | ok a => exact agrees_pure a

instance agrees_here : Agrees source here := agrees_bind

instance agrees_node (start : Nat) (form : Form Node) : Agrees source (node start form) :=
  agrees_bind

instance agrees_at (p : Punct) : Agrees source (at? p) := agrees_bind

instance agrees_atWord (name : String) : Agrees source (atWord? name) := agrees_bind

instance agrees_mayEnd : Agrees source mayEnd := agrees_bind

instance agrees_before (close : Punct) : Agrees source (before? close) := agrees_bind

instance agrees_allowingIn {m : P α} [Agrees source m] : Agrees source (allowingIn m) :=
  agrees_withReader fun _ _ ⟨c, a⟩ => ⟨{ c with allowIn := true }, a⟩

instance agrees_forbiddingIn {m : P α} [Agrees source m] : Agrees source (forbiddingIn m) :=
  agrees_withReader fun _ _ ⟨c, a⟩ => ⟨{ c with allowIn := false }, a⟩

instance agrees_inside {isAsync isGenerator : Bool} {m : P α} [Agrees source m] :
    Agrees source (inside isAsync isGenerator m) :=
  agrees_withReader fun _ _ ⟨c, _⟩ =>
    ⟨{ c with inAsync := isAsync, inGenerator := isGenerator }, isAsync⟩

instance agrees_inDecorator {inDecorator : Bool} {m : P α} [Agrees source m] :
    Agrees source (withReader (fun c => { c with inDecorator }) m) :=
  agrees_withReader fun _ _ ⟨c, a⟩ => ⟨{ c with inDecorator }, a⟩

/-- A trial that fails goes back to where it began, and a rejection goes through. -/
instance agrees_attempt {m : P α} [hm : Agrees source m] : Agrees source (attempt m) := by
  refine ⟨fun t c d s hcd ht hs => ?_⟩
  have h := hm.at_ t c d s hcd ht hs
  unfold attempt
  generalize m c s = r, m d s = r' at h
  cases h with
  | ok a s' hs' => exact .ok _ s' hs'
  | error flaw s' =>
      dsimp only
      split
      · exact .error flaw s'
      · exact .ok none _ (ht ▸ hs)
  | rejected flaw s' r hr =>
      simp only [hr, if_true]
      exact .rejected flaw s' _ hr

instance agrees_lookAhead {m : P α} [hm : Agrees source m] : Agrees source (lookAhead m) := by
  refine ⟨fun t c d s hcd ht hs => ?_⟩
  have h := hm.at_ t c d s hcd ht hs
  have look (c : Context) : lookAhead m c s = (do let a ← m; set s; return a : P α) c s := rfl
  rw [look, look]
  simp only [Bind.bind, ReaderT.bind, EStateM.bind]
  generalize m c s = r, m d s = r' at h
  cases h with
  | ok a s' hs' => exact .ok a s (ht ▸ hs)
  | error flaw s' => exact .error flaw s'
  | rejected flaw s' r hr => exact .rejected flaw s' _ hr

/-! ### Repetition -/

instance agrees_repeatUpTo {step : P (Option α)} [Agrees source step] (n : Nat) (acc : List α) :
    Agrees source (repeatUpTo step n acc) := by
  induction n generalizing acc with
  | zero => exact agrees_pure _
  | succ n ih =>
      refine Agrees.bind ‹_› fun a => ?_
      cases a with
      | some a => exact ih _
      | none => exact agrees_pure _

instance agrees_repeating {step : P (Option α)} [Agrees source step] :
    Agrees source (repeating step) :=
  .asks inferInstance fun _ _ _ => rfl

instance agrees_while {test : P Bool} {item : P α} [Agrees source test] [Agrees source item] :
    Agrees source (while? test item) := by
  unfold while?
  infer_instance

/-- A name is checked alike, unless it is the one whose meaning differs. -/
theorem agrees_checkIdentifier {name : String} (h : name ≠ "await") (offset : Nat) :
    Agrees source (checkIdentifier name offset) := by
  have hf : (name == "await") = false := by simp [h]
  refine .asks inferInstance fun _ _ _ => ?_
  simp only [hf, Bool.and_false]

theorem Agrees.mapM {f : α → P β} (hf : ∀ a, Agrees source (f a)) (l : List α) :
    Agrees source (l.mapM f) := by
  induction l with
  | nil => exact agrees_pure _
  | cons a l ih =>
      rw [List.mapM_cons]
      infer_instance

theorem Agrees.forIn {f : α → β → P (ForInStep β)} (hf : ∀ a b, Agrees source (f a b))
    (l : List α) (b : β) : Agrees source (forIn l b f) := by
  induction l generalizing b with
  | nil => exact agrees_pure _
  | cons a l ih =>
      rw [List.forIn_cons]
      refine (hf a b).bind fun step => ?_
      cases step with
      | done b => exact agrees_pure _
      | yield b => exact ih b

/-! ### Tokens -/

section

variable [Neutral source]

instance agrees_peek : Agrees source peek := by
  refine ⟨fun t => ?_⟩
  rw [← bind_pure peek]
  exact .peek fun u _ => Agrees.at_ t

instance agrees_advance : Agrees source advance := by
  refine ⟨fun t => .peek fun u hu c d s _ ht hs => ?_⟩
  exact .ok () { s with token := u, lastStop := s.token.span.stop } (hs.next hu)

instance agrees_advanceKeyword : Agrees source advanceKeyword := by
  refine agrees_current.bind fun t => ?_
  dsimp only
  split <;> infer_instance

instance agrees_eat (p : Punct) : Agrees source (eat p) := by
  unfold eat
  infer_instance

instance agrees_eatWord (name : String) : Agrees source (eatWord name) := by
  unfold eatWord
  infer_instance

instance agrees_expect (p : Punct) : Agrees source (expect p) := by
  unfold expect
  infer_instance

instance agrees_expectWord (name : String) : Agrees source (expectWord name) := by
  unfold expectWord
  infer_instance

instance agrees_endStatement : Agrees source endStatement := by
  unfold endStatement
  infer_instance

instance agrees_listStep (close : Punct) (keepComma : Bool) {item : P α} [Agrees source item]
    (first : Bool) : Agrees source (listStep close keepComma item first) := by
  unfold listStep
  dsimp only
  infer_instance

instance agrees_commaList (close : Punct) (keepComma : Bool) {item : P α} [Agrees source item] :
    Agrees source (commaList close keepComma item) := by
  refine Agrees.bind inferInstance fun a => ?_
  cases a with
  | none => exact agrees_pure _
  | some a => exact .asks inferInstance fun _ _ _ => rfl

/-! ### Names -/

instance agrees_identifier (otherwise : TokenKind → Cause) :
    Agrees source (identifier otherwise) := by
  refine ⟨fun t => .current fun hm => ?_⟩
  split
  · rename_i name _ hk
    have check : Agrees source (checkIdentifier name t.span.start) :=
      agrees_checkIdentifier (hm.ne_await hk) _
    exact Agrees.at_ t
  · exact Agrees.at_ t

instance agrees_bindingIdentifier : Agrees source bindingIdentifier := agrees_identifier _

instance agrees_anyName : Agrees source anyName := by
  refine agrees_current.bind fun t => ?_
  split <;> infer_instance

/-! ### Readers of nonterminals -/

/-- Every reader agrees. -/
class Agreeing (source : List Char) (g : Knot) : Prop where
  agrees : ∀ n, Agrees source (g n)

instance agrees_knot {g : Knot} [hg : Agreeing source g] (n : Nonterminal) :
    Agrees source (g n) := hg.agrees n

instance agrees_sequenceFrom {g : Knot} [Agreeing source g] (start : Nat) (first : Node) :
    Agrees source (sequenceFrom g start first) := by
  unfold sequenceFrom
  infer_instance

end

end

end PatchSandbox.Script.Grammar
