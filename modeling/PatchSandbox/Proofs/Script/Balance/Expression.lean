import PatchSandbox.Proofs.Script.Balance.Function
import PatchSandbox.Script.Grammar.Expression

/-!
# Expressions and brackets

Readers of expressions end between the brackets that they begin between. In a template the
brace that ends a substitution is read again, so what goes on from there may begin at a token
that stands nowhere else: **`Resumes`**.
-/

namespace PatchSandbox.Script.Grammar

section

variable {α β : Type} {source : List Char} {g : Knot} {t : Token} {σ σ' τ : List Bracket}

/-! ### Operators -/

theorem around_of_operator {o : Operator} (h : operator? t = some o) :
    t.kind.around σ = some σ := by
  unfold operator? at h
  split at h
  · exact around_of_kind ‹_›
  · exact around_of_kind ‹_›
  · rename_i p hk
    rw [hk]
    cases p <;> first | rfl | cases h
  · cases h

theorem around_of_assignment {op : AssignOp} (h : assignment? t = some op) :
    t.kind.around σ = some σ := by
  unfold assignment? at h
  split at h
  · rename_i p hk
    rw [hk]
    cases p <;> first | rfl | cases h
  · cases h

theorem around_of_unary {op : UnaryOp} (h : unary? t = some op) : t.kind.around σ = some σ := by
  unfold unary? at h
  split at h
  case h_8 => cases h
  all_goals exact around_of_kind ‹_›

theorem around_of_update {increment : Bool} (h : update? t = some increment) :
    t.kind.around σ = some σ := by
  unfold update? at h
  split at h
  · exact around_of_kind ‹_›
  · exact around_of_kind ‹_›
  · cases h

/-! ### Templates -/

/-- A reader that goes on where a template may go on. -/
def Resumes (source : List Char) (σ τ : List Bracket) (m : P α) : Prop :=
  ∀ c s a s', c.goal = .module → Reaches source σ s.token → m c s = .ok a s' →
    Stands source τ s'.token

theorem Resumes.bind {m : P α} {f : α → P β} (hm : Resumes source σ σ' m)
    (hf : ∀ a u, Walks source u σ' τ (f a)) : Resumes source σ τ (m >>= f) := by
  intro c s b s'' hc hs h
  obtain ⟨a, s', ha, hb⟩ := ok_of_bind_reader h
  exact hf a s'.token c s' b s'' hc rfl (hm c s a s' hc hs ha) hb

theorem Resumes.still {m : P α} {f : α → P β} (hm : Still m)
    (hf : ∀ a, Resumes source σ τ (f a)) : Resumes source σ τ (m >>= f) := by
  intro c s b s'' hc hs h
  obtain ⟨a, s', ha, hb⟩ := ok_of_bind_reader h
  exact hf a c s' b s'' hc (hm c s a s' ha ▸ hs) hb

/-- What goes on at a token that is known. -/
theorem Resumes.current {f : Token → P β}
    (hf : ∀ t c s b s', c.goal = .module → s.token = t → Reaches source σ t →
      f t c s = .ok b s' → Stands source τ s'.token) :
    Resumes source σ τ (current >>= f) := by
  intro c s b s'' hc hs h
  obtain ⟨a, s', ha, hb⟩ := ok_of_bind_reader h
  cases ha
  exact hf _ c s b s'' hc rfl hs hb

theorem Walks.fresh {m : P α} (h : t.isTail = false → Walks source t σ τ m) :
    Walks source t σ τ m :=
  fun c s a s' hc ht hs hr => h hs.fresh c s a s' hc ht hs hr

/-- A closing brace is read again, if there is one. -/
theorem Walks.reread {f : Unit → P β} (hf : Resumes source σ τ (f ())) :
    Walks source t σ τ (rereadTemplate >>= f) := by
  intro c s b s'' hc ht hs h
  obtain ⟨_, s', hr, hb⟩ := ok_of_bind_reader h
  refine hf c s' b s'' hc ?_ hb
  obtain ⟨u, s₁, hu, hr⟩ := ok_of_bind_reader hr
  cases hu
  split at hr
  · rename_i hbrace
    obtain ⟨v, s₂, hv, hr⟩ := ok_of_bind_reader hr
    cases hl : Lexer.templateTail s.token with
    | error flaw =>
        rw [hl] at hv
        exact (ne_ok_of_throw hv).elim
    | ok w =>
        rw [hl] at hv
        cases hv
        cases hr
        rw [← ht] at hs
        exact hs.reaches.reads (.resume hbrace hl (.refl _ _))
  · cases hr
    rw [ht]
    exact hs.reaches

theorem kind_of_quasi {q : Quasi} {closes : Bool} (h : quasi? t = some (q, closes)) :
    ∃ opens, t.kind = .template q opens closes := by
  unfold quasi? at h
  split at h
  · cases h
    exact ⟨_, ‹_›⟩
  · cases h

theorem kind_of_tail {q : Quasi} {closes : Bool}
    (h : (if opensTemplate t = true then none else quasi? t) = some (q, closes)) :
    t.kind = .template q false closes := by
  split at h
  · cases h
  · rename_i ho
    obtain ⟨opens, hk⟩ := kind_of_quasi h
    have : opens = false := by simpa [opensTemplate, hk] using ho
    rw [hk, this]

theorem not_isTail_of_none (h : (if opensTemplate t = true then none else quasi? t) = none) :
    t.isTail = false := by
  unfold Token.isTail
  split
  · rename_i hk
    simp [opensTemplate, quasi?, hk] at h
  · rfl

/-- The pieces of a template end where its last piece closes it. -/
theorem resumes_templateLoop (hg : Balanced source g) (n : Nat) (qs : List Quasi)
    (parts : List Node) : Resumes source (.substitution :: σ) σ (templateLoop g n qs parts) := by
  induction n generalizing qs parts with
  | zero => exact .still still_current fun _ _ _ _ _ _ _ h => (ne_ok_of_throw h).elim
  | succ n ih =>
      -- the token may be a piece that goes on, which stands nowhere else: no rule for `Walks`
      -- applies before the cases
      refine .current fun t c s b s' hc ht hs h => ?_
      generalize hq : (if opensTemplate t = true then none else quasi? t) = r at h
      cases r with
      | some q =>
          obtain ⟨q, closes⟩ := q
          obtain ⟨_, s₁, hadv, h⟩ := ok_of_bind_reader h
          have hu := advances_advance c s _ s₁ hc hadv
          rw [ht] at hu
          have ha : t.kind.around (.substitution :: σ) =
              some (if closes then σ else .substitution :: σ) := around_of_kind (kind_of_tail hq)
          have hs₁ := hs.next ha hu
          cases closes with
          | true =>
              cases h
              exact hs₁
          | false => exact ih _ _ c s₁ b s' hc hs₁.reaches h
      | none =>
          have part : Walks source t (.substitution :: σ) σ (do
              let part ← allowingIn (g .expression)
              rereadTemplate
              templateLoop g n qs (part :: parts)) :=
            .bind (.allowingIn (hg.even .expression rfl t _)) fun part u => .reread (ih _ _)
          refine Walks.ite (fun _ => .fail _ _) (fun _ => ?_) c s b s' hc ht
            ⟨hs, not_isTail_of_none hq⟩ h
          refine .still still_read fun _ => .ite (fun _ => ?_) fun _ => part
          exact .still (still_modify fun _ => rfl) fun _ => .fail _ _

theorem even_readTemplate (hg : Balanced source g) (isTagged : Bool) :
    Even source (readTemplate g isTagged) := by
  refine fun t σ => .current (.fresh fun hfresh => ?_)
  split
  · exact walks_unexpected
  · rename_i q closes hq
    obtain ⟨opens, hk⟩ := kind_of_quasi hq
    -- a piece that goes on cannot stand here
    have ho : opens = true := by
      cases opens with
      | true => rfl
      | false => simp [Token.isTail, hk] at hfresh
    subst ho
    refine .advance (around_of_kind hk) fun u => ?_
    cases closes with
    | true => exact .ite (fun _ => .failIf walks_node) fun h => absurd rfl h
    | false =>
        refine .bind (.allowingIn (hg.even .expression rfl u _)) fun part u => .reread ?_
        refine .still still_read fun c => .bind (resumes_templateLoop hg _ _ _) fun parts u => ?_
        obtain ⟨qs, parts⟩ := parts
        exact .failIf walks_node

/-! ### Objects and arrays -/

theorem even_spreadable (hg : Balanced source g) : Even source (spreadable g) := by
  refine fun t σ => .still still_here fun start => .ifEat rfl (fun u => ?_) ?_
  · exact .bind (hg.even .assignment rfl u σ) fun _ _ => walks_node
  · exact hg.even .assignment rfl t σ

theorem even_arguments (hg : Balanced source g) : Even source (arguments g) := by
  refine fun t σ => .expect rfl fun u => ?_
  refine .bind (.allowingIn (even_commaList (even_spreadable hg) _ _ u _)) fun args u => ?_
  exact .expect rfl fun u => .pure _

theorem even_readArray (hg : Balanced source g) : Even source (readArray g) := by
  have item : Even source (do if ← at? .comma then node (← here) .hole else spreadable g) :=
    fun t σ => .ifAt (fun _ => .still still_here fun _ => walks_node)
      fun _ => even_spreadable hg t σ
  refine fun t σ => .still still_here fun start => .expect rfl fun u => ?_
  refine .bind (.allowingIn (even_commaList item _ _ u _)) fun items u => ?_
  refine .bind (even_eat (fun _ => rfl) u _) fun _ u => ?_
  exact .expect rfl fun u => walks_node

theorem even_shorthand (hg : Balanced source g) : Even source (shorthand g) := by
  refine fun t σ => .still still_here fun start => .bind (even_identifier _ t σ) fun name u => ?_
  refine .ifEat rfl (fun u => ?_) walks_node
  refine .bind (.allowingIn (hg.even .assignment rfl u σ)) fun value u => ?_
  exact .still (still_modify fun _ => rfl) fun _ => .still (still_node _ _) fun _ => walks_node

theorem even_readProperty (hg : Balanced source g) : Even source (readProperty g) := by
  have method (start : Nat) (kind : MemberKind) (functionKind : FunctionKind)
      (isAsync isGenerator : Bool) : Even source (do
        let name ← memberName g
        let value ← methodRest g functionKind isAsync isGenerator
        node start (.property kind name.1 false name.2 value)) := by
    refine fun t σ => .bind (even_memberName hg t σ) fun name u => ?_
    exact .bind (even_methodRest hg _ _ _ u σ) fun _ _ => walks_node
  refine fun t σ => .still still_here fun start => .current (.peek fun next _ => ?_)
  refine .ite (fun _ => even_spreadable hg t σ) fun _ => ?_
  refine .ite (fun h => ?_) fun _ => .ite (fun h => ?_) fun _ => .ite (fun h => ?_) fun _ =>
    .ite (fun h => ?_) fun _ => .ite (fun _ => even_shorthand hg t σ) fun _ => ?_
  · refine .word (isWord_of_isWord (Bool.and_eq_true_iff.mp h).1) fun u => ?_
    exact method _ _ _ _ _ u σ
  · refine .word (isWord_of_isWord (Bool.and_eq_true_iff.mp h).1) fun u => ?_
    exact method _ _ _ _ _ u σ
  · have hw := (Bool.and_eq_true_iff.mp (Bool.and_eq_true_iff.mp h).1).1
    refine .word (isWord_of_isWord hw) fun u => ?_
    exact .bind (even_eat (fun _ => rfl) u σ) fun _ u => method _ _ _ _ _ u σ
  · refine .advance (around_of_isPunct (Bool.and_eq_true_iff.mp h).1) fun u => ?_
    exact method _ _ _ _ _ u σ
  · refine .bind (even_memberName hg t σ) fun name u => .ifEat rfl (fun u => ?_) ?_
    · exact .bind (hg.even .assignment rfl u σ) fun _ _ => walks_node
    · refine .ifAt (fun _ => ?_) fun _ => walks_unexpected
      exact .bind (even_methodRest hg _ _ _ u σ) fun _ _ => walks_node

theorem even_readObject (hg : Balanced source g) : Even source (readObject g) := by
  refine fun t σ => .still still_here fun start => .expect rfl fun u => ?_
  refine .bind (.allowingIn (even_commaList (even_readProperty hg) _ _ u _)) fun members u => ?_
  refine .bind (even_eat (fun _ => rfl) u _) fun _ u => ?_
  exact .expect rfl fun u => walks_node

/-! ### Primary expressions -/

theorem even_readParen (hg : Balanced source g) : Even source (readParen g) := by
  refine fun t σ => .still still_here fun start => .expect rfl fun u => ?_
  refine .still still_here fun first => ?_
  refine .bind (.withReader (fun _ => rfl) (even_commaList (hg.even .assignment rfl) _ _ u _))
    fun items u => ?_
  split
  · exact .expect rfl fun u => .fail _ _
  · exact .expect rfl fun u => walks_node
  · exact .still (still_node _ _) fun body => .expect rfl fun u => walks_node

/-- A construction begins with its word. -/
theorem walks_readNew (hg : Balanced source g) (ht : IsWord t) :
    Walks source t σ σ (readNew g) := by
  refine .still still_here fun start => .word ht fun u => .ifEat rfl (fun u => ?_) ?_
  · exact .bind (even_anyName u σ) fun _ _ => walks_node
  · refine .still still_here fun inner => .bind (hg.even .operand rfl u σ) fun callee u => ?_
    refine .at? (.join (fun _ => even_arguments hg u σ) (fun _ => .pure _) fun args u => ?_)
    dsimp only
    split
    · exact .still (still_report _ _) fun _ => walks_node
    · exact .still (still_report _ _) fun _ => walks_node
    · exact walks_node

/-- A dynamic import begins with its word. -/
theorem walks_readImport (hg : Balanced source g) (ht : IsWord t) :
    Walks source t σ σ (readImport g) := by
  refine .still still_here fun start => .word ht fun u => .current ?_
  refine .ite (fun h => .still still_read fun c => ?_) fun _ => .ite (fun h => ?_) fun _ => ?_
  · refine .ite (fun _ => .rejects _ _) fun _ => .advance (around_of_isPunct h) fun u => ?_
    exact .bind (even_anyName u σ) fun _ _ => walks_node
  · have rest (path : Node) (options : List Node) (u : Token) :
        Walks source u (.paren :: σ) σ (do
          let _ ← eat .comma
          expect .rightParen
          node start (.importCall (path :: options))) :=
      .bind (even_eat (fun _ => rfl) u _) fun _ u => .expect rfl fun u => walks_node
    refine .advance (around_of_isPunct h) fun u => .ifEat rfl (fun u => .fails _ _) ?_
    refine .bind (.allowingIn (hg.even .assignment rfl u _)) fun path u => ?_
    refine .ifEat rfl (fun u => .ifAt (fun _ => .bind (.pure _) (rest _)) fun _ => ?_)
      (.bind (.pure _) (rest _))
    exact .bind (.allowingIn (hg.even .assignment rfl u _)) fun _ u => .bind (.pure _) (rest _)
  · refine .still still_read fun c => ?_
    split
    · exact walks_unexpected
    · exact .still (still_modify fun _ => rfl) fun _ => .fail _ _

/-- A slash that the grammar takes for a regular expression. -/
theorem walks_readRegex (ht : t.isSlash = true) : Walks source t σ σ readRegex := by
  refine .current (.lexed fun r hr => ?_)
  intro c s a s' hc hts hs h
  obtain ⟨c', s₁, hread, h⟩ := ok_of_bind_reader h
  cases hread
  obtain ⟨next, s₂, hnext, h⟩ := ok_of_bind_reader h
  obtain ⟨_, s₃, hmodify, h⟩ := ok_of_bind_reader h
  cases hmodify
  cases h
  rw [hc] at hnext
  cases hl : Lexer.next .module r.offset r.rest with
  | error flaw =>
      rw [hl] at hnext
      exact (ne_ok_of_throw hnext).elim
  | ok u =>
      rw [hl] at hnext
      cases hnext
      exact ⟨hs.reaches.reads (.regex ht hr hl (.refl _ _)), not_isTail_of_next hl⟩

/-- `super` begins with its word. -/
theorem walks_readSuper (ht : IsWord t) : Walks source t σ σ readSuper := by
  refine .still still_here fun start => .word ht fun u => .current ?_
  exact .reportIf walks_node

theorem walks_single (ht : t.kind.around σ = some σ) (form : Form Node) :
    Walks source t σ σ (single form) :=
  .still still_here fun _ => .advance ht fun _ => walks_node

theorem even_primary (hg : Balanced source g) : Even source (primary g) := by
  refine fun t σ => .current ?_
  split
  · exact walks_single (around_of_kind ‹_›) _
  · exact walks_single (around_of_kind ‹_›) _
  · exact walks_single (around_of_kind ‹_›) _
  · exact even_readTemplate hg false t σ
  · exact even_readArray hg t σ
  · exact even_readObject hg t σ
  · exact even_readParen hg t σ
  · exact walks_readRegex (by simp [Token.isSlash, Token.isPunct, *])
  · exact walks_readRegex (by simp [Token.isSlash, Token.isPunct, *])
  · refine .bind (even_readDecorators hg t σ) fun _ u => ?_
    refine .ifAtWord (fun h => ?_) fun _ => walks_unexpected
    exact walks_readClass hg false (isWord_of_isWord h)
  · rename_i name escaped hk
    have ht : IsWord t := ⟨_, _, hk⟩
    split
    · exact walks_single ht.around _
    · exact walks_single ht.around _
    · exact walks_single ht.around _
    · exact walks_single ht.around _
    · exact even_functionWithKeyword hg _ _ t σ
    · exact walks_readClass hg _ ht
    · exact walks_readNew hg ht
    · exact walks_readSuper ht
    · exact walks_readImport hg ht
    · refine .still still_functionBegins fun begins => .ite (fun _ => ?_) fun _ => ?_
      · exact even_functionWithKeyword hg _ _ t σ
      · exact even_identifier _ t σ
    · exact even_identifier _ t σ
  · exact .fail _ _

/-! ### Members and calls -/

theorem even_memberAfter (start : Nat) (isOptional : Bool) (target : Node) :
    Even source (memberAfter start isOptional target) := by
  refine fun t σ => .current ?_
  split
  · exact .advance (around_of_kind ‹_›) fun _ => walks_node
  · exact .bind (even_anyName t σ) fun _ _ => walks_node

/-- An index ends its bracket. -/
theorem walks_indexAfter (hg : Balanced source g) (start : Nat) (isOptional : Bool)
    (target : Node) : Walks source t (.square :: σ) σ (indexAfter g start isOptional target) :=
  .bind (.allowingIn (hg.even .expression rfl t _)) fun _ _ =>
    .expect rfl fun _ => walks_node

theorem even_memberStep (hg : Balanced source g) (start : Nat) (chain : Chain) :
    Even source (memberStep g start chain) := by
  refine fun t σ => .current (.still still_read fun c => ?_)
  refine .ite (fun h => ?_) fun _ => .ite (fun h => ?_) fun _ => .ite (fun h => ?_) fun _ =>
    .ite (fun _ => ?_) fun _ => .pure _
  · refine .advance (around_of_isPunct h) fun u => ?_
    exact .bind (even_memberAfter _ _ _ u σ) fun _ _ => .pure _
  · refine .peek fun next hnext => ?_
    split
    · rename_i hk
      refine .ite (fun _ => .pure _) fun _ => ?_
      refine .next advances_advance (around_of_isPunct h) fun u hu => ?_
      -- the token after the mark is the bracket that was looked at
      cases hu.unique hnext
      refine .advance (around_of_kind hk) fun u => ?_
      exact .bind (walks_indexAfter hg _ _ _) fun _ _ => .pure _
    · refine .advance (around_of_isPunct h) fun u => ?_
      exact .bind (even_memberAfter _ _ _ u σ) fun _ _ => .pure _
    · refine .advance (around_of_isPunct h) fun u => ?_
      exact .bind (even_memberAfter _ _ _ u σ) fun _ _ => .pure _
    · exact .pure _
  · refine .advance (around_of_isPunct (Bool.and_eq_true_iff.mp h).1) fun u => ?_
    exact .bind (walks_indexAfter hg _ _ _) fun _ _ => .pure _
  · refine .bind (even_readTemplate hg true t σ) fun body u => ?_
    exact .reportIf (.still (still_node _ _) fun _ => .pure _)

theorem even_memberLoop (hg : Balanced source g) (start n : Nat) (chain : Chain) :
    Even source (memberLoop g start n chain) := by
  induction n generalizing chain with
  | zero => exact fun _ _ => .pure _
  | succ n ih =>
      refine fun t σ => .bind (even_memberStep hg start chain t σ) fun r u => ?_
      cases r with
      | some chain => exact ih chain u σ
      | none => exact .pure _

theorem even_callStep (hg : Balanced source g) (start : Nat) (chain : Chain) :
    Even source (callStep g start chain) := by
  refine fun t σ => .still still_read fun c => ?_
  refine .bind (even_memberLoop hg start _ chain t σ) fun chain u => ?_
  refine .bind (even_eat (fun _ => rfl) u σ) fun isOptional u => .current ?_
  refine .ite (fun _ => ?_) fun _ => .ite (fun _ => ?_) fun _ => ?_
  · refine .bind (even_readTemplate hg true u σ) fun body u => ?_
    exact .still (still_report _ _) fun _ => .still (still_node _ _) fun _ => .pure _
  · exact .bind (even_arguments hg u σ) fun args u => .still (still_node _ _) fun _ => .pure _
  · exact .still still_read fun c => .ite (fun _ => .rejects _ _) fun _ => .pure _

theorem even_callLoop (hg : Balanced source g) (start n : Nat) (chain : Chain) :
    Even source (callLoop g start n chain) := by
  induction n generalizing chain with
  | zero => exact fun _ _ => .pure _
  | succ n ih =>
      refine fun t σ => .bind (even_callStep hg start chain t σ) fun r u => ?_
      obtain ⟨chain, goesOn⟩ := r
      cases goesOn with
      | true => exact ih chain u σ
      | false => exact .pure _

theorem still_closeChain (start : Nat) (chain : Chain) : Still (closeChain start chain) := by
  refine .ite ?_ (.pure _)
  split
  case h_5 => exact .pure _
  all_goals exact still_node _ _

theorem even_operandOfNew (hg : Balanced source g) : Even source (operandOfNew g) := by
  refine fun t σ => .still still_here fun start => .bind (even_primary hg t σ) fun body u => ?_
  refine .still still_read fun c => .bind (even_memberLoop hg start _ _ u σ) fun chain u => ?_
  exact (still_closeChain _ _).walks

theorem even_leftHandSide (hg : Balanced source g) : Even source (leftHandSide g) := by
  refine fun t σ => .still still_here fun start => .bind (even_primary hg t σ) fun body u => ?_
  refine .still still_read fun c => .bind (even_memberLoop hg start _ _ u σ) fun chain u => ?_
  refine .still still_read fun c => .bind (even_callLoop hg start _ _ u σ) fun chain u => ?_
  exact (still_closeChain _ _).walks

/-! ### Operators and their operands -/

theorem even_updateExpression (hg : Balanced source g) : Even source (updateExpression g) := by
  refine fun t σ => .still still_here fun start => .current ?_
  split
  · refine .advance (around_of_update ‹_›) fun u => ?_
    refine .bind (hg.even .unary rfl u σ) fun target u => ?_
    exact .still (still_checkSimpleTarget _ _) fun _ => walks_node
  · refine .bind (even_leftHandSide hg t σ) fun target u => .current ?_
    split
    · refine .ite (fun _ => .pure _) fun _ => .advance (around_of_update ‹_›) fun u => ?_
      exact .still (still_checkSimpleTarget _ _) fun _ => walks_node
    · exact .pure _

/-- A word that is an operator where it stands. -/
theorem Walks.whenWord {name : String} {m : P Bool} {f : Bool → P β} (hm : Still m)
    (yes : t.isWord name = true → Walks source t σ τ (f true)) (no : Walks source t σ τ (f false)) :
    Walks source t σ τ ((do
      let t ← Grammar.current
      if t.isWord name then m else return false) >>= f) := by
  rw [bind_assoc]
  refine .current ?_
  split
  · refine .still hm fun isOperator => ?_
    cases isOperator with
    | true => exact yes ‹_›
    | false => exact no
  · exact (pure_bind false f).symm ▸ no

theorem still_beforeOperand {p : Context → Bool} :
    Still (do if p (← read) then return true else return startsOperand (← peek)) :=
  .bind still_read fun _ => .ite (.pure _) (.bind still_peek fun _ => .pure _)

theorem even_unaryExpression (hg : Balanced source g) : Even source (unaryExpression g) := by
  refine fun t σ => .current ?_
  dsimp only
  split
  · refine .keyword (around_of_unary ‹_›) fun u => ?_
    exact .bind (hg.even .unary rfl u σ) fun _ _ => walks_node
  · refine .whenWord still_beforeOperand (fun h => ?_) ?_
    · refine .ite (fun _ => .still still_read fun c => ?_) fun h => absurd rfl h
      refine .reportIf ?_
      refine .word (isWord_of_isWord h) fun u => ?_
      exact .bind (.withReader (fun _ => rfl) (hg.even .unary rfl u σ)) fun _ _ => walks_node
    · refine .ite (fun h => Bool.noConfusion h) fun _ => .ite (fun _ => .fail _ _) fun _ => ?_
      exact even_updateExpression hg t σ

theorem even_binaryLoop (hg : Balanced source g) (start above n : Nat) (left : Node) :
    Even source (binaryLoop g start above n left) := by
  induction n generalizing left with
  | zero => exact fun _ _ => .pure _
  | succ n ih =>
      refine fun t σ => .current ?_
      split
      · exact .pure _
      · rename_i o ho
        have further (form : Node → Form Node) : Walks source t σ σ (do
            advanceKeyword
            let right ← g (.binary o.level)
            binaryLoop g start above n (← node start (form right))) :=
          .keyword (around_of_operator ho) fun u =>
            .bind (hg.even (.binary _) rfl u σ) fun right u =>
              .still (still_node _ _) fun left => ih left u σ
        refine .ite (fun _ => .pure _) fun _ => .still still_read fun c => ?_
        exact .ite (fun _ => .pure _) fun _ => further _

theorem even_binaryExpression (hg : Balanced source g) (above : Nat) :
    Even source (binaryExpression g above) := by
  refine fun t σ => .current ?_
  have further (left : Node) (u : Token) : Walks source u σ σ (do
      binaryLoop g t.span.start above (← read).bound left) :=
    .still still_read fun c => even_binaryLoop hg _ _ _ left u σ
  dsimp only
  split
  · rename_i name hk
    refine .still still_read fun c => .ite (fun _ => ?_) fun _ => ?_
    · refine .advance (around_of_kind hk) fun u => .expectWord fun u => ?_
      refine .bind (even_unaryExpression hg u σ) fun right u => ?_
      exact .still (still_node _ _) fun left => further left u
    · exact .bind (even_unaryExpression hg t σ) further
  · exact .bind (even_unaryExpression hg t σ) further

/-! ### Arrow functions -/

theorem still_arrowStarts : Still arrowStarts :=
  .bind still_current fun _ => .ite (still_lookAhead _) (.ite (still_lookAhead _) (.pure _))

theorem even_arrowBody (hg : Balanced source g) (start : Nat) (isAsync : Bool)
    (params : List Node) : Even source (arrowBody g start isAsync params) := by
  refine fun t σ => .bind (.inside (.ifAt (fun _ => ?_) fun _ => ?_)) fun _ _ => walks_node
  · exact even_functionBody hg t σ
  · exact hg.even .assignment rfl t σ

theorem even_arrowHead (hg : Balanced source g) : Even source (arrowHead g) := by
  refine fun t σ => .still still_here fun start => .bind (even_eatWord _ t σ) fun isAsync u => ?_
  refine .bind (.withReader (fun _ => rfl) (even_parameters hg u σ)) fun params u => .current ?_
  exact .reportIf (.expect rfl fun u => .pure _)

theorem even_parenthesizedArrow (hg : Balanced source g) :
    Even source (parenthesizedArrow? g) := by
  have whole (head : Nat × Bool × List Node) (u : Token) (σ : List Bracket) :
      Walks source u σ σ (do
        return some (← arrowBody g head.1 head.2.1 head.2.2)) :=
    .bind (even_arrowBody hg _ _ _ u σ) fun _ _ => .pure _
  refine fun t σ => .still still_arrowStarts fun likelihood => ?_
  cases likelihood with
  | no => exact .pure _
  | yes => exact .bind (even_arrowHead hg t σ) fun head u => whole head u σ
  | maybe =>
      refine .still still_here fun start => .still still_get fun s => ?_
      refine .ite (fun _ => .pure _) fun _ => ?_
      refine .attempt (even_arrowHead hg t σ) (fun head u => whole head u σ) ?_
      exact .still (still_modify fun _ => rfl) fun _ => .pure _

theorem even_simpleArrow (hg : Balanced source g) (start : Nat) (isAsync : Bool) (param : Node) :
    Even source (simpleArrow g start isAsync param) := by
  refine fun t σ => .current (.reportIf ?_)
  exact .expect rfl fun u => even_arrowBody hg _ _ _ u σ

/-- An asynchronous arrow function with a bare parameter begins with its word. -/
theorem Walks.asyncArrowStarts {f : Bool → P β}
    (yes : t.isWord "async" = true → Walks source t σ τ (f true))
    (no : Walks source t σ τ (f false)) : Walks source t σ τ (asyncArrowStarts >>= f) := by
  rw [Grammar.asyncArrowStarts, bind_assoc]
  refine .atWord? ?_
  cases hw : t.isWord "async" with
  | false => exact (pure_bind false f).symm ▸ no
  | true =>
      refine .still (.bind still_peek fun _ => .ite (.pure _) (still_lookAhead _)) fun starts => ?_
      cases starts with
      | true => exact yes hw
      | false => exact no

/-! ### Assignments -/

theorem even_readYield (hg : Balanced source g) (ht : t.isWord "yield" = true) :
    Walks source t σ σ (readYield g) := by
  refine .still still_here fun start => .still still_read fun c => ?_
  refine .reportIf ?_
  refine .word (isWord_of_isWord ht) fun u => .current ?_
  refine .ite (fun _ => walks_node) fun _ => ?_
  refine .bind (even_eat (fun _ => rfl) u σ) fun delegate u => .current ?_
  refine .ite (fun _ => walks_node) fun _ => ?_
  exact .bind (.withReader (fun _ => rfl) (hg.even .assignment rfl u σ)) fun _ _ => walks_node

theorem even_conditionalRest (hg : Balanced source g) (start : Nat) (test : Node) :
    Even source (conditionalRest g start test) := by
  refine fun t σ => .ifEat rfl (fun u => ?_) (.pure _)
  refine .bind (.allowingIn (hg.even .assignment rfl u σ)) fun yes u => .expect rfl fun u => ?_
  exact .bind (hg.even .assignment rfl u σ) fun no u => walks_node

theorem even_assignmentExpression (hg : Balanced source g) :
    Even source (assignmentExpression g) := by
  refine fun t σ => .whenWord still_beforeOperand (fun h => ?_) ?_
  · exact .ite (fun _ => even_readYield hg h) fun h => absurd rfl h
  refine .ite (fun h => Bool.noConfusion h) fun _ => ?_
  refine .bind (even_parenthesizedArrow hg t σ) fun arrow u => ?_
  cases arrow with
  | some n => exact .pure _
  | none =>
      refine .still still_here fun start => .asyncArrowStarts (fun h => ?_) ?_
      · refine .ite (fun _ => ?_) fun h => absurd rfl h
        refine .word (isWord_of_isWord h) fun u => ?_
        refine .bind (.withReader (fun _ => rfl) (even_bindingIdentifier u σ)) fun param u => ?_
        exact even_simpleArrow hg _ _ _ u σ
      refine .ite (fun h => Bool.noConfusion h) fun _ => ?_
      refine .bind (even_binaryExpression hg 1 u σ) fun left u => .current ?_
      refine .ite (fun _ => even_simpleArrow hg _ _ _ u σ) fun _ => ?_
      split
      · rename_i op hop
        have value : Walks source u σ σ (do
            advance
            let value ← g .assignment
            node start (.assign op left value)) :=
          .advance (around_of_assignment hop) fun u =>
            .bind (hg.even .assignment rfl u σ) fun _ _ => walks_node
        refine .ite (fun _ => ?_) fun _ => ?_
        · exact .still (still_checkTarget _) fun _ => value
        · exact .still (still_checkSimpleTarget _ _) fun _ => value
      · exact even_conditionalRest hg _ _ u σ

theorem even_expression (hg : Balanced source g) : Even source (expression g) := by
  refine fun t σ => .still still_here fun start => ?_
  refine .bind (.withReader (fun _ => rfl) (hg.even .assignment rfl t σ)) fun first u => ?_
  exact even_sequenceFrom (hg.even .assignment rfl) start first u σ

end

end PatchSandbox.Script.Grammar
