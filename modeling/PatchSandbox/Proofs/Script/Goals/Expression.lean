import PatchSandbox.Proofs.Script.Goals.Readers
import PatchSandbox.Script.Grammar.Expression

/-!
# Expressions and goals

Readers of patterns, functions, classes and expressions do the same for a script as for a module.
Where they ask for the goal, they reject the script: decorators, a member of `import`, two
expressions in one substitution, a link that nothing follows, a comma in a field.
-/

namespace PatchSandbox.Script.Grammar

section

variable {α β : Type} {source : List Char} {g : Knot} {t : Token}

variable [Neutral source] [Agreeing source g]

set_option synthInstance.maxSize 1024

/-! ### Patterns -/

instance agrees_withDefault (start : Nat) (target : Node) :
    Agrees source (withDefault g start target) := by
  unfold withDefault
  infer_instance

instance agrees_bindingElement : Agrees source (bindingElement g) := by
  unfold bindingElement
  infer_instance

instance agrees_restElement : Agrees source (restElement g) := by
  unfold restElement
  infer_instance

omit [Agreeing source g] in
instance agrees_elementsWithRest (close : Punct) {element rest : P Node} [Agrees source element]
    [Agrees source rest] : Agrees source (elementsWithRest close element rest) := by
  refine Agrees.bind inferInstance fun items => ?_
  dsimp only
  split <;> infer_instance

instance agrees_memberName : Agrees source (memberName g) := by
  refine agrees_current.bind fun t => ?_
  split <;> infer_instance

instance agrees_bindingProperty : Agrees source (bindingProperty g) := by
  refine agrees_here.bind fun start => agrees_current.bind fun t => ?_
  refine agrees_memberName.bind fun member => ?_
  obtain ⟨computed, key⟩ := member
  refine (agrees_at _).bind fun colon => .ite ?_ inferInstance
  split <;> infer_instance

instance agrees_bindingTarget : Agrees source (bindingTarget g) := by
  unfold bindingTarget
  infer_instance

/-! ### Checks -/

section

omit [Neutral source] [Agreeing source g]

instance agrees_refuse (use : TargetUse) (n : Node) : Agrees source (refuse use n : P α) :=
  agrees_fail _ _

theorem agrees_checkItems {items : List Node} {element : Node → P (List Check)}
    (he : ∀ n, Agrees source (element n)) : Agrees source (checkItems items element) := by
  refine Agrees.bind (.mapM (fun item => ?_) _) fun _ => agrees_pure _
  dsimp only
  split <;> infer_instance

instance agrees_uncover (start : Nat) : Agrees source (uncover start) :=
  agrees_modify fun _ => rfl

instance agrees_checkStep (check : Check) : Agrees source (checkStep check) := by
  unfold checkStep
  split
  case h_1 =>
    split
    · split <;> infer_instance
    · infer_instance
  case h_2 => split <;> infer_instance
  case h_3 =>
    split
    · exact agrees_checkItems inferInstance
    · refine agrees_checkItems fun member => ?_
      split <;> infer_instance
    · infer_instance

instance agrees_checkAll (fuel : Nat) (checks : List Check) :
    Agrees source (checkAll fuel checks) := by
  induction fuel generalizing checks with
  | zero => exact agrees_pure _
  | succ fuel ih =>
      cases checks with
      | nil => exact agrees_pure _
      | cons c rest => exact (agrees_checkStep c).bind fun _ => ih _

instance agrees_checkTarget (n : Node) : Agrees source (checkTarget n) :=
  .asks inferInstance fun _ _ _ => rfl

instance agrees_checkSimpleTarget (use : TargetUse) (n : Node) :
    Agrees source (checkSimpleTarget use n) :=
  .asks inferInstance fun _ _ _ => rfl

end

/-! ### Functions -/

instance agrees_readDecorators : Agrees source (readDecorators g) := by
  have rest : Agrees source (do
      let ds ← while? (at? .at) do
        advance
        withReader (fun c => { c with inDecorator := true }) (g .leftHandSide)
      modify fun s => { s with decorators := ds }) :=
    Agrees.bind inferInstance fun _ => agrees_modify fun _ => rfl
  refine (agrees_at _).bind fun decorated => .ite ?_ inferInstance
  exact .rejects fun c hc => by simp [hc]

instance agrees_takeDecorators : Agrees source takeDecorators := by
  refine agrees_get.bind fun s => ?_
  dsimp only
  exact .bind (agrees_modify fun _ => rfl) fun _ => agrees_pure _

instance agrees_importDeclares : Agrees source importDeclares := by
  unfold importDeclares
  infer_instance

instance agrees_statementStep (topLevel : Bool) (acc : Statements) :
    Agrees source (statementStep g topLevel acc) := by
  refine agrees_current.bind fun first => .ite inferInstance ?_
  refine agrees_importDeclares.bind fun declares => .ite inferInstance ?_
  refine .ite inferInstance (.ite inferInstance ?_)
  refine (agrees_knot _).bind fun n => ?_
  split <;> infer_instance

instance agrees_statementLoop (topLevel : Bool) (n : Nat) (acc : Statements) :
    Agrees source (statementLoop g topLevel n acc) := by
  induction n generalizing acc with
  | zero => exact agrees_unexpected
  | succ n ih =>
      refine (agrees_statementStep topLevel acc).bind fun a => ?_
      cases a with
      | some acc => exact ih acc
      | none => exact agrees_pure _

instance agrees_directivesAndStatements (topLevel : Bool) :
    Agrees source (directivesAndStatements g topLevel) :=
  .asks inferInstance fun _ _ _ => rfl

instance agrees_functionBody : Agrees source (functionBody g) := by
  have inner : Agrees source (withReader (fun c => { c with inFunction := true })
      (directivesAndStatements g false)) :=
    agrees_withReader fun _ _ ⟨c, a⟩ => ⟨{ c with inFunction := true }, a⟩
  unfold functionBody
  infer_instance

instance agrees_parameter : Agrees source (parameter g) := by
  unfold parameter
  infer_instance

instance agrees_restParameter : Agrees source (restParameter g) := by
  unfold restParameter
  dsimp only
  infer_instance

instance agrees_parameters : Agrees source (parameters g) := by
  unfold parameters
  infer_instance

instance agrees_functionRest (start : Nat) (traits : FunctionTraits) (name : Option Node) :
    Agrees source (functionRest g start traits name) := by
  unfold functionRest
  infer_instance

instance agrees_functionName (traits : FunctionTraits) (required : Bool) :
    Agrees source (functionName? traits required) := by
  refine agrees_current.bind fun t => .ite inferInstance ?_
  dsimp only
  refine .ite ?_ inferInstance
  split <;> infer_instance

instance agrees_functionBegins : Agrees source functionBegins := by
  unfold functionBegins
  infer_instance

instance agrees_functionWithKeyword (kind : FunctionKind) (nameRequired : Bool) :
    Agrees source (functionWithKeyword g kind nameRequired) := by
  unfold functionWithKeyword
  infer_instance

instance agrees_methodRest (kind : FunctionKind) (isAsync isGenerator : Bool) :
    Agrees source (methodRest g kind isAsync isGenerator) := by
  unfold methodRest
  infer_instance

/-! ### Classes -/

instance agrees_markWord (name : String) (marks : Token → Bool) :
    Agrees source (markWord name marks) := by
  unfold markWord
  infer_instance

instance agrees_memberMarks : Agrees source memberMarks := by
  unfold memberMarks
  infer_instance

instance agrees_classMemberName : Agrees source (classMemberName g) := by
  refine agrees_current.bind fun t => ?_
  split <;> infer_instance

instance agrees_fieldValue : Agrees source (fieldValue g) := by
  refine agrees_here.bind fun start => agrees_inDecorator.bind fun first => ?_
  refine (agrees_at _).bind fun comma => ?_
  exact .rejects fun c hc => by simp [hc]

instance agrees_classMember : Agrees source (classMember g) := by
  have inner {m : P (Unit × List Node)} [Agrees source m] : Agrees source (withReader (fun c =>
      { c with inAsync := true, inGenerator := false, inFunction := false }) m) :=
    agrees_withReader fun _ _ ⟨c, _⟩ =>
      ⟨{ c with inAsync := true, inGenerator := false, inFunction := false }, true⟩
  refine .bind inferInstance fun _ => .bind inferInstance fun closes => .ite inferInstance ?_
  refine agrees_here.bind fun start => agrees_readDecorators.bind fun _ => ?_
  refine agrees_takeDecorators.bind fun decorators => .bind inferInstance fun isStatic => ?_
  refine agrees_peek.bind fun next => .ite inferInstance ?_
  refine agrees_memberMarks.bind fun m => agrees_classMemberName.bind fun name => ?_
  dsimp only
  split <;> infer_instance

instance agrees_classBody : Agrees source (classBody g) := by
  unfold classBody
  infer_instance

instance agrees_readClass (isDeclaration : Bool) : Agrees source (readClass g isDeclaration) := by
  unfold readClass
  dsimp only
  infer_instance

/-! ### Templates -/

instance agrees_rereadTemplate : Agrees source rereadTemplate := by
  refine ⟨fun t => .current fun hm => ?_⟩
  split
  · rename_i hb
    exact .lexed fun u hu c d s _ _ _ => .ok () { s with token := u } (hm.resume hb hu)
  · exact Agrees.at_ t

instance agrees_templateLoop (n : Nat) (qs : List Quasi) (parts : List Node) :
    Agrees source (templateLoop g n qs parts) := by
  induction n generalizing qs parts with
  | zero => exact agrees_unexpected
  | succ n ih =>
      refine agrees_current.bind fun t => ?_
      split
      · infer_instance
      · exact .ite inferInstance (.rejects fun c hc => by simp [hc])

instance agrees_readTemplate (isTagged : Bool) : Agrees source (readTemplate g isTagged) := by
  refine agrees_current.bind fun t => ?_
  split
  · infer_instance
  · refine agrees_advance.bind fun _ => .ite inferInstance ?_
    refine .bind inferInstance fun part => agrees_rereadTemplate.bind fun _ => ?_
    exact .asks inferInstance fun _ _ _ => rfl

/-! ### Objects and arrays -/

instance agrees_spreadable : Agrees source (spreadable g) := by
  unfold spreadable
  infer_instance

instance agrees_arguments : Agrees source (arguments g) := by
  unfold arguments
  infer_instance

instance agrees_readArray : Agrees source (readArray g) := by
  unfold readArray
  infer_instance

instance agrees_cover (start : Nat) :
    Agrees source (modify fun s => { s with covers := start :: s.covers } : P Unit) :=
  agrees_modify fun _ => rfl

instance agrees_shorthand : Agrees source (shorthand g) := by
  unfold shorthand
  infer_instance

instance agrees_readProperty : Agrees source (readProperty g) := by
  unfold readProperty
  dsimp only
  infer_instance

instance agrees_readObject : Agrees source (readObject g) := by
  unfold readObject
  infer_instance

/-! ### Primary expressions -/

instance agrees_readParen : Agrees source (readParen g) := by
  refine agrees_here.bind fun start => .bind inferInstance fun _ => agrees_here.bind fun first => ?_
  refine .bind (agrees_withReader fun _ _ ⟨c, a⟩ => ?_) fun items => ?_
  · exact ⟨{ c with allowIn := true, inDecorator := false }, a⟩
  · split <;> infer_instance

instance agrees_readNew : Agrees source (readNew g) := by
  refine agrees_here.bind fun start => agrees_advanceKeyword.bind fun _ => ?_
  refine (agrees_eat _).bind fun dot => ?_
  refine .ite inferInstance (agrees_here.bind fun inner => .bind inferInstance fun callee => ?_)
  refine (agrees_at _).bind fun paren => ?_
  dsimp only
  split <;> refine .bind inferInstance fun args => ?_ <;> split <;> infer_instance

instance agrees_readImport : Agrees source (readImport g) := by
  refine agrees_here.bind fun start => .bind inferInstance fun _ => agrees_current.bind fun t => ?_
  refine .ite ?_ (.ite ?_ ⟨?_⟩)
  · exact .rejects fun c hc => by simp [hc]
  · dsimp only
    infer_instance
  · rintro t _ _ s ⟨c, inAsync⟩ _ _
    exact .rejected _ { s with isRejected := true } _ rfl

/-- A slash that the grammar takes for a regular expression. -/
theorem agreesAt_readRegex (ht : t.isSlash = true) : AgreesAt source t readRegex := by
  refine .current fun hm => .lexed fun r hr => ?_
  refine .next (hm.regex_script_eq ht hr) fun u hu => .bind (fun c d s _ _ _ => ?_) inferInstance
  exact .ok () { s with token := u, lastStop := r.offset } (hm.regex ht hr hu)

instance agrees_readSuper : Agrees source readSuper := by
  unfold readSuper
  dsimp only
  infer_instance

instance agrees_single (form : Form Node) : Agrees source (single form) := by
  unfold single
  infer_instance

instance agrees_primary : Agrees source (primary g) := by
  refine ⟨fun t => .current fun hm => ?_⟩
  split
  case h_8 hk | h_9 hk => exact agreesAt_readRegex (by simp [Token.isSlash, Token.isPunct, hk])
  case h_11 => split <;> exact Agrees.at_ t
  all_goals exact Agrees.at_ t

/-! ### Members and calls -/

instance agrees_memberAfter (start : Nat) (isOptional : Bool) (target : Node) :
    Agrees source (memberAfter start isOptional target) := by
  refine agrees_current.bind fun t => ?_
  split <;> infer_instance

instance agrees_indexAfter (start : Nat) (isOptional : Bool) (target : Node) :
    Agrees source (indexAfter g start isOptional target) := by
  unfold indexAfter
  infer_instance

instance agrees_memberStep (start : Nat) (chain : Chain) :
    Agrees source (memberStep g start chain) := by
  refine agrees_current.bind fun t => .asks (fun c => ?_) fun _ _ _ => rfl
  refine .ite inferInstance (.ite (agrees_peek.bind fun next => ?_) inferInstance)
  split <;> infer_instance

instance agrees_memberLoop (start n : Nat) (chain : Chain) :
    Agrees source (memberLoop g start n chain) := by
  induction n generalizing chain with
  | zero => exact agrees_pure _
  | succ n ih =>
      refine (agrees_memberStep start chain).bind fun a => ?_
      cases a with
      | some chain => exact ih chain
      | none => exact agrees_pure _

instance agrees_callStep (start : Nat) (chain : Chain) :
    Agrees source (callStep g start chain) := by
  refine .asks (fun c => ?_) fun _ _ _ => rfl
  refine .bind inferInstance fun chain => .bind inferInstance fun isOptional => ?_
  refine agrees_current.bind fun t => .ite inferInstance (.ite inferInstance ?_)
  exact .rejects fun c hc => by simp [hc]

instance agrees_callLoop (start n : Nat) (chain : Chain) :
    Agrees source (callLoop g start n chain) := by
  induction n generalizing chain with
  | zero => exact agrees_pure _
  | succ n ih =>
      refine (agrees_callStep start chain).bind fun a => ?_
      split
      · exact ih _
      · exact agrees_pure _

omit [Neutral source] in
instance agrees_closeChain (start : Nat) (chain : Chain) :
    Agrees source (closeChain start chain) := by
  refine .ite ?_ inferInstance
  split <;> infer_instance

instance agrees_operandOfNew : Agrees source (operandOfNew g) := by
  refine agrees_here.bind fun start => agrees_primary.bind fun body => ?_
  exact .asks inferInstance fun _ _ _ => rfl

instance agrees_leftHandSide : Agrees source (leftHandSide g) := by
  refine agrees_here.bind fun start => agrees_primary.bind fun body => ?_
  refine .asks (fun c => .bind inferInstance fun chain => ?_) fun _ _ _ => rfl
  exact .asks inferInstance fun _ _ _ => rfl

/-! ### Operators -/

instance agrees_updateExpression : Agrees source (updateExpression g) := by
  refine agrees_here.bind fun start => agrees_current.bind fun t => ?_
  split
  · infer_instance
  · refine agrees_leftHandSide.bind fun target => agrees_current.bind fun t => ?_
    split <;> infer_instance

omit [Agreeing source g] in
/-- No token is an `await`. -/
theorem AgreesAt.awaits {f : Bool → P β}
    (hf : AgreesAt source t (f false)) : AgreesAt source t (awaits >>= f) := by
  intro c d s hcd ht hs
  have no (c : Context) : Grammar.awaits c s = .ok false s := by
    change (if s.token.isWord "await" = true then _ else (pure false : P Bool)) c s = _
    rw [ht, (Neutral.token t hs).noAwait]
    rfl
  have run (c : Context) : (Grammar.awaits >>= f) c s = f false c s := by
    simp only [Bind.bind, ReaderT.bind, EStateM.bind, no]
  rw [run, run]
  exact hf c d s hcd ht hs

instance agrees_unaryExpression : Agrees source (unaryExpression g) := by
  refine ⟨fun t => .current fun hm => ?_⟩
  dsimp only
  split
  · exact Agrees.at_ t
  · refine .awaits ?_
    rw [if_neg Bool.false_ne_true]
    exact Agrees.at_ t

instance agrees_binaryLoop (start above n : Nat) (left : Node) :
    Agrees source (binaryLoop g start above n left) := by
  induction n generalizing left with
  | zero => exact agrees_pure _
  | succ n ih =>
      refine agrees_current.bind fun t => ?_
      split
      · infer_instance
      · refine .ite inferInstance (.asks (fun c => ?_) fun _ _ _ => rfl)
        dsimp only
        infer_instance

instance agrees_binaryExpression (above : Nat) : Agrees source (binaryExpression g above) := by
  have loop (start : Nat) (left : Node) : Agrees source (do
      binaryLoop g start above (← read).bound left) := .asks inferInstance fun _ _ _ => rfl
  refine agrees_current.bind fun t => ?_
  dsimp only
  split
  · refine .asks (fun c => ?_) fun _ _ _ => rfl
    infer_instance
  · infer_instance

/-! ### Arrow functions -/

instance agrees_parenthesesOpenArrow : Agrees source parenthesesOpenArrow := by
  refine (agrees_eat _).bind fun paren => .ite inferInstance (agrees_current.bind fun t => ?_)
  split
  case h_5 =>
    refine .ite inferInstance (agrees_advance.bind fun _ => agrees_current.bind fun t => ?_)
    split <;> infer_instance
  all_goals infer_instance

instance agrees_arrowStarts : Agrees source arrowStarts := by
  unfold arrowStarts
  infer_instance

instance agrees_arrowBody (start : Nat) (isAsync : Bool) (params : List Node) :
    Agrees source (arrowBody g start isAsync params) := by
  unfold arrowBody
  infer_instance

instance agrees_arrowHead : Agrees source (arrowHead g) := by
  refine agrees_here.bind fun start => (agrees_eatWord _).bind fun isAsync => ?_
  refine .bind (agrees_withReader fun _ _ ⟨c, a⟩ => ?_) fun params => ?_
  · exact ⟨{ c with inAsync := c.inAsync || isAsync }, a || isAsync⟩
  · dsimp only
    infer_instance

instance agrees_parenthesizedArrow : Agrees source (parenthesizedArrow? g) := by
  refine agrees_arrowStarts.bind fun starts => ?_
  split
  case h_3 =>
    refine agrees_here.bind fun start => agrees_get.bind fun s => .ite inferInstance ?_
    refine agrees_attempt.bind fun head => ?_
    split
    · infer_instance
    · exact .bind (agrees_modify fun _ => rfl) fun _ => agrees_pure _
  all_goals infer_instance

instance agrees_simpleArrow (start : Nat) (isAsync : Bool) (param : Node) :
    Agrees source (simpleArrow g start isAsync param) := by
  unfold simpleArrow
  dsimp only
  infer_instance

instance agrees_asyncArrowStarts : Agrees source asyncArrowStarts := by
  unfold asyncArrowStarts
  infer_instance

/-! ### Assignments -/

instance agrees_yields : Agrees source yields := by
  refine agrees_current.bind fun t => .ite ?_ inferInstance
  exact .asks inferInstance fun _ _ _ => rfl

instance agrees_readYield : Agrees source (readYield g) := by
  have operand : Agrees source (withReader (fun c => { c with inGenerator := true })
      (g .assignment)) :=
    agrees_withReader fun _ _ ⟨c, a⟩ => ⟨{ c with inGenerator := true }, a⟩
  refine agrees_here.bind fun start => .asks (fun c => ?_) fun _ _ _ => rfl
  infer_instance

instance agrees_conditionalRest (start : Nat) (test : Node) :
    Agrees source (conditionalRest g start test) := by
  unfold conditionalRest
  infer_instance

instance agrees_assignmentExpression : Agrees source (assignmentExpression g) := by
  refine agrees_yields.bind fun isYield => .ite inferInstance ?_
  refine agrees_parenthesizedArrow.bind fun arrow => ?_
  cases arrow with
  | some n => exact agrees_pure n
  | none =>
      refine agrees_here.bind fun start => agrees_asyncArrowStarts.bind fun asyncArrow => ?_
      refine .ite (.bind inferInstance fun _ => ?_) ?_
      · refine .bind (agrees_withReader fun _ _ ⟨c, _⟩ => ?_) inferInstance
        exact ⟨{ c with inAsync := true }, true⟩
      · refine .bind inferInstance fun left => agrees_current.bind fun t => ?_
        dsimp only
        refine .ite inferInstance ?_
        split <;> infer_instance

instance agrees_expression : Agrees source (expression g) := by
  unfold expression
  infer_instance

end

end PatchSandbox.Script.Grammar
