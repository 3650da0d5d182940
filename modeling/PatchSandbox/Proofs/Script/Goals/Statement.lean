import PatchSandbox.Proofs.Script.Goals.Expression
import PatchSandbox.Script.Program

/-!
# Statements and goals

* **`agreeing_reader`** — the readers of the grammar do the same for a script as for a module, by
  induction on how deep they go.
* **`read_module_of_script`** — a neutral source that reads as a script reads as a module, and as
  the same program.
-/

namespace PatchSandbox.Script.Grammar

section

variable {α β : Type} {source : List Char} {g : Knot} {t : Token}

variable [Neutral source] [Agreeing source g]

set_option synthInstance.maxSize 1024

/-! ### Variables -/

instance agrees_declarator (kind : VarKind) (place : VariablePlace) :
    Agrees source (declarator g kind place) := by
  refine agrees_here.bind fun start => .bind inferInstance fun target => ?_
  refine (agrees_eat _).bind fun hasValue => .ite inferInstance ?_
  dsimp only
  refine .ite ?_ inferInstance
  split <;> infer_instance

instance agrees_declaratorsAfter (start : Nat) (kind : VarKind) (place : VariablePlace) :
    Agrees source (declaratorsAfter g start kind place) := by
  unfold declaratorsAfter
  dsimp only
  infer_instance

instance agrees_variableList (place : VariablePlace) : Agrees source (variableList g place) := by
  refine agrees_here.bind fun start => agrees_current.bind fun t => ?_
  split <;> infer_instance

instance agrees_expressionStatement (start : Nat) (body : Node) :
    Agrees source (expressionStatement start body) := by
  unfold expressionStatement
  infer_instance

/-- A `let` that is a name has no member and no call. -/
theorem agreesAt_letStatement (place : Place) (ht : t.isWord "let" = true) :
    AgreesAt source t (letStatement g place) := by
  refine .meets fun hm => .here (.peek fun next hnext => ?_)
  obtain ⟨hd, hp⟩ := (Neutral.token t hm).noLet ht next hnext
  simp only [hd, hp, Bool.or_self, Bool.false_eq_true, if_false]
  exact Agrees.at_ t

/-! ### Blocks -/

instance agrees_blockStatement : Agrees source (blockStatement g) := by
  unfold blockStatement
  infer_instance

instance agrees_condition : Agrees source (condition g) := by
  unfold condition
  infer_instance

instance agrees_body : Agrees source (body g) := agrees_knot _

instance agrees_ifStatement : Agrees source (ifStatement g) := by
  unfold ifStatement
  dsimp only
  infer_instance

/-! ### Loops -/

instance agrees_whileStatement : Agrees source (whileStatement g) := by
  unfold whileStatement
  infer_instance

instance agrees_doStatement : Agrees source (doStatement g) := by
  unfold doStatement
  infer_instance

instance agrees_threeClauses (start : Nat) (isAwait : Bool) (init : Option Node) :
    Agrees source (threeClauses g start isAwait init) := by
  refine (agrees_expect _).bind fun _ => agrees_current.bind fun t => ?_
  dsimp only
  split <;> exact .bind inferInstance fun test => .bind inferInstance fun _ => inferInstance

instance agrees_loopOver (start : Nat) (isAwait : Bool) (left : Node) :
    Agrees source (loopOver g start isAwait left) := by
  unfold loopOver
  dsimp only
  infer_instance

omit [Neutral source] in
instance agrees_atLoopOver : Agrees source atLoopOver := by
  unfold atLoopOver
  infer_instance

/-- No token is an `await`. -/
instance agrees_awaitMark : Agrees source awaitMark := by
  refine ⟨fun t c d s _ ht hs => ?_⟩
  have no (c : Context) : awaitMark c s = .ok false s := by
    change (if s.token.isWord "await" = true then _ else (pure false : P Bool)) c s = _
    rw [ht, (Neutral.token t hs).noAwait]
    rfl
  rw [no, no]
  exact .ok false s (ht ▸ hs)

instance agrees_loopAssigning (start : Nat) (isAwait isAsync : Bool) (target : Node) :
    Agrees source (loopAssigning g start isAwait isAsync target) := by
  refine agrees_attempt.bind fun checked => ?_
  cases checked with
  | none => infer_instance
  | some _ =>
      dsimp only
      infer_instance

instance agrees_loopClauses (start : Nat) (isAwait : Bool) :
    Agrees source (loopClauses g start isAwait) := by
  unfold loopClauses
  dsimp only
  infer_instance

instance agrees_forStatement : Agrees source (forStatement g) := by
  unfold forStatement
  infer_instance

/-! ### Jumps -/

instance agrees_label : Agrees source label? := by
  refine agrees_mayEnd.bind fun ends => .ite inferInstance ⟨fun t => .current fun hm => ?_⟩
  split
  · rename_i name _ hk
    have hf : (name == "await") = false := by simp [hm.ne_await hk]
    simp only [hf, Bool.and_false]
    exact .of (.asks inferInstance fun _ _ _ => rfl)
  · exact Agrees.at_ t

instance agrees_jumpStatement (form : Option String → Form Node) :
    Agrees source (jumpStatement form) := by
  unfold jumpStatement
  infer_instance

instance agrees_returnStatement : Agrees source (returnStatement g) := by
  refine agrees_here.bind fun start => agrees_advanceKeyword.bind fun _ => ?_
  refine (agrees_eat _).bind fun semicolon => agrees_mayEnd.bind fun ends => ?_
  refine .ite ?_ (.ite ?_ (.bind inferInstance fun n => agrees_endStatement.bind fun _ => ?_))
  all_goals exact (agrees_pure _).bind fun value => .asks inferInstance fun _ _ _ => rfl

instance agrees_throwStatement : Agrees source (throwStatement g) := by
  unfold throwStatement
  dsimp only
  infer_instance

/-! ### Other statements -/

instance agrees_switchCase : Agrees source (switchCase g) := by
  unfold switchCase
  dsimp only
  infer_instance

instance agrees_switchStatement : Agrees source (switchStatement g) := by
  unfold switchStatement
  infer_instance

instance agrees_withStatement : Agrees source (withStatement g) := by
  unfold withStatement
  infer_instance

instance agrees_catchClause : Agrees source (catchClause g) := by
  unfold catchClause
  dsimp only
  infer_instance

instance agrees_tryStatement : Agrees source (tryStatement g) := by
  unfold tryStatement
  dsimp only
  infer_instance

instance agrees_functionDeclaration (place : Place) :
    Agrees source (functionDeclaration g place) := by
  refine (agrees_functionWithKeyword _ _).bind fun n => ?_
  dsimp only
  refine .ite ?_ inferInstance
  split
  · refine .ite inferInstance (.ite inferInstance ?_)
    exact .rejects fun c hc => by simp [hc]
  · infer_instance

instance agrees_expressionOrLabel : Agrees source (expressionOrLabel g) := by
  refine agrees_here.bind fun start => .bind inferInstance fun e => ?_
  split <;> infer_instance

instance agrees_undecorated (place : Place) : Agrees source (undecorated g place) := by
  refine ⟨fun t => .current fun hm => ?_⟩
  dsimp only
  split
  case h_3 name escaped hk =>
    split
    case h_12 =>
      refine .of ((agrees_readClass true).bind fun n => ?_)
      exact .rejects fun c hc => by simp [hc]
    case h_16 =>
      have ht : t.isWord "let" = true := by simp [Token.isWord, hk]
      split
      · exact Agrees.at_ t
      · exact agreesAt_letStatement place ht
    case h_19 =>
      refine .of (agrees_peek.bind fun next => .ite ?_ inferInstance)
      exact .rejects fun c hc => by simp [hc]
    all_goals exact Agrees.at_ t
  all_goals exact Agrees.at_ t

instance agrees_statement (place : Place) : Agrees source (statement g place) := by
  unfold statement
  dsimp only
  infer_instance

/-! ### Imports and exports -/

instance agrees_moduleSource : Agrees source moduleSource := by
  refine agrees_current.bind fun t => ?_
  split <;> infer_instance

instance agrees_exportName : Agrees source exportName := by
  refine agrees_current.bind fun t => ?_
  split <;> infer_instance

instance agrees_importAttributes : Agrees source importAttributes := by
  unfold importAttributes
  infer_instance

instance agrees_importNamespace : Agrees source importNamespace := by
  unfold importNamespace
  infer_instance

instance agrees_importNames : Agrees source importNames := by
  unfold importNames
  infer_instance

instance agrees_importBindings : Agrees source importBindings := by
  unfold importBindings
  dsimp only
  infer_instance

instance agrees_importDeclaration : Agrees source importDeclaration := by
  refine agrees_here.bind fun start => agrees_advanceKeyword.bind fun _ => ?_
  refine agrees_current.bind fun t => ?_
  dsimp only
  split <;> infer_instance

instance agrees_exportSpecifier : Agrees source exportSpecifier := by
  unfold exportSpecifier
  dsimp only
  infer_instance

instance agrees_exportNames (start : Nat) : Agrees source (exportNames start) := by
  refine (agrees_expect _).bind fun _ => .bind inferInstance fun names => ?_
  refine (agrees_expect _).bind fun _ => (agrees_eatWord _).bind fun hasSource => ?_
  refine agrees_current.bind fun t => .ite inferInstance ?_
  refine .bind (.forIn (fun name _ => ?_) _ _) inferInstance
  obtain ⟨place, text⟩ := name
  cases text with
  | some text => exact .ite inferInstance inferInstance
  | none => exact agrees_bind

instance agrees_defaultExport : Agrees source (defaultExport g) := by
  unfold defaultExport
  infer_instance

instance agrees_exportedDeclaration : Agrees source (exportedDeclaration g) := by
  unfold exportedDeclaration
  infer_instance

instance agrees_exportDeclaration : Agrees source (exportDeclaration g) := by
  refine agrees_here.bind fun start => agrees_advanceKeyword.bind fun _ => ?_
  refine agrees_readDecorators.bind fun _ => agrees_current.bind fun t => ?_
  refine .ite inferInstance (.ite ?_ inferInstance)
  refine agrees_advance.bind fun _ => (agrees_eatWord _).bind fun named => ?_
  dsimp only
  infer_instance

/-! ### The readers together -/

instance agreeing_reader (depth : Nat) : Agreeing source (reader depth) := by
  induction depth with
  | zero => exact ⟨fun _ => agrees_unexpected⟩
  | succ depth ih =>
      refine ⟨fun n => ?_⟩
      cases n with
      | statement place => exact agrees_statement place
      | importDeclaration => exact agrees_importDeclaration
      | exportDeclaration => exact agrees_exportDeclaration
      | expression => exact agrees_expression
      | assignment => exact agrees_assignmentExpression
      | binary above => exact agrees_binaryExpression above
      | unary => exact agrees_unaryExpression
      | operand => exact agrees_operandOfNew
      | leftHandSide => exact agrees_leftHandSide
      | bindingTarget => exact agrees_bindingTarget

instance agrees_program (depth : Nat) : Agrees source (program depth) := by
  refine agrees_here.bind fun start => .bind inferInstance fun lists => ?_
  refine agrees_get.bind fun s => ?_
  dsimp only
  split <;> infer_instance

end

end PatchSandbox.Script.Grammar

namespace PatchSandbox.Script

/-- **A neutral source that reads as a script reads as a module**, and as the same program. -/
theorem read_module_of_script {source : List Char} [Neutral source] {p : Program}
    (h : Program.read .script source = .ok p) : Program.read .module source = .ok p := by
  unfold Program.read at h ⊢
  rw [first_script_eq] at h
  dsimp only at h ⊢
  split at h
  · cases h
  rename_i first hfirst
  split at h
  · cases h
  rename_i program state hrun
  have agreement := (Grammar.agrees_program (8 * (source.length + 2))).at_ first _ _
    { token := first } (.mk { goal := .module, bound := source.length + 2 } true) rfl
    (Meets.first hfirst)
  have hmodule := (cast (congrArg (Grammar.Agreement source · _) hrun) agreement).eq_ok
  rw [EStateM.run, show (Goal.module == Goal.module) = true from rfl, hmodule]
  exact h

end PatchSandbox.Script
