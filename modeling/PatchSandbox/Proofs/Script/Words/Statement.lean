import PatchSandbox.Proofs.Script.Words.Expression
import PatchSandbox.Script.Program

/-!
# Words in programs

* **`keeping_reader`** — the readers of the grammar keep things tidy, by induction on how deep they
  go.
* **`isTidy_of_read`** — no word that a program quotes has a line feed, whatever its source is.
-/

namespace PatchSandbox.Script.Grammar

section

variable {g : Knot} [Keeping g]

set_option synthInstance.maxSize 4096

/-! ### Variables -/

instance keeps_declarator (kind : VarKind) (place : VariablePlace) :
    Keeps (declarator g kind place) := by
  refine keeps_here.bind fun start _ => .bind inferInstance fun target _ => ?_
  refine (keeps_eat _).bind fun hasValue _ => .ite inferInstance ?_
  dsimp only
  refine .ite ?_ inferInstance
  split <;> infer_instance

instance keeps_declaratorsAfter (start : Nat) (kind : VarKind) (place : VariablePlace) :
    Keeps (declaratorsAfter g start kind place) := by
  unfold declaratorsAfter
  dsimp only
  infer_instance

instance keeps_variableList (place : VariablePlace) : Keeps (variableList g place) := by
  refine keeps_here.bind fun start _ => keeps_current.bind fun t _ => ?_
  split <;> infer_instance

omit [Keeping g] in
instance keeps_expressionStatement (start : Nat) (body : Node) [Tidy body] :
    Keeps (expressionStatement start body) := by
  unfold expressionStatement
  infer_instance

instance keeps_letStatement (place : Place) : Keeps (letStatement g place) := by
  unfold letStatement
  dsimp only
  infer_instance

/-! ### Blocks -/

instance keeps_blockStatement : Keeps (blockStatement g) := by
  unfold blockStatement
  infer_instance

instance keeps_condition : Keeps (condition g) := by
  unfold condition
  infer_instance

instance keeps_body : Keeps (body g) := keeps_knot _

instance keeps_ifStatement : Keeps (ifStatement g) := by
  unfold ifStatement
  dsimp only
  infer_instance

/-! ### Loops -/

instance keeps_whileStatement : Keeps (whileStatement g) := by
  unfold whileStatement
  infer_instance

instance keeps_doStatement : Keeps (doStatement g) := by
  unfold doStatement
  infer_instance

instance keeps_threeClauses (start : Nat) (isAwait : Bool) (init : Option Node) [Tidy init] :
    Keeps (threeClauses g start isAwait init) := by
  refine (keeps_expect _).bind fun _ _ => keeps_current.bind fun t _ => ?_
  dsimp only
  split <;>
    exact Keeps.bind inferInstance fun test _ => .bind inferInstance fun _ _ => inferInstance

instance keeps_loopOver (start : Nat) (isAwait : Bool) (left : Node) [Tidy left] :
    Keeps (loopOver g start isAwait left) := by
  refine (keeps_atWord _).bind fun overKeys _ => keeps_advanceKeyword.bind fun _ _ => ?_
  dsimp only
  cases overKeys with
  | false =>
      simp only [Bool.false_eq_true, if_false]
      infer_instance
  | true =>
      simp only [if_true]
      infer_instance

omit [Keeping g] in
instance keeps_atLoopOver : Keeps atLoopOver := by
  unfold atLoopOver
  infer_instance

omit [Keeping g] in
instance keeps_awaitMark : Keeps awaitMark := by
  unfold awaitMark
  dsimp only
  infer_instance

instance keeps_loopAssigning (start : Nat) (isAwait isAsync : Bool) (target : Node) [Tidy target] :
    Keeps (loopAssigning g start isAwait isAsync target) := by
  refine keeps_attempt.bind fun checked _ => ?_
  cases checked with
  | none => infer_instance
  | some _ =>
      dsimp only
      infer_instance

instance keeps_loopClauses (start : Nat) (isAwait : Bool) :
    Keeps (loopClauses g start isAwait) := by
  unfold loopClauses
  dsimp only
  infer_instance

instance keeps_forStatement : Keeps (forStatement g) := by
  unfold forStatement
  infer_instance

/-! ### Jumps -/

section

omit [Keeping g]

instance keeps_label : Keeps label? := by
  refine keeps_mayEnd.bind fun ends _ => .ite inferInstance (keeps_current.bind fun t _ => ?_)
  split
  case h_1 name _ hk =>
      have := tidy_word hk
      infer_instance
  case h_2 => infer_instance

theorem keeps_jumpStatement {form : Option String → Form Node}
    (hc : ∀ label, (form label).children = []) (hq : ∀ label, (form label).quoted = []) :
    Keeps (jumpStatement form) := by
  refine keeps_here.bind fun start _ => keeps_advanceKeyword.bind fun _ _ => ?_
  refine keeps_label.bind fun label _ => keeps_endStatement.bind fun _ _ => ?_
  have : Tidy (form label).children := by
    rw [hc]
    infer_instance
  have : Tidy (form label).quoted := by
    rw [hq]
    infer_instance
  infer_instance

end

instance keeps_returnStatement : Keeps (returnStatement g) := by
  unfold returnStatement
  dsimp only
  infer_instance

instance keeps_throwStatement : Keeps (throwStatement g) := by
  unfold throwStatement
  dsimp only
  infer_instance

/-! ### Other statements -/

instance keeps_switchCase : Keeps (switchCase g) := by
  unfold switchCase
  dsimp only
  infer_instance

instance keeps_switchStatement : Keeps (switchStatement g) := by
  unfold switchStatement
  infer_instance

instance keeps_withStatement : Keeps (withStatement g) := by
  unfold withStatement
  infer_instance

instance keeps_catchClause : Keeps (catchClause g) := by
  unfold catchClause
  dsimp only
  infer_instance

instance keeps_tryStatement : Keeps (tryStatement g) := by
  unfold tryStatement
  dsimp only
  infer_instance

instance keeps_functionDeclaration (place : Place) : Keeps (functionDeclaration g place) := by
  refine (keeps_functionWithKeyword _ _).bind fun n _ => ?_
  dsimp only
  refine .ite ?_ inferInstance
  split <;> infer_instance

instance keeps_expressionOrLabel : Keeps (expressionOrLabel g) := by
  refine keeps_here.bind fun start _ => .bind inferInstance fun e _ => ?_
  split <;> infer_instance

instance keeps_undecorated (place : Place) : Keeps (undecorated g place) := by
  refine keeps_current.bind fun t _ => ?_
  dsimp only
  split
  case h_3 name escaped hk =>
    split
    case h_5 | h_6 => exact keeps_jumpStatement (fun _ => rfl) fun _ => rfl
    all_goals infer_instance
  all_goals infer_instance

instance keeps_statement (place : Place) : Keeps (statement g place) := by
  unfold statement
  dsimp only
  infer_instance

/-! ### Imports and exports -/

section

omit [Keeping g]

instance keeps_moduleSource : Keeps moduleSource := by
  refine keeps_current.bind fun t _ => ?_
  split <;> infer_instance

instance keeps_exportName : Keeps exportName := by
  refine keeps_current.bind fun t _ => ?_
  split <;> infer_instance

instance keeps_importAttributes : Keeps importAttributes := by
  unfold importAttributes
  infer_instance

instance keeps_importNamespace : Keeps importNamespace := by
  unfold importNamespace
  infer_instance

instance keeps_importNames : Keeps importNames := by
  unfold importNames
  infer_instance

instance keeps_importBindings : Keeps importBindings := by
  unfold importBindings
  dsimp only
  infer_instance

instance keeps_importDeclaration : Keeps importDeclaration := by
  refine keeps_here.bind fun start _ => keeps_advanceKeyword.bind fun _ _ => ?_
  refine keeps_current.bind fun t _ => ?_
  dsimp only
  split <;> infer_instance

instance keeps_exportSpecifier : Keeps exportSpecifier := by
  unfold exportSpecifier
  dsimp only
  infer_instance

instance keeps_exportNames (start : Nat) : Keeps (exportNames start) := by
  refine (keeps_expect _).bind fun _ _ => .bind inferInstance fun names _ => ?_
  refine (keeps_expect _).bind fun _ _ => (keeps_eatWord _).bind fun hasSource _ => ?_
  refine keeps_current.bind fun t _ => .ite inferInstance ?_
  refine .bind (.forIn (fun name => ?_) _) inferInstance
  obtain ⟨place, text⟩ := name
  cases text with
  | some text => exact .ite inferInstance inferInstance
  | none => exact keeps_bind

end

instance keeps_defaultExport : Keeps (defaultExport g) := by
  unfold defaultExport
  infer_instance

instance keeps_exportedDeclaration : Keeps (exportedDeclaration g) := by
  unfold exportedDeclaration
  infer_instance

instance keeps_exportDeclaration : Keeps (exportDeclaration g) := by
  refine keeps_here.bind fun start _ => keeps_advanceKeyword.bind fun _ _ => ?_
  refine keeps_readDecorators.bind fun _ _ => keeps_current.bind fun t _ => ?_
  refine .ite inferInstance (.ite ?_ inferInstance)
  refine keeps_advance.bind fun _ _ => (keeps_eatWord _).bind fun named _ => ?_
  dsimp only
  infer_instance

/-! ### The readers together -/

omit [Keeping g] in
instance keeping_reader (depth : Nat) : Keeping (reader depth) := by
  -- What a reader reads below itself is read by those of one depth less.
  induction depth with
  | zero => exact ⟨fun _ => keeps_unexpected⟩
  | succ depth ih =>
      refine ⟨fun n => ?_⟩
      cases n with
      | statement place => exact keeps_statement place
      | importDeclaration => exact keeps_importDeclaration
      | exportDeclaration => exact keeps_exportDeclaration
      | expression => exact keeps_expression
      | assignment => exact keeps_assignmentExpression
      | binary above => exact keeps_binaryExpression above
      | unary => exact keeps_unaryExpression
      | operand => exact keeps_operandOfNew
      | leftHandSide => exact keeps_leftHandSide
      | bindingTarget => exact keeps_bindingTarget

instance quotes_program : Quotes Program :=
  ⟨fun p => Quotes.IsTidy p.directives ∧ Quotes.IsTidy p.statements⟩

omit [Keeping g] in
instance keeps_program (depth : Nat) : Keeps (program depth) := by
  refine keeps_here.bind fun start _ => .bind inferInstance fun lists hl => ?_
  obtain ⟨directives, statements⟩ := lists
  obtain ⟨hd, hs⟩ := hl.of_pair
  have whole (span : Span) : Tidy (Program.mk span directives statements) := ⟨hd.tidy, hs.tidy⟩
  refine keeps_get.bind fun s _ => ?_
  dsimp only
  split <;> infer_instance

end

end PatchSandbox.Script.Grammar

namespace PatchSandbox.Script

/-- **No word that a program quotes has a line feed**, whatever its source is. -/
theorem isTidy_of_read {goal : Goal} {source : List Char} {p : Program}
    (h : Program.read goal source = .ok p) : ∀ n ∈ p.directives ++ p.statements, n.IsTidy := by
  unfold Program.read at h
  dsimp only at h
  split at h
  case h_1 => cases h
  case h_2 token hfirst =>
      split at h
      case h_1 => cases h
      case h_2 program state hrun =>
          have begin : Grammar.Tidy ({ token } : ReaderState) :=
            ⟨isTidy_of_first hfirst, (Grammar.tidy_nil (α := Node)).tidy⟩
          obtain ⟨-, hp⟩ := (Grammar.keeps_program _).keeps _ _ program state begin hrun
          split at h
          case h_1 => cases h
          case h_2 =>
              cases h
              exact List.forall_mem_append.mpr hp.tidy

end PatchSandbox.Script
