import PatchSandbox.Proofs.Script.Balance.Expression
import PatchSandbox.Script.Grammar.Statement
import PatchSandbox.Script.Program

/-!
# Statements, programs and brackets

Readers of statements end between the brackets that they begin between. The reader of a
statement that has a word of its own begins at that word.

* **`balanced_reader`** — the readers of the grammar end between the brackets that they begin
  between, by induction on how deep they go.
* **`whole_of_read`** — a source that is a module can be read to its end, where no bracket
  stands open.
-/

namespace PatchSandbox.Script.Grammar

section

variable {source : List Char} {g : Knot} {t : Token} {σ τ : List Bracket}

/-! ### Variables -/

theorem even_declarator (hg : Balanced source g) (kind : VarKind) (place : VariablePlace) :
    Even source (declarator g kind place) := by
  refine fun t σ => .still still_here fun start => ?_
  refine .bind (hg.even .bindingTarget rfl t σ) fun target u => .ifEat rfl (fun u => ?_) ?_
  · exact .bind (hg.even .assignment rfl u σ) fun _ _ => walks_node
  · have done : Walks source u σ σ (node start (.declarator target none)) := walks_node
    refine .ite (fun _ => ?_) fun _ => done
    split
    · exact .reportIf done
    · exact .still (still_report _ _) fun _ => done

theorem even_declaratorsAfter (hg : Balanced source g) (start : Nat) (kind : VarKind)
    (place : VariablePlace) : Even source (declaratorsAfter g start kind place) := by
  have step : Even source (do
      if ← eat .comma then return some (← declarator g kind place) else return none) :=
    fun t σ => .ifEat rfl
      (fun u => .bind (even_declarator hg kind place u σ) fun _ _ => .pure _) (.pure _)
  refine fun t σ => .bind (even_declarator hg kind place t σ) fun first u => ?_
  refine .bind (even_repeating step u σ) fun rest u => .ite (fun _ => ?_) fun _ => ?_
  · exact .bind (even_endStatement u σ) fun _ _ => walks_node
  · exact walks_node

theorem isWord_of_varKind {kind : VarKind} (h : varKind? t = some kind) : IsWord t := by
  unfold varKind? at h
  split at h
  case h_4 => cases h
  all_goals exact ⟨_, _, ‹_›⟩

theorem even_variableList (hg : Balanced source g) (place : VariablePlace) :
    Even source (variableList g place) := by
  refine fun t σ => .still still_here fun start => .current ?_
  split
  · refine .word (isWord_of_varKind ‹_›) fun u => ?_
    exact even_declaratorsAfter hg start _ place u σ
  · exact walks_unexpected

theorem even_expressionStatement (start : Nat) (body : Node) :
    Even source (expressionStatement start body) :=
  fun t σ => .bind (even_endStatement t σ) fun _ _ => walks_node

theorem even_letStatement (hg : Balanced source g) (place : Place) :
    Even source (letStatement g place) := by
  refine fun t σ => .still still_here fun start => .still still_peek fun next => ?_
  refine .ite (fun _ => ?_) fun _ => .ite (fun _ => ?_) fun _ => .ite (fun _ => ?_) fun _ => ?_
  · exact .bind (hg.even .assignment rfl t σ) fun body u => even_expressionStatement start body u σ
  · refine .bind (hg.even .expression rfl t σ) fun body u => .still still_read fun c => ?_
    refine .ite (fun _ => ?_) fun _ => walks_node
    exact .bind (even_endStatement u σ) fun _ _ => walks_node
  · exact .bind (even_identifier _ t σ) fun body u => even_expressionStatement start body u σ
  · refine .bind (even_variableList hg _ t σ) fun n u => ?_
    exact .reportIf (.pure _)

/-! ### Blocks -/

theorem even_blockStatement (hg : Balanced source g) : Even source (blockStatement g) := by
  refine fun t σ => .still still_here fun start => .expect rfl fun u => ?_
  refine .bind (even_whileBefore (hg.even (.statement .list) rfl) u _) fun statements u => ?_
  exact .expect rfl fun u => walks_node

theorem even_condition (hg : Balanced source g) : Even source (condition g) := by
  refine fun t σ => .expect rfl fun u => .bind (hg.even .expression rfl u _) fun n u => ?_
  exact .expect rfl fun u => .pure _

theorem even_body (hg : Balanced source g) : Even source (body g) :=
  hg.even (.statement .single) rfl

theorem walks_ifStatement (hg : Balanced source g) (ht : IsWord t) :
    Walks source t σ σ (ifStatement g) := by
  refine .still still_here fun start => .word ht fun u => ?_
  refine .bind (even_condition hg u σ) fun test u => .bind (even_body hg u σ) fun yes u => ?_
  refine .joinEatWord (fun u => .map (even_body hg u σ)) fun no u => ?_
  exact walks_node

/-! ### Loops -/

theorem walks_whileStatement (hg : Balanced source g) (ht : IsWord t) :
    Walks source t σ σ (whileStatement g) := by
  refine .still still_here fun start => .word ht fun u => ?_
  refine .bind (even_condition hg u σ) fun test u => .bind (even_body hg u σ) fun body u => ?_
  exact walks_node

theorem walks_doStatement (hg : Balanced source g) (ht : IsWord t) :
    Walks source t σ σ (doStatement g) := by
  refine .still still_here fun start => .word ht fun u => ?_
  refine .bind (even_body hg u σ) fun body u => .expectWord fun u => ?_
  refine .bind (even_condition hg u σ) fun test u => ?_
  exact .bind (even_eat (fun _ => rfl) u σ) fun _ u => walks_node

/-- The three clauses of a loop end the parenthesis around them. -/
theorem walks_threeClauses (hg : Balanced source g) (start : Nat) (isAwait : Bool)
    (init : Option Node) : Walks source t (.paren :: σ) σ (threeClauses g start isAwait init) := by
  refine .expect rfl fun u => .current ?_
  refine .join (fun _ => .pure _) (fun _ => .map (.allowingIn (hg.even .expression rfl u _)))
    fun test u => ?_
  refine .expect rfl fun u => .at? (.join (fun _ => .pure _)
    (fun _ => .map (.allowingIn (hg.even .expression rfl u _))) fun update u => ?_)
  refine .expect rfl fun u => .reportIf ?_
  exact .bind (even_body hg u σ) fun body u => walks_node

/-- What a loop goes over ends the parenthesis around it. -/
theorem walks_loopOver (hg : Balanced source g) (start : Nat) (isAwait : Bool) (left : Node)
    (ht : IsWord t) : Walks source t (.paren :: σ) σ (loopOver g start isAwait left) := by
  refine .still (still_atWord _) fun overKeys => .word ht fun u => ?_
  refine .join (fun _ => hg.even .expression rfl u _) (fun _ => hg.even .assignment rfl u _)
    fun right u => .expect rfl fun u => .reportIf ?_
  exact .bind (even_body hg u σ) fun body u => walks_node

theorem Walks.atLoopOver {α : Type} {m n : P α} (yes : IsWord t → Walks source t σ τ m)
    (no : Walks source t σ τ n) :
    Walks source t σ τ (do if ← Grammar.atLoopOver then m else n) := by
  rw [Grammar.atLoopOver, bind_assoc]
  refine .current (.ite (fun h => ?_) fun _ => no)
  rcases Bool.or_eq_true_iff.mp h with h | h
  · exact yes (isWord_of_isWord h)
  · exact yes (isWord_of_isWord h)

theorem even_awaitMark : Even source awaitMark := by
  refine fun t σ => .ifAtWord (fun h => .still still_read fun c => ?_) fun _ => .pure _
  have marked : Walks source t σ σ (do
      advanceKeyword
      return true) :=
    .word (isWord_of_isWord h) fun u => .pure _
  exact .ite (fun _ => .still still_here fun _ => .still (still_report _ _) fun _ => marked)
    fun _ => marked

theorem walks_loopAssigning (hg : Balanced source g) (start : Nat) (isAwait isAsync : Bool)
    (target : Node) (ht : IsWord t) :
    Walks source t (.paren :: σ) σ (loopAssigning g start isAwait isAsync target) := by
  refine .still (still_attempt (still_checkTarget _)) fun checked => ?_
  cases checked with
  | none => exact .fails _ _
  | some _ =>
      refine .still (still_atWord _) fun ofWord => .reportIf ?_
      exact walks_loopOver hg start isAwait target ht

/-- What stands in the parentheses of a loop ends them. -/
theorem walks_loopClauses (hg : Balanced source g) (start : Nat) (isAwait : Bool) :
    Walks source t (.paren :: σ) σ (loopClauses g start isAwait) := by
  refine .current (.ite (fun _ => walks_threeClauses hg _ _ _) fun _ => ?_)
  refine .still still_peek fun next => .ite (fun _ => ?_) fun _ => .still still_peek fun next => ?_
  · refine .bind (.forbiddingIn (even_variableList hg _ t _)) fun init u => ?_
    exact .atLoopOver (walks_loopOver hg _ _ _) (walks_threeClauses hg _ _ _)
  · refine .bind (.forbiddingIn (hg.even .expression rfl t _)) fun init u => ?_
    exact .atLoopOver (walks_loopAssigning hg _ _ _ _) (walks_threeClauses hg _ _ _)

theorem walks_forStatement (hg : Balanced source g) (ht : IsWord t) :
    Walks source t σ σ (forStatement g) := by
  refine .still still_here fun start => .word ht fun u => ?_
  refine .bind (even_awaitMark u σ) fun isAwait u => .expect rfl fun u => ?_
  exact walks_loopClauses hg start isAwait

/-! ### Jumps -/

theorem even_label : Even source label? := by
  refine fun t σ => .still still_mayEnd fun ends => .ite (fun _ => .pure _) fun _ => .current ?_
  split
  · rename_i name escaped hk
    refine .still still_read fun c => .ite (fun _ => walks_unexpected) fun _ => ?_
    exact .advance (IsWord.around ⟨_, _, hk⟩) fun u => .pure _
  · exact walks_unexpected

theorem walks_jumpStatement (form : Option String → Form Node) (ht : IsWord t) :
    Walks source t σ σ (jumpStatement form) := by
  refine .still still_here fun start => .word ht fun u => ?_
  refine .bind (even_label u σ) fun label u => .bind (even_endStatement u σ) fun _ u => ?_
  exact walks_node

theorem walks_returnStatement (hg : Balanced source g) (ht : IsWord t) :
    Walks source t σ σ (returnStatement g) := by
  refine .still still_here fun start => .word ht fun u => ?_
  have rest (value : Option Node) (u : Token) : Walks source u σ σ (do
      if !(← read).inFunction then report .returnOutsideFunction start
      node start (.returnValue value)) :=
    .still still_read fun c => .reportIf walks_node
  refine .bind (even_eat (fun _ => rfl) u σ) fun semicolon u => .still still_mayEnd fun ends => ?_
  refine .ite (fun _ => .bind (.pure _) rest) fun _ => ?_
  refine .ite (fun _ => .bind (.pure _) rest) fun _ => ?_
  refine .bind (.allowingIn (hg.even .expression rfl u σ)) fun n u => ?_
  exact .bind (even_endStatement u σ) fun _ u => .bind (.pure _) rest

theorem walks_throwStatement (hg : Balanced source g) (ht : IsWord t) :
    Walks source t σ σ (throwStatement g) := by
  refine .still still_here fun start => .word ht fun u => .current ?_
  refine .reportIf ?_
  refine .bind (hg.even .expression rfl u σ) fun value u => ?_
  exact .bind (even_endStatement u σ) fun _ u => walks_node

/-! ### Other statements -/

theorem even_switchCase (hg : Balanced source g) : Even source (switchCase g) := by
  have item : Even source (do
      let t ← current
      if t.isWord "case" || t.isWord "default" || t.isPunct .rightBrace || t.isEof then return none
      else return some (← g (.statement .list))) :=
    fun t σ => .current (.ite (fun _ => .pure _) fun _ =>
      .bind (hg.even (.statement .list) rfl t σ) fun _ _ => .pure _)
  refine fun t σ => .still still_here fun start => .current ?_
  have rest (test : Option Node) (u : Token) : Walks source u σ σ (do
      expect .colon
      let statements ← repeating do
        let t ← current
        if t.isWord "case" || t.isWord "default" || t.isPunct .rightBrace || t.isEof then
          return none
        else return some (← g (.statement .list))
      node start (.switchCase test statements)) :=
    .expect rfl fun u => .bind (even_repeating item u σ) fun _ _ => walks_node
  refine .ite (fun h => ?_) fun _ => .ite (fun h => ?_) fun _ => .bind walks_unexpected rest
  · exact .word (isWord_of_isWord h) fun u => .bind (.pure _) rest
  · refine .word (isWord_of_isWord h) fun u => ?_
    exact .bind (.map (hg.even .expression rfl u σ)) rest

theorem walks_switchStatement (hg : Balanced source g) (ht : IsWord t) :
    Walks source t σ σ (switchStatement g) := by
  refine .still still_here fun start => .word ht fun u => ?_
  refine .bind (even_condition hg u σ) fun value u => .expect rfl fun u => ?_
  refine .bind (even_whileBefore (even_switchCase hg) u _) fun cases u => ?_
  exact .expect rfl fun u => walks_node

theorem walks_withStatement (hg : Balanced source g) (ht : IsWord t) :
    Walks source t σ σ (withStatement g) := by
  refine .still still_here fun start => .word ht fun u => ?_
  refine .bind (even_condition hg u σ) fun object u => .bind (even_body hg u σ) fun body u => ?_
  exact walks_node

theorem walks_catchClause (hg : Balanced source g) (ht : IsWord t) :
    Walks source t σ σ (catchClause g) := by
  refine .still still_here fun start => .word ht fun u => ?_
  have rest (param : Option Node) (u : Token) : Walks source u σ σ (do
      let body ← blockStatement g
      node start (.catchClause param body)) :=
    .bind (even_blockStatement hg u σ) fun _ _ => walks_node
  refine .ifEat rfl (fun u => ?_) (.bind (.pure _) rest)
  refine .bind (hg.even .bindingTarget rfl u _) fun n u => .expect rfl fun u => ?_
  exact .bind (.pure _) rest

theorem walks_tryStatement (hg : Balanced source g) (ht : IsWord t) :
    Walks source t σ σ (tryStatement g) := by
  refine .still still_here fun start => .word ht fun u => ?_
  refine .bind (even_blockStatement hg u σ) fun block u => .atWord? (.join (fun h => ?_)
    (fun _ => .pure _) fun handler u => ?_)
  · exact .map (walks_catchClause hg (isWord_of_isWord h))
  · refine .joinEatWord (fun u => .map (even_blockStatement hg u σ)) fun finalizer u => ?_
    exact .reportIf walks_node

theorem even_functionDeclaration (hg : Balanced source g) (place : Place) :
    Even source (functionDeclaration g place) := by
  refine fun t σ => .bind (even_functionWithKeyword hg _ _ t σ) fun n u => ?_
  refine .ite (fun _ => ?_) fun _ => .pure _
  split
  · refine .ite (fun _ => .still (still_report _ _) fun _ => .pure _) fun _ => ?_
    refine .ite (fun _ => .still (still_report _ _) fun _ => .pure _) fun _ => ?_
    exact .still still_read fun c => .ite (fun _ => .rejects _ _) fun _ => .pure _
  · exact .pure _

theorem even_expressionOrLabel (hg : Balanced source g) : Even source (expressionOrLabel g) := by
  refine fun t σ => .still still_here fun start => .bind (hg.even .expression rfl t σ) fun e u => ?_
  split
  · refine .ifEat rfl (fun u => ?_) (even_expressionStatement start e u σ)
    exact .bind (even_body hg u σ) fun body u => walks_node
  · exact even_expressionStatement start e u σ

theorem even_undecorated (hg : Balanced source g) (place : Place) :
    Even source (undecorated g place) := by
  refine fun t σ => .current ?_
  dsimp only
  split
  · exact even_blockStatement hg t σ
  · exact .advance (around_of_kind ‹_›) fun u => walks_node
  · rename_i name escaped hk
    have ht : IsWord t := ⟨_, _, hk⟩
    split
    · exact walks_ifStatement hg ht
    · exact walks_doStatement hg ht
    · exact walks_whileStatement hg ht
    · exact walks_forStatement hg ht
    · exact walks_jumpStatement _ ht
    · exact walks_jumpStatement _ ht
    · exact walks_withStatement hg ht
    · exact walks_switchStatement hg ht
    · exact walks_throwStatement hg ht
    · exact walks_tryStatement hg ht
    · exact .word ht fun u => .bind (even_endStatement u σ) fun _ _ => walks_node
    · refine .bind (walks_readClass hg true ht) fun n u => .still still_read fun c => ?_
      exact .ite (fun _ => .rejects _ _) fun _ => .pure _
    · exact walks_returnStatement hg ht
    · exact even_variableList hg _ t σ
    · refine .bind (even_variableList hg _ t σ) fun n u => ?_
      exact .reportIf (.pure _)
    · exact .ite (fun _ => even_expressionOrLabel hg t σ) fun _ => even_letStatement hg place t σ
    · exact even_functionDeclaration hg place t σ
    · refine .still still_functionBegins fun begins => .ite (fun _ => ?_) fun _ => ?_
      · exact even_functionDeclaration hg place t σ
      · exact even_expressionOrLabel hg t σ
    · refine .still still_peek fun next => .ite (fun _ => ?_) fun _ => ?_
      · refine .still still_read fun c => .ite (fun _ => .rejects _ _) fun _ => ?_
        exact .advance ht.around fun u => even_declaratorsAfter hg _ _ _ u σ
      · exact even_expressionOrLabel hg t σ
    · exact even_expressionOrLabel hg t σ
  · exact even_expressionOrLabel hg t σ

theorem even_statement (hg : Balanced source g) (place : Place) :
    Even source (statement g place) := by
  refine fun t σ => .ifAt (fun _ => ?_) fun _ => even_undecorated hg place t σ
  exact .bind (even_readDecorators hg t σ) fun _ u => even_undecorated hg place u σ

/-! ### Imports and exports -/

theorem even_moduleSource : Even source moduleSource := by
  refine fun t σ => .current ?_
  split
  · exact .advance (around_of_kind ‹_›) fun u => walks_node
  · exact walks_unexpected

theorem even_exportName : Even source exportName := by
  refine fun t σ => .current ?_
  split
  · exact .advance (around_of_kind ‹_›) fun u => .pure _
  · exact .map (even_anyName t σ)

theorem even_importAttributes : Even source importAttributes := by
  have item : Even source (do
      let _ ← exportName
      expect .colon
      moduleSource) :=
    fun t σ => .bind (even_exportName t σ) fun _ u => .expect rfl fun u => even_moduleSource u σ
  refine fun t σ => .current (.ite (fun h => ?_) fun _ => .pure _)
  have ht : IsWord t := by
    rcases Bool.or_eq_true_iff.mp h with h | h
    · exact isWord_of_isWord h
    · exact isWord_of_isWord (Bool.and_eq_true_iff.mp h).1
  refine .word ht fun u => .expect rfl fun u => ?_
  exact .bind (even_commaList item _ _ u _) fun _ u => walks_expect rfl

theorem walks_importNamespace (ht : t.isPunct .star = true) :
    Walks source t σ σ importNamespace :=
  .advance (around_of_isPunct ht) fun _ => .expectWord fun u => .map (even_bindingIdentifier u σ)

theorem even_importNames : Even source importNames := by
  have item : Even source (do
      if (← peek).isWord "as" then
        let _ ← exportName
        expectWord "as"
        discard bindingIdentifier
      else discard bindingIdentifier) := by
    refine fun t σ => .still still_peek fun next => .ite (fun _ => ?_) fun _ => ?_
    · exact .bind (even_exportName t σ) fun _ u => .expectWord fun u =>
        .map (even_bindingIdentifier u σ)
    · exact .map (even_bindingIdentifier t σ)
  refine fun t σ => .expect rfl fun u => .bind (even_commaList item _ _ u _) fun _ u => ?_
  exact walks_expect rfl

theorem even_importBindings : Even source importBindings := by
  intro t σ
  have last (_ : Unit) (u : Token) : Walks source u σ σ (expectWord "from") :=
    even_expectWord _ u σ
  refine .current (.ite (fun _ => ?_) fun _ => .ite (fun h => ?_) fun _ =>
    .ite (fun _ => ?_) fun _ => ?_)
  · refine .bind (.map (even_bindingIdentifier t σ)) fun _ u => .ifEat rfl (fun u => ?_) (last () u)
    refine .current (.ite (fun h => ?_) fun _ => .ite (fun _ => ?_) fun _ => ?_)
    · exact .bind (walks_importNamespace h) last
    · exact .bind (even_importNames u σ) last
    · exact .bind walks_unexpected last
  · exact .bind (walks_importNamespace h) last
  · exact .bind (even_importNames t σ) last
  · exact last () t

/-- An import begins with its word. -/
theorem walks_importDeclaration (ht : IsWord t) : Walks source t σ σ importDeclaration := by
  refine .still still_here fun start => .word ht fun u => .current ?_
  have rest (u : Token) : Walks source u σ σ (do
      let path ← moduleSource
      importAttributes
      endStatement
      node start (.importModule (stringValue path))) := by
    refine .bind (even_moduleSource u σ) fun path u => ?_
    refine .bind (even_importAttributes u σ) fun _ u => ?_
    exact .bind (even_endStatement u σ) fun _ _ => walks_node
  dsimp only
  split
  · exact rest u
  · exact .bind (even_importBindings u σ) fun _ => rest

theorem even_exportSpecifier : Even source exportSpecifier := by
  refine fun t σ => .still still_here fun start => .bind (even_exportName t σ) fun name u => ?_
  exact .ifEatWord (fun u => .bind (.map (even_exportName u σ)) fun _ _ => .pure _) (.pure _)

theorem still_forIn {α : Type} {f : α → P (ForInStep PUnit)} (hf : ∀ a, Still (f a)) (l : List α) :
    Still (forIn l PUnit.unit fun a _ => f a) := by
  induction l with
  | nil => exact .pure _
  | cons a l ih =>
      rw [List.forIn_cons]
      refine .bind (hf a) fun r => ?_
      cases r with
      | done => exact .pure _
      | yield => exact ih

theorem even_exportNames (start : Nat) : Even source (exportNames start) := by
  refine fun t σ => .expect rfl fun u => ?_
  refine .bind (even_commaList even_exportSpecifier _ _ u _) fun names u => ?_
  have last (_ : Unit) (u : Token) : Walks source u σ σ (do
      endStatement
      node start (.exportNamed none)) :=
    .bind (even_endStatement u σ) fun _ _ => walks_node
  refine .expect rfl fun u => .bind (even_eatWord _ u σ) fun hasSource u => .current ?_
  refine .ite (fun _ => .bind (.map (even_moduleSource u σ)) fun _ u => ?_) fun _ => ?_
  · exact .bind (even_importAttributes u σ) last
  · refine .still (still_forIn (fun spec => ?_) names) fun _ => last () u
    obtain ⟨start, name⟩ := spec
    dsimp only
    split
    · exact .ite (.bind (still_report _ _) fun _ => .pure _) (.pure _)
    · exact .bind (still_report _ _) fun _ => .pure _

theorem even_defaultExport (hg : Balanced source g) : Even source (defaultExport g) := by
  refine fun t σ => .bind (even_readDecorators hg t σ) fun _ u => ?_
  refine .ifAtWord (fun h => ?_) fun _ => ?_
  · exact walks_readClass hg true (isWord_of_isWord h)
  · refine .still still_functionBegins fun begins => .ite (fun _ => ?_) fun _ => ?_
    · exact even_functionWithKeyword hg _ _ u σ
    · refine .bind (hg.even .assignment rfl u σ) fun n u => ?_
      exact .bind (even_endStatement u σ) fun _ _ => .pure _

theorem even_exportedDeclaration (hg : Balanced source g) :
    Even source (exportedDeclaration g) := by
  refine fun t σ => .current (.ite (fun h => ?_) fun _ => .ite (fun _ => ?_) fun _ => ?_)
  · exact walks_readClass hg true (isWord_of_isWord h)
  · exact even_variableList hg _ t σ
  · refine .still still_functionBegins fun begins => .ite (fun _ => ?_) fun _ => walks_unexpected
    exact even_functionWithKeyword hg _ _ t σ

/-- An export begins with its word. -/
theorem walks_exportDeclaration (hg : Balanced source g) (ht : IsWord t) :
    Walks source t σ σ (exportDeclaration g) := by
  refine .still still_here fun start => .word ht fun u => ?_
  refine .bind (even_readDecorators hg u σ) fun _ u => .current ?_
  refine .ite (fun h => ?_) fun _ => .ite (fun h => ?_) fun _ => .ite (fun _ => ?_) fun _ => ?_
  · refine .word (isWord_of_isWord h) fun u => ?_
    exact .bind (even_defaultExport hg u σ) fun _ _ => walks_node
  · have rest (u : Token) : Walks source u σ σ (do
        expectWord "from"
        let path ← moduleSource
        importAttributes
        endStatement
        node start (.exportAll (stringValue path))) := by
      refine .expectWord fun u => .bind (even_moduleSource u σ) fun path u => ?_
      refine .bind (even_importAttributes u σ) fun _ u => ?_
      exact .bind (even_endStatement u σ) fun _ _ => walks_node
    refine .advance (around_of_isPunct h) fun u => .ifEatWord (fun u => ?_) (rest u)
    exact .bind (.map (even_exportName u σ)) fun _ => rest
  · exact even_exportNames start u σ
  · exact .bind (even_exportedDeclaration hg u σ) fun _ _ => walks_node

end

end PatchSandbox.Script.Grammar

namespace PatchSandbox.Script

namespace Grammar

section

variable {α β : Type} {source : List Char} {g : Knot}

/-! ### The readers together -/

/-- Readers that go one level deeper ask only those of the level below. -/
theorem balanced_reader (depth : Nat) : Balanced source (reader depth) := by
  induction depth with
  | zero => exact ⟨fun _ _ _ _ => walks_unexpected, fun _ _ _ _ _ => walks_unexpected⟩
  | succ depth ih =>
      constructor
      case even =>
        intro n hn
        cases n with
        | statement place => exact even_statement ih place
        | importDeclaration => cases hn
        | exportDeclaration => cases hn
        | expression => exact even_expression ih
        | assignment => exact even_assignmentExpression ih
        | binary above => exact even_binaryExpression ih above
        | unary => exact even_unaryExpression ih
        | operand => exact even_operandOfNew ih
        | leftHandSide => exact even_leftHandSide ih
        | bindingTarget => exact even_bindingTarget ih
      case declaration =>
        intro n t σ hn ht
        cases n with
        | importDeclaration => exact walks_importDeclaration ht
        | exportDeclaration => exact walks_exportDeclaration ih ht
        | _ => cases hn

/-! ### The end -/

/-- What a reader gives. -/
def Gives (p : α → Prop) (m : P α) : Prop := ∀ c s a s', m c s = .ok a s' → p a

theorem Gives.pure {p : α → Prop} {a : α} (h : p a) : Gives p (pure a) := by
  intro c s b s' hb
  cases hb
  exact h

theorem Gives.bind {p : β → Prop} {m : P α} {f : α → P β} (hf : ∀ a, Gives p (f a)) :
    Gives p (m >>= f) := by
  intro c s b s'' h
  obtain ⟨a, s', -, hb⟩ := ok_of_bind_reader h
  exact hf a c s' b s'' hb

theorem Gives.ite {p : α → Prop} {q : Prop} [Decidable q] {m n : P α} (hm : Gives p m)
    (hn : Gives p n) : Gives p (if q then m else n) := by
  split
  · exact hm
  · exact hn

/-- The statements of a source stop at its end only. -/
theorem isEof_of_statementStep {acc : Statements} {c : Context} {s s' : ReaderState}
    (h : statementStep g true acc c s = .ok none s') : s'.token.isEof = true := by
  obtain ⟨first, s₁, hfirst, h⟩ := ok_of_bind_reader h
  cases hfirst
  split at h
  · rename_i hend
    cases h
    simpa using hend
  · refine absurd rfl ((?_ : Gives (fun r => r ≠ none) _) c s none s' h)
    have goes {acc : Statements} : Gives (fun r => r ≠ none) (pure (some acc) : P _) :=
      .pure (Option.some_ne_none acc)
    refine .bind fun _ => .ite (.bind fun _ => goes) (.ite (.bind fun _ => goes) ?_)
    refine .ite (.bind fun _ => goes) (.bind fun n => ?_)
    split <;> exact goes

theorem isEof_of_statementLoop {n : Nat} {acc acc' : Statements} {c : Context}
    {s s' : ReaderState} (h : statementLoop g true n acc c s = .ok acc' s') :
    s'.token.isEof = true := by
  induction n generalizing acc s with
  | zero =>
      -- the bound is a flaw, so a source is never cut off
      obtain ⟨_, _, _, h⟩ := ok_of_bind_reader h
      exact (ne_ok_of_throw h).elim
  | succ n ih =>
      obtain ⟨r, s₁, hr, h⟩ := ok_of_bind_reader h
      cases r with
      | some acc => exact ih h
      | none =>
          cases h
          exact isEof_of_statementStep hr

theorem still_programEnd (start : Nat) (lists : List Node × List Node) : Still (do
    match (← get).covers.reverse with
    | [] => pure ()
    | first :: rest => report .coverInitializer (rest.foldl min first)
    return (⟨⟨start, (← current).span.stop⟩, lists.1, lists.2⟩ : Program)) := by
  refine .bind still_get fun s => ?_
  split
  · exact .bind still_current fun _ => .pure _
  · exact .bind (still_report _ _) fun _ => .bind still_current fun _ => .pure _

theorem stands_of_program {depth : Nat} {c : Context} {s s' : ReaderState} {p : Program}
    (hc : c.goal = .module) (hs : Stands source [] s.token) (h : program depth c s = .ok p s') :
    Stands source [] s'.token ∧ s'.token.isEof = true := by
  obtain ⟨start, s₁, hstart, h⟩ := ok_of_bind_reader h
  cases hstart
  obtain ⟨lists, s₂, hlists, h⟩ := ok_of_bind_reader h
  rw [still_programEnd _ lists c s₂ p s' h]
  have hbalanced : Balanced source (reader depth) := balanced_reader depth
  refine ⟨even_directivesAndStatements hbalanced true _ _ c s lists s₂ hc rfl hs hlists, ?_⟩
  obtain ⟨c', s₃, hread, hrest⟩ := ok_of_bind_reader hlists
  cases hread
  obtain ⟨acc, s₄, hloop, hpure⟩ := ok_of_bind_reader hrest
  cases hpure
  exact isEof_of_statementLoop hloop

end

end Grammar

/-! ### Programs -/

/-- **A source that is a module has a whole reading.** -/
theorem whole_of_read {source : List Char} {p : Program}
    (h : Program.read .module source = .ok p) : ∃ ls, Whole source ls := by
  unfold Program.read at h
  dsimp only at h
  split at h
  · cases h
  rename_i first hfirst
  split at h
  · cases h
  rename_i program state hrun
  have hstands : Stands source [] first :=
    ⟨⟨[], first, hfirst, .refl _ _⟩, not_isTail_of_next hfirst⟩
  obtain ⟨⟨⟨ls, hls⟩, -⟩, hend⟩ := Grammar.stands_of_program rfl hstands hrun
  exact ⟨ls, _, hls, hend⟩

end PatchSandbox.Script
