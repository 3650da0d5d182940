import PatchSandbox.Proofs.Script.Balance.Walk
import PatchSandbox.Script.Grammar.Function
import PatchSandbox.Script.Grammar.Pattern

/-!
# Patterns, functions, classes and brackets

Readers of patterns, functions and classes end between the brackets that they begin between. A check
of a target reads nothing. The readers of classes begin at the word `class`.
-/

/-! ### Patterns -/

namespace PatchSandbox.Script.Grammar

section

variable {source : List Char} {g : Knot} {t : Token} {σ : List Bracket}

theorem even_withDefault (hg : Balanced source g) (start : Nat) (target : Node) :
    Even source (withDefault g start target) := by
  refine fun t σ => .allowingIn (.ifEat rfl (fun u => ?_) (.pure _))
  exact .bind (hg.even .assignment rfl u σ) fun _ _ => walks_node

theorem even_bindingElement (hg : Balanced source g) : Even source (bindingElement g) := by
  refine fun t σ => .still still_here fun start => ?_
  refine .bind (hg.even .bindingTarget rfl t σ) fun target u => ?_
  exact even_withDefault hg start target u σ

/-- A rest element begins with its mark. -/
theorem walks_restElement (hg : Balanced source g) (ht : t.isPunct .ellipsis = true) :
    Walks source t σ σ (restElement g) := by
  refine .still still_here fun start => .advance (around_of_isPunct ht) fun u => ?_
  exact .bind (hg.even .bindingTarget rfl u σ) fun _ _ => walks_node

theorem even_elementsWithRest {element rest : P Node} (he : Even source element)
    (hr : ∀ t σ, t.isPunct .ellipsis = true → Walks source t σ σ rest) (close : Punct) :
    Even source (elementsWithRest close element rest) := by
  intro t σ
  have item : Even source (do if ← at? .ellipsis then rest else element) :=
    fun t σ => .ifAt (hr t σ) fun _ => he t σ
  refine .bind (even_commaList item close false t σ) fun items u => ?_
  dsimp only
  split
  · exact .still (still_report _ _) fun _ => .pure _
  · exact .pure _

theorem even_memberName (hg : Balanced source g) : Even source (memberName g) := by
  intro t σ
  refine .current ?_
  split
  case h_4 hk =>
    refine .advance (around_of_kind hk) fun u => ?_
    refine .bind (.allowingIn (hg.even .assignment rfl u _)) fun key u => ?_
    exact .expect rfl fun u => .pure _
  case h_5 => exact .bind (even_anyName t σ) fun _ _ => .still (still_node _ _) fun _ => .pure _
  all_goals
    rename_i hk
    exact .advance (around_of_kind hk) fun u => .still (still_node _ _) fun _ => .pure _

theorem even_bindingProperty (hg : Balanced source g) : Even source (bindingProperty g) := by
  intro t σ
  refine .still still_here fun start => .current ?_
  refine .bind (even_memberName hg t σ) fun member u => ?_
  obtain ⟨computed, key⟩ := member
  have value (u : Token) : Walks source u σ σ (do
      expect .colon
      let value ← bindingElement g
      node start (.property .field computed false key value)) :=
    .expect rfl fun v => .bind (even_bindingElement hg v σ) fun _ _ => walks_node
  refine .still (still_at _) fun colon => .ite (fun _ => ?_) fun _ => value u
  split
  · exact .bind (even_withDefault hg start key u σ) fun _ _ => walks_node
  · exact walks_unexpected

theorem even_bindingTarget (hg : Balanced source g) : Even source (bindingTarget g) := by
  intro t σ
  refine .still still_here fun start => .ifAt (fun hb => ?_) fun _ =>
    .ifAt (fun hb => ?_) fun _ => even_bindingIdentifier t σ
  · refine .advance (around_of_isPunct hb) fun u => ?_
    refine .bind (even_elementsWithRest (even_bindingProperty hg)
      (fun _ _ => walks_restElement hg) _ u _) fun members u => ?_
    exact .expect rfl fun u => walks_node
  · have item : Even source (do if ← at? .comma then node (← here) .hole else bindingElement g) :=
      fun t σ => .ifAt (fun _ => .still still_here fun _ => walks_node)
        fun _ => even_bindingElement hg t σ
    refine .advance (around_of_isPunct hb) fun u => ?_
    refine .bind (even_elementsWithRest item (fun _ _ => walks_restElement hg) _ u _)
      fun items u => ?_
    exact .expect rfl fun u => walks_node

/-! ### Checks -/

theorem still_mapM {α β : Type} {f : α → P β} (hf : ∀ a, Still (f a)) (l : List α) :
    Still (l.mapM f) := by
  induction l with
  | nil => exact .pure _
  | cons a l ih =>
      rw [List.mapM_cons]
      exact .bind (hf a) fun _ => .bind ih fun _ => .pure _

theorem still_refuse {α : Type} (use : TargetUse) (n : Node) : Still (refuse use n : P α) :=
  .fail _ _

theorem still_checkItems {items : List Node} {element : Node → P (List Check)}
    (he : ∀ n, Still (element n)) : Still (checkItems items element) := by
  refine .bind (still_mapM (fun item => ?_) _) fun _ => .pure _
  obtain ⟨item, i⟩ := item
  dsimp only
  split
  · exact .pure _
  · exact .ite (.pure _) (.fail _ _)
  · exact he item

theorem still_uncover (start : Nat) : Still (uncover start) := still_modify fun _ => rfl

theorem still_checkStep (check : Check) : Still (checkStep check) := by
  unfold checkStep
  split
  case h_1 =>
    split
    · split
      · exact still_refuse _ _
      · exact still_refuse _ _
      · exact .pure _
    · exact .ite (.pure _) (still_refuse _ _)
  case h_2 =>
    split
    · exact .pure _
    · exact .pure _
  case h_3 =>
    split
    · exact still_checkItems fun _ => .pure _
    · refine still_checkItems fun member => ?_
      split
      · exact .bind (still_uncover _) fun _ => .pure _
      · exact .pure _
      · exact still_refuse _ _
    · exact .pure _

theorem still_checkAll (fuel : Nat) (checks : List Check) : Still (checkAll fuel checks) := by
  induction fuel generalizing checks with
  | zero => exact .pure _
  | succ fuel ih =>
      cases checks with
      | nil => exact .pure _
      | cons c rest => exact .bind (still_checkStep c) fun _ => ih _

theorem still_checkTarget (n : Node) : Still (checkTarget n) :=
  .bind still_read fun _ => still_checkAll _ _

theorem still_checkSimpleTarget (use : TargetUse) (n : Node) : Still (checkSimpleTarget use n) :=
  .bind still_read fun _ => still_checkAll _ _

end

/-! ### Functions and classes -/

section

variable {β : Type} {source : List Char} {g : Knot} {t : Token} {σ τ : List Bracket}

/-! ### Statements in a list -/

theorem even_readDecorators (hg : Balanced source g) : Even source (readDecorators g) := by
  intro t σ
  refine .ifAt (fun _ => ?_) fun _ => .pure _
  have item (t : Token) (σ : List Bracket) (h : t.isPunct .at = true) : Walks source t σ σ (do
      advance
      withReader (fun c => { c with inDecorator := true }) (g .leftHandSide)) :=
    .advance (around_of_isPunct h) fun u =>
      .withReader (fun _ => rfl) (hg.even .leftHandSide rfl u σ)
  have rest : Walks source t σ σ (do
      let ds ← while? (at? .at) do
        advance
        withReader (fun c => { c with inDecorator := true }) (g .leftHandSide)
      modify fun s => { s with decorators := ds }) :=
    .bind (even_whileAt item t σ) fun _ _ => Still.walks (still_modify fun _ => rfl)
  refine .still still_read fun c => .ite (fun _ => ?_) fun _ => rest
  exact .still still_here fun _ => .rejects _ _

theorem still_takeDecorators : Still takeDecorators :=
  .bind still_get fun _ => .bind (still_modify fun _ => rfl) fun _ => .pure _

theorem Walks.importDeclares {f : Bool → P β}
    (yes : t.isWord "import" = true → Walks source t σ τ (f true))
    (no : Walks source t σ τ (f false)) : Walks source t σ τ (importDeclares >>= f) := by
  rw [Grammar.importDeclares, bind_assoc]
  refine .atWord? ?_
  split
  · rename_i h
    rw [bind_assoc]
    refine .peek fun next _ => ?_
    rw [pure_bind]
    generalize (!(next.isPunct .dot || next.isPunct .leftParen)) = declares
    cases declares with
    | true => exact yes h
    | false => exact no
  · rw [pure_bind]
    exact no

theorem even_statementStep (hg : Balanced source g) (topLevel : Bool) (acc : Statements) :
    Even source (statementStep g topLevel acc) := by
  intro t σ
  -- `import` and `export` are read only where their words stand
  refine .current (.ite (fun _ => .pure _) fun _ => .importDeclares (fun h => ?_) ?_)
  · exact .bind (hg.declaration .importDeclaration t σ rfl (isWord_of_isWord h)) fun _ _ => .pure _
  refine .ite (fun h => Bool.noConfusion h) fun _ => ?_
  refine .ite (fun h => ?_) fun _ => .ite (fun _ => ?_) fun _ => ?_
  · exact .bind (hg.declaration .exportDeclaration t σ rfl (isWord_of_isWord h)) fun _ _ => .pure _
  · exact .bind (even_readDecorators hg t σ) fun _ _ => .pure _
  · refine .bind (hg.even (.statement .list) rfl t σ) fun n u => ?_
    split
    · exact .pure _
    · exact .pure _

theorem even_statementLoop (hg : Balanced source g) (topLevel : Bool) (n : Nat)
    (acc : Statements) : Even source (statementLoop g topLevel n acc) := by
  induction n generalizing acc with
  | zero => exact fun _ _ => walks_unexpected
  | succ n ih =>
      intro t σ
      refine .bind (even_statementStep hg topLevel acc t σ) fun r u => ?_
      cases r with
      | some acc => exact ih acc u σ
      | none => exact .pure _

theorem even_directivesAndStatements (hg : Balanced source g) (topLevel : Bool) :
    Even source (directivesAndStatements g topLevel) :=
  fun t σ => .still still_read fun _ =>
    .bind (even_statementLoop hg topLevel _ _ t σ) fun _ _ => .pure _

/-! ### Functions -/

theorem even_functionBody (hg : Balanced source g) : Even source (functionBody g) := by
  refine fun t σ => .still still_here fun start => .expect rfl fun u => ?_
  refine .bind (.withReader (fun _ => rfl) (even_directivesAndStatements hg false u _))
    fun inner u => ?_
  exact .expect rfl fun u => walks_node

theorem even_parameter (hg : Balanced source g) : Even source (parameter g) :=
  fun t σ => .bind (even_readDecorators hg t σ) fun _ u =>
    .still still_takeDecorators fun _ => even_bindingElement hg u σ

theorem walks_restParameter (hg : Balanced source g) (ht : t.isPunct .ellipsis = true) :
    Walks source t σ σ (restParameter g) := by
  refine .bind (walks_restElement hg ht) fun n u => .ifAt (fun _ => ?_) fun _ => .pure _
  refine .still still_peek fun next => .ite (fun _ => ?_) fun _ => ?_
  · exact .still still_here fun _ => .still (still_report _ _) fun _ => .pure _
  · exact .still (still_report _ _) fun _ => .pure _

theorem even_parameters (hg : Balanced source g) : Even source (parameters g) := by
  refine fun t σ => .expect rfl fun u => ?_
  refine .bind (even_elementsWithRest (even_parameter hg) (fun _ _ => walks_restParameter hg) _ u _)
    fun params u => ?_
  exact .expect rfl fun u => .pure _

theorem even_functionRest (hg : Balanced source g) (start : Nat) (traits : FunctionTraits)
    (name : Option Node) : Even source (functionRest g start traits name) := by
  intro t σ
  refine .bind (.allowingIn (.inside ?_)) fun parts u => walks_node
  refine .bind (even_parameters hg t σ) fun params u => ?_
  refine .ifAt (fun _ => ?_) fun _ => walks_unexpected
  exact .bind (even_functionBody hg u σ) fun _ _ => .pure _

theorem even_functionName (traits : FunctionTraits) (required : Bool) :
    Even source (functionName? traits required) := by
  intro t σ
  refine .current (.ite (fun _ => .ite (fun _ => ?_) fun _ => ?_) fun _ => ?_)
  · exact .bind (.inside (even_bindingIdentifier t σ)) fun _ _ => .pure _
  · exact .bind (even_bindingIdentifier t σ) fun _ _ => .pure _
  · refine .ite (fun _ => ?_) fun _ => .pure _
    split
    · exact .still (still_report _ _) fun _ => .pure _
    · exact .ite (fun _ => .fails _ _) fun _ => .pure _
    · exact .pure _

theorem still_functionBegins : Still functionBegins :=
  .bind still_current fun _ => .ite (.pure _) (.ite (.bind still_peek fun _ => .pure _) (.pure _))

theorem even_functionWithKeyword (hg : Balanced source g) (kind : FunctionKind)
    (nameRequired : Bool) : Even source (functionWithKeyword g kind nameRequired) := by
  refine fun t σ => .still still_here fun start => .bind (even_eatWord _ t σ) fun isAsync u => ?_
  refine .expectWord fun u => .bind (even_eat (fun _ => rfl) u σ) fun isGenerator u => ?_
  refine .bind (even_functionName _ nameRequired u σ) fun name u => ?_
  exact even_functionRest hg start _ name u σ

theorem even_methodRest (hg : Balanced source g) (kind : FunctionKind)
    (isAsync isGenerator : Bool) : Even source (methodRest g kind isAsync isGenerator) :=
  fun t σ => .still still_here fun _ => even_functionRest hg _ _ _ t σ

/-! ### Classes -/

theorem even_markWord (name : String) (marks : Token → Bool) :
    Even source (markWord name marks) := by
  refine fun t σ => .ifAtWord (fun h => .peek fun next _ => .ite (fun _ => ?_) fun _ => .pure _)
    fun _ => .pure _
  exact .word (isWord_of_isWord h) fun u => .pure _

theorem even_memberMarks : Even source memberMarks := by
  refine fun t σ => .bind (even_markWord _ _ t σ) fun isStatic u => ?_
  refine .bind (even_markWord _ _ u σ) fun isAccessor u => .ite (fun _ => .pure _) fun _ => ?_
  refine .bind (even_markWord _ _ u σ) fun isAsync u => ?_
  refine .bind (even_eat (fun _ => rfl) u σ) fun isGenerator u => ?_
  refine .ite (fun _ => .pure _) fun _ => ?_
  refine .bind (even_markWord _ _ u σ) fun isGetter u => .ite (fun _ => .pure _) fun _ => ?_
  exact .bind (even_markWord _ _ u σ) fun isSetter u => .ite (fun _ => .pure _) fun _ => .pure _

theorem even_classMemberName (hg : Balanced source g) : Even source (classMemberName g) := by
  intro t σ
  refine .current ?_
  split
  · rename_i hk
    exact .advance (around_of_kind hk) fun u => .still (still_node _ _) fun _ => .pure _
  · exact even_memberName hg t σ

theorem even_fieldValue (hg : Balanced source g) : Even source (fieldValue g) := by
  refine fun t σ => .still still_here fun start => ?_
  refine .bind (.withReader (fun _ => rfl) (hg.even .assignment rfl t σ)) fun first u => ?_
  have rest : Walks source u σ σ (sequenceFrom g start first) :=
    even_sequenceFrom (hg.even .assignment rfl) start first u σ
  refine .still (still_at _) fun comma => .still still_read fun c => ?_
  exact .ite (fun _ => .still still_get fun s => .rejects _ _) fun _ => rest

theorem even_classMember (hg : Balanced source g) : Even source (classMember g) := by
  intro t σ
  have semicolon (t : Token) (σ : List Bracket) (h : t.isPunct .semicolon = true) :
      Walks source t σ σ advance := advances_advance.walks (around_of_isPunct h)
  refine .bind (even_whileAt semicolon t σ) fun _ u => .ifAt (fun _ => .pure _) fun _ => ?_
  refine .still still_here fun start => .bind (even_readDecorators hg u σ) fun _ u => ?_
  refine .still still_takeDecorators fun decorators => .atWord? (.peek fun next _ => ?_)
  refine .ite (fun h => ?_) fun _ => ?_
  · have block : Even source (do
        expect .leftBrace
        let items ← while? (before? .rightBrace) (g (.statement .list))
        expect .rightBrace
        return ((), items)) := by
      refine fun t σ => .expect rfl fun u => ?_
      refine .bind (even_whileBefore (hg.even _ rfl) u _) fun items u => ?_
      exact .expect rfl fun u => .pure _
    refine .word (isWord_of_isWord (Bool.and_eq_true_iff.mp h).1) fun u => ?_
    exact .bind (.withReader (fun _ => rfl) (block u σ)) fun _ u =>
      .still (still_node _ _) fun _ => .pure _
  refine .bind (even_memberMarks u σ) fun m u => ?_
  refine .bind (even_classMemberName hg u σ) fun name u => ?_
  obtain ⟨computed, key⟩ := name
  have member (kind : MemberKind) (value : Option Node) (u : Token) : Walks source u σ σ (do
      return some (← node start (.classMember kind m.isStatic computed decorators key value))) :=
    .still (still_node _ _) fun _ => .pure _
  dsimp only
  split
  · exact .bind (even_methodRest hg _ _ _ u σ) fun _ => member _ _
  · exact .bind (even_methodRest hg _ _ _ u σ) fun _ => member _ _
  · exact .bind (even_methodRest hg _ _ _ u σ) fun _ => member _ _
  · refine .ifAt (fun _ => .bind (even_methodRest hg _ _ _ u σ) fun _ => member _ _) fun _ => ?_
    have rest (value : Option Node) (u : Token) : Walks source u σ σ (do
        endStatement
        return some (← node start
          (.classMember m.kind m.isStatic computed decorators key value))) :=
      .bind (even_endStatement u σ) fun _ => member _ _
    refine .ifEat rfl (fun u => ?_) (rest _ _)
    exact .bind (.map (.allowingIn (.inside (even_fieldValue hg u σ)))) rest

theorem even_classBody (hg : Balanced source g) : Even source (classBody g) := by
  refine fun t σ => .expect rfl fun u => ?_
  have step : Even source (do
      if ← before? .rightBrace then classMember g else return none) :=
    fun t σ => .still (still_before _) fun _ =>
      .ite (fun _ => even_classMember hg t σ) fun _ => .pure _
  refine .bind (even_repeating step u _) fun members u => ?_
  exact .expect rfl fun u => .pure _

/-- A class begins with its word. -/
theorem walks_readClass (hg : Balanced source g) (isDeclaration : Bool) (ht : IsWord t) :
    Walks source t σ σ (readClass g isDeclaration) := by
  refine .still still_takeDecorators fun decorators => .still still_here fun start => ?_
  refine .word ht fun u => .current ?_
  refine .join (fun _ => .map (even_bindingIdentifier u σ)) (fun _ => .pure _) fun name u => ?_
  refine .joinEatWord (fun u => .map (hg.even .leftHandSide rfl u σ)) fun heritage u => ?_
  exact .bind (even_classBody hg u σ) fun _ _ => walks_node

end

end PatchSandbox.Script.Grammar
