import PatchSandbox.Proofs.Script.Words.Readers
import PatchSandbox.Script.Grammar.Expression

/-!
# Words in expressions

Readers of patterns, functions, classes and expressions keep things tidy. Two of them make a meta
property, and its name is a word that has been read.
-/

namespace PatchSandbox.Script.Grammar

section

variable {g : Knot} [Keeping g]

set_option synthInstance.maxSize 4096

/-! ### Patterns -/

instance keeps_withDefault (start : Nat) (target : Node) [Tidy target] :
    Keeps (withDefault g start target) := by
  unfold withDefault
  infer_instance

instance keeps_bindingElement : Keeps (bindingElement g) := by
  unfold bindingElement
  infer_instance

instance keeps_restElement : Keeps (restElement g) := by
  unfold restElement
  infer_instance

omit [Keeping g] in
instance keeps_elementsWithRest (close : Punct) {element rest : P Node} [Keeps element]
    [Keeps rest] : Keeps (elementsWithRest close element rest) := by
  refine Keeps.bind inferInstance fun items _ => ?_
  dsimp only
  split <;> infer_instance

instance keeps_memberName : Keeps (memberName g) := by
  refine keeps_current.bind fun t _ => ?_
  split <;> infer_instance

instance keeps_bindingProperty : Keeps (bindingProperty g) := by
  refine keeps_here.bind fun start _ => keeps_current.bind fun t _ => ?_
  refine keeps_memberName.bind fun member hm => ?_
  obtain ⟨computed, key⟩ := member
  have := hm.of_pair.2
  refine (keeps_at _).bind fun colon _ => .ite ?_ inferInstance
  split <;> infer_instance

instance keeps_bindingTarget : Keeps (bindingTarget g) := by
  unfold bindingTarget
  infer_instance

/-! ### Checks -/

section

omit [Keeping g]

instance keeps_refuse {α : Type} [Quotes α] (use : TargetUse) (n : Node) :
    Keeps (refuse use n : P α) := keeps_fail _ _

theorem Keeps.mapM {α β : Type} [Quotes β] {f : α → P β} (hf : ∀ a, Keeps (f a)) (l : List α) :
    Keeps (l.mapM f) := by
  induction l with
  | nil => exact keeps_pure _
  | cons a l ih =>
      rw [List.mapM_cons]
      infer_instance

theorem keeps_checkItems {items : List Node} {element : Node → P (List Check)}
    (he : ∀ n, Keeps (element n)) : Keeps (checkItems items element) := by
  refine Keeps.bind (.mapM (fun item => ?_) _) fun _ _ => keeps_pure _
  dsimp only
  split <;> infer_instance

instance keeps_uncover (start : Nat) : Keeps (uncover start) :=
  keeps_modify fun _ hs => ⟨hs.tidy⟩

instance keeps_checkStep (check : Check) : Keeps (checkStep check) := by
  unfold checkStep
  split
  case h_1 =>
    split
    · split <;> infer_instance
    · infer_instance
  case h_2 => split <;> infer_instance
  case h_3 =>
    split
    · exact keeps_checkItems inferInstance
    · refine keeps_checkItems fun member => ?_
      split <;> infer_instance
    · infer_instance

instance keeps_checkAll (fuel : Nat) (checks : List Check) : Keeps (checkAll fuel checks) := by
  induction fuel generalizing checks with
  | zero => exact keeps_pure _
  | succ fuel ih =>
      cases checks with
      | nil => exact keeps_pure _
      | cons c rest => exact (keeps_checkStep c).bind fun _ _ => ih _

instance keeps_checkTarget (n : Node) : Keeps (checkTarget n) := by
  unfold checkTarget
  infer_instance

instance keeps_checkSimpleTarget (use : TargetUse) (n : Node) :
    Keeps (checkSimpleTarget use n) := by
  unfold checkSimpleTarget
  infer_instance

end

/-! ### Functions -/

omit [Keeping g] in
instance keeps_decorate (ds : List Node) [hd : Tidy ds] :
    Keeps (modify fun s => { s with decorators := ds } : P Unit) :=
  keeps_modify fun _ hs => ⟨hs.tidy.1, hd.tidy⟩

instance keeps_readDecorators : Keeps (readDecorators g) := by
  unfold readDecorators
  dsimp only
  infer_instance

omit [Keeping g] in
instance keeps_takeDecorators : Keeps takeDecorators := by
  unfold takeDecorators
  infer_instance

omit [Keeping g] in
instance keeps_importDeclares : Keeps importDeclares := by
  unfold importDeclares
  infer_instance

instance quotes_statements : Quotes Statements :=
  ⟨fun acc => Quotes.IsTidy acc.directives ∧ Quotes.IsTidy acc.statements⟩

omit [Keeping g] in
theorem Tidy.child {n child : Node} (hn : Tidy n) (hc : child ∈ n.form.children) : Tidy child := by
  obtain ⟨span, form⟩ := n
  exact ⟨(Node.isTidy_mk.mp hn.tidy).2 child hc⟩

omit [Keeping g] in
theorem tidy_asDirective {first : Token} {n d : Node} (hn : Tidy n)
    (h : asDirective? first n = some d) : Tidy d := by
  unfold asDirective? at h
  split at h
  case h_1 body hf =>
      split at h
      case h_1 =>
          split at h
          · cases h
            have hb : Tidy body := hn.child (by simp [hf, Form.children])
            exact ⟨Node.isTidy_mk.mpr ⟨(tidy_nil (α := String)).tidy, (tidy_cons body []).tidy⟩⟩
          · cases h
      case h_2 => cases h
  case h_2 => cases h

instance keeps_statementStep (topLevel : Bool) (acc : Statements) [ha : Tidy acc] :
    Keeps (statementStep g topLevel acc) := by
  have hd : Tidy acc.directives := ⟨ha.tidy.1⟩
  have hs : Tidy acc.statements := ⟨ha.tidy.2⟩
  have more (n : Node) (prologue : Bool) [hn : Tidy n] :
      Tidy { acc with statements := n :: acc.statements, prologue } :=
    ⟨hd.tidy, (tidy_cons n acc.statements).tidy⟩
  refine keeps_current.bind fun first _ => .ite inferInstance ?_
  refine keeps_importDeclares.bind fun declares _ => .ite ?_ (.ite ?_ (.ite ?_ ?_))
  · exact (keeps_knot _).bind fun n hn => keeps_pure _
  · exact (keeps_knot _).bind fun n hn => keeps_pure _
  · infer_instance
  · refine (keeps_knot _).bind fun n hn => ?_
    split
    case h_1 d hd' =>
        have hdir : Tidy d := by
          split at hd'
          · exact tidy_asDirective hn hd'
          · cases hd'
        have : Tidy { acc with directives := d :: acc.directives } :=
          ⟨(tidy_cons d acc.directives).tidy, hs.tidy⟩
        infer_instance
    case h_2 => infer_instance

instance keeps_statementLoop (topLevel : Bool) (n : Nat) (acc : Statements) [ha : Tidy acc] :
    Keeps (statementLoop g topLevel n acc) := by
  induction n generalizing acc with
  | zero => exact keeps_unexpected
  | succ n ih =>
      refine (keeps_statementStep topLevel acc).bind fun a ha => ?_
      cases a with
      | some acc =>
          have := ha.of_some
          exact ih acc
      | none => exact keeps_pure _

instance keeps_directivesAndStatements (topLevel : Bool) :
    Keeps (directivesAndStatements g topLevel) := by
  have begin : Tidy ({} : Statements) :=
    ⟨(tidy_nil (α := Node)).tidy, (tidy_nil (α := Node)).tidy⟩
  refine keeps_read.bind fun c _ => (keeps_statementLoop topLevel _ _).bind fun acc ha => ?_
  have hd : Tidy acc.directives := ⟨ha.tidy.1⟩
  have hs : Tidy acc.statements := ⟨ha.tidy.2⟩
  infer_instance

instance keeps_functionBody : Keeps (functionBody g) := by
  refine keeps_here.bind fun start _ => (keeps_expect _).bind fun _ _ => ?_
  refine Keeps.bind inferInstance fun lists hl => ?_
  obtain ⟨directives, statements⟩ := lists
  obtain ⟨hd, hs⟩ := hl.of_pair
  dsimp only
  infer_instance

instance keeps_parameter : Keeps (parameter g) := by
  unfold parameter
  infer_instance

instance keeps_restParameter : Keeps (restParameter g) := by
  unfold restParameter
  dsimp only
  infer_instance

instance keeps_parameters : Keeps (parameters g) := by
  unfold parameters
  infer_instance

instance keeps_functionRest (start : Nat) (traits : FunctionTraits) (name : Option Node)
    [Tidy name] : Keeps (functionRest g start traits name) := by
  refine Keeps.bind inferInstance fun parts hp => ?_
  obtain ⟨params, body⟩ := parts
  obtain ⟨hparams, hbody⟩ := hp.of_pair
  dsimp only
  infer_instance

omit [Keeping g] in
instance keeps_functionName (traits : FunctionTraits) (required : Bool) :
    Keeps (functionName? traits required) := by
  refine keeps_current.bind fun t _ => .ite inferInstance ?_
  dsimp only
  refine .ite ?_ inferInstance
  split <;> infer_instance

omit [Keeping g] in
instance keeps_functionBegins : Keeps functionBegins := by
  unfold functionBegins
  infer_instance

instance keeps_functionWithKeyword (kind : FunctionKind) (nameRequired : Bool) :
    Keeps (functionWithKeyword g kind nameRequired) := by
  unfold functionWithKeyword
  infer_instance

instance keeps_methodRest (kind : FunctionKind) (isAsync isGenerator : Bool) :
    Keeps (methodRest g kind isAsync isGenerator) := by
  unfold methodRest
  infer_instance

/-! ### Classes -/

omit [Keeping g] in
instance keeps_markWord (name : String) (marks : Token → Bool) : Keeps (markWord name marks) := by
  unfold markWord
  infer_instance

omit [Keeping g] in
instance keeps_memberMarks : Keeps memberMarks := by
  unfold memberMarks
  infer_instance

instance keeps_classMemberName : Keeps (classMemberName g) := by
  refine keeps_current.bind fun t _ => ?_
  split <;> infer_instance

instance keeps_fieldValue : Keeps (fieldValue g) := by
  unfold fieldValue
  dsimp only
  infer_instance

instance keeps_classMember : Keeps (classMember g) := by
  refine Keeps.bind inferInstance fun _ _ => .bind inferInstance fun closes _ => ?_
  refine .ite inferInstance (keeps_here.bind fun start _ => keeps_readDecorators.bind fun _ _ => ?_)
  refine keeps_takeDecorators.bind fun decorators _ => .bind inferInstance fun isStatic _ => ?_
  refine keeps_peek.bind fun next _ => .ite ?_ ?_
  · refine Keeps.bind inferInstance fun _ _ => .bind inferInstance fun inner hi => ?_
    obtain ⟨_, statements⟩ := inner
    have := hi.of_pair.2
    dsimp only
    infer_instance
  · refine keeps_memberMarks.bind fun m _ => keeps_classMemberName.bind fun name hn => ?_
    obtain ⟨computed, key⟩ := name
    have := hn.of_pair.2
    dsimp only
    split <;> infer_instance

instance keeps_classBody : Keeps (classBody g) := by
  unfold classBody
  infer_instance

instance keeps_readClass (isDeclaration : Bool) : Keeps (readClass g isDeclaration) := by
  unfold readClass
  dsimp only
  infer_instance

/-! ### Templates -/

omit [Keeping g] in
instance keeps_rereadTemplate : Keeps rereadTemplate := by
  unfold rereadTemplate
  infer_instance

instance keeps_templateLoop (n : Nat) (qs : List Quasi) (parts : List Node) [Tidy parts] :
    Keeps (templateLoop g n qs parts) := by
  induction n generalizing qs parts with
  | zero => exact keeps_unexpected
  | succ n ih =>
      refine keeps_current.bind fun t _ => ?_
      split
      · infer_instance
      · infer_instance

instance keeps_readTemplate (isTagged : Bool) : Keeps (readTemplate g isTagged) := by
  refine keeps_current.bind fun t _ => ?_
  split
  · infer_instance
  · refine keeps_advance.bind fun _ _ => .ite inferInstance ?_
    refine Keeps.bind inferInstance fun part _ => keeps_rereadTemplate.bind fun _ _ => ?_
    refine keeps_read.bind fun c _ => Keeps.bind inferInstance fun pieces hp => ?_
    obtain ⟨qs, parts⟩ := pieces
    have := hp.of_pair.2
    dsimp only
    infer_instance

/-! ### Objects and arrays -/

instance keeps_spreadable : Keeps (spreadable g) := by
  unfold spreadable
  infer_instance

instance keeps_arguments : Keeps (arguments g) := by
  unfold arguments
  infer_instance

instance keeps_readArray : Keeps (readArray g) := by
  unfold readArray
  infer_instance

omit [Keeping g] in
instance keeps_cover (start : Nat) :
    Keeps (modify fun s => { s with covers := start :: s.covers } : P Unit) :=
  keeps_modify fun _ hs => ⟨hs.tidy⟩

instance keeps_shorthand : Keeps (shorthand g) := by
  unfold shorthand
  infer_instance

instance keeps_readProperty : Keeps (readProperty g) := by
  have method (start : Nat) (kind : MemberKind) (functionKind : FunctionKind)
      (isAsync isGenerator : Bool) : Keeps (do
        let (computed, key) ← memberName g
        let value ← methodRest g functionKind isAsync isGenerator
        node start (.property kind computed false key value)) := by
    refine keeps_memberName.bind fun member hm => ?_
    obtain ⟨computed, key⟩ := member
    have := hm.of_pair.2
    dsimp only
    infer_instance
  refine keeps_here.bind fun start _ => keeps_current.bind fun t _ => ?_
  refine keeps_peek.bind fun next _ => ?_
  dsimp only
  refine .ite inferInstance (.ite ?_ (.ite ?_ (.ite ?_ (.ite ?_ (.ite inferInstance ?_)))))
  · exact keeps_advanceKeyword.bind fun _ _ => method ..
  · exact keeps_advanceKeyword.bind fun _ _ => method ..
  · exact keeps_advanceKeyword.bind fun _ _ => (keeps_eat _).bind fun _ _ => method ..
  · exact keeps_advance.bind fun _ _ => method ..
  · refine keeps_memberName.bind fun member hm => ?_
    obtain ⟨computed, key⟩ := member
    have := hm.of_pair.2
    dsimp only
    infer_instance

instance keeps_readObject : Keeps (readObject g) := by
  unfold readObject
  infer_instance

/-! ### Primary expressions -/

instance keeps_readParen : Keeps (readParen g) := by
  refine keeps_here.bind fun start _ => .bind inferInstance fun _ _ => ?_
  refine keeps_here.bind fun first _ => .bind inferInstance fun items hi => ?_
  split
  case h_2 body =>
      have : Tidy body := ⟨hi.tidy body (List.mem_singleton.mpr rfl)⟩
      infer_instance
  all_goals infer_instance

omit [Keeping g] in
instance tidy_new : Tidy "new" := ⟨show Text.IsOneLine "new" by decide⟩

omit [Keeping g] in
instance tidy_import : Tidy "import" := ⟨show Text.IsOneLine "import" by decide⟩

instance keeps_readNew : Keeps (readNew g) := by
  refine keeps_here.bind fun start _ => keeps_advanceKeyword.bind fun _ _ => ?_
  refine (keeps_eat _).bind fun dot _ => ?_
  refine .ite inferInstance (keeps_here.bind fun inner _ => .bind inferInstance fun callee _ => ?_)
  refine (keeps_at _).bind fun paren _ => ?_
  dsimp only
  split <;> refine .bind inferInstance fun args _ => ?_ <;> split <;> infer_instance

instance keeps_readImport : Keeps (readImport g) := by
  have called (start : Nat) : Keeps (do
      let source ← allowingIn (g .assignment)
      let options ←
        if ← eat .comma then
          if ← at? .rightParen then pure [] else pure [← allowingIn (g .assignment)]
        else pure []
      let _ ← eat .comma
      expect .rightParen
      node start (.importCall (source :: options))) := by
    dsimp only
    infer_instance
  refine keeps_here.bind fun start _ => .bind inferInstance fun _ _ => ?_
  refine keeps_current.bind fun t _ => ?_
  dsimp only
  refine .ite inferInstance (.ite ?_ (keeps_read.bind fun c _ => ?_))
  · refine keeps_advance.bind fun _ _ => (keeps_eat _).bind fun isEmpty _ => .ite ?_ (called start)
    exact (keeps_fail _ _).bind fun _ _ => called start
  · split <;> infer_instance

omit [Keeping g] in
instance keeps_readRegex : Keeps readRegex := by
  refine keeps_current.bind fun t _ => .bind inferInstance fun r _ => keeps_read.bind fun c _ => ?_
  refine .bind inferInstance fun next hn => ?_
  have step : Keeps (modify fun s => { s with token := next, lastStop := r.offset } : P Unit) :=
    keeps_modify fun _ hs => ⟨hn.tidy, hs.tidy.2⟩
  infer_instance

omit [Keeping g] in
instance keeps_readSuper : Keeps readSuper := by
  unfold readSuper
  dsimp only
  infer_instance

omit [Keeping g] in
instance keeps_single (form : Form Node) [Tidy form.children] [Tidy form.quoted] :
    Keeps (single form) := by
  unfold single
  infer_instance

instance keeps_primary : Keeps (primary g) := by
  refine keeps_current.bind fun t _ => ?_
  split
  case h_11 => split <;> infer_instance
  all_goals infer_instance

/-! ### Members and calls -/

instance quotes_chain : Quotes Chain := ⟨fun chain => Quotes.IsTidy chain.body⟩

section

omit [Keeping g]

instance tidy_body (chain : Chain) [hc : Tidy chain] : Tidy chain.body := ⟨hc.tidy⟩

instance tidy_chain (body : Node) (isOptional : Bool) [hb : Tidy body] :
    Tidy (Chain.mk body isOptional) := ⟨hb.tidy⟩

instance keeps_memberAfter (start : Nat) (isOptional : Bool) (target : Node) [Tidy target] :
    Keeps (memberAfter start isOptional target) := by
  refine keeps_current.bind fun t _ => ?_
  split <;> infer_instance

end

instance keeps_indexAfter (start : Nat) (isOptional : Bool) (target : Node) [Tidy target] :
    Keeps (indexAfter g start isOptional target) := by
  unfold indexAfter
  infer_instance

instance keeps_memberStep (start : Nat) (chain : Chain) [Tidy chain] :
    Keeps (memberStep g start chain) := by
  refine keeps_current.bind fun t _ => keeps_read.bind fun c _ => ?_
  refine .ite inferInstance (.ite (keeps_peek.bind fun next _ => ?_) inferInstance)
  split <;> infer_instance

instance keeps_memberLoop (start n : Nat) (chain : Chain) [Tidy chain] :
    Keeps (memberLoop g start n chain) := by
  induction n generalizing chain with
  | zero => exact keeps_pure _
  | succ n ih =>
      refine (keeps_memberStep start chain).bind fun a ha => ?_
      cases a with
      | some chain =>
          have := ha.of_some
          exact ih chain
      | none => exact keeps_pure _

instance keeps_callStep (start : Nat) (chain : Chain) [Tidy chain] :
    Keeps (callStep g start chain) := by
  unfold callStep
  dsimp only
  infer_instance

instance keeps_callLoop (start n : Nat) (chain : Chain) [Tidy chain] :
    Keeps (callLoop g start n chain) := by
  induction n generalizing chain with
  | zero => exact keeps_pure _
  | succ n ih =>
      refine (keeps_callStep start chain).bind fun a ha => ?_
      obtain ⟨chain, goesOn⟩ := a
      have := ha.of_pair.1
      cases goesOn with
      | true => exact ih _
      | false => exact keeps_pure _

omit [Keeping g] in
instance keeps_closeChain (start : Nat) (chain : Chain) [Tidy chain] :
    Keeps (closeChain start chain) := by
  refine .ite ?_ inferInstance
  split <;> infer_instance

instance keeps_operandOfNew : Keeps (operandOfNew g) := by
  unfold operandOfNew
  infer_instance

instance keeps_leftHandSide : Keeps (leftHandSide g) := by
  unfold leftHandSide
  infer_instance

/-! ### Operators -/

instance keeps_updateExpression : Keeps (updateExpression g) := by
  refine keeps_here.bind fun start _ => keeps_current.bind fun t _ => ?_
  split
  · infer_instance
  · refine keeps_leftHandSide.bind fun target _ => keeps_current.bind fun t _ => ?_
    split <;> infer_instance

omit [Keeping g] in
instance keeps_awaits : Keeps awaits := by
  unfold awaits
  infer_instance

instance keeps_unaryExpression : Keeps (unaryExpression g) := by
  refine keeps_current.bind fun t _ => ?_
  dsimp only
  split <;> infer_instance

instance keeps_binaryLoop (start above n : Nat) (left : Node) [Tidy left] :
    Keeps (binaryLoop g start above n left) := by
  induction n generalizing left with
  | zero => exact keeps_pure _
  | succ n ih =>
      refine keeps_current.bind fun t _ => ?_
      split
      · infer_instance
      · refine .ite inferInstance (keeps_read.bind fun c _ => .ite inferInstance ?_)
        refine keeps_advanceKeyword.bind fun _ _ => (keeps_knot _).bind fun right _ => ?_
        dsimp only
        split <;> infer_instance

instance keeps_binaryExpression (above : Nat) : Keeps (binaryExpression g above) := by
  refine keeps_current.bind fun t _ => ?_
  dsimp only
  split <;> infer_instance

/-! ### Arrow functions -/

section

omit [Keeping g]

instance keeps_parenthesesOpenArrow : Keeps parenthesesOpenArrow := by
  refine (keeps_eat _).bind fun paren _ => .ite inferInstance (keeps_current.bind fun t _ => ?_)
  split
  case h_5 =>
    refine .ite inferInstance (keeps_advance.bind fun _ _ => keeps_current.bind fun t _ => ?_)
    split <;> infer_instance
  all_goals infer_instance

instance keeps_arrowStarts : Keeps arrowStarts := by
  unfold arrowStarts
  infer_instance

end

instance keeps_arrowBody (start : Nat) (isAsync : Bool) (params : List Node) [Tidy params] :
    Keeps (arrowBody g start isAsync params) := by
  unfold arrowBody
  infer_instance

instance keeps_arrowHead : Keeps (arrowHead g) := by
  unfold arrowHead
  dsimp only
  infer_instance

instance keeps_parenthesizedArrow : Keeps (parenthesizedArrow? g) := by
  refine keeps_arrowStarts.bind fun starts _ => ?_
  split
  case h_1 => infer_instance
  case h_2 =>
    refine keeps_arrowHead.bind fun head hh => ?_
    obtain ⟨start, isAsync, params⟩ := head
    have := hh.of_pair.2.of_pair.2
    dsimp only
    infer_instance
  case h_3 =>
    refine keeps_here.bind fun start _ => keeps_get.bind fun s _ => .ite inferInstance ?_
    refine keeps_attempt.bind fun head hh => ?_
    split
    case h_1 start isAsync params =>
        have := hh.of_some.of_pair.2.of_pair.2
        infer_instance
    case h_2 =>
        exact Keeps.bind (keeps_modify fun _ hs => ⟨hs.tidy⟩) fun _ _ => keeps_pure _

instance keeps_simpleArrow (start : Nat) (isAsync : Bool) (param : Node) [Tidy param] :
    Keeps (simpleArrow g start isAsync param) := by
  unfold simpleArrow
  dsimp only
  infer_instance

omit [Keeping g] in
instance keeps_asyncArrowStarts : Keeps asyncArrowStarts := by
  unfold asyncArrowStarts
  infer_instance

/-! ### Assignments -/

omit [Keeping g] in
instance keeps_yields : Keeps yields := by
  unfold yields
  infer_instance

instance keeps_readYield : Keeps (readYield g) := by
  unfold readYield
  dsimp only
  infer_instance

instance keeps_conditionalRest (start : Nat) (test : Node) [Tidy test] :
    Keeps (conditionalRest g start test) := by
  unfold conditionalRest
  infer_instance

instance keeps_assignmentExpression : Keeps (assignmentExpression g) := by
  refine keeps_yields.bind fun isYield _ => .ite inferInstance ?_
  refine keeps_parenthesizedArrow.bind fun arrow ha => ?_
  cases arrow with
  | some n =>
      have := ha.of_some
      exact keeps_pure n
  | none =>
      refine keeps_here.bind fun start _ => keeps_asyncArrowStarts.bind fun asyncArrow _ => ?_
      refine .ite inferInstance ?_
      refine (keeps_binaryExpression _).bind fun left _ => keeps_current.bind fun t _ => ?_
      dsimp only
      refine .ite inferInstance ?_
      split <;> infer_instance

instance keeps_expression : Keeps (expression g) := by
  unfold expression
  infer_instance

end

end PatchSandbox.Script.Grammar
