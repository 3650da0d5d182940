import PatchSandbox.Machine.Compile.Pattern

/-!
# Code of functions and classes

A function first gives values to its own names, then to its parameters, then to the
functions it declares, and then runs. The members of a class are defined in order on its
constructor and on its prototype; the fields of its objects are given by a function of their
own, which runs when an object is made.
-/

namespace PatchSandbox.Machine.Compile

open PatchSandbox.Script
open PatchSandbox.Text (CodeUnits)

/-- What makes up a function. -/
structure FunctionParts where
  kind : CodeKind
  isAsync : Bool := false
  isGenerator : Bool := false
  name : String
  /-- The name by which the function finds itself. -/
  selfName : Option String := none
  params : List Node
  body : Node
  span : Span
  superAllowed : Bool := false
  superCallAllowed : Bool := false
  /-- The object under construction is given its fields at the start. -/
  initializes : Bool := false
  deriving Inhabited

/-- Whether a parameter is only a name. -/
def isSimpleParam (n : Node) : Bool := match n.form with | .name _ => true | _ => false

/-- The number of parameters before the first with a default or a rest. -/
def arity : List Node → Nat
  | [] => 0
  | n :: rest =>
    match n.form with
    | .assign _ _ _ => 0
    | .spread _ => 0
    | _ => arity rest + 1

/-- Code that gives a parameter its value. -/
def bindParam (g : Knot) (i : Nat) (n : Node) : C Unit := do
  match n.form with
  | .spread target =>
    emit (.restArguments i)
    g.pattern .init target
  | _ =>
    emit (.argument i)
    g.pattern .init n

/-- Refuses a word as the name of a function. -/
def checkFunctionName (name : String) : C Unit := do
  if name == "eval" || name == argumentsName then throw .reservedBinding
  if reservedWords.contains name then throw .noFunctionName

/-- Code of function declarations. -/
def declareFunctions (g : Knot) (ns : List Node) : C Unit := do
  (functionDeclarations ns).forM fun n => do
    match n.form with
    | .function traits (some (.mk _ (.name name))) params body =>
      checkFunctionName name
      g.expression "" (.mk n.span (.function { traits with kind := .expression } none params body))
      match ← lookup? name with
      | some _ => initName name
      | none => emit (.declareFunction (.ofString name))
    | _ => pure ()

/-- The statements of a body; an expression has none. -/
def bodyStatements (body : Node) : List Node :=
  match body.form with
  | .functionBody _ statements => statements
  | _ => []

/-- The end of a function. -/
def emitEnd : C Unit := do
  pushUndefined
  if (← read).kind == .derived then
    emit .drop
    loadName thisName
  emit .returnTop

/-- Code of a body. -/
def emitBody (g : Knot) (body : Node) : C Unit := do
  match body.form with
  | .functionBody directives statements =>
    directives.forM g.statement
    statements.forM g.statement
    emitEnd
  | _ =>
    g.expression "" body
    emitReturn

/-- Whether a default occurs among parameters. -/
def hasDefault (params : List Node) : Bool :=
  params.any fun n => n.nodes.any fun m => match m.form with | .assign _ _ _ => true | _ => false

/-- The names that a function has variables for. -/
structure OwnNames where
  /-- Those of the call that occur in the function, and the one by which it finds itself. -/
  call : List LexicalName
  params : List String
  /-- The parameters and what `var` declares. -/
  vars : List String
  /-- What is declared at the top of the body. -/
  lexical : List LexicalName

/-- The names that a function has variables for, given those that occur in it. -/
def ownNames (p : FunctionParts) (used : Std.HashSet String) : OwnNames :=
  let params := p.params.flatMap Node.boundNames
  let statements := bodyStatements p.body
  let vars := varNames statements
  let lexical := lexicalNames statements
  let declared := params ++ vars ++ lexical.map (·.name)
  let call :=
    if p.kind == .arrow then []
    else
      [thisName, homeName, calleeName, newTargetName, argumentsName].filter fun n =>
        (used.contains n || (p.kind == .derived && n == thisName)) && !declared.contains n
  let self := p.selfName.toList.filter fun n => used.contains n && !declared.contains n
  { call := call.map ({ name := · }) ++ self.map ({ name := ·, isConst := true })
    params
    vars := (params ++ vars).eraseDups.filter fun n => !(lexical.any fun l => l.name == n)
    lexical }

/-- Gives the names of a call their values. -/
def bindCall (p : FunctionParts) (own : OwnNames) : C Unit := do
  let bind (name : String) (i : Instr) : C Unit := do
    if own.call.any (·.name == name) then
      emit i
      initName name
  if p.kind != .derived then bind thisName .receiver
  bind homeName .homeObject
  bind calleeName .callee
  bind newTargetName .newTarget
  bind argumentsName .argumentsObject
  match p.selfName with
  | some name => bind name .callee
  | none => pure ()

/-- Whether a body begins with a directive to be strict. -/
def isStrictBody (body : Node) : Bool :=
  match body.form with
  | .functionBody directives _ =>
    directives.any fun n => match n.form with | .directive raw _ => raw == "use strict" | _ => false
  | _ => false

/-- Checks the names of a function. -/
def checkNames (p : FunctionParts) : C Unit := do
  let params := p.params.flatMap Node.boundNames
  let lexical := (lexicalNames (bodyStatements p.body)).filter fun n => !n.isFunction
  let functions := (lexicalNames (bodyStatements p.body)).filter (·.isFunction)
  let names := lexical.map (·.name)
  if hasRepeated params then throw .repeatedParameter
  if isStrictBody p.body && !p.params.all isSimpleParam then throw .strictBody
  if names.any params.contains then throw .parameterRedefinition
  if hasRepeated names || names.any (varNames (bodyStatements p.body)).contains ||
      names.any (functions.map (·.name)).contains then
    throw .redefinition

/-- Code of a call up to its body: the names of the call and the parameters get their
values. -/
def enterCall (g : Knot) (p : FunctionParts) (own : OwnNames) : C Unit := do
  bindCall p own
  if p.initializes then emitAll [.receiver, .callee, .initFields, .drop]
  (p.params.mapIdx fun i n => (i, n)).forM fun (i, n) => bindParam g i n

/-- Code of a call from its body on. -/
def runBody (g : Knot) (p : FunctionParts) (own : OwnNames) : C Unit := do
  own.vars.forM fun n => do
    if !own.params.contains n then
      pushUndefined
      initName n
  declareFunctions g (bodyStatements p.body)
  if p.isGenerator then emit .startGenerator
  emitBody g p.body

/-- Code of a call. Where a default occurs, the body has the parameters in variables of its
own, so functions in defaults do not see what becomes of them. -/
def emitFrame (g : Knot) (p : FunctionParts) (own : OwnNames) : C Unit := do
  let inBody := own.vars.map ({ name := · }) ++ own.lexical
  if hasDefault p.params then
    let atEntry := own.call ++ own.params.map ({ name := · })
    let shared := own.params.filter own.vars.contains
    withVariables atEntry false false fun _ => do
      enterCall g p own
      shared.forM loadName
      withVariables inBody false false fun _ => do
        shared.reverse.forM initName
        runBody g p own
  else
    withVariables (own.call ++ inBody) false false fun _ => do
      enterCall g p own
      runBody g p own

/-- Code that makes a function. -/
def emitFunction (g : Knot) (p : FunctionParts) : C Unit := do
  checkNames p
  let parts := p.params ++ [p.body]
  let used := mentionedIn parts
  let text ← textOf p.span
  let isArrow := p.kind == .arrow
  let describe (d : Draft) : FunctionCode :=
    { name := CodeUnits.ofString p.name
      arity := arity p.params
      locals := d.slots
      instrs := d.finish
      kind := p.kind
      isAsync := p.isAsync
      isGenerator := p.isGenerator
      text }
  let code ← withReader
    (fun c =>
      { c with
        kept := keptNames parts
        kind := p.kind
        isAsync := p.isAsync
        isGenerator := p.isGenerator
        controls := []
        labels := []
        completion := none
        superAllowed := if isArrow then c.superAllowed else p.superAllowed
        superCallAllowed := if isArrow then c.superCallAllowed else p.superCallAllowed
        newTargetAllowed := c.newTargetAllowed || !isArrow
        argumentsAllowed := c.argumentsAllowed || !isArrow })
    (makeFunction describe (emitFrame g p (ownNames p used)))
  emit (.closure code)

/-- The kind of code that a function has. -/
def codeKind (traits : FunctionTraits) : CodeKind :=
  match traits.kind with
  | .declaration => .function
  | .expression => .function
  | .arrow => .arrow
  | .method => .method
  | .getter => .method
  | .setter => .method

/-- Code that makes the function of an expression. -/
def emitFunctionExpression (g : Knot) (hint : String) (span : Span) (traits : FunctionTraits)
    (name : Option Node) (params : List Node) (body : Node) : C Unit := do
  let own := (name.map Node.boundNames).bind List.head?
  own.toList.forM checkFunctionName
  emitFunction g
    { kind := codeKind traits
      isAsync := traits.isAsync
      isGenerator := traits.isGenerator
      name := own.getD hint
      selfName := own
      params, body, span
      superAllowed := traits.kind == .method || traits.kind == .getter || traits.kind == .setter }

/-- Code that makes the function of a member. -/
def emitMethod (g : Knot) (span : Span) (value : Node) : C Unit := do
  match value.form with
  | .function traits _ params body =>
    emitFunction g
      { kind := .method
        isAsync := traits.isAsync
        isGenerator := traits.isGenerator
        name := ""
        params, body, span
        superAllowed := true }
  | _ => g.expression "" value

/-- The kind of a member that has a function. -/
def methodKind : MemberKind → MethodKind
  | .getter => .getter
  | .setter => .setter
  | _ => .method

/-! ### Classes -/

/-- A member of a class, in its place. -/
structure ClassItem where
  index : Nat
  span : Span
  kind : MemberKind
  isStatic : Bool
  computed : Bool
  key : Node
  value : Option Node
  deriving Inhabited

/-- A variable for the name of a computed field. -/
def fieldKeyName (i : Nat) : String := "%key" ++ toString i

/-- A variable for the function of a private member. -/
def privateFunctionName (i : Nat) : String := "%function" ++ toString i

/-- The private name of a member. -/
def privateOf? (n : Node) : Option String :=
  match n.form with
  | .privateName name => some name
  | _ => none

namespace ClassItem

/-- Whether the member is a function. -/
def isMethod (m : ClassItem) : Bool :=
  m.kind == .method || m.kind == .getter || m.kind == .setter

/-- Whether the member is the constructor. -/
def isConstructor (m : ClassItem) : Bool :=
  m.kind == .method && !m.isStatic && !m.computed &&
    match m.key.form with
    | .name name => name == "constructor"
    | .string value _ => value == CodeUnits.ofString "constructor"
    | _ => false

/-- Whether the member is private. -/
def isPrivate (m : ClassItem) : Bool := !m.computed && (privateOf? m.key).isSome

end ClassItem

/-- The members of a class, without its static blocks. -/
def classItems (members : List Node) : List ClassItem :=
  (members.mapIdx fun i n =>
    match n.form with
    | .classMember kind isStatic computed _ key value =>
      some ⟨i, n.span, kind, isStatic, computed, key, value⟩
    | _ => none).filterMap id

/-- The name by which a member is found, unless it is computed. -/
def ClassItem.staticName? (m : ClassItem) : Option Key :=
  if m.computed || m.isPrivate then none else some (staticKey m.key)

/-- Checks the names of members. -/
def checkMembers (items : List ClassItem) : C Unit :=
  items.forM fun m => do
    if privateOf? m.key == some "constructor" && !m.computed then throw .badMemberName
    match m.staticName? with
    | none => pure ()
    | some k =>
      let isPlain :=
        match m.value with
        | some (.mk _ (.function traits _ _ _)) => !traits.isAsync && !traits.isGenerator
        | _ => true
      if m.isMethod then
        if m.isStatic && k == .ofString "prototype" then throw .badMemberName
        if !m.isStatic && k == .ofString "constructor" && !(m.kind == .method && isPlain) then
          throw .badMemberName
      else if k == .ofString "constructor" || (m.isStatic && k == .ofString "prototype") then
        throw .badFieldName

/-- The private names that a class declares. A getter and a setter may share one. -/
def privateNames (items : List ClassItem) : C (List String) := do
  let names := items.filterMap fun m => if m.computed then none else privateOf? m.key
  let distinct := names.eraseDups
  for name in distinct do
    let kinds := (items.filter fun m => !m.computed && privateOf? m.key == some name).map (·.kind)
    let fine := kinds.length ≤ 1 || kinds == [.getter, .setter] || kinds == [.setter, .getter]
    if !fine then throw .repeatedPrivate
  return distinct

/-- Code that defines a member that is a function, on the object on top. -/
def emitMember (g : Knot) (m : ClassItem) : C Unit := do
  match m.value with
  | none => pure ()
  | some value =>
    if m.isPrivate then
      -- kept for the objects that will have it
      emitMethod g m.span value
      emit (.setHome 1)
      initName (privateFunctionName m.index)
    else
      if m.computed then
        g.expression "" m.key
        emit .toKey
      else emit (.push (staticKey m.key).toValue)
      emitMethod g m.span value
      emit (.defineMethod (methodKind m.kind) false)

/-- Code that defines a private function on the object on top. -/
def emitPrivateFunction (m : ClassItem) : C Unit := do
  loadPrivate ((privateOf? m.key).getD "")
  loadName (privateFunctionName m.index)
  emit (.definePrivateMethod (methodKind m.kind))

/-- Code that defines a field of the object on top. -/
def emitField (g : Knot) (m : ClassItem) : C Unit := do
  let value (hint : String) : C Unit :=
    match m.value with
    | some v => g.expression (if isAnonymous v then hint else "") v
    | none => pushUndefined
  if m.isPrivate then
    let name := (privateOf? m.key).getD ""
    loadPrivate name
    value (privateKey name)
    emit .definePrivate
  else if m.computed then
    loadName (fieldKeyName m.index)
    value ""
    if m.value.any isAnonymous then emit .nameFunction
    emit .defineIndex
  else
    let k := staticKey m.key
    value (keyHint k)
    emit (.defineField k)

/-- Code that makes a function of a class which runs for its receiver. -/
def emitInitializer (span : Span) (parts : List Node) (body : C Unit) : C Unit := do
  let used := mentionedIn parts
  let call : List LexicalName :=
    ([thisName, homeName, newTargetName].filter used.contains).map ({ name := · })
  let p : FunctionParts :=
    { kind := .method, name := "", params := [], body := .mk span .empty, span
      superAllowed := true }
  let code ← withReader
    (fun c =>
      { c with
        kept := keptNames parts
        kind := .method
        isAsync := false
        isGenerator := false
        controls := []
        labels := []
        completion := none
        superAllowed := true
        superCallAllowed := false
        newTargetAllowed := true
        argumentsAllowed := false })
    (makeFunction
      (fun d =>
        { name := ∅, arity := 0, locals := d.slots, instrs := d.finish, kind := .method
          isAsync := false, isGenerator := false, text := "" })
      (withVariables call false false fun _ => do
        bindCall p { call, params := [], vars := [], lexical := [] }
        body
        pushUndefined
        emit .returnTop))
  emit (.closure code)

/-- Code that makes the constructor and the prototype of a class, from its heritage. -/
def emitConstructor (g : Knot) (span : Span) (name : String) (derived initializes : Bool)
    (items : List ClassItem) : C Unit := do
  let kind : CodeKind := if derived then .derived else .constructor
  match items.filter (·.isConstructor) with
  | [] =>
    let text ← textOf span
    let code ← withReader (fun c => { c with kind })
      (makeFunction
        (fun d =>
          { name := CodeUnits.ofString name, arity := 0, locals := d.slots, instrs := d.finish, kind
            isAsync := false, isGenerator := false, text })
        (do
          if derived then
            emitAll [.callee, .newTarget, .restArguments 0, .superCall]
            if initializes then emitAll [.callee, .initFields]
          else
            if initializes then emitAll [.receiver, .callee, .initFields, .drop]
            pushUndefined
          emit .returnTop))
    emit (.makeClass code derived)
  | [m] =>
    match m.value with
    | some (.mk _ (.function _ _ params body)) =>
      emitFunction g
        { kind, name, params, body, span
          superAllowed := true
          superCallAllowed := derived
          initializes := initializes && !derived }
      -- the function is made by the class itself
      modify fun s =>
        let code := match s.draft.instrs.back? with | some (.closure c) => c | _ => 0
        { s with
          draft := { s.draft with instrs := s.draft.instrs.pop.push (.makeClass code derived) } }
    | _ => pure ()
  | _ => throw .repeatedConstructor

/-- Code of a static field or a static block, with the constructor on top. -/
def emitStatic (g : Knot) (items : List ClassItem) (i : Nat) (n : Node) : C Unit := do
  let run (parts : List Node) (body : C Unit) : C Unit := do
    emit (.pick 0)
    emitInitializer n.span parts body
    emitAll [.setHome 1, .call 0, .drop]
  match n.form with
  | .staticBlock statements =>
    let vars := varNames statements
    let lexical := lexicalNames statements
    run statements
      (withLexical (vars.map ({ name := · }) ++ lexical) fun _ => do
        vars.forM fun v => do
          pushUndefined
          initName v
        declareFunctions g statements
        statements.forM g.statement)
  | _ =>
    match items.find? (·.index == i) with
    | some m =>
      if m.isStatic && !m.isMethod then
        run m.value.toList do
          emit .receiver
          emitField g m
          emit .drop
    | none => pure ()

/-- Code of a class. -/
def emitClass (g : Knot) (hint : String) (span : Span) (decorators : List Node)
    (name heritage : Option Node) (members : List Node) : C Unit := do
  if !decorators.isEmpty then throw .decorator
  let items := classItems members
  checkMembers items
  let privates ← privateNames items
  let own := (name.map Node.boundNames).bind List.head?
  let fields := items.filter fun m => !m.isStatic && !m.isMethod
  let functions := items.filter fun m => !m.isStatic && m.isMethod && m.isPrivate
  let initializes := !(fields.isEmpty && functions.isEmpty)
  let temporaries :=
    (items.filter fun m => m.computed && !m.isMethod).map (fun m => fieldKeyName m.index) ++
      (items.filter fun m => m.isMethod && m.isPrivate).map fun m => privateFunctionName m.index
  let names := privates.map privateKey ++ temporaries
  let bindings : List LexicalName :=
    own.toList.map ({ name := ·, isConst := true }) ++ names.map ({ name := · })
  let body : C Unit := do
    privates.forM fun name => do
      emit (.newPrivateName (privateKey name))
      initName (privateKey name)
    match heritage with
    | some h => g.expression "" h
    | none => pushUndefined
    emitConstructor g span (own.getD hint) heritage.isSome initializes items
    -- `constructor prototype`
    items.forM fun m => do
      if m.isMethod then
        if !m.isConstructor then
          if m.isStatic then emit (.roll 1)
          emitMember g m
          if m.isStatic then emit (.roll 1)
      else if m.computed then
        g.expression "" m.key
        emit .toKey
        initName (fieldKeyName m.index)
    if initializes then
      emitInitializer span (fields.filterMap (·.value)) do
        emit .receiver
        functions.forM emitPrivateFunction
        fields.forM (emitField g)
        emit .drop
      emitAll [.setHome 1, .roll 2, .roll 1, .setFields, .roll 1]
    emit .drop
    match own with
    | some n =>
      emit (.pick 0)
      initName n
    | none => pure ()
    (items.filter fun m => m.isStatic && m.isMethod && m.isPrivate).forM emitPrivateFunction
    (members.mapIdx fun i n => (i, n)).forM fun (i, n) => emitStatic g items i n
  if bindings.isEmpty then body else withVariables bindings true true fun _ => body

end PatchSandbox.Machine.Compile
