import PatchSandbox.Script.Grammar.Pattern

/-!
# Functions and classes

* **`directivesAndStatements`** reads the inside of a function or of a whole source: the
  directives are the leading statements that are nothing but strings.
* Parameters are read as patterns, a rest parameter as a spread.
-/

namespace PatchSandbox.Script.Grammar

/-- Reads decorators up to the thing they decorate. -/
def readDecorators (g : Knot) : P Unit := do
  if ← at? .at then
    if (← read).goal == .script then reject (.noExpression (.punct .at)) (← here)
    let ds ← while? (at? .at) do
      advance
      withReader (fun c => { c with inDecorator := true }) (g .leftHandSide)
    modify fun s => { s with decorators := ds }

/-- The decorators that have been read, for the thing they decorate. -/
def takeDecorators : P (List Node) := do
  let ds := (← get).decorators
  modify fun s => { s with decorators := [] }
  return ds

/-- Whether an `import` begins a declaration: it does unless it is called or has a member. -/
def importDeclares : P Bool := do
  if ← atWord? "import" then
    let next ← peek
    return !(next.isPunct .dot || next.isPunct .leftParen)
  else return false

/-- What has been read of a list of statements, in reverse. -/
structure Statements where
  directives : List Node := []
  statements : List Node := []
  /-- Only directives have been read so far. -/
  prologue : Bool := true

/-- A statement that is nothing but a string, not even in parentheses. -/
def asDirective? (first : Token) (statement : Node) : Option Node :=
  match statement.form with
  | .expression body =>
    match body.form with
    | .string _ _ =>
      if body.span.start == statement.span.start then
        some (.mk statement.span (.directive first.quotedText body))
      else none
    | _ => none
  | _ => none

/-- Reads one more statement. -/
def statementStep (g : Knot) (topLevel : Bool) (acc : Statements) : P (Option Statements) := do
  let first ← current
  if first.isEof || (first.isPunct .rightBrace && !topLevel) then return none
  else if ← importDeclares then
    let n ← g .importDeclaration
    return some { acc with statements := n :: acc.statements }
  else if first.isWord "export" then
    let n ← g .exportDeclaration
    return some { acc with statements := n :: acc.statements }
  else if first.isPunct .at then
    readDecorators g
    return some acc
  else
    let n ← g (.statement .list)
    match (if acc.prologue then asDirective? first n else none) with
    | some d => return some { acc with directives := d :: acc.directives }
    | none => return some { acc with statements := n :: acc.statements, prologue := false }

/-- Reads statements up to the end. -/
def statementLoop (g : Knot) (topLevel : Bool) : Nat → Statements → P Statements
  | 0, _ => unexpected
  | n + 1, acc => do
    match ← statementStep g topLevel acc with
    | some acc => statementLoop g topLevel n acc
    | none => return acc

/-- Reads the inside of a function or of a whole source. -/
def directivesAndStatements (g : Knot) (topLevel : Bool) : P (List Node × List Node) := do
  let acc ← statementLoop g topLevel ((← read).bound) {}
  return (acc.directives.reverse, acc.statements.reverse)

/-- Reads the body of a function. -/
def functionBody (g : Knot) : P Node := do
  let start ← here
  expect .leftBrace
  let (directives, statements) ←
    withReader (fun c => { c with inFunction := true }) (directivesAndStatements g false)
  expect .rightBrace
  node start (.functionBody directives statements)

/-- Reads one parameter. -/
def parameter (g : Knot) : P Node := do
  readDecorators g
  let _ ← takeDecorators
  bindingElement g

/-- Reads a rest parameter, which has to be the last one. -/
def restParameter (g : Knot) : P Node := do
  let n ← restElement g
  if ← at? .comma then
    if (← peek).isPunct .rightParen then report .commaAfterRest (← here)
    else report .restNotLast n.span.start
  return n

/-- Reads parameters in parentheses. -/
def parameters (g : Knot) : P (List Node) := do
  expect .leftParen
  let params ← elementsWithRest .rightParen (parameter g) (restParameter g)
  expect .rightParen
  return params

/-- Reads a function from its parameters on. -/
def functionRest (g : Knot) (start : Nat) (traits : FunctionTraits) (name : Option Node) :
    P Node := do
  let (params, body) ← allowingIn (inside traits.isAsync traits.isGenerator do
    let params ← parameters g
    if ← at? .leftBrace then return (params, ← functionBody g)
    else unexpected)
  node start (.function traits name params body)

/-- Reads the name of a function. -/
def functionName? (traits : FunctionTraits) (required : Bool) : P (Option Node) := do
  let t ← current
  if isIdentifier t then
    if traits.kind == .expression then
      return some (← inside traits.isAsync traits.isGenerator bindingIdentifier)
    else return some (← bindingIdentifier)
  else
    if required then
      match t.kind with
      | .punct .leftParen => report .noFunctionName t.span.start
      | .word name _ =>
        if isReserved name then fail (.expected "Identifier" t.kind) t.span.start
      | _ => pure ()
    return none

/-- Whether a function with or without `async` begins here. -/
def functionBegins : P Bool := do
  let t ← current
  if t.isWord "function" then return true
  else if t.isWord "async" then
    let next ← peek
    return next.isWord "function" && !next.newLine
  else return false

/-- Reads a function that begins with its keyword. -/
def functionWithKeyword (g : Knot) (kind : FunctionKind) (nameRequired : Bool) : P Node := do
  let start ← here
  let isAsync ← eatWord "async"
  expectWord "function"
  let isGenerator ← eat .star
  let traits : FunctionTraits := ⟨kind, isAsync, isGenerator⟩
  let name ← functionName? traits nameRequired
  functionRest g start traits name

/-- Reads a method from its parameters on. -/
def methodRest (g : Knot) (kind : FunctionKind) (isAsync isGenerator : Bool) : P Node := do
  functionRest g (← here) ⟨kind, isAsync, isGenerator⟩ none

/-! ### Classes -/

/-- What has been read of a class member before its name. -/
structure MemberMarks where
  isStatic : Bool := false
  isAsync : Bool := false
  isGenerator : Bool := false
  kind : MemberKind := .field
  deriving Inhabited

/-- Whether a token may follow a word that marks a member and does not name it. -/
def followsMark (t : Token) : Bool := startsMemberName t || t.isPunct .star

/-- Reads a word if what follows it makes it a mark. -/
def markWord (name : String) (marks : Token → Bool) : P Bool := do
  if ← atWord? name then
    if marks (← peek) then
      advanceKeyword
      return true
    else return false
  else return false

/-- Reads the marks before the name of a class member. -/
def memberMarks : P MemberMarks := do
  let isStatic ← markWord "static" followsMark
  if ← markWord "accessor" (fun next => startsMemberName next && !next.newLine) then
    return { isStatic, kind := .accessor }
  else
    let isAsync ← markWord "async" fun next => followsMark next && !next.newLine
    let isGenerator ← eat .star
    if isAsync || isGenerator then return { isStatic, isAsync, isGenerator, kind := .method }
    else if ← markWord "get" startsMemberName then return { isStatic, kind := .getter }
    else if ← markWord "set" startsMemberName then return { isStatic, kind := .setter }
    else return { isStatic }

/-- Reads the name of a class member, which may be private. -/
def classMemberName (g : Knot) : P (Bool × Node) := do
  let t ← current
  match t.kind with
  | .privateName name =>
    advance
    return (false, ← node t.span.start (.privateName name))
  | _ => memberName g

/-- Reads the value of a field. Only in a module it may have commas. -/
def fieldValue (g : Knot) : P Node := do
  let start ← here
  let first ← withReader (fun c => { c with inDecorator := false }) (g .assignment)
  if (← at? .comma) && (← read).goal == .script then reject .noSemicolon (← get).lastStop
  sequenceFrom g start first

/-- Reads one member of a class, or nothing at its end. -/
def classMember (g : Knot) : P (Option Node) := do
  let _ ← while? (at? .semicolon) advance
  if ← at? .rightBrace then return none
  let start ← here
  readDecorators g
  let decorators ← takeDecorators
  if (← atWord? "static") && (← peek).isPunct .leftBrace then
    advanceKeyword
    let (_, statements) ←
      withReader (fun c => { c with inAsync := true, inGenerator := false, inFunction := false })
        do
          expect .leftBrace
          let items ← while? (before? .rightBrace) (g (.statement .list))
          expect .rightBrace
          return ((), items)
    return some (← node start (.staticBlock statements))
  let m ← memberMarks
  let (computed, key) ← classMemberName g
  let member (kind : MemberKind) (value : Option Node) : P (Option Node) := do
    return some (← node start (.classMember kind m.isStatic computed decorators key value))
  match m.kind with
  | .getter => member .getter (some (← methodRest g .getter false false))
  | .setter => member .setter (some (← methodRest g .setter false false))
  | .method => member .method (some (← methodRest g .method m.isAsync m.isGenerator))
  | kind =>
    if ← at? .leftParen then
      member .method (some (← methodRest g .method false false))
    else
      let value ←
        if ← eat .assign then some <$> allowingIn (inside false false (fieldValue g))
        else pure none
      endStatement
      member kind value

/-- Reads the members of a class up to its end. -/
def classBody (g : Knot) : P (List Node) := do
  expect .leftBrace
  let members ← repeating do
    if ← before? .rightBrace then classMember g else return none
  expect .rightBrace
  return members

/-- Reads a class. -/
def readClass (g : Knot) (isDeclaration : Bool) : P Node := do
  let decorators ← takeDecorators
  let start ← here
  advanceKeyword
  let t ← current
  let name ← if isIdentifier t && !t.isWord "implements" then
      some <$> bindingIdentifier
    else pure none
  let heritage ← if ← eatWord "extends" then some <$> g .leftHandSide else pure none
  let members ← classBody g
  node start (.classDef isDeclaration decorators name heritage members)

end PatchSandbox.Script.Grammar
