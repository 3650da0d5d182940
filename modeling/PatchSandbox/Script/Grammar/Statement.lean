import PatchSandbox.Script.Grammar.Expression

/-!
# Statements

* **`statement`** reads one statement. Where it stands alone, as the body of another
  statement, declarations are flaws.
* **`importDeclaration`** and **`exportDeclaration`** are read in lists of statements only.
-/

namespace PatchSandbox.Script.Grammar

/-! ### Variables -/

/-- What a declaration of variables belongs to. -/
inductive VariablePlace where
  | statement
  | loopHead
  | exported
  deriving DecidableEq, Repr, Inhabited

/-- Reads one variable. -/
def declarator (g : Knot) (kind : VarKind) (place : VariablePlace) : P Node := do
  let start ← here
  let target ← g .bindingTarget
  if ← eat .assign then
    let value ← g .assignment
    node start (.declarator target (some value))
  else
    if place != .loopHead then
      match target.form with
      | .name _ =>
        if kind == .const then report .constWithoutValue target.span.start
      | _ => report .patternWithoutValue target.span.start
    node start (.declarator target none)

/-- Reads variables after the keyword that declares them. -/
def declaratorsAfter (g : Knot) (start : Nat) (kind : VarKind) (place : VariablePlace) :
    P Node := do
  let first ← declarator g kind place
  let rest ← repeating do
    if ← eat .comma then return some (← declarator g kind place) else return none
  if place != .loopHead then endStatement
  node start (.declare kind (first :: rest))

/-- The declaration that a token begins. -/
def varKind? (t : Token) : Option VarKind :=
  match t.kind with
  | .word "var" _ => some .var
  | .word "let" _ => some .let
  | .word "const" _ => some .const
  | _ => none

/-- Reads a declaration of variables. -/
def variableList (g : Knot) (place : VariablePlace) : P Node := do
  let start ← here
  match varKind? (← current) with
  | some kind =>
    advanceKeyword
    declaratorsAfter g start kind place
  | none => unexpected

/-- Whether a token continues an expression that begins with the identifier `let`. -/
def continuesName (t : Token) : Bool := (assignment? t).isSome || (operator? t).isSome

/-- Reads a statement that is an expression, whose start has been read. -/
def expressionStatement (start : Nat) (body : Node) : P Node := do
  endStatement
  node start (.expression body)

/-- Reads a statement that begins with `let`, which may be an identifier. -/
def letStatement (g : Knot) (place : Place) : P Node := do
  let start ← here
  let next ← peek
  if continuesName next then
    let body ← g .assignment
    expressionStatement start body
  else if next.isPunct .dot || next.isPunct .leftParen then
    let body ← g .expression
    if (← read).goal == .script then endStatement
    node start (.expression body)
  else if (place == .single && !next.isPunct .leftBracket) || next.isPunct .semicolon then
    let body ← identifier .noExpression
    expressionStatement start body
  else
    let n ← variableList g .statement
    if place == .single then report .lexicalInSingle start
    return n

/-! ### Blocks -/

/-- Reads statements in braces. -/
def blockStatement (g : Knot) : P Node := do
  let start ← here
  expect .leftBrace
  let statements ← while? (before? .rightBrace) (g (.statement .list))
  expect .rightBrace
  node start (.block statements)

/-- Reads an expression in parentheses that a keyword asks for. -/
def condition (g : Knot) : P Node := do
  expect .leftParen
  let n ← g .expression
  expect .rightParen
  return n

/-- Reads a statement that stands alone. -/
def body (g : Knot) : P Node := g (.statement .single)

/-- Reads a conditional statement. -/
def ifStatement (g : Knot) : P Node := do
  let start ← here
  advanceKeyword
  let test ← condition g
  let yes ← body g
  let no ← if ← eatWord "else" then some <$> body g else pure none
  node start (.ifElse test yes no)

/-! ### Loops -/

/-- Reads a loop that tests before each turn. -/
def whileStatement (g : Knot) : P Node := do
  let start ← here
  advanceKeyword
  let test ← condition g
  let body ← body g
  node start (.whileLoop test body)

/-- Reads a loop that tests after each turn. -/
def doStatement (g : Knot) : P Node := do
  let start ← here
  advanceKeyword
  let body ← body g
  expectWord "while"
  let test ← condition g
  let _ ← eat .semicolon
  node start (.doWhile body test)

/-- Reads a loop with three clauses, from the first semicolon on. -/
def threeClauses (g : Knot) (start : Nat) (isAwait : Bool) (init : Option Node) : P Node := do
  expect .semicolon
  let t ← current
  let test ← if t.isPunct .semicolon || t.isPunct .rightParen then pure none
    else some <$> allowingIn (g .expression)
  expect .semicolon
  let update ← if ← at? .rightParen then pure none else some <$> allowingIn (g .expression)
  expect .rightParen
  if isAwait then report .awaitedLoop start
  let body ← body g
  node start (.forLoop init test update body)

/-- Reads a loop over something, from `in` or `of` on. -/
def loopOver (g : Knot) (start : Nat) (isAwait : Bool) (left : Node) : P Node := do
  let overKeys ← atWord? "in"
  advanceKeyword
  let right ← if overKeys then g .expression else g .assignment
  expect .rightParen
  if isAwait && overKeys then report .awaitedLoop start
  let body ← body g
  node start (if overKeys then .forIn left right body else .forOf isAwait left right body)

/-- Whether a token may follow `let` where it declares. -/
def followsLet (t : Token) : Bool :=
  match t.kind with
  | .word name _ => !isReserved name
  | .punct p => p == .leftBracket || p == .leftBrace
  | _ => false

/-- Whether a loop goes over something. -/
def atLoopOver : P Bool := do
  let t ← current
  return t.isWord "in" || t.isWord "of"

/-- Whether a loop awaits what it goes over. -/
def awaitMark : P Bool := do
  if ← atWord? "await" then
    if !(← read).inAsync then report .awaitOutsideAsync (← here)
    advanceKeyword
    return true
  else return false

/-- Reads a loop over something that assigns to a target. -/
def loopAssigning (g : Knot) (start : Nat) (isAwait isAsync : Bool) (target : Node) : P Node := do
  match ← attempt (checkTarget target) with
  | some _ => pure ()
  | none => fail .badLoopTarget target.span.start
  if isAsync && !isAwait && (← atWord? "of") then report .loopOfAsync target.span.start
  loopOver g start isAwait target

/-- Reads a loop from the inside of its parentheses on. -/
def loopClauses (g : Knot) (start : Nat) (isAwait : Bool) : P Node := do
  let t ← current
  if t.isPunct .semicolon || t.isPunct .rightParen then threeClauses g start isAwait none
  else if t.isWord "const" || t.isWord "var" || (t.isWord "let" && followsLet (← peek)) then
    let init ← forbiddingIn (variableList g .loopHead)
    if ← atLoopOver then loopOver g start isAwait init
    else threeClauses g start isAwait (some init)
  else
    let isAsync := t.isPlainWord "async" && (← peek).isWord "of"
    let init ← forbiddingIn (g .expression)
    if ← atLoopOver then loopAssigning g start isAwait isAsync init
    else threeClauses g start isAwait (some init)

/-- Reads a loop that begins with `for`. -/
def forStatement (g : Knot) : P Node := do
  let start ← here
  advanceKeyword
  let isAwait ← awaitMark
  expect .leftParen
  loopClauses g start isAwait

/-! ### Jumps -/

/-- Reads a label, if there is one. -/
def label? : P (Option String) := do
  if ← mayEnd then return none
  else
    let t ← current
    match t.kind with
    | .word name _ =>
      let c ← read
      if isReserved name || (c.inAsync && name == "await") || (c.inGenerator && name == "yield")
      then unexpected
      else
        advance
        return some name
    | _ => unexpected

/-- Reads a jump out of a statement or to the next turn of a loop. -/
def jumpStatement (form : Option String → Form Node) : P Node := do
  let start ← here
  advanceKeyword
  let label ← label?
  endStatement
  node start (form label)

/-- Reads a `return`. -/
def returnStatement (g : Knot) : P Node := do
  let start ← here
  advanceKeyword
  let value ←
    if ← eat .semicolon then pure none
    else if ← mayEnd then pure none
    else
      let n ← allowingIn (g .expression)
      endStatement
      pure (some n)
  if !(← read).inFunction then report .returnOutsideFunction start
  node start (.returnValue value)

/-- Reads a `throw`. -/
def throwStatement (g : Knot) : P Node := do
  let start ← here
  advanceKeyword
  if (← current).newLine then report .lineAfterThrow start
  let value ← g .expression
  endStatement
  node start (.throwValue value)

/-! ### Other statements -/

/-- Reads one case of a `switch`. -/
def switchCase (g : Knot) : P Node := do
  let start ← here
  let t ← current
  let test ←
    if t.isWord "default" then
      advanceKeyword
      pure none
    else if t.isWord "case" then
      advanceKeyword
      some <$> g .expression
    else unexpected
  expect .colon
  let statements ← repeating do
    let t ← current
    if t.isWord "case" || t.isWord "default" || t.isPunct .rightBrace || t.isEof then return none
    else return some (← g (.statement .list))
  node start (.switchCase test statements)

/-- Reads a `switch`. -/
def switchStatement (g : Knot) : P Node := do
  let start ← here
  advanceKeyword
  let value ← condition g
  expect .leftBrace
  let cases ← while? (before? .rightBrace) (switchCase g)
  expect .rightBrace
  node start (.switchOn value cases)

/-- Reads a `with`. -/
def withStatement (g : Knot) : P Node := do
  let start ← here
  advanceKeyword
  let object ← condition g
  let body ← body g
  node start (.withObject object body)

/-- Reads what catches an exception. -/
def catchClause (g : Knot) : P Node := do
  let start ← here
  advanceKeyword
  let param ←
    if ← eat .leftParen then
      let n ← g .bindingTarget
      expect .rightParen
      pure (some n)
    else pure none
  let body ← blockStatement g
  node start (.catchClause param body)

/-- Reads a `try`. -/
def tryStatement (g : Knot) : P Node := do
  let start ← here
  advanceKeyword
  let block ← blockStatement g
  let handler ← if ← atWord? "catch" then some <$> catchClause g else pure none
  let finalizer ← if ← eatWord "finally" then some <$> blockStatement g else pure none
  if handler.isNone && finalizer.isNone then report .noHandler block.span.stop
  node start (.tryBlock block handler finalizer)

/-- Reads a function declaration. -/
def functionDeclaration (g : Knot) (place : Place) : P Node := do
  let n ← functionWithKeyword g .declaration true
  if place == .single then
    match n.form with
    | .function traits _ _ _ =>
      if traits.isAsync then report (.functionInSingle "Async functions") n.span.start
      else if traits.isGenerator then report (.functionInSingle "Generators") n.span.start
      else if (← read).goal == .script then
        reject (.functionInSingle "Functions") n.span.start
    | _ => pure ()
  return n

/-- Reads a statement that begins with an expression, or a label. -/
def expressionOrLabel (g : Knot) : P Node := do
  let start ← here
  let e ← g .expression
  match e.form with
  | .name label =>
    if ← eat .colon then
      let body ← body g
      node start (.labelled label body)
    else expressionStatement start e
  | _ => expressionStatement start e

/-- Reads a statement after its decorators. -/
def undecorated (g : Knot) (place : Place) : P Node := do
  let t ← current
  let start := t.span.start
  match t.kind with
  | .punct .leftBrace => blockStatement g
  | .punct .semicolon =>
    advance
    node start .empty
  | .word name escaped =>
    match name with
    | "if" => ifStatement g
    | "do" => doStatement g
    | "while" => whileStatement g
    | "for" => forStatement g
    | "continue" => jumpStatement .continueTo
    | "break" => jumpStatement .breakTo
    | "with" => withStatement g
    | "switch" => switchStatement g
    | "throw" => throwStatement g
    | "try" => tryStatement g
    | "debugger" =>
      advanceKeyword
      endStatement
      node start .debugger
    | "class" =>
      let n ← readClass g true
      if place == .single && (← read).goal == .script then reject .lexicalInSingle start
      return n
    | "return" => returnStatement g
    | "var" => variableList g .statement
    | "const" =>
      let n ← variableList g .statement
      if place == .single then report .lexicalInSingle start
      return n
    | "let" => if escaped then expressionOrLabel g else letStatement g place
    | "function" => functionDeclaration g place
    | "async" =>
      if ← functionBegins then functionDeclaration g place else expressionOrLabel g
    | "using" =>
      let next ← peek
      if isIdentifier next && !next.newLine then
        if (← read).goal == .script then reject .noSemicolon t.span.stop
        advance
        declaratorsAfter g start .using .statement
      else expressionOrLabel g
    | _ => expressionOrLabel g
  | _ => expressionOrLabel g

/-- Reads a statement. -/
def statement (g : Knot) (place : Place) : P Node := do
  if ← at? .at then readDecorators g
  undecorated g place

/-! ### Imports and exports -/

/-- Reads a string that names a module. -/
def moduleSource : P Node := do
  let t ← current
  match t.kind with
  | .string value legacy =>
    advance
    node t.span.start (.string value legacy)
  | _ => unexpected

/-- The value of a string node. -/
def stringValue (n : Node) : Text.CodeUnits :=
  match n.form with
  | .string value _ => value
  | _ => ∅

/-- Reads a name as modules export it: a word or a string. -/
def exportName : P (Option String) := do
  let t ← current
  match t.kind with
  | .string _ _ =>
    advance
    return none
  | _ => some <$> anyName

/-- Reads attributes of an import, if there are some. -/
def importAttributes : P Unit := do
  let t ← current
  if t.isWord "with" || (t.isWord "assert" && !t.newLine) then
    advanceKeyword
    expect .leftBrace
    let _ ← commaList .rightBrace false do
      let _ ← exportName
      expect .colon
      moduleSource
    expect .rightBrace

/-- Reads `* as name` of an import. -/
def importNamespace : P Unit := do
  advance
  expectWord "as"
  discard bindingIdentifier

/-- Reads the names in braces of an import. -/
def importNames : P Unit := do
  expect .leftBrace
  let _ ← commaList .rightBrace false do
    if (← peek).isWord "as" then
      let _ ← exportName
      expectWord "as"
      discard bindingIdentifier
    else discard bindingIdentifier
  expect .rightBrace

/-- Reads what an import binds, up to `from`. -/
def importBindings : P Unit := do
  let t ← current
  if isIdentifier t then
    discard bindingIdentifier
    if ← eat .comma then
      let t ← current
      if t.isPunct .star then importNamespace
      else if t.isPunct .leftBrace then importNames
      else unexpected
  else if t.isPunct .star then importNamespace
  else if t.isPunct .leftBrace then importNames
  expectWord "from"

/-- Reads an import declaration. -/
def importDeclaration : P Node := do
  let start ← here
  advanceKeyword
  match (← current).kind with
  | .string _ _ => pure ()
  | _ => importBindings
  let source ← moduleSource
  importAttributes
  endStatement
  node start (.importModule (stringValue source))

/-- Reads one name of an export, and gives the local name if it is a word. -/
def exportSpecifier : P (Nat × Option String) := do
  let start ← here
  let name ← exportName
  if ← eatWord "as" then discard exportName
  return (start, name)

/-- Reads the names in braces of an export. -/
def exportNames (start : Nat) : P Node := do
  expect .leftBrace
  let names ← commaList .rightBrace false exportSpecifier
  expect .rightBrace
  if (← eatWord "from") && (match (← current).kind with | .string _ _ => true | _ => false) then
    discard moduleSource
    importAttributes
  else
    for (start, name) in names do
      match name with
      | some name => if isReserved name then report (.reservedExport name) start
      | none => report (.reservedExport "") start
  endStatement
  node start (.exportNamed none)

/-- Reads what `export default` exports. -/
def defaultExport (g : Knot) : P Node := do
  readDecorators g
  if ← atWord? "class" then readClass g true
  else if ← functionBegins then functionWithKeyword g .declaration false
  else
    let n ← g .assignment
    endStatement
    return n

/-- Reads a declaration that is exported. -/
def exportedDeclaration (g : Knot) : P Node := do
  let t ← current
  if t.isWord "class" then readClass g true
  else if (varKind? t).isSome then variableList g .exported
  else if ← functionBegins then functionWithKeyword g .declaration true
  else unexpected

/-- Reads an export declaration. -/
def exportDeclaration (g : Knot) : P Node := do
  let start ← here
  advanceKeyword
  readDecorators g
  let t ← current
  if t.isWord "default" then
    advanceKeyword
    let value ← defaultExport g
    node start (.exportDefault value)
  else if t.isPunct .star then
    advance
    if ← eatWord "as" then discard exportName
    expectWord "from"
    let source ← moduleSource
    importAttributes
    endStatement
    node start (.exportAll (stringValue source))
  else if t.isPunct .leftBrace then exportNames start
  else
    let n ← exportedDeclaration g
    node start (.exportNamed (some n))

end PatchSandbox.Script.Grammar
