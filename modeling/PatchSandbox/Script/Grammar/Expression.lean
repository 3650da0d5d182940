import PatchSandbox.Script.Grammar.Function

/-!
# Expressions

Binary operators are read by precedence climbing. Whether parentheses open the parameters of
an arrow function is decided from the next two tokens where they tell, and otherwise tried;
a place where that failed is not tried again.
-/

namespace PatchSandbox.Script.Grammar

/-! ### Operators -/

/-- A binary or logical operator: how tightly it binds, and whether it groups to the right. -/
structure Operator where
  level : Nat
  op : BinaryOp ⊕ LogicalOp
  rightward : Bool := false

/-- The operator that a token is. -/
def operator? (t : Token) : Option Operator :=
  match t.kind with
  | .word "in" _ => some ⟨13, .inl .isIn, false⟩
  | .word "instanceof" _ => some ⟨13, .inl .instanceOf, false⟩
  | .punct p =>
    match p with
    | .coalesce => some ⟨6, .inr .coalesce, false⟩
    | .logicalOr => some ⟨7, .inr .or, false⟩
    | .logicalAnd => some ⟨8, .inr .and, false⟩
    | .bar => some ⟨9, .inl .bitOr, false⟩
    | .caret => some ⟨10, .inl .bitXor, false⟩
    | .ampersand => some ⟨11, .inl .bitAnd, false⟩
    | .equal => some ⟨12, .inl .equal, false⟩
    | .notEqual => some ⟨12, .inl .notEqual, false⟩
    | .strictEqual => some ⟨12, .inl .strictEqual, false⟩
    | .strictNotEqual => some ⟨12, .inl .strictNotEqual, false⟩
    | .less => some ⟨13, .inl .less, false⟩
    | .greater => some ⟨13, .inl .greater, false⟩
    | .lessEqual => some ⟨13, .inl .lessEqual, false⟩
    | .greaterEqual => some ⟨13, .inl .greaterEqual, false⟩
    | .shiftLeft => some ⟨14, .inl .shiftLeft, false⟩
    | .shiftRight => some ⟨14, .inl .shiftRight, false⟩
    | .shiftRightUnsigned => some ⟨14, .inl .shiftRightUnsigned, false⟩
    | .plus => some ⟨15, .inl .add, false⟩
    | .minus => some ⟨15, .inl .sub, false⟩
    | .star => some ⟨16, .inl .mul, false⟩
    | .slash => some ⟨16, .inl .div, false⟩
    | .percent => some ⟨16, .inl .rem, false⟩
    | .power => some ⟨17, .inl .pow, true⟩
    | _ => none
  | _ => none

/-- The assignment that a token is. -/
def assignment? (t : Token) : Option AssignOp :=
  match t.kind with
  | .punct p =>
    match p with
    | .assign => some .set
    | .plusAssign => some (.binary .add)
    | .minusAssign => some (.binary .sub)
    | .starAssign => some (.binary .mul)
    | .slashAssign => some (.binary .div)
    | .percentAssign => some (.binary .rem)
    | .powerAssign => some (.binary .pow)
    | .shiftLeftAssign => some (.binary .shiftLeft)
    | .shiftRightAssign => some (.binary .shiftRight)
    | .shiftRightUnsignedAssign => some (.binary .shiftRightUnsigned)
    | .ampersandAssign => some (.binary .bitAnd)
    | .barAssign => some (.binary .bitOr)
    | .caretAssign => some (.binary .bitXor)
    | .logicalAndAssign => some (.logical .and)
    | .logicalOrAssign => some (.logical .or)
    | .coalesceAssign => some (.logical .coalesce)
    | _ => none
  | _ => none

/-- The operator that a token is before its operand. -/
def unary? (t : Token) : Option UnaryOp :=
  match t.kind with
  | .word "typeof" _ => some .typeOf
  | .word "void" _ => some .void
  | .word "delete" _ => some .delete
  | .punct .plus => some .plus
  | .punct .minus => some .minus
  | .punct .bang => some .not
  | .punct .tilde => some .bitNot
  | _ => none

/-- Whether a token counts up, or down. -/
def update? (t : Token) : Option Bool :=
  match t.kind with
  | .punct .increment => some true
  | .punct .decrement => some false
  | _ => none

/-- Whether a token, on the same line, makes the word before it an operator. -/
def startsOperand (t : Token) : Bool :=
  !t.newLine &&
    match t.kind with
    | .word _ _ => true
    | .string _ _ => true
    | .number _ _ => true
    | .bigint _ => true
    | _ => false

/-! ### Templates -/

/-- A piece of a template under the current token. -/
def quasi? (t : Token) : Option (Quasi × Bool) :=
  match t.kind with
  | .template q _ closes => some (q, closes)
  | _ => none

/-- Whether a token opens a template. -/
def opensTemplate (t : Token) : Bool :=
  match t.kind with
  | .template _ opens _ => opens
  | _ => false

/-- Reads a closing brace on as a piece of a template. -/
def rereadTemplate : P Unit := do
  let t ← current
  if t.isPunct .rightBrace then reread (← lexed (Lexer.templateTail t))

/-- Reads the pieces of a template after its first one. -/
def templateLoop (g : Knot) : Nat → List Quasi → List Node → P (List Quasi × List Node)
  | 0, _, _ => unexpected
  | n + 1, qs, parts => do
    let t ← current
    match (if opensTemplate t then none else quasi? t) with
    | some (q, closes) =>
      advance
      if closes then return ((q :: qs).reverse, parts.reverse)
      else templateLoop g n (q :: qs) parts
    | none =>
      if t.isEof then fail (.expected "$\x7d" t.kind) t.span.start
      else if (← read).goal == .script && parts.length == qs.length then
        reject (.expected "\x7d" t.kind) t.span.start
      else
        let part ← allowingIn (g .expression)
        rereadTemplate
        templateLoop g n qs (part :: parts)

/-- Reads a template. -/
def readTemplate (g : Knot) (isTagged : Bool) : P Node := do
  let t ← current
  match quasi? t with
  | none => unexpected
  | some (q, closes) =>
    advance
    if closes then
      if !isTagged && q.cooked.isNone then fail .badEscape t.span.start
      node t.span.start (.template [q] [])
    else
      let part ← allowingIn (g .expression)
      rereadTemplate
      let (qs, parts) ← templateLoop g (← read).bound [q] [part]
      if !isTagged && qs.any (·.cooked.isNone) then fail .badEscape t.span.start
      node t.span.start (.template qs parts)

/-! ### Objects and arrays -/

/-- Reads an argument or an element, which may be spread. -/
def spreadable (g : Knot) : P Node := do
  let start ← here
  if ← eat .ellipsis then
    let value ← g .assignment
    node start (.spread value)
  else g .assignment

/-- Reads arguments in parentheses. -/
def arguments (g : Knot) : P (List Node) := do
  expect .leftParen
  let args ← allowingIn (commaList .rightParen false (spreadable g))
  expect .rightParen
  return args

/-- Reads an array. -/
def readArray (g : Knot) : P Node := do
  let start ← here
  expect .leftBracket
  let items ← allowingIn (commaList .rightBracket true do
    if ← at? .comma then node (← here) .hole else spreadable g)
  let _ ← eat .comma
  expect .rightBracket
  node start (.array items)

/-- Reads a property that is only a name, perhaps with the default of a pattern. -/
def shorthand (g : Knot) : P Node := do
  let start ← here
  let name ← identifier .noExpression
  if ← eat .assign then
    let value ← allowingIn (g .assignment)
    modify fun s => { s with covers := start :: s.covers }
    let whole ← node start (.assign .set name value)
    node start (.property .field false true name whole)
  else node start (.property .field false true name name)

/-- Reads a member of an object. -/
def readProperty (g : Knot) : P Node := do
  let start ← here
  let t ← current
  let next ← peek
  let method (kind : MemberKind) (functionKind : FunctionKind) (isAsync isGenerator : Bool) :
      P Node := do
    let (computed, key) ← memberName g
    let value ← methodRest g functionKind isAsync isGenerator
    node start (.property kind computed false key value)
  if t.isPunct .ellipsis then spreadable g
  else if t.isWord "get" && startsMemberName next then
    advanceKeyword
    method .getter .getter false false
  else if t.isWord "set" && startsMemberName next then
    advanceKeyword
    method .setter .setter false false
  else if t.isWord "async" && (startsMemberName next || next.isPunct .star) && !next.newLine then
    advanceKeyword
    let isGenerator ← eat .star
    method .method .method true isGenerator
  else if t.isPunct .star && startsMemberName next then
    advance
    method .method .method false true
  else if isIdentifier t && !(next.isPunct .leftParen || next.isPunct .colon ||
      next.isPunct .dot || next.isPunct .less) then shorthand g
  else
    let (computed, key) ← memberName g
    if ← eat .colon then
      let value ← g .assignment
      node start (.property .field computed false key value)
    else if ← at? .leftParen then
      let value ← methodRest g .method false false
      node start (.property .method computed false key value)
    else unexpected

/-- Reads an object. -/
def readObject (g : Knot) : P Node := do
  let start ← here
  expect .leftBrace
  let members ← allowingIn (commaList .rightBrace true (readProperty g))
  let _ ← eat .comma
  expect .rightBrace
  node start (.object members)

/-! ### Primary expressions -/

/-- Reads an expression in parentheses. -/
def readParen (g : Knot) : P Node := do
  let start ← here
  expect .leftParen
  let first ← here
  let items ← withReader (fun c => { c with allowIn := true, inDecorator := false })
    (commaList .rightParen true (g .assignment))
  match items with
  | [] =>
    expect .rightParen
    fail .emptyParentheses start
  | [body] =>
    expect .rightParen
    node start (.paren body)
  | items =>
    let body ← node first (.sequence items)
    expect .rightParen
    node start (.paren body)

/-- Reads `new` with a member, or a construction. -/
def readNew (g : Knot) : P Node := do
  let start ← here
  advanceKeyword
  if ← eat .dot then
    let property ← anyName
    node start (.metaProperty "new" property)
  else
    let inner ← here
    let callee ← g .operand
    let args ← if ← at? .leftParen then arguments g else pure []
    match callee.form with
    | .importCall _ => report .newImport inner
    | .chain _ => report .optionalNew start
    | _ => pure ()
    node start (.new callee args)

/-- Reads `import` with a member, or a dynamic import. -/
def readImport (g : Knot) : P Node := do
  let start ← here
  advanceKeyword
  let t ← current
  if t.isPunct .dot then
    if (← read).goal == .script then reject .metaOutsideModule start
    advance
    let property ← anyName
    node start (.metaProperty "import" property)
  else if t.isPunct .leftParen then
    advance
    if ← eat .rightParen then fail .emptyImport start
    let source ← allowingIn (g .assignment)
    let options ←
      if ← eat .comma then
        if ← at? .rightParen then pure [] else pure [← allowingIn (g .assignment)]
      else pure []
    let _ ← eat .comma
    expect .rightParen
    node start (.importCall (source :: options))
  else
    match (← read).goal with
    | .module => unexpected
    | .script => reject .strayImport t.span.start

/-- Reads a regular expression. -/
def readRegex : P Node := do
  let t ← current
  let r ← lexed (Lexer.regex t)
  let c ← read
  let next ← lexed (Lexer.next c.goal r.offset r.rest)
  modify fun s => { s with token := next, lastStop := r.offset }
  node t.span.start (.regex r.pattern r.flags)

/-- Reads `super`, which needs a member or a call after it. -/
def readSuper : P Node := do
  let start ← here
  advanceKeyword
  let t ← current
  if !(t.isPunct .dot || t.isPunct .leftBracket || t.isPunct .leftParen) then
    report .straySuper start
  node start .superRef

/-- Reads a token that is a whole expression. -/
def single (form : Form Node) : P Node := do
  let start ← here
  advance
  node start form

/-- Reads an expression that no operator takes apart. -/
def primary (g : Knot) : P Node := do
  let t ← current
  match t.kind with
  | .number value form => single (.number value form)
  | .bigint value => single (.bigint value)
  | .string value legacy => single (.string value legacy)
  | .template _ _ _ => readTemplate g false
  | .punct .leftBracket => readArray g
  | .punct .leftBrace => readObject g
  | .punct .leftParen => readParen g
  | .punct .slash => readRegex
  | .punct .slashAssign => readRegex
  | .punct .at =>
    readDecorators g
    if ← atWord? "class" then readClass g false else unexpected
  | .word name _ =>
    match name with
    | "this" => single .this
    | "null" => single .null
    | "true" => single (.bool true)
    | "false" => single (.bool false)
    | "function" => functionWithKeyword g .expression false
    | "class" => readClass g false
    | "new" => readNew g
    | "super" => readSuper
    | "import" => readImport g
    | "async" =>
      if ← functionBegins then functionWithKeyword g .expression false
      else identifier .noExpression
    | _ => identifier .noExpression
  | kind => fail (.noExpression kind) t.span.start

/-! ### Members and calls -/

/-- Reads what follows a point. -/
def memberAfter (start : Nat) (isOptional : Bool) (target : Node) : P Node := do
  let t ← current
  match t.kind with
  | .privateName name =>
    advance
    node start (.privateMember isOptional target name)
  | _ =>
    let name ← anyName
    node start (.member isOptional target name)

/-- Reads what follows an opening bracket. -/
def indexAfter (g : Knot) (start : Nat) (isOptional : Bool) (target : Node) : P Node := do
  let key ← allowingIn (g .expression)
  expect .rightBracket
  node start (.index isOptional target key)

/-- A chain of members and calls while it is read. -/
structure Chain where
  body : Node
  /-- The chain has an optional link. -/
  isOptional : Bool := false
  deriving Inhabited

/-- Reads one more member, or a template, onto a chain. -/
def memberStep (g : Knot) (start : Nat) (chain : Chain) : P (Option Chain) := do
  let t ← current
  let inDecorator := (← read).inDecorator
  if t.isPunct .dot then
    advance
    return some { chain with body := ← memberAfter start false chain.body }
  else if t.isPunct .optionalDot then
    let next ← peek
    match next.kind with
    | .punct .leftBracket =>
      if inDecorator then return none
      else
        advance
        advance
        return some ⟨← indexAfter g start true chain.body, true⟩
    | .privateName _ =>
      advance
      return some ⟨← memberAfter start true chain.body, true⟩
    | .word _ _ =>
      advance
      return some ⟨← memberAfter start true chain.body, true⟩
    | _ => return none
  else if t.isPunct .leftBracket && !inDecorator then
    advance
    return some { chain with body := ← indexAfter g start false chain.body }
  else if opensTemplate t then
    let body ← readTemplate g true
    if chain.isOptional then report .optionalTemplate body.span.start
    return some { chain with body := ← node start (.tagged chain.body body) }
  else return none

/-- Reads members onto a chain. -/
def memberLoop (g : Knot) (start : Nat) : Nat → Chain → P Chain
  | 0, chain => return chain
  | n + 1, chain => do
    match ← memberStep g start chain with
    | some chain => memberLoop g start n chain
    | none => return chain

/-- Reads one more call onto a chain, after its members. -/
def callStep (g : Knot) (start : Nat) (chain : Chain) : P (Chain × Bool) := do
  let chain ← memberLoop g start (← read).bound chain
  let isOptional ← eat .optionalDot
  let chain := { chain with isOptional := chain.isOptional || isOptional }
  let t ← current
  if isOptional && opensTemplate t then
    let body ← readTemplate g true
    report .optionalTemplate body.span.start
    return ({ chain with body := ← node start (.tagged chain.body body) }, true)
  else if t.isPunct .leftParen then
    let args ← arguments g
    return ({ chain with body := ← node start (.call isOptional chain.body args) }, true)
  else
    if isOptional && (← read).goal == .script then
      reject (.expected "field name" t.kind) t.span.start
    return (chain, false)

/-- Reads calls onto a chain. -/
def callLoop (g : Knot) (start : Nat) : Nat → Chain → P Chain
  | 0, chain => return chain
  | n + 1, chain => do
    match ← callStep g start chain with
    | (chain, true) => callLoop g start n chain
    | (chain, false) => return chain

/-- A chain as an expression. -/
def closeChain (start : Nat) (chain : Chain) : P Node := do
  if chain.isOptional then
    match chain.body.form with
    | .call _ _ _ => node start (.chain chain.body)
    | .member _ _ _ => node start (.chain chain.body)
    | .index _ _ _ => node start (.chain chain.body)
    | .privateMember _ _ _ => node start (.chain chain.body)
    | _ => return chain.body
  else return chain.body

/-- Reads a primary expression with its members, as `new` takes it. -/
def operandOfNew (g : Knot) : P Node := do
  let start ← here
  let body ← primary g
  closeChain start (← memberLoop g start (← read).bound ⟨body, false⟩)

/-- Reads an expression with its members and calls. -/
def leftHandSide (g : Knot) : P Node := do
  let start ← here
  let body ← primary g
  let chain ← memberLoop g start (← read).bound ⟨body, false⟩
  closeChain start (← callLoop g start (← read).bound chain)

/-! ### Operators -/

/-- Reads an expression with what counts it up or down. -/
def updateExpression (g : Knot) : P Node := do
  let start ← here
  match update? (← current) with
  | some increment =>
    advance
    let target ← g .unary
    checkSimpleTarget .count target
    node start (.update increment true target)
  | none =>
    let target ← leftHandSide g
    let t ← current
    match update? t with
    | some increment =>
      if t.newLine then return target
      else
        advance
        checkSimpleTarget .count target
        node start (.update increment false target)
    | none => return target

/-- Whether an `await` is an operator here. -/
def awaits : P Bool := do
  let t ← current
  if t.isWord "await" then
    if (← read).inAsync then return true else return startsOperand (← peek)
  else return false

/-- Reads an expression with the operators before it. -/
def unaryExpression (g : Knot) : P Node := do
  let t ← current
  let start := t.span.start
  match unary? t with
  | some op =>
    advanceKeyword
    let operand ← g .unary
    node start (.unary op operand)
  | none =>
    if ← awaits then
      if !(← read).inAsync then report .awaitOutsideAsync start
      advanceKeyword
      let operand ← withReader (fun c => { c with inAsync := true }) (g .unary)
      node start (.await operand)
    else if t.isPunct .less then fail (.noExpression t.kind) start
    else updateExpression g

/-- Reads operators that bind more tightly than a level, and their right operands. -/
def binaryLoop (g : Knot) (start above : Nat) : Nat → Node → P Node
  | 0, left => return left
  | n + 1, left => do
    let t ← current
    match operator? t with
    | none => return left
    | some o =>
      if (if o.rightward then o.level < above else o.level ≤ above) then return left
      else if t.isWord "in" && !(← read).allowIn then return left
      else
        advanceKeyword
        let right ← g (.binary o.level)
        let form : Form Node := match o.op with
          | .inl op => .binary op left right
          | .inr op => .logical op left right
        binaryLoop g start above n (← node start form)

/-- Reads an expression of operators that bind more tightly than a level. -/
def binaryExpression (g : Knot) (above : Nat) : P Node := do
  let t ← current
  let start := t.span.start
  let left ←
    match t.kind with
    | .privateName name =>
      if (← read).allowIn then
        advance
        expectWord "in"
        let right ← unaryExpression g
        node start (.privateIn name right)
      else unaryExpression g
    | _ => unaryExpression g
  binaryLoop g start above (← read).bound left

/-! ### Arrow functions -/

/-- Whether an arrow function starts, as far as the next tokens tell. -/
inductive Likelihood where
  | yes
  | no
  | maybe
  deriving DecidableEq, Repr, Inhabited

/-- Looks at the tokens from an opening parenthesis on. -/
def parenthesesOpenArrow : P Likelihood := do
  if !(← eat .leftParen) then return .no
  let t ← current
  match t.kind with
  | .punct .rightParen =>
    advance
    let t ← current
    return if t.isPunct .arrow || t.isPunct .leftBrace then .yes else .no
  | .punct .leftBracket => return .maybe
  | .punct .leftBrace => return .maybe
  | .punct .ellipsis =>
    advance
    return if ← at? .leftParen then .no else .yes
  | .word name _ =>
    if isReserved name && name != "this" then return .no
    advance
    let t ← current
    match t.kind with
    | .punct .colon => return .yes
    | .punct .question =>
      advance
      let t ← current
      return if t.isPunct .colon || t.isPunct .comma || t.isPunct .assign ||
          t.isPunct .rightParen then .yes else .no
    | .punct .comma => return .maybe
    | .punct .assign => return .maybe
    | .punct .rightParen => return .maybe
    | _ => return .no
  | _ => return .no

/-- Whether an arrow function with parameters in parentheses starts here. -/
def arrowStarts : P Likelihood := do
  let t ← current
  if t.isPunct .leftParen then lookAhead parenthesesOpenArrow
  else if t.isWord "async" then
    lookAhead do
      advance
      if (← current).newLine then return .no else parenthesesOpenArrow
  else return .no

/-- Reads the body of an arrow function. -/
def arrowBody (g : Knot) (start : Nat) (isAsync : Bool) (params : List Node) : P Node := do
  let body ← inside isAsync false do
    if ← at? .leftBrace then functionBody g else g .assignment
  node start (.function ⟨.arrow, isAsync, false⟩ none params body)

/-- Reads an arrow function up to its arrow: where it starts, whether it is asynchronous, and
its parameters. -/
def arrowHead (g : Knot) : P (Nat × Bool × List Node) := do
  let start ← here
  let isAsync ← eatWord "async"
  let params ← withReader (fun c => { c with inAsync := c.inAsync || isAsync }) (parameters g)
  let t ← current
  if t.newLine then report .lineBeforeArrow t.span.start
  expect .arrow
  return (start, isAsync, params)

/-- Reads an arrow function with parameters in parentheses, if there is one. -/
def parenthesizedArrow? (g : Knot) : P (Option Node) := do
  match ← arrowStarts with
  | .no => return none
  | .yes =>
    let (start, isAsync, params) ← arrowHead g
    return some (← arrowBody g start isAsync params)
  | .maybe =>
    let start ← here
    if (← get).notArrow.contains start then return none
    match ← attempt (arrowHead g) with
    | some (start, isAsync, params) => return some (← arrowBody g start isAsync params)
    | none =>
      modify fun s => { s with notArrow := start :: s.notArrow }
      return none

/-- Reads an arrow function whose only parameter has been read. -/
def simpleArrow (g : Knot) (start : Nat) (isAsync : Bool) (param : Node) : P Node := do
  let t ← current
  if t.newLine then report .lineBeforeArrow start
  expect .arrow
  arrowBody g start isAsync [param]

/-- Whether an asynchronous arrow function with a bare parameter starts here. -/
def asyncArrowStarts : P Bool := do
  if !(← atWord? "async") then return false
  let next ← peek
  if next.newLine || !isIdentifier next then return false
  lookAhead do
    advance
    advance
    at? .arrow

/-! ### Assignments -/

/-- Whether a `yield` is an operator here. -/
def yields : P Bool := do
  let t ← current
  if t.isWord "yield" then
    if (← read).inGenerator then return true else return startsOperand (← peek)
  else return false

/-- Whether a token cannot begin the operand of `yield`. -/
def endsYield (t : Token) : Bool :=
  t.isEof || t.isPunct .semicolon || t.isPunct .rightBracket || t.isPunct .rightBrace ||
    t.isPunct .rightParen || t.isPunct .colon || t.isPunct .comma || t.isWord "in"

/-- Reads a `yield`. -/
def readYield (g : Knot) : P Node := do
  let start ← here
  if !(← read).inGenerator then report .yieldOutsideGenerator start
  advanceKeyword
  let t ← current
  if t.newLine then node start (.yield false none)
  else
    let delegate ← eat .star
    if !delegate && endsYield (← current) then node start (.yield false none)
    else
      let value ← withReader (fun c => { c with inGenerator := true }) (g .assignment)
      node start (.yield delegate (some value))

/-- Reads a condition's alternatives, if there are some. -/
def conditionalRest (g : Knot) (start : Nat) (test : Node) : P Node := do
  if ← eat .question then
    let yes ← allowingIn (g .assignment)
    expect .colon
    let no ← g .assignment
    node start (.conditional test yes no)
  else return test

/-- Reads an expression without a comma. -/
def assignmentExpression (g : Knot) : P Node := do
  if ← yields then readYield g
  else
    match ← parenthesizedArrow? g with
    | some n => return n
    | none =>
      let start ← here
      if ← asyncArrowStarts then
        advanceKeyword
        let param ← withReader (fun c => { c with inAsync := true }) bindingIdentifier
        simpleArrow g start true param
      else
        let left ← binaryExpression g 1
        let t ← current
        let isName := match left.form with | .name _ => true | _ => false
        if isName && t.isPunct .arrow then simpleArrow g start false left
        else
          match assignment? t with
          | some op =>
            if op == .set then checkTarget left else checkSimpleTarget .whole left
            advance
            let value ← g .assignment
            node start (.assign op left value)
          | none => conditionalRest g start left

/-- Reads an expression. -/
def expression (g : Knot) : P Node := do
  let start ← here
  let first ← withReader (fun c => { c with inDecorator := false }) (g .assignment)
  sequenceFrom g start first

end PatchSandbox.Script.Grammar
