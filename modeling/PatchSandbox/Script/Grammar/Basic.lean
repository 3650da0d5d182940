import PatchSandbox.Script.Lexer
import PatchSandbox.Script.Tree

/-!
# Reading the grammar

The readers of the grammar are functions in `P`. They see a context, change a state that
holds the current token, and stop at a fatal flaw.

* A **fatal** flaw ends reading. A flaw that does not is **reported**, and reading goes on;
  of the reported flaws the first counts, unless a flaw of the text itself is found later.
* Where a reader is only tried, another one reads the same text if it fails. What is no script
  by itself is **rejected** instead, and that ends every trial.
* Readers that need each other are tied together by a **`Knot`**: a reader for every
  `Nonterminal`. `Program.read` unrolls it as deep as the source is long.
-/

namespace PatchSandbox.Script

/-- What surrounds the text that is read. -/
structure Context where
  goal : Goal
  /-- Bound of every repetition: no list has more items than the source has characters. -/
  bound : Nat
  /-- `in` is an operator here. -/
  allowIn : Bool := true
  inAsync : Bool := false
  inGenerator : Bool := false
  inFunction : Bool := false
  inDecorator : Bool := false
  deriving Inhabited

/-- What changes while a source is read. -/
structure ReaderState where
  token : Token
  /-- Where the token before the current one stops. -/
  lastStop : Nat := 0
  /-- The first flaw that was reported. -/
  reported : Option Flaw := none
  /-- Tokens at which no arrow function starts, although they look like it. -/
  notArrow : List Nat := []
  /-- Decorators that wait for their class. -/
  decorators : List Node := []
  /-- Objects' shorthands with a default, which only patterns may have. -/
  covers : List Nat := []
  /-- No other way to read the text is tried any more. -/
  isRejected : Bool := false
  deriving Inhabited

/-- A reader. -/
abbrev P := ReaderT Context (EStateM Flaw ReaderState)

/-- Where a statement stands: in a list, or alone as the body of another one. -/
inductive Place where
  | list
  | single
  deriving DecidableEq, Repr, Inhabited

/-- What readers ask of each other. -/
inductive Nonterminal where
  | statement (place : Place)
  | importDeclaration
  | exportDeclaration
  | expression
  | assignment
  | binary (above : Nat)
  | unary
  | operand
  | leftHandSide
  | bindingTarget
  deriving DecidableEq, Repr, Inhabited

/-- A reader for every nonterminal. -/
abbrev Knot := Nonterminal → P Node

namespace Grammar

/-! ### Tokens -/

/-- The current token. -/
def current : P Token := do return (← get).token

/-- Ends reading. -/
def fail {α : Type} (cause : Cause) (offset : Nat) : P α := throw ⟨cause, offset⟩

/-- Ends reading for good. -/
def reject {α : Type} (cause : Cause) (offset : Nat) : P α := do
  modify fun s => { s with isRejected := true }
  fail cause offset

/-- Reports a flaw and goes on. -/
def report (cause : Cause) (offset : Nat) : P Unit :=
  modify fun s => { s with reported := s.reported.or (some ⟨cause, offset⟩) }

/-- The current token fits nowhere. -/
def unexpected {α : Type} : P α := do
  let t ← current
  fail (.unexpected t.kind) t.span.start

/-- Lets a token read by the lexer take effect. -/
def lexed {α : Type} : Lexer.Read α → P α
  | .ok a => pure a
  | .error flaw => throw flaw

/-- The token after the current one. -/
def peek : P Token := do
  let t ← current
  lexed (Lexer.next (← read).goal t.span.stop t.rest)

/-- Replaces the current token by a reading of the same text. -/
def reread (t : Token) : P Unit := modify fun s => { s with token := t }

/-- Goes on to the next token. -/
def advance : P Unit := do
  let next ← peek
  modify fun s => { s with token := next, lastStop := s.token.span.stop }

/-- Goes on after a keyword, which may not be spelled with escapes. -/
def advanceKeyword : P Unit := do
  let t ← current
  match t.kind with
  | .word _ true => report .escapedKeyword t.span.start
  | _ => pure ()
  advance

/-- Whether the current token is a punctuator. -/
def at? (p : Punct) : P Bool := do return (← current).isPunct p

/-- Whether the current token is a word. -/
def atWord? (name : String) : P Bool := do return (← current).isWord name

/-- Goes on if the current token is a punctuator. -/
def eat (p : Punct) : P Bool := do
  if ← at? p then
    advance
    return true
  else return false

/-- Goes on if the current token is a word. -/
def eatWord (name : String) : P Bool := do
  if ← atWord? name then
    advanceKeyword
    return true
  else return false

/-- The current token has to be a punctuator. -/
def expect (p : Punct) : P Unit := do
  let t ← current
  if t.isPunct p then advance else fail (.expected p.text t.kind) t.span.start

/-- The current token has to be a word. -/
def expectWord (name : String) : P Unit := do
  let t ← current
  if t.isWord name then advanceKeyword else fail (.expected name t.kind) t.span.start

/-- Whether a statement may end before the current token without a semicolon. -/
def mayEnd : P Bool := do
  let t ← current
  return t.isPunct .semicolon || t.isPunct .rightBrace || t.isEof || t.newLine

/-- Ends a statement. -/
def endStatement : P Unit := do
  if ← mayEnd then discard (eat .semicolon)
  else fail .noSemicolon (← get).lastStop

/-! ### Nodes -/

/-- Where the next node starts. -/
def here : P Nat := do return (← current).span.start

/-- A node that stops where the last token stopped. -/
def node (start : Nat) (form : Form Node) : P Node := do
  return .mk ⟨start, (← get).lastStop⟩ form

/-! ### Contexts -/

/-- Reads where `in` is an operator. -/
def allowingIn {α : Type} (p : P α) : P α := withReader (fun c => { c with allowIn := true }) p

/-- Reads where `in` is no operator. -/
def forbiddingIn {α : Type} (p : P α) : P α := withReader (fun c => { c with allowIn := false }) p

/-- Reads the inside of a function. -/
def inside {α : Type} (isAsync isGenerator : Bool) (p : P α) : P α :=
  withReader (fun c => { c with inAsync := isAsync, inGenerator := isGenerator }) p

/-- Reads and, where that fails, goes back to where it began. -/
def attempt {α : Type} (p : P α) : P (Option α) := fun c before =>
  match p c before with
  | .ok a s => .ok (some a) s
  | .error flaw s =>
    if s.isRejected then .error flaw s else .ok none { before with notArrow := s.notArrow }

/-- Reads ahead and goes back. -/
def lookAhead {α : Type} (p : P α) : P α := do
  let before ← get
  let a ← p
  set before
  return a

/-! ### Repetition -/

/-- Repeats at most so many times: `step` gives an item, or nothing at the end. -/
def repeatUpTo {α : Type} (step : P (Option α)) : Nat → List α → P (List α)
  | 0, acc => return acc.reverse
  | n + 1, acc => do
    match ← step with
    | some a => repeatUpTo step n (a :: acc)
    | none => return acc.reverse

/-- Repeats until there is no further item. -/
def repeating {α : Type} (step : P (Option α)) : P (List α) := do
  repeatUpTo step (← read).bound []

/-- Reads what follows an expression behind commas, if there is a comma. -/
def sequenceFrom (g : Knot) (start : Nat) (first : Node) : P Node := do
  if ← at? .comma then
    let rest ← repeating do
      if ← eat .comma then return some (← g .assignment) else return none
    node start (.sequence (first :: rest))
  else return first

/-- Reads items as long as a test holds. -/
def while? {α : Type} (test : P Bool) (item : P α) : P (List α) :=
  repeating do
    if ← test then return some (← item) else return none

/-- Whether a list that ends with a mark goes on. -/
def before? (close : Punct) : P Bool := do
  let t ← current
  return !(t.isPunct close || t.isEof)

/-- One item of a list with commas, and the comma before it. -/
def listStep {α : Type} (close : Punct) (keepComma : Bool) (item : P α) (first : Bool) :
    P (Option α) := do
  if !(← before? close) then return none
  else if first then return some (← item)
  else
    if keepComma then
      if (← at? .comma) && (← peek).isPunct close then return none
    expect .comma
    if ← at? close then return none else return some (← item)

/-- Reads items with commas between them up to a closing mark, which stays. A comma before
the closing mark is read with the list, or stays too. -/
def commaList {α : Type} (close : Punct) (keepComma : Bool) (item : P α) : P (List α) := do
  match ← listStep close keepComma item true with
  | none => return []
  | some a => repeatUpTo (listStep close keepComma item false) (← read).bound [a]

/-! ### Names -/

/-- The name of a token that is a word. -/
def wordOf? (t : Token) : Option String :=
  match t.kind with
  | .word name _ => some name
  | _ => none

/-- Whether a token may be an identifier. -/
def isIdentifier (t : Token) : Bool :=
  match t.kind with
  | .word name _ => !isReserved name
  | _ => false

/-- Whether a token may start the name of a member. -/
def startsMemberName (t : Token) : Bool :=
  match t.kind with
  | .word _ _ => true
  | .privateName _ => true
  | .string _ _ => true
  | .number _ _ => true
  | .bigint _ => true
  | .punct p => p == .leftBracket
  | _ => false

/-- A name that is reserved where it stands is reported. -/
def checkIdentifier (name : String) (offset : Nat) : P Unit := do
  let c ← read
  if c.inAsync && name == "await" then report (.reservedInContext "await" "an async") offset
  if c.inGenerator && name == "yield" then
    report (.reservedInContext "yield" "a generator") offset

/-- Reads an identifier. -/
def identifier (otherwise : TokenKind → Cause) : P Node := do
  let t ← current
  match t.kind with
  | .word name _ =>
    if isReserved name then fail (otherwise t.kind) t.span.start
    else
      checkIdentifier name t.span.start
      advance
      node t.span.start (.name name)
  | kind => fail (otherwise kind) t.span.start

/-- Reads a name that is bound. -/
def bindingIdentifier : P Node := identifier .noBinding

/-- Reads any word as a name. -/
def anyName : P String := do
  let t ← current
  match t.kind with
  | .word name _ =>
    advance
    return name
  | _ => unexpected

end Grammar

end PatchSandbox.Script
