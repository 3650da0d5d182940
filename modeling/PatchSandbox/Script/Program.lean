import PatchSandbox.Script.Grammar.Statement

/-!
# Reading programs

**`Program.read`** reads a source as a module or as a script. A text that is none has a
flaw: the first flaw of the text itself, else the first that was reported, else the one
that ended reading.
-/

namespace PatchSandbox.Script

namespace Grammar

/-- The reader of a nonterminal, which goes at most so deep. -/
def reader : Nat → Knot
  | 0, _ => unexpected
  | depth + 1, nonterminal =>
    let g := reader depth
    match nonterminal with
    | .statement place => statement g place
    | .importDeclaration => importDeclaration
    | .exportDeclaration => exportDeclaration g
    | .expression => expression g
    | .assignment => assignmentExpression g
    | .binary above => binaryExpression g above
    | .unary => unaryExpression g
    | .operand => operandOfNew g
    | .leftHandSide => leftHandSide g
    | .bindingTarget => bindingTarget g

/-- Reads a whole source. -/
def program (depth : Nat) : P Program := do
  let start ← here
  let (directives, statements) ← directivesAndStatements (reader depth) true
  match (← get).covers.reverse with
  | [] => pure ()
  | first :: rest => report .coverInitializer (rest.foldl min first)
  return ⟨⟨start, (← current).span.stop⟩, directives, statements⟩

end Grammar

/-- Reads a source. Every nested reading is reached after at least one character, except for
a bounded chain of nonterminals, so a depth in proportion to the length is enough. -/
def Program.read (goal : Goal) (source : List Char) : Except Flaw Program :=
  let bound := source.length + 2
  match Lexer.first goal source with
  | .error flaw => .error flaw
  | .ok token =>
    let context : Context := { goal, bound, inAsync := goal == .module }
    match (Grammar.program (8 * bound) context).run { token } with
    | .error flaw state =>
      .error (if flaw.cause.isLexical then flaw else state.reported.getD flaw)
    | .ok program state =>
      match state.reported with
      | some flaw => .error flaw
      | none => .ok program

end PatchSandbox.Script
