import PatchSandbox.Text.CodeUnits

/-!
# Tokens

What a script text consists of. A token knows where it stands, in bytes, whether a line
ends before it, and the characters that follow it, so that it can be read again in another
way: a slash as a regular expression, a closing brace as the end of a substitution.

The marks of the grammar have fixed spellings; `Punct.longest?` reads the longest one at the head
of a text.
-/

/-! ### Punctuators -/

namespace PatchSandbox.Script

/-- A punctuator. -/
inductive Punct where
  | leftParen | rightParen | leftBracket | rightBracket | leftBrace | rightBrace
  | semicolon | comma | dot | ellipsis | question | optionalDot | coalesce | colon | arrow
  | assign | equal | notEqual | strictEqual | strictNotEqual
  | plus | minus | star | slash | percent | power | increment | decrement
  | less | greater | lessEqual | greaterEqual
  | shiftLeft | shiftRight | shiftRightUnsigned
  | ampersand | bar | caret | bang | tilde | logicalAnd | logicalOr
  | plusAssign | minusAssign | starAssign | slashAssign | percentAssign | powerAssign
  | shiftLeftAssign | shiftRightAssign | shiftRightUnsignedAssign
  | ampersandAssign | barAssign | caretAssign
  | logicalAndAssign | logicalOrAssign | coalesceAssign
  | at
  deriving DecidableEq, Repr, Inhabited

namespace Punct

/-- The spelling. -/
def text : Punct → String
  | .leftParen => "(" | .rightParen => ")" | .leftBracket => "[" | .rightBracket => "]"
  | .leftBrace => "\x7b" | .rightBrace => "\x7d"
  | .semicolon => ";" | .comma => "," | .dot => "." | .ellipsis => "..."
  | .question => "?" | .optionalDot => "?." | .coalesce => "??" | .colon => ":" | .arrow => "=>"
  | .assign => "=" | .equal => "==" | .notEqual => "!=" | .strictEqual => "==="
  | .strictNotEqual => "!=="
  | .plus => "+" | .minus => "-" | .star => "*" | .slash => "/" | .percent => "%"
  | .power => "**" | .increment => "++" | .decrement => "--"
  | .less => "<" | .greater => ">" | .lessEqual => "<=" | .greaterEqual => ">="
  | .shiftLeft => "<<" | .shiftRight => ">>" | .shiftRightUnsigned => ">>>"
  | .ampersand => "&" | .bar => "|" | .caret => "^" | .bang => "!" | .tilde => "~"
  | .logicalAnd => "&&" | .logicalOr => "||"
  | .plusAssign => "+=" | .minusAssign => "-=" | .starAssign => "*=" | .slashAssign => "/="
  | .percentAssign => "%=" | .powerAssign => "**="
  | .shiftLeftAssign => "<<=" | .shiftRightAssign => ">>=" | .shiftRightUnsignedAssign => ">>>="
  | .ampersandAssign => "&=" | .barAssign => "|=" | .caretAssign => "^="
  | .logicalAndAssign => "&&=" | .logicalOrAssign => "||=" | .coalesceAssign => "??="
  | .at => "@"

/-- Every punctuator, longer spellings first. -/
def all : List Punct :=
  [.shiftRightUnsignedAssign,
    .ellipsis, .strictEqual, .strictNotEqual, .shiftRightUnsigned, .powerAssign,
    .shiftLeftAssign, .shiftRightAssign, .logicalAndAssign, .logicalOrAssign, .coalesceAssign,
    .optionalDot, .coalesce, .arrow, .equal, .notEqual, .power, .increment, .decrement,
    .lessEqual, .greaterEqual, .shiftLeft, .shiftRight, .logicalAnd, .logicalOr,
    .plusAssign, .minusAssign, .starAssign, .slashAssign, .percentAssign,
    .ampersandAssign, .barAssign, .caretAssign,
    .leftParen, .rightParen, .leftBracket, .rightBracket, .leftBrace, .rightBrace,
    .semicolon, .comma, .dot, .question, .colon, .assign,
    .plus, .minus, .star, .slash, .percent, .less, .greater,
    .ampersand, .bar, .caret, .bang, .tilde, .at]

/-- Every punctuator with its characters, longer spellings first. -/
def spellings : List (List Char × Punct) := all.map fun p => (p.text.toList, p)

/-- The rest of a text after the given characters, if it starts with them. -/
def after? : List Char → List Char → Option (List Char)
  | [], cs => some cs
  | w :: ws, c :: cs => if w = c then after? ws cs else none
  | _ :: _, [] => none

/-- The longest punctuator at the head of a text, and the rest. A question mark, a point
and a digit are a conditional and a number, not an optional access. -/
def longest? (cs : List Char) : Option (Punct × List Char) :=
  (spellings.findSome? fun (word, p) => (after? word cs).map fun rest => (p, rest)).map
    fun (p, rest) =>
      match p, rest with
      | .optionalDot, c :: _ => if c.isDigit then (.question, cs.drop 1) else (p, rest)
      | _, _ => (p, rest)

end Punct

/-! ### Tokens -/

open PatchSandbox.Text (CodeUnits)

/-- A range of bytes of the source. -/
structure Span where
  start : Nat
  stop : Nat
  deriving DecidableEq, Repr, Inhabited

/-- How a number is written. -/
inductive NumberForm where
  | decimal
  | float
  | exponential
  | binary
  | octal
  | hexadecimal
  /-- With a leading zero and no other mark. -/
  | legacy
  deriving DecidableEq, Repr, Inhabited

/-- The name of a form in messages. -/
def NumberForm.name : NumberForm → String
  | .decimal => "decimal"
  | .float => "float"
  | .exponential => "exponential"
  | .binary => "binary"
  | .octal => "octal"
  | .hexadecimal => "hexadecimal"
  | .legacy => "octal"

/-- A piece of a template between substitutions. -/
structure Quasi where
  /-- The value, unless the piece has an invalid escape. -/
  cooked : Option CodeUnits
  /-- The text as it stands, lines ended by line feeds. -/
  raw : CodeUnits
  deriving DecidableEq, Inhabited

/-- What a token is. -/
inductive TokenKind where
  | eof
  /-- An identifier or a keyword; `escaped` when it is not spelled literally. -/
  | word (name : String) (escaped : Bool)
  | privateName (name : String)
  | number (value : Float) (form : NumberForm)
  | bigint (value : Nat)
  /-- A quoted string; `legacy` when it has an octal escape. -/
  | string (value : CodeUnits) (legacy : Bool)
  /-- A piece of a template; `opens` when it starts at a backtick, `closes` when it ends at
  one. -/
  | template (quasi : Quasi) (opens closes : Bool)
  | punct (p : Punct)
  deriving Inhabited

/-- A token in its place. -/
structure Token where
  kind : TokenKind
  span : Span
  /-- A line ends between the token before and this one. -/
  newLine : Bool
  /-- The characters from the token on. -/
  text : List Char
  /-- The characters after the token. -/
  rest : List Char
  deriving Inhabited

namespace Token

/-- Whether a token is a punctuator. -/
def isPunct (t : Token) (p : Punct) : Bool :=
  match t.kind with
  | .punct q => p == q
  | _ => false

/-- Whether a token is a word. -/
def isWord (t : Token) (name : String) : Bool :=
  match t.kind with
  | .word n _ => n == name
  | _ => false

/-- Whether a token is a word that is spelled literally. -/
def isPlainWord (t : Token) (name : String) : Bool :=
  match t.kind with
  | .word n escaped => n == name && !escaped
  | _ => false

/-- The characters that take the given number of bytes. -/
def takeBytes : (bytes : Nat) → List Char → List Char
  | _, [] => []
  | bytes, c :: rest => if bytes < c.utf8Size then [] else c :: takeBytes (bytes - c.utf8Size) rest

/-- The text between the quotes of a string. -/
def quotedText (t : Token) : String :=
  String.ofList (takeBytes (t.span.stop - t.span.start - 2) (t.text.drop 1))

/-- Whether the source ends. -/
def isEof (t : Token) : Bool :=
  match t.kind with
  | .eof => true
  | _ => false

end Token

/-! ### Words -/

/-- Words that are never identifiers. -/
def reservedWords : List String :=
  ["break", "case", "catch", "class", "const", "continue", "debugger", "default", "delete", "do",
    "else", "enum", "export", "extends", "finally", "for", "function", "if", "import", "in",
    "instanceof", "new", "return", "super", "switch", "this", "throw", "try", "typeof", "var",
    "void", "while", "with", "null", "true", "false"]

/-- Words that have a meaning somewhere in the grammar but may be identifiers. -/
def contextualWords : List String :=
  ["await", "yield", "async", "from", "get", "meta", "of", "set", "target", "accessor", "abstract",
    "as", "asserts", "assert", "any", "boolean", "constructor", "declare", "infer", "intrinsic",
    "is", "keyof", "module", "namespace", "never", "out", "readonly", "require", "number",
    "object", "satisfies", "string", "symbol", "type", "undefined", "unique", "using", "unknown",
    "global", "bigint", "override", "implements", "interface", "let", "package", "private",
    "protected", "public", "static"]

/-- Whether a word is never an identifier. -/
def isReserved (name : String) : Bool := reservedWords.contains name

/-- How messages call a token. -/
def TokenKind.found : TokenKind → String
  | .eof => "EOF"
  | .word name _ => if isReserved name || contextualWords.contains name then name else "Identifier"
  | .privateName _ => "#identifier"
  | .number _ form => form.name
  | .bigint _ => "decimal"
  | .string _ _ => "string"
  | .template _ true true => "``"
  | .template _ true false => "$\x7b"
  | .template _ false false => "$\x7bexpr\x7d"
  | .template _ false true => "$\x7d"
  | .punct p =>
    match p with
    | .greaterEqual => ">"
    | .shiftRight => ">"
    | .shiftRightUnsigned => ">"
    | .shiftRightAssign => ">"
    | .shiftRightUnsignedAssign => ">"
    | p => p.text

end PatchSandbox.Script
