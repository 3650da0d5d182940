import PatchSandbox.Script.Token

/-!
# Flaws of a script text

Why a text is no script: a cause and the byte it is reported at. A cause has two wordings,
since a text can be refused when it is checked for admission and when it is evaluated.
-/

namespace PatchSandbox.Script

/-- What a target is for. -/
inductive TargetUse where
  /-- A whole value. -/
  | whole
  /-- It is counted up or down. -/
  | count
  /-- A part of a value that is taken apart. -/
  | item
  deriving DecidableEq, Repr, Inhabited

/-- Cause of a refusal. -/
inductive Cause where
  -- of the text
  | unterminatedString
  | unterminatedTemplate
  | unterminatedComment
  | unterminatedRegex
  | cutOffNumber
  | afterNumber
  | badCharacter (c : Char)
  | badEscape
  | badUnicodeEscape
  | badRegexFlag (c : Char)
  | repeatedRegexFlag (c : Char)
  -- of the grammar
  | unexpected (found : TokenKind)
  /-- An expression was to begin. -/
  | noExpression (found : TokenKind)
  /-- A name to be bound was to stand here. -/
  | noBinding (found : TokenKind)
  | expected (what : String) (found : TokenKind)
  | noSemicolon
  | badTarget (use : TargetUse)
  /-- A loop over values cannot give them to this. -/
  | badLoopTarget
  | noHandler
  | emptyParentheses
  | lineAfterThrow
  | returnOutsideFunction
  | yieldOutsideGenerator
  | awaitOutsideAsync
  | metaOutsideModule
  | escapedKeyword
  | noFunctionName
  | reservedInContext (name context : String)
  | constWithoutValue
  | patternWithoutValue
  | lineBeforeArrow
  | restNotLast
  | spreadNotLast
  | commaAfterRest
  | coverInitializer
  | optionalTemplate
  | optionalNew
  | newImport
  | emptyImport
  | strayImport
  | straySuper
  | loopOfAsync
  | awaitedLoop
  | lexicalInSingle
  | functionInSingle (what : String)
  | reservedExport (name : String)
  deriving Inhabited

/-- A cause and the byte it is reported at. -/
structure Flaw where
  cause : Cause
  offset : Nat
  deriving Inhabited

/-- Whether a cause lies in the text itself and not in its grammar. Such a cause is
reported before any other. -/
def Cause.isLexical : Cause → Bool
  | .unterminatedString => true
  | .unterminatedTemplate => true
  | .unterminatedComment => true
  | .unterminatedRegex => true
  | .cutOffNumber => true
  | .afterNumber => true
  | .badCharacter _ => true
  | .badEscape => true
  | .badUnicodeEscape => true
  | .badRegexFlag _ => true
  | .repeatedRegexFlag _ => true
  | _ => false

/-- The wording when a text is checked for admission. -/
def Cause.admissionText : Cause → String
  | .unterminatedString => "Unterminated string"
  | .unterminatedTemplate => "Unterminated string"
  | .unterminatedComment => "Unterminated multiline comment"
  | .unterminatedRegex => "Unterminated regular expression"
  | .cutOffNumber => "Unexpected end of file"
  | .afterNumber => "Invalid characters after number"
  | .badCharacter c => "Invalid Character `" ++ String.singleton c ++ "`"
  | .badEscape => "Invalid escape sequence"
  | .badUnicodeEscape => "Invalid Unicode escape sequence"
  | .badRegexFlag c =>
    "Unexpected flag " ++ String.singleton c ++ " in regular expression literal"
  | .repeatedRegexFlag c =>
    "Flag " ++ String.singleton c ++ " is mentioned twice in regular expression literal"
  | .unexpected _ => "Unexpected token"
  | .noExpression _ => "Unexpected token"
  | .noBinding _ => "Unexpected token"
  | .expected what found => "Expected `" ++ what ++ "` but found `" ++ found.found ++ "`"
  | .noSemicolon =>
    "Expected a semicolon or an implicit semicolon after a statement, but found none"
  | .badTarget _ => "Cannot assign to this expression"
  | .badLoopTarget => "Unexpected token"
  | .noHandler => "Missing catch or finally clause"
  | .emptyParentheses => "Empty parenthesized expression"
  | .lineAfterThrow => "Illegal newline after throw"
  | .returnOutsideFunction => "A 'return' statement can only be used within a function body."
  | .yieldOutsideGenerator => "A 'yield' expression is only allowed in a generator body."
  | .awaitOutsideAsync =>
    "`await` is only allowed within async functions and at the top levels of modules"
  | .metaOutsideModule => "Unexpected token"
  | .escapedKeyword => "Keywords cannot contain escape characters"
  | .noFunctionName => "Expected function name"
  | .reservedInContext name context =>
    "Cannot use `" ++ name ++ "` as an identifier in " ++ context ++ " context"
  | .constWithoutValue => "Missing initializer in const declaration"
  | .patternWithoutValue => "Missing initializer in destructuring declaration"
  | .lineBeforeArrow => "Line terminator not permitted before arrow"
  | .restNotLast => "A rest parameter must be last in a parameter list"
  | .spreadNotLast => "Spread must be last element"
  | .commaAfterRest => "Unexpected trailing comma after rest element"
  | .coverInitializer => "Invalid assignment in object literal"
  | .optionalTemplate => "Tagged template expressions are not permitted in an optional chain"
  | .optionalNew => "Optional chaining cannot appear in the callee of new expressions"
  | .newImport => "Cannot use new with dynamic import"
  | .emptyImport => "import() requires a specifier."
  | .strayImport => "Unexpected token"
  | .straySuper =>
    "'super' can only be used with function calls or in property accesses"
  | .loopOfAsync => "The left-hand side of a `for...of` statement may not be `async`"
  | .awaitedLoop => "await can only be used in conjunction with 'for...of' statements"
  | .lexicalInSingle => "Lexical declaration cannot appear in a single-statement context"
  | .functionInSingle what =>
    what ++ " can only be declared at the top level or inside a block"
  | .reservedExport name =>
    "A reserved word cannot be used as an exported binding without `from`: " ++ name

/-- How an evaluation quotes a token. -/
def TokenKind.quoted : TokenKind → String
  | .eof => "unexpected end of input"
  | .word name _ => name
  | .privateName name => "#" ++ name
  | .number _ _ => "number"
  | .bigint _ => "number"
  | .string _ _ => "string"
  | .template _ _ _ => "template"
  | .punct p => p.text

/-- The wording when a text is evaluated. -/
def Cause.evaluationText : Cause → String
  | .unterminatedString => "unexpected end of string"
  | .unterminatedTemplate => "unexpected end of string"
  | .unterminatedComment => "unexpected end of comment"
  | .unterminatedRegex => "unexpected end of regexp"
  | .cutOffNumber => "invalid number literal"
  | .afterNumber => "invalid number literal"
  | .badCharacter _ => "unexpected character"
  | .badEscape => "malformed escape sequence in string literal"
  | .badUnicodeEscape => "unexpected character"
  | .badRegexFlag _ => "invalid regular expression flags"
  | .repeatedRegexFlag _ => "invalid regular expression flags"
  | .unexpected found => "unexpected token: '" ++ found.quoted ++ "'"
  | .noExpression found => "unexpected token in expression: '" ++ found.quoted ++ "'"
  | .noBinding _ => "variable name expected"
  | .expected what _ => "expecting '" ++ what ++ "'"
  | .noSemicolon => "expecting ';'"
  | .badTarget .whole => "invalid assignment left-hand side"
  | .badTarget .count => "invalid increment/decrement operand"
  | .badTarget .item => "invalid destructuring target"
  | .badLoopTarget => "invalid for in/of left hand-side"
  | .noHandler => "expecting catch or finally"
  | .emptyParentheses => "unexpected token in expression: ')'"
  | .lineAfterThrow => "line terminator not allowed after throw"
  | .returnOutsideFunction => "return not in a function"
  | .yieldOutsideGenerator => "unexpected 'yield' keyword"
  | .awaitOutsideAsync => "expecting ';'"
  | .metaOutsideModule => "import.meta only valid in module code"
  | .escapedKeyword => "unexpected character"
  | .noFunctionName => "function name expected"
  | .reservedInContext name _ => "'" ++ name ++ "' is a reserved identifier"
  | .constWithoutValue => "missing initializer for const variable"
  | .patternWithoutValue => "destructuring binding must have an initializer"
  | .lineBeforeArrow => "expecting ';'"
  | .restNotLast => "missing formal parameter"
  | .spreadNotLast => "rest element must be the last one"
  | .commaAfterRest => "rest element must be the last one"
  | .coverInitializer => "invalid property name"
  | .optionalTemplate => "template literal cannot appear in an optional chain"
  | .optionalNew => "new keyword cannot be used with an optional chain"
  | .newImport => "invalid use of 'import()'"
  | .emptyImport => "unexpected token in expression: ')'"
  | .strayImport => "expecting '('"
  | .straySuper => "invalid use of 'super'"
  | .loopOfAsync => "'for of' expression cannot start with 'async'"
  | .awaitedLoop => "'for await' loop should be used with 'of'"
  | .lexicalInSingle => "lexical declarations can't appear in single-statement context"
  | .functionInSingle _ => "function declarations can't appear in single-statement context"
  | .reservedExport _ => "invalid export"

end PatchSandbox.Script
