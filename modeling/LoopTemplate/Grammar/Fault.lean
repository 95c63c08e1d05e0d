/-!
# What can be wrong with a program

A fault is a cause at a place. The wording of every cause stands in `Cause.message`.
-/

namespace LoopTemplate.Grammar

/-- Why a text is not a program. -/
inductive Cause where
  /-- No rule fits the token. -/
  | unexpectedToken
  /-- One fixed token was needed. -/
  | expected (wanted found : String)
  /-- A list goes on with a separator or ends with its closing token. -/
  | expectedSeparator (separator closing found : String)
  | unterminatedString
  | unterminatedComment
  | unterminatedRegex
  | missingSemicolon
  | closingTag (name : String)
  | closingFragment
  /-- A character that markup text cannot hold bare. -/
  | bareCharacter (character : Char) (entity : String)
  | emptyAttribute
  | invalidAssignment
  | restNotLast
  | restTrailingComma
  | spreadNotLast
  | missingInitializer
  | missingPatternInitializer
  | missingCatch
  | switchClause
  | returnOutsideFunction
  | severalDefaults
  | severalExports (name : String)
  | invalidCharacter (character : Char)
  | numberTail
  | invalidEscape
  | regexFlag (flag : Char)
  | regexFlagTwice (flag : Char)
  | emptyParentheses
  | shorthandInitializer
  | lineBreakAfterThrow
  | lexicalAlone
  | classAlone
  | asyncAlone
  | generatorAlone
  | functionName
  | className
  | lineBreakBeforeArrow
  | mixedCoalesce
  | unaryPower
  | reservedName (name place : String)
  | yieldOutsideGenerator
  | awaitOutsideAsync
  | newTarget
  | chainTemplate
  | constructChain
  /-- An escape that stands for nothing, in a template without a tag. -/
  | templateEscape
  | resourcePattern
  | resourceInitializer
  /-- More nesting than the reader allows. -/
  | tooDeep
deriving DecidableEq, Inhabited

namespace Cause

/-- The wording of a cause. -/
def message : Cause → String
  | unexpectedToken => "Unexpected token"
  | expected wanted found => "Expected `" ++ wanted ++ "` but found `" ++ found ++ "`"
  | expectedSeparator separator closing found =>
      "Expected `" ++ separator ++ "` or `" ++ closing ++ "` but found `" ++ found ++ "`"
  | unterminatedString => "Unterminated string"
  | unterminatedComment => "Unterminated multiline comment"
  | unterminatedRegex => "Unterminated regular expression"
  | missingSemicolon =>
      "Expected a semicolon or an implicit semicolon after a statement, but found none"
  | closingTag name => "Expected corresponding JSX closing tag for '" ++ name ++ "'."
  | closingFragment => "Expected corresponding closing tag for JSX fragment."
  | bareCharacter character entity =>
      "Unexpected token. Did you mean `\x7b'" ++ character.toString ++ "'\x7d` or `" ++ entity
        ++ "`?"
  | emptyAttribute => "JSX attributes must only be assigned a non-empty 'expression'."
  | invalidAssignment => "Cannot assign to this expression"
  | restNotLast => "A rest parameter must be last in a parameter list"
  | restTrailingComma => "Unexpected trailing comma after rest element"
  | spreadNotLast => "Spread must be last element"
  | missingInitializer => "Missing initializer in const declaration"
  | missingPatternInitializer => "Missing initializer in destructuring declaration"
  | missingCatch => "Missing catch or finally clause"
  | switchClause => "Expected switch clause"
  | returnOutsideFunction => "A 'return' statement can only be used within a function body."
  | severalDefaults => "A module cannot have multiple default exports."
  | severalExports name => "Duplicated export '" ++ name ++ "'"
  | invalidCharacter character => "Invalid Character `" ++ character.toString ++ "`"
  | numberTail => "Invalid characters after number"
  | invalidEscape => "Invalid escape sequence"
  | regexFlag flag => "Unexpected flag " ++ flag.toString ++ " in regular expression literal"
  | regexFlagTwice flag =>
      "Flag " ++ flag.toString ++ " is mentioned twice in regular expression literal"
  | emptyParentheses => "Empty parenthesized expression"
  | shorthandInitializer => "Invalid assignment in object literal"
  | lexicalAlone => "Lexical declaration cannot appear in a single-statement context"
  | classAlone => "Invalid class declaration"
  | asyncAlone => "Async functions can only be declared at the top level or inside a block"
  | generatorAlone => "Generators can only be declared at the top level or inside a block"
  | functionName => "Expected function name"
  | className => "A class name is required."
  | lineBreakAfterThrow => "Illegal newline after throw"
  | lineBreakBeforeArrow => "Line terminator not permitted before arrow"
  | mixedCoalesce => "Logical expressions and coalesce expressions cannot be mixed"
  | unaryPower => "Unexpected exponentiation expression"
  | reservedName name place =>
      "Cannot use `" ++ name ++ "` as an identifier in " ++ place ++ " context"
  | yieldOutsideGenerator => "A 'yield' expression is only allowed in a generator body."
  | awaitOutsideAsync =>
      "`await` is only allowed within async functions and at the top levels of modules"
  | newTarget => "The only valid meta property for new is new.target"
  | chainTemplate => "Tagged template expressions are not permitted in an optional chain"
  | constructChain => "Optional chaining cannot appear in the callee of new expressions"
  | templateEscape => "Bad escape sequence in untagged template literal"
  | resourcePattern => "Using declarations may not have binding patterns."
  | resourceInitializer => "Using declarations must have an initializer."
  | tooDeep => "Nesting too deep"

end Cause

/-- A cause at a byte offset. -/
structure Fault where
  offset : Nat
  cause : Cause
deriving DecidableEq, Inhabited

end LoopTemplate.Grammar
