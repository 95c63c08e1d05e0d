import LoopTemplate.Grammar.Name

/-!
# Patterns

What a declaration or parameter binds: a name, or an array or object taken apart.
-/

namespace LoopTemplate.Grammar

open LoopTemplate.Tree (Form Node PatternRole)

/-- A pattern with the default value that may follow it. -/
def parsePatternElement (self : Rules) (context : Context) : Parser Node := do
  let start ← here
  let pattern ← self .pattern context
  if ← eatMark "=" then
    let value ← self .assignment context.withIn
    return .mk start .patternDefault [pattern, value]
  else return pattern

/-- What follows `...` in a pattern. -/
def parsePatternRest (self : Rules) (context : Context) (closing : String) : Parser Node := do
  let start ← here
  advance
  let pattern ← self .pattern context
  if ← atMark "," then
    let next ← peek
    if next.kind.isMark closing then note (← here) .restTrailingComma
    else note start .restNotLast
  return .mk start .patternRest [pattern]

/-- The elements of an array taken apart. -/
def parseArrayPattern (self : Rules) (context : Context) : Parser Node := do
  let start ← here
  advance
  let (elements, _) ← commaList "]" do
    let token ← current
    match token.kind with
    | .mark "," => return .mk token.start .hole []
    | .mark "..." => parsePatternRest self context "]"
    | _ => parsePatternElement self context
  expectMark "]"
  return .mk start (.arrayPattern .declaring) elements

/-- A property of an object taken apart. -/
def parsePatternProperty (self : Rules) (context : Context) : Parser Node := do
  let token ← current
  if token.kind.isMark "..." then parsePatternRest self context "\x7d"
  else
    let bindable ← atBinding
    let (key, computed) ← parseKey self context
    match key.form with
    | .word text =>
        if bindable && !(← atMark ":") then
          let name : Node := .mk token.start (.binding text) []
          if ← eatMark "=" then
            let value ← self .assignment context.withIn
            return .mk token.start (.patternProperty .declaring false true)
              [key, .mk token.start .patternDefault [name, value]]
          else return .mk token.start (.patternProperty .declaring false true) [key, name]
        else
          expectMark ":"
          let pattern ← parsePatternElement self context
          return .mk token.start (.patternProperty .declaring false false) [key, pattern]
    | _ =>
        expectMark ":"
        let pattern ← parsePatternElement self context
        return .mk token.start (.patternProperty .declaring computed false) [key, pattern]

/-- The properties of an object taken apart. -/
def parseObjectPattern (self : Rules) (context : Context) : Parser Node := do
  let start ← here
  advance
  let (properties, _) ← commaList "\x7d" (parsePatternProperty self context)
  expectMark "\x7d"
  return .mk start (.objectPattern .declaring) properties

/-- What a declaration binds. -/
def parsePattern (self : Rules) (context : Context) : Parser Node := do
  match ← kind with
  | .mark "[" => parseArrayPattern self context
  | .mark "\x7b" => parseObjectPattern self context
  | _ => parseBinding context

end LoopTemplate.Grammar
