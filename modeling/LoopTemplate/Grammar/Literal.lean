import LoopTemplate.Grammar.Class

/-!
# Arrays, objects, templates and regular expressions
-/

namespace LoopTemplate.Grammar

open LoopTemplate.Token (Kind Scanned)
open LoopTemplate.Tree (AccessorKind Form Node)

/-- What follows `...` in an array, object or argument list. -/
def parseSpread (self : Rules) (context : Context) : Parser Node := do
  let start ← here
  advance
  return .mk start .spread [← self .assignment context.withIn]

/-! ## Arrays -/

/-- An array. A skipped element stands before a comma. -/
def parseArray (self : Rules) (context : Context) : Parser Node := do
  let start ← here
  advance
  let (elements, _) ← commaList "]" do
    let token ← current
    match token.kind with
    | .mark "," => return .mk token.start .hole []
    | .mark "..." => parseSpread self context
    | _ => self .assignment context.withIn
  expectMark "]"
  return .mk start .array elements

/-! ## Objects -/

/-- A property whose value is the variable of the same name. With a value behind `=` it can only
stand in a pattern. -/
def parseShorthand (self : Rules) (context : Context) (start : Nat) (key : Node) (name : String) :
    Parser Node := do
  let reference : Node := .mk start (.reference name) []
  if ← eatMark "=" then
    let value ← self .assignment context.withIn
    modify fun cursor => { cursor with shorthandValues := cursor.shorthandValues ++ [start] }
    return .mk start (.property .plain false false true)
      [key, .mk start .patternDefault [reference, value]]
  else return .mk start (.property .plain false false true) [key, reference]

/-- A property of an object. -/
def parseProperty (self : Rules) (context : Context) : Parser Node := do
  let start ← here
  if ← atMark "..." then parseSpread self context
  else
    let modifiers ← parseModifiers
    let token ← current
    let (key, computed) ← parseKey self context
    if modifiers.accessor != .plain then
      let function ← parseMethod self false false
      return .mk start (.property modifiers.accessor false computed false) [key, function]
    else if modifiers.async || modifiers.generator || (← atMark "(") then
      let function ← parseMethod self modifiers.async modifiers.generator
      return .mk start (.property .plain true computed false) [key, function]
    else
      match token.kind with
      | .word name =>
          if mayRefer context name && !(← atMark ":") then
            parseShorthand self context start key name
          else
            expectMark ":"
            return .mk start (.property .plain false computed false)
              [key, ← self .assignment context.withIn]
      | _ =>
          expectMark ":"
          return .mk start (.property .plain false computed false)
            [key, ← self .assignment context.withIn]

/-- An object. -/
def parseObject (self : Rules) (context : Context) : Parser Node := do
  let start ← here
  advance
  let (properties, _) ← commaList "\x7d" (parseProperty self context)
  expectMark "\x7d"
  return .mk start .object properties

/-! ## Templates -/

/-- Passes a piece of a template: its text, and whether it is the last. Behind a tag any escape may
stand. -/
def passTemplatePiece (tagged : Bool) : Parser (String × Bool) := do
  let token ← current
  match token.kind with
  | .template raw whole sound =>
      unless tagged || sound do note (token.start + 1) .templateEscape
      advance
      return (raw, whole)
  | _ => unexpected

/-- Reads the closing brace of a substitution on as the next piece of the template, and passes
it. -/
def resumeTemplate (tagged : Bool) : Parser (String × Bool) := do
  let cursor ← get
  let reading := Token.readTemplatePiece cursor.token.start cursor.rest
  let token := { cursor.token with kind := reading.kind, stop := reading.rest.offset }
  set (cursor.replace ⟨token, reading.rest, reading.faults⟩)
  passTemplatePiece tagged

/-- The pieces of a template behind its first, and the expressions between them. Expressions may
follow each other without a piece between them. -/
def parseTemplateRest (self : Rules) (context : Context) (tagged : Bool) :
    Parser (List String × List Node) :=
  repeatStep (([] : List String), ([] : List Node)) fun (pieces, values) => do
    let values := (← parseExpression self context.withIn) :: values
    if ← atMark "\x7d" then
      let (raw, whole) ← resumeTemplate tagged
      let pieces := raw :: pieces
      if whole then return .inr (pieces.reverse, values.reverse)
      else return .inl (pieces, values)
    else return .inl (pieces, values)

/-- A template, behind a tag or on its own. -/
def parseTemplate (self : Rules) (context : Context) (tagged : Bool) : Parser Node := do
  let start ← here
  let (raw, whole) ← passTemplatePiece tagged
  if whole then return .mk start (.template [raw]) []
  else
    let (pieces, values) ← parseTemplateRest self context tagged
    return .mk start (.template (raw :: pieces)) values

/-! ## Regular expressions -/

/-- The faults of the flags behind a regular expression: letters that are no flags, and flags that
stand twice. -/
def flagFaults (offset : Nat) (seen : List Char) : List Char → List Fault
  | [] => []
  | flag :: flags =>
      let later := flagFaults (offset + flag.utf8Size) (flag :: seen) flags
      if !Token.regexFlags.contains flag then ⟨offset, .regexFlag flag⟩ :: later
      else if seen.contains flag then ⟨offset, .regexFlagTwice flag⟩ :: later
      else later

/-- Reads a slash on as a regular expression. No fault may have been met while reading tokens. -/
def parseRegex : Parser Node := do
  let cursor ← get
  let token := cursor.token
  let unread : Token.Rest :=
    if token.kind.isMark "/=" then ⟨'=' :: cursor.rest.chars, cursor.rest.offset - 1⟩
    else cursor.rest
  match Token.readRegex unread with
  | some regex =>
      let faults := flagFaults regex.flagsOffset [] regex.flags
      let flags := String.ofList (Token.regexFlags.filter regex.flags.contains)
      let token := { token with kind := .regex regex.pattern flags, stop := regex.rest.offset }
      set (cursor.replace ⟨token, regex.rest, faults⟩)
      unless (cursor.scanFaults ++ faults).isEmpty do failAt token.start .unexpectedToken
      advance
      return .mk token.start (.regex regex.pattern flags) []
  | none =>
      let fault : Fault := ⟨token.start, .unterminatedRegex⟩
      set { cursor with scanFaults := cursor.scanFaults ++ [fault] }
      failAt token.start .unexpectedToken

end LoopTemplate.Grammar
