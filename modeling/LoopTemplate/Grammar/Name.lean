import LoopTemplate.Grammar.Cursor

/-!
# Names

Identifiers that are looked up, identifiers that are declared, and names of properties.
-/

namespace LoopTemplate.Grammar

open LoopTemplate.Token (Kind reservedWords)
open LoopTemplate.Tree (Form Node)

/-- Whether a word may be looked up as a variable. -/
def mayRefer (context : Context) (text : String) : Bool :=
  !reservedWords.contains text
    && !(context.allowYield && text == "yield") && !(context.allowAwait && text == "await")

/-- Whether a word may be declared. -/
def mayBind (text : String) : Bool := !reservedWords.contains text

/-- The word that the current token is, if any. -/
def currentWord? : Parser (Option String) := do
  match ← kind with
  | .word text => return some text
  | _ => return none

/-- Notes the use of a word that is an operator here. -/
def noteReserved (context : Context) (text : String) : Parser Unit := do
  if context.allowAwait && text == "await" then
    note (← here) (.reservedName text "an async")
  if context.allowYield && text == "yield" then
    note (← here) (.reservedName text "a generator")

/-- A variable that is looked up. -/
def parseReference (context : Context) : Parser Node := do
  let token ← current
  match token.kind with
  | .word text =>
      if mayRefer context text then
        advance
        return .mk token.start (.reference text) []
      else unexpected
  | _ => unexpected

/-- Whether a declared name may stand here. -/
def atBinding : Parser Bool := do
  match ← kind with
  | .word text => return mayBind text
  | _ => return false

/-- A name that is declared. -/
def parseBinding (context : Context) : Parser Node := do
  let token ← current
  match token.kind with
  | .word text =>
      if mayBind text then
        noteReserved context text
        advance
        return .mk token.start (.binding text) []
      else unexpected
  | _ => unexpected

/-- Any word, keywords included. -/
def parseAnyWord : Parser String := do
  match ← kind with
  | .word text =>
      advance
      return text
  | _ => unexpected

/-- The key of a property, and whether it is computed. -/
def parseKey (self : Rules) (context : Context) : Parser (Node × Bool) := do
  let token ← current
  match token.kind with
  | .string value _ =>
      advance
      return (.mk token.start (.string value) [], false)
  | .number value _ =>
      advance
      return (.mk token.start (.number value) [], false)
  | .bigInteger value =>
      advance
      return (.mk token.start (.bigInteger value) [], false)
  | .privateName text =>
      advance
      return (.mk token.start (.privateName text) [], false)
  | .mark "[" =>
      advance
      let key ← self .assignment context.withIn
      expectMark "]"
      return (key, true)
  | _ =>
      let text ← parseAnyWord
      return (.mk token.start (.word text) [], false)

end LoopTemplate.Grammar
