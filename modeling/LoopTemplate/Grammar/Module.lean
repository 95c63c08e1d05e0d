import LoopTemplate.Grammar.Statement

/-!
# Imports and exports
-/

namespace LoopTemplate.Grammar

open LoopTemplate.Token (Kind)
open LoopTemplate.Tree (ExportSpecifier Form ImportSpecifier ModuleAttributes ModuleName
  ModuleSource Node StringValue VariableKind)

/-- A name of another module: any word, or a string. -/
def parseModuleName : Parser ModuleName := do
  match ← kind with
  | .string value _ =>
      advance
      return .quoted value
  | _ => return .word (← parseAnyWord)

/-- A name that is declared, as text. -/
def parseLocalName (context : Context) : Parser String := do
  let node ← parseBinding context
  match node.form with
  | .binding name => return name
  | _ => return ""

/-- A string. -/
def parseModuleString : Parser StringValue := do
  match ← kind with
  | .string value _ =>
      advance
      return value
  | _ => unexpected

/-- A list in braces of things that are no nodes. -/
def bracedList {α : Type} (element : Parser α) : Parser (List α) := do
  expectMark "\x7b"
  let items ← repeatStep ([] : List α) fun found => do
    let token ← current
    if token.kind.isMark "\x7d" || token.kind.isEnd then return .inr found.reverse
    unless found.isEmpty do
      unless token.kind.isMark "," do
        failAt token.start (.expectedSeparator "," "\x7d" token.kind.label)
      advance
    if ← atMark "\x7d" then return .inr found.reverse
    return .inl ((← element) :: found)
  expectMark "\x7d"
  return items

/-- The module behind `from`, with its import attributes. -/
def parseModuleSource : Parser ModuleSource := do
  let value ← parseModuleString
  let token ← current
  let attributed := (token.kind.isWord "with" || (token.kind.isWord "assert" && !token.afterBreak))
    && !token.escaped
  if attributed then
    let keyword ← parseAnyWord
    let entries ← bracedList do
      let key ← parseModuleName
      expectMark ":"
      return (key, ← parseModuleString)
    return ⟨value, some ⟨keyword, entries⟩⟩
  else return ⟨value, none⟩

/-! ## Imports -/

/-- One name in the braces of an import. -/
def parseImportName (context : Context) : Parser ImportSpecifier := do
  let token ← current
  let imported ← parseModuleName
  if ← eatWord "as" then return .named imported (← parseLocalName context)
  else match imported with
    | .word name =>
        if mayBind name then return .named imported name
        else failAt token.start .unexpectedToken
    | .quoted _ => failExpected "as"

/-- What an import binds besides a default: everything, or names in braces. -/
def parseImportGroup (context : Context) : Parser (List ImportSpecifier) := do
  match ← kind with
  | .mark "*" =>
      advance
      expectWord "as"
      return [.everything (← parseLocalName context)]
  | .mark "\x7b" => bracedList (parseImportName context)
  | _ => unexpected

/-- All that an import binds. -/
def parseImportSpecifiers (context : Context) : Parser (List ImportSpecifier) := do
  if ← atBinding then
    let name ← parseLocalName context
    if ← eatMark "," then return .default name :: (← parseImportGroup context)
    else return [.default name]
  else parseImportGroup context

/-- Passes the phase of an import: `source` before the name that is bound, or `defer` before `*`. -/
def parseImportPhase : Parser (Option String) := do
  let (first, second) ← peekTwo
  let isName := match first.kind with
    | .word text => mayBind text && (text != "from" || second.kind.isWord "from")
    | _ => false
  if (← atWord "source") && isName then
    advance
    return some "source"
  else if (← atWord "defer") && first.kind.isMark "*" then
    advance
    return some "defer"
  else return none

/-- An import as a statement. -/
def parseImport (context : Context) : Parser Node := do
  let start ← here
  advance
  let phase ← parseImportPhase
  let specifiers ← match ← kind with
    | .string _ _ => pure none
    | _ => do
        let specifiers ← parseImportSpecifiers context
        expectWord "from"
        pure (some specifiers)
  let source ← parseModuleSource
  endStatement
  return .mk start (.importDeclaration phase specifiers source) []

/-! ## Exports -/

/-- Remembers where a default export is. -/
def recordDefault (offset : Nat) : Parser Unit :=
  modify fun cursor => { cursor with defaults := cursor.defaults ++ [offset] }

/-- Remembers names that are exported. -/
def recordExports (names : List (String × Nat)) : Parser Unit :=
  modify fun cursor => { cursor with exports := cursor.exports ++ names }

mutual

/-- The names that a declaration or a pattern binds, with their offsets. -/
def boundNames : Node → List (String × Nat)
  | .mk start (.binding name) _ => [(name, start)]
  | .mk _ .patternDefault (pattern :: _) => boundNames pattern
  | .mk _ (.patternProperty _ _ _) [_, pattern] => boundNames pattern
  | .mk _ .patternRest parts => boundNamesOfAll parts
  | .mk _ (.arrayPattern _) parts => boundNamesOfAll parts
  | .mk _ (.objectPattern _) parts => boundNamesOfAll parts
  | .mk _ .declarator (pattern :: _) => boundNames pattern
  | .mk _ (.variableList _) parts => boundNamesOfAll parts
  | .mk _ (.function _) (name :: _) => boundNames name
  | .mk _ (.classDefinition _) (_ :: name :: _) => boundNames name
  | _ => []

/-- The names that several patterns bind. -/
def boundNamesOfAll : List Node → List (String × Nat)
  | [] => []
  | node :: nodes => boundNames node ++ boundNamesOfAll nodes

end

/-- A declaration that is exported. -/
def exportDeclaration (start : Nat) (declaration : Node) : Parser Node := do
  recordExports (boundNames declaration)
  return .mk start .exportDeclaration [declaration]

/-- One name in the braces of an export. -/
def parseExportName : Parser ExportSpecifier := do
  let start ← here
  let inside ← parseModuleName
  if ← eatWord "as" then
    let offset ← here
    let outside ← parseModuleName
    if outside == .word "default" then recordDefault offset
    recordExports [(outside.text, offset)]
    return ⟨inside, start, outside, offset⟩
  else
    recordExports [(inside.text, start)]
    return ⟨inside, start, inside, start⟩

/-- Exported names in braces. -/
def parseExportNames (start : Nat) : Parser Node := do
  let specifiers ← bracedList parseExportName
  let source ←
    if ← eatWord "from" then do pure (some (← parseModuleSource))
    else pure none
  endStatement
  return .mk start (.exportNames specifiers source) []

/-- Everything of another module, exported. -/
def parseExportAll (start : Nat) : Parser Node := do
  advance
  let name ←
    if ← eatWord "as" then do
      let offset ← here
      let name ← parseModuleName
      recordExports [(name.text, offset)]
      pure (some name)
    else pure none
  expectWord "from"
  let source ← parseModuleSource
  endStatement
  return .mk start (.exportAll name source) []

/-- The decorators of an exported class, of which some may stand before the export. -/
def joinDecorators (self : Rules) (context : Context) (before : Node) : Parser Node := do
  let after ← parseDecorators self context
  return .mk (if before.parts.isEmpty then after.start else before.start) .decorators
    (before.parts ++ after.parts)

/-- The default export. -/
def parseExportDefault (self : Rules) (context : Context) (start : Nat) (decorators : Node) :
    Parser Node := do
  recordDefault (← here)
  advance
  if ← atFunction then
    let functionStart ← here
    let async ← eatWord "async"
    return .mk start .exportDefault [← parseFunction self context functionStart async false]
  else if (← atWord "class") || (← atMark "@") then
    let decorators ← joinDecorators self context decorators
    return .mk start .exportDefault [← parseClass self context decorators false]
  else
    let value ← self .assignment context.withIn
    endStatement
    return .mk start .exportDefault [value]

/-- Whether a declaration follows. -/
def atDeclaration : Parser Bool := do
  if ← atFunction then return true
  let token ← current
  match token.kind with
  | .word text => return ["var", "let", "const"].contains text && !token.escaped
  | _ => return false

/-- An export as a statement, behind the decorators of the class that it exports. -/
def parseExport (self : Rules) (context : Context) (start : Nat) (decorators : Node) :
    Parser Node := do
  advance
  if ← atWord "default" then parseExportDefault self context start decorators
  else if ← atMark "*" then parseExportAll start
  else if ← atMark "\x7b" then parseExportNames start
  else if (← atWord "class") || (← atMark "@") then
    let decorators ← joinDecorators self context decorators
    exportDeclaration start (← parseClassStatement self context decorators false)
  else if ← atDeclaration then
    exportDeclaration start (← parsePlainStatement self context false)
  else unexpected

/-! ## All statements -/

/-- The value of a constant behind a comment about its side effects. -/
def markDeclarator : Node → Node
  | .mk start .declarator [pattern, value] => .mk start .declarator [pattern, markEffectFree value]
  | node => node

/-- A declaration behind a comment that says that calling it has no side effects: a function, or a
list of constants of which the first is meant. -/
def markDeclaration : Node → Node
  | .mk start (.variableList .constant) (head :: others) =>
      .mk start (.variableList .constant) (markDeclarator head :: others)
  | node@(.mk _ (.function _) _) => markEffectFree node
  | node => node

/-- A statement behind a comment that says that calling it has no side effects. -/
def markStatement : Node → Node
  | .mk start .exportDeclaration [declaration] =>
      .mk start .exportDeclaration [markDeclaration declaration]
  | .mk start .exportDefault [value] => .mk start .exportDefault [markEffectFree value]
  | node => markDeclaration node

/-- A statement, apart from what comments promise about it. -/
def parseBareStatement (self : Rules) (context : Context) (nested : Bool) : Parser Node := do
  let start ← here
  if ← atWord "import" then
    let next ← peek
    if next.kind.isMark "." || next.kind.isMark "(" then parsePlainStatement self context nested
    else parseImport context
  else if ← atWord "export" then parseExport self context start (.mk start .decorators [])
  else if ← atMark "@" then
    let decorators ← parseDecorators self context
    if ← atWord "export" then parseExport self context start decorators
    else parseClassStatement self context decorators nested
  else parsePlainStatement self context nested

/-- Any statement. -/
def parseStatement (self : Rules) (context : Context) (nested : Bool) : Parser Node := do
  let token ← current
  let statement ← parseBareStatement self context nested
  return if promised token .effectFree then markStatement statement else statement

end LoopTemplate.Grammar
