import LoopTemplate.Print.Statement

/-!
# Imports and exports
-/

namespace LoopTemplate.Print

open LoopTemplate.Tree (ExportSpecifier Form FunctionHead ImportSpecifier Level ModuleAttributes
  ModuleName ModuleSource)

/-- Prints a name of another module. -/
def printModuleName : ModuleName → Printer
  | .word name => printWord name
  | .quoted value => printString value false

/-- Prints a name and the new name of the same thing, unless it keeps its own. -/
def printRenamed (name renamed : ModuleName) (printNew : Printer) : Printer := do
  printModuleName name
  unless name.codes == renamed.codes do
    printText " as "
    printNew

/-- Prints an import attribute. -/
def printImportAttribute (entry : ModuleName × Tree.StringValue) : Printer := do
  printModuleName entry.1
  printChar ':'
  softSpace
  printString entry.2 false

/-- Prints import attributes and the space before them. -/
def printAttributes (attributes : ModuleAttributes) : Printer := do
  printChar ' '
  printText attributes.keyword
  softSpace
  printChar '\x7b'
  unless attributes.entries.isEmpty do
    softSpace
    printList (attributes.entries.map printImportAttribute)
    softSpace
  printChar '\x7d'

/-- Prints a module with its import attributes. -/
def printSource (source : ModuleSource) : Printer := do
  printString source.value false
  printAll (source.attributes.toList.map printAttributes)

/-- Prints `from` and a module. -/
def printFrom (source : ModuleSource) : Printer := do
  printWord "from"
  softSpace
  printSource source

/-! ## Imports -/

/-- The names of an import that stand in braces. -/
def namedImports (specifiers : List ImportSpecifier) : List (ModuleName × String) :=
  specifiers.filterMap fun
    | .named imported name => some (imported, name)
    | _ => none

/-- The names of an import that stand before the braces. -/
def leadingImports (specifiers : List ImportSpecifier) : List ImportSpecifier :=
  specifiers.filter fun
    | .named _ _ => false
    | _ => true

/-- Prints a name that stands before the braces; `first` if nothing comes before it. -/
def printLeadingImport (first : Bool) : ImportSpecifier → Printer
  | .default name => do
      if first then printChar ' '
      else
        printChar ','
        softSpace
      printWord name
  | .everything name => do
      if first then softSpace
      else
        printChar ','
        softSpace
      printChar '*'
      softSpace
      printWord "as "
      printWord name
  | .named _ _ => return ()

/-- Prints the names that stand before the braces. -/
def printLeadingImports : List ImportSpecifier → Printer
  | [] => return ()
  | first :: others => do
      printLeadingImport true first
      printAll (others.map (printLeadingImport false))

/-- Prints what an import binds. -/
def printImportSpecifiers (specifiers : List ImportSpecifier) : Printer := do
  let leading := leadingImports specifiers
  let named := namedImports specifiers
  printLeadingImports leading
  if named.isEmpty then printChar ' '
  else
    unless leading.isEmpty do printChar ','
    softSpace
    printChar '\x7b'
    softSpace
    printList (named.map fun (imported, name) =>
      printRenamed imported (.word name) (printWord name))
    softSpace
    printChar '\x7d'
    softSpace

/-- Prints an import that binds nothing in its braces. Its module is printed without escapes. -/
def printEmptyImport (source : ModuleSource) : Printer := do
  softSpace
  printText "\x7b\x7d"
  softSpace
  printText "from"
  softSpace
  printChar '"'
  printText (Tree.plainText source.value)
  printChar '"'
  printAll (source.attributes.toList.map printAttributes)

/-- Prints an import. -/
def printImport (phase : Option String) (specifiers : Option (List ImportSpecifier))
    (source : ModuleSource) : Printer := do
  printWord "import"
  printAll (phase.toList.map fun name => printText (" " ++ name))
  match specifiers with
  | some [] => printEmptyImport source
  | some specifiers =>
      printImportSpecifiers specifiers
      printFrom source
  | none =>
      softSpace
      printSource source
  endStatement

/-! ## Exports -/

/-- Prints an exported name, with the comments before both spellings. -/
def printExportName (specifier : ExportSpecifier) : Printer := do
  printInlineCommentsAt specifier.insideStart
  printRenamed specifier.inside specifier.outside do
    printInlineCommentsAt specifier.outsideStart
    printModuleName specifier.outside

/-- Prints exported names in braces. -/
def printExportNames (specifiers : List ExportSpecifier) (source : Option ModuleSource) :
    Printer := do
  printWord "export"
  softSpace
  printChar '\x7b'
  unless specifiers.isEmpty do
    softSpace
    printList (specifiers.map printExportName)
    softSpace
  printChar '\x7d'
  match source with
  | some source =>
      softSpace
      printFrom source
  | none => pure ()
  endStatement

/-- Prints an export of everything. -/
def printExportAll (name : Option ModuleName) (source : ModuleSource) : Printer := do
  printWord "export"
  softSpace
  printChar '*'
  match name with
  | some name =>
      softSpace
      printText "as "
      printModuleName name
      printChar ' '
  | none => softSpace
  printFrom source
  endStatement

/-- Prints a function, class or list of variables without what comes before it, and its end. -/
def printDeclaration (declaration : Piece) (surroundings : Surroundings) : Printer := do
  match declaration.form, declaration.parts with
  | .variableList kind, declarators =>
      printVariables kind declarators surroundings
      endStatement
  | .function head, [name, parameters, body] =>
      printFunction head name parameters body surroundings
      softBreak
  | .classDefinition expression, decorators :: name :: heritage :: members =>
      printClass expression decorators name heritage members surroundings
      softBreak
  | _, _ => declaration.printFree

/-- Whether a piece is declared rather than computed. -/
def isDeclaration (piece : Piece) : Bool :=
  match piece.form with
  | .function head => !head.expression
  | .classDefinition expression => !expression
  | _ => false

/-- Prints the line that says that calling an exported function has no side effects. -/
def printExportedEffect (declaration : Piece) : Printer :=
  match declaration.form with
  | .function ⟨false, async, generator, wrapped, effectFree⟩ =>
      printEffectFreeLine ⟨false, async, generator, wrapped, effectFree⟩
  | _ => return ()

/-- Prints an exported declaration. -/
def printExportDeclaration (declaration : Piece) (surroundings : Surroundings) : Printer := do
  printExportedEffect declaration
  printWord "export"
  printChar ' '
  printDeclaration declaration surroundings

/-- Prints the default export. -/
def printExportDefault (value : Piece) (surroundings : Surroundings) : Printer := do
  printExportedEffect value
  printWord "export default "
  if isDeclaration value then printDeclaration value surroundings
  else
    modify fun output => { output with defaultStart := output.length }
    value.printElement
    endStatement

/-- The printer of a form that imports or exports, or of a whole module. -/
def printModule? (start : Nat) (form : Form) (parts : List Piece) :
    Option (Surroundings → Printer) :=
  let statement (printer : Surroundings → Printer) : Option (Surroundings → Printer) :=
    some fun surroundings => do
      beginStatement start
      printer surroundings
  match form, parts with
  | .importDeclaration phase specifiers source, _ =>
      statement fun _ => printImport phase specifiers source
  | .exportNames specifiers source, _ => statement fun _ => printExportNames specifiers source
  | .exportAll name source, _ => statement fun _ => printExportAll name source
  | .exportDeclaration, [declaration] => statement (printExportDeclaration declaration)
  | .exportDefault, [value] => statement (printExportDefault value)
  | .module hashbang stop, statements => some fun _ => do
      match hashbang with
      | some line =>
          printText ("#!" ++ line)
          printChar '\n'
      | none => pure ()
      printBodyStatements .free statements
      printDueSemicolon
      printCommentsAt stop
  | _, _ => none

end LoopTemplate.Print
