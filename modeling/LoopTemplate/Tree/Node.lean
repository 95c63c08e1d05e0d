import LoopTemplate.Number.Double
import LoopTemplate.Tree.Operator

/-!
# Trees of programs

A program is a tree of nodes. A node has a form, which says what piece of a program it is and
carries everything about it that is not itself a program, and parts, which are the nodes it is
made of, in source order. An optional part that is missing in the middle is an `absent` node; one
missing at the end is left out. A pass names the forms it cares about and walks the parts of all
others alike.

Offsets are in bytes of the source.
-/

namespace LoopTemplate.Tree

/-- The code points of a string literal. They may include lone surrogates, which no text holds. -/
abbrev StringValue := List Nat

/-- The four lower-case hexadecimal digits of a number. -/
def hexDigits (value : Nat) : List Char :=
  [value / 4096 % 16, value / 256 % 16, value / 16 % 16, value % 16].map Nat.digitChar

/-- Code points as text. Half of a surrogate pair stands as its number behind a replacement
character. -/
def plainText (value : StringValue) : String :=
  String.ofList (value.flatMap fun code =>
    if 0xD800 ≤ code ∧ code < 0xE000 then '\uFFFD' :: hexDigits code else [Char.ofNat code])

/-- The name of an element. -/
inductive TagName where
  | plain (name : String)
  | namespaced (space name : String)
  | member (object : String) (path : List String)
deriving DecidableEq, Inhabited

namespace TagName

/-- The name as it is written. -/
def text : TagName → String
  | plain name => name
  | namespaced space name => space ++ ":" ++ name
  | member object path => ".".intercalate (object :: path)

end TagName

/-- The name of an attribute. -/
inductive AttributeName where
  | plain (name : String)
  | namespaced (space name : String)
deriving DecidableEq, Inhabited

namespace AttributeName

/-- The name as it is written. -/
def text : AttributeName → String
  | plain name => name
  | namespaced space name => space ++ ":" ++ name

end AttributeName

/-- What a property or a class member is. -/
inductive AccessorKind where
  /-- A plain value or a method. -/
  | plain
  | getter
  | setter
deriving DecidableEq, Inhabited

/-- The keyword of a declaration of variables. -/
inductive VariableKind where
  | hoisted | lexical | constant
  /-- Disposed of at the end of its block. -/
  | resource
  /-- Disposed of at the end of its block, which waits for it. -/
  | awaitedResource
deriving DecidableEq, Inhabited

namespace VariableKind

/-- The keyword as it is written. -/
def text : VariableKind → String
  | hoisted => "var"
  | lexical => "let"
  | constant => "const"
  | resource => "using"
  | awaitedResource => "await using"

/-- Whether the variables are disposed of at the end of their block. -/
def isResource : VariableKind → Bool
  | resource | awaitedResource => true
  | _ => false

end VariableKind

/-- Whether a pattern declares names or assigns to existing places. -/
inductive PatternRole where
  | declaring | assigning
deriving DecidableEq, Inhabited

/-- Facts about a function. -/
structure FunctionHead where
  /-- It stands where an expression is expected. -/
  expression : Bool
  async : Bool
  generator : Bool
  /-- It stood directly in parentheses. -/
  wrapped : Bool
  /-- A comment says that calling it has no side effects. -/
  effectFree : Bool
deriving DecidableEq, Inhabited

/-- Facts about an arrow. -/
structure ArrowHead where
  async : Bool
  /-- It stood directly in parentheses. -/
  wrapped : Bool
  /-- A comment says that calling it has no side effects. -/
  effectFree : Bool
deriving DecidableEq, Inhabited

/-- A name in a list of imports or exports. -/
inductive ModuleName where
  | word (name : String)
  | quoted (value : StringValue)
deriving DecidableEq, Inhabited

/-- One name bound by an import. -/
inductive ImportSpecifier where
  | default (name : String)
  | everything (name : String)
  | named (imported : ModuleName) (name : String)
deriving DecidableEq, Inhabited

namespace ModuleName

/-- The code points of the name. -/
def codes : ModuleName → StringValue
  | word name => name.toList.map Char.toNat
  | quoted value => value

/-- The name as text. -/
def text : ModuleName → String
  | word name => name
  | quoted value => plainText value

end ModuleName

/-- One name of an export list, with the offsets of both spellings. -/
structure ExportSpecifier where
  inside : ModuleName
  insideStart : Nat
  outside : ModuleName
  outsideStart : Nat
deriving DecidableEq, Inhabited

/-- Import attributes behind their keyword. -/
structure ModuleAttributes where
  keyword : String
  entries : List (ModuleName × StringValue)
deriving DecidableEq, Inhabited

/-- The module that an import or export names, with its import attributes. -/
structure ModuleSource where
  value : StringValue
  attributes : Option ModuleAttributes
deriving DecidableEq, Inhabited

/-- What piece of a program a node is. The comment of each form names its parts in order; `…` marks
a list, `?` a part that may be left out at the end, and `~` one that may be `absent`. -/
inductive Form where
  /-- A name that is looked up. No parts. -/
  | reference (name : String)
  /-- A name that is declared. No parts. -/
  | binding (name : String)
  /-- The name of a property. No parts. -/
  | word (text : String)
  /-- The name of a private class member. No parts. -/
  | privateName (text : String)
  /-- A string literal. No parts. -/
  | string (value : StringValue)
  /-- A number literal. No parts. -/
  | number (value : Number.Double)
  /-- A literal of an unbounded integer. No parts. -/
  | bigInteger (value : Nat)
  /-- A regular expression literal. No parts. -/
  | regex (pattern flags : String)
  /-- A truth value. No parts. -/
  | boolean (value : Bool)
  /-- The literal `null`. No parts. -/
  | null
  /-- The keyword `this`. No parts. -/
  | this
  /-- The keyword `super`. No parts. -/
  | parent
  /-- `new.target` or `import.meta`. No parts. -/
  | metaProperty (object property : String)
  /-- A part that is missing. No parts. -/
  | absent
  /-- A skipped element of an array. No parts. -/
  | hole
  /-- A template with its literal pieces. Parts: the expressions between the pieces…. -/
  | template (pieces : List String)
  /-- A template behind a tag. Parts: tag, template. -/
  | taggedTemplate
  /-- Parts: elements…, each an expression, `spread` or `hole`. -/
  | array
  /-- Parts: properties…, each `property` or `spread`. -/
  | object
  /-- Parts: key, value. -/
  | property (kind : AccessorKind) (method computed shorthand : Bool)
  /-- Parts: expression. -/
  | spread
  /-- Parts: name~, `parameters`, `body`. -/
  | function (head : FunctionHead)
  /-- Parts: `parameters`, then `body` or an expression. -/
  | arrow (head : ArrowHead)
  /-- Parts: `parameter`…, and at the end perhaps a `restParameter`. -/
  | parameters
  /-- Parts: pattern, default value?. -/
  | parameter
  /-- Parts: pattern. -/
  | restParameter
  /-- Statements in braces that make a function. Parts: `directive`…, statements…. -/
  | body (closing : Nat)
  /-- A string at the head of a module or function, as written between its quotes. No parts. -/
  | directive (raw : String)
  /-- What stands behind `@` before a class or member. Parts: expressions…. -/
  | decorators
  /-- Parts: `decorators`, name~, superclass~, members…. -/
  | classDefinition (expression : Bool)
  /-- Parts: `decorators`, key, `function`. -/
  | method (kind : AccessorKind) (static computed : Bool)
  /-- A field, or with `accessor` a pair of accessors. Parts: `decorators`, key, value?. -/
  | field (static accessor computed : Bool)
  /-- Parts: statements…. -/
  | staticBlock
  /-- Access to a named property. Parts: object. -/
  | member (property : String) (optional : Bool)
  /-- Access to a private member. Parts: object. -/
  | privateMember (property : String) (optional : Bool)
  /-- Access by a computed key. Parts: object, key. -/
  | index (optional : Bool)
  /-- A call; `pure` if a comment says that it has no side effects. Parts: callee, arguments…. -/
  | call (optional pure : Bool) (closing : Nat)
  /-- `new`; `pure` as for calls. `closing` is the offset of its last character. Parts: callee,
  arguments…. -/
  | construct (pure : Bool) (closing : Nat)
  /-- `import(…)`, perhaps of an early phase. Parts: module, options?. -/
  | importCall (phase : Option String) (closing : Nat)
  /-- A whole chain of accesses with `?.` in it. Parts: expression. -/
  | chain
  /-- Parts: expression. -/
  | parenthesized
  /-- Parts: operand. -/
  | unary (operator : UnaryOperator)
  /-- Parts: operand. -/
  | update (operator : UpdateOperator) (before : Bool)
  /-- Parts: left operand, right operand. -/
  | binary (operator : BinaryOperator)
  /-- Parts: condition, value if so, value if not. -/
  | conditional
  /-- Parts: target, value. -/
  | assign (operator : String)
  /-- Parts: expressions…. -/
  | sequence
  /-- Parts: value?. -/
  | yield (delegate : Bool)
  /-- Parts: value. -/
  | await
  /-- Parts: elements…, each a pattern, `patternDefault`, `hole`, or at the end `patternRest`. -/
  | arrayPattern (role : PatternRole)
  /-- Parts: `patternProperty`…, and at the end perhaps a `patternRest`. -/
  | objectPattern (role : PatternRole)
  /-- Parts: key, pattern. -/
  | patternProperty (role : PatternRole) (computed shorthand : Bool)
  /-- Parts: pattern, default value. -/
  | patternDefault
  /-- Parts: pattern. -/
  | patternRest
  /-- Parts: `opening`, children…. -/
  | element
  /-- The opening tag. Parts: `attribute` or `spreadAttribute`…. -/
  | opening (tag : TagName) (selfClosing : Bool)
  /-- Parts: children…. -/
  | fragment
  /-- Text between tags, as written. No parts. -/
  | text (raw : String)
  /-- Braces around an expression. Parts: expression. -/
  | container
  /-- Braces around nothing but comments. No parts. -/
  | emptyContainer (closing : Nat)
  /-- Parts: expression. -/
  | spreadChild
  /-- Parts: value?, which is `quoted`, `container`, `element` or `fragment`. -/
  | attribute (name : AttributeName)
  /-- The value of an attribute, as written between its quotes. No parts. -/
  | quoted (raw : String)
  /-- `mark` is the offset of the `...`. Parts: expression. -/
  | spreadAttribute (mark : Nat)
  /-- Parts: expression. -/
  | expressionStatement
  /-- Parts: statements…. -/
  | block
  /-- A lone semicolon. No parts. -/
  | emptyStatement
  /-- No parts. -/
  | debugger
  /-- Parts: condition, statement, other statement?. -/
  | ifStatement
  /-- Parts: start~, condition~, step~, statement. -/
  | forLoop
  /-- Parts: target, object, statement. -/
  | forIn
  /-- Parts: target, iterable, statement. -/
  | forOf (await : Bool)
  /-- Parts: condition, statement. -/
  | whileLoop
  /-- Parts: statement, condition. -/
  | doWhile
  /-- Parts: value?. -/
  | returnStatement
  /-- `break` or `continue`. No parts. -/
  | jump (keyword : String) (label : Option String)
  /-- Parts: value. -/
  | throwStatement
  /-- Parts: `block`, `catchClause`~, `block`?. -/
  | tryStatement
  /-- Parts: pattern~, `block`. -/
  | catchClause
  /-- Parts: value, `switchCase`…. -/
  | switchStatement
  /-- Parts: test~, statements…. The test is absent in the default case. -/
  | switchCase
  /-- Parts: statement. -/
  | labeled (label : String)
  /-- Parts: object, statement. -/
  | withStatement
  /-- Parts: `declarator`…. -/
  | variableList (kind : VariableKind)
  /-- Parts: pattern, value?. -/
  | declarator
  /-- An import, perhaps of an early phase. No parts. -/
  | importDeclaration (phase : Option String) (specifiers : Option (List ImportSpecifier))
      (source : ModuleSource)
  /-- A list of exported names. No parts. -/
  | exportNames (specifiers : List ExportSpecifier) (source : Option ModuleSource)
  /-- Parts: declaration. -/
  | exportDeclaration
  /-- Parts: declaration or expression. -/
  | exportDefault
  /-- `export *`. No parts. -/
  | exportAll (name : Option ModuleName) (source : ModuleSource)
  /-- A whole module. Parts: `directive`…, statements…. -/
  | module (hashbang : Option String) (stop : Nat)
deriving DecidableEq, Inhabited

/-- A piece of a program: where it starts, what it is, and what it is made of. -/
inductive Node where
  | mk (start : Nat) (form : Form) (parts : List Node)
deriving Inhabited

namespace Node

/-- Byte offset at which the node starts. -/
def start : Node → Nat
  | mk start _ _ => start

/-- What piece of a program the node is. -/
def form : Node → Form
  | mk _ form _ => form

/-- What the node is made of. -/
def parts : Node → List Node
  | mk _ _ parts => parts

@[simp] theorem start_mk (start : Nat) (form : Form) (parts : List Node) :
    (mk start form parts).start = start := rfl

@[simp] theorem form_mk (start : Nat) (form : Form) (parts : List Node) :
    (mk start form parts).form = form := rfl

@[simp] theorem parts_mk (start : Nat) (form : Form) (parts : List Node) :
    (mk start form parts).parts = parts := rfl

/-- A part that is missing. -/
def none : Node := mk 0 .absent []

/-- Whether the node stands for a missing part. -/
def isAbsent (node : Node) : Bool :=
  match node.form with
  | .absent => true
  | _ => false

/-- The part at a position, or `none`. -/
def part (node : Node) (index : Nat) : Node :=
  node.parts.getD index none

/-- The node inside any number of parentheses. -/
def withoutParentheses : Node → Node
  | mk _ .parenthesized [inner] => inner.withoutParentheses
  | node => node

end Node

end LoopTemplate.Tree
