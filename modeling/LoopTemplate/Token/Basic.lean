import LoopTemplate.Tree.Node

/-!
# Tokens

A token is one word, mark or literal of a program, with where it stands, whether a line break comes
before it, and the comments that lead up to it.
-/

namespace LoopTemplate.Token

open LoopTemplate.Tree (StringValue)

/-- What a comment may promise about the code behind it. -/
inductive Promise where
  /-- The call has no side effects. -/
  | pure
  /-- Calls of the function have no side effects. -/
  | effectFree
deriving DecidableEq, Inhabited

/-- A comment that belongs to the token after it. -/
structure Comment where
  /-- The comment with its marks. -/
  text : String
  /-- It runs to the end of its line. -/
  line : Bool
  /-- It stands between marks and spans several lines. -/
  broken : Bool
  /-- A line break comes before it. -/
  afterBreak : Bool
  /-- A line break follows it. -/
  beforeBreak : Bool
  /-- It promises something about the code behind it, and is not printed as a comment. -/
  promise : Option Promise
deriving DecidableEq, Inhabited

/-- What a token is. -/
inductive Kind where
  /-- An identifier or keyword, its escapes decoded. -/
  | word (text : String)
  /-- Punctuation or an operator. -/
  | mark (text : String)
  /-- A string: its value, and how it is written between its quotes. -/
  | string (value : StringValue) (raw : String)
  /-- A number; `style` names how it is written. -/
  | number (value : Number.Double) (style : String)
  | bigInteger (value : Nat)
  /-- A template up to its end, or up to its first `$` with a brace; `sound` if all its escapes
  stand for something. -/
  | template (raw : String) (whole sound : Bool)
  | privateName (text : String)
  | regex (pattern flags : String)
  /-- Text between tags. -/
  | markupText (raw : String)
  /-- The value of an attribute between quotes. -/
  | markupValue (raw : String)
  /-- What no token can be made of. -/
  | bad
  /-- The end of the text. -/
  | stop
deriving DecidableEq, Inhabited

/-- Words with a meaning of their own. A word of this list is named by itself in messages. -/
def keywords : List String :=
  ["await", "break", "case", "catch", "class", "const", "continue", "debugger", "default",
    "delete", "do", "else", "enum", "export", "extends", "false", "finally", "for", "function",
    "if", "import", "in", "instanceof", "new", "null", "return", "super", "switch", "this",
    "throw", "true", "try", "typeof", "var", "void", "while", "with", "yield", "async", "from",
    "get", "meta", "of", "set", "target", "accessor", "source", "defer", "abstract", "as",
    "asserts", "assert", "any", "bigint", "boolean", "constructor", "declare", "infer",
    "intrinsic", "is", "keyof", "module", "namespace", "never", "out", "readonly", "require",
    "number", "object", "satisfies", "static", "string", "symbol", "type", "undefined", "unique",
    "using", "unknown", "global", "implements", "interface", "let", "override", "package",
    "private", "protected", "public"]

/-- Words that can never be a variable. -/
def reservedWords : List String :=
  ["break", "case", "catch", "class", "const", "continue", "debugger", "default", "delete", "do",
    "else", "enum", "export", "extends", "false", "finally", "for", "function", "if", "import",
    "in", "instanceof", "new", "null", "return", "super", "switch", "this", "throw", "true", "try",
    "typeof", "var", "void", "while", "with"]

namespace Kind

/-- How a message names the token. -/
def label : Kind → String
  | word text => if keywords.contains text then text else "Identifier"
  | mark text => text
  | string _ _ => "string"
  | number _ style => style
  | bigInteger _ => "bigint"
  | template _ true _ => "$\x7b\x7d"
  | template _ false _ => "$\x7b"
  | privateName _ => "#identifier"
  | regex _ _ => "/regexp/"
  | markupText _ => "jsx"
  | markupValue _ => "string"
  | bad | stop => "EOF"

/-- Whether the token is the given mark. -/
def isMark (kind : Kind) (text : String) : Bool :=
  match kind with
  | mark found => found == text
  | _ => false

/-- Whether the token is the given word. -/
def isWord (kind : Kind) (text : String) : Bool :=
  match kind with
  | word found => found == text
  | _ => false

/-- Whether the token is an identifier or keyword. -/
def isAnyWord : Kind → Bool
  | word _ => true
  | _ => false

/-- Whether the token ends the text or is no token. -/
def isEnd : Kind → Bool
  | bad | stop => true
  | _ => false

end Kind

end LoopTemplate.Token

namespace LoopTemplate

open LoopTemplate.Token (Comment Kind Promise)

/-- A token where it stands. -/
structure Token where
  kind : Kind
  /-- Byte offset of its first character. -/
  start : Nat
  /-- Byte offset after its last character. -/
  stop : Nat
  /-- A line break comes before it. -/
  afterBreak : Bool
  /-- It is a word spelled with escapes. -/
  escaped : Bool
  /-- The comments that lead up to it. -/
  leading : List Comment
  /-- What the comments before it promise. -/
  promises : List Promise
deriving DecidableEq, Inhabited

end LoopTemplate
