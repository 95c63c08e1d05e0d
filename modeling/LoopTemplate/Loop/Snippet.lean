import LoopTemplate.Grammar.Program
import LoopTemplate.Loop.Adapter
import LoopTemplate.Loop.Names

/-!
# Synthesized nodes

The nodes that a rewrite puts in are read from short texts: a parameter list, the object with the
captured names, and the element that is the loop in the template.
-/

namespace LoopTemplate.Loop

open LoopTemplate.Tree (Form Node)

/-- Why a rewrite cannot be completed. -/
inductive RewriteError where
  /-- A callback has no markup to take out. -/
  | missingReturn (offset : Nat)
  /-- An inner rewrite left loops open. -/
  | unbalancedStack (offset : Nat)
  /-- A synthesized text was read as something else. -/
  | snippet (code message : String)
deriving DecidableEq, Inhabited

namespace RewriteError

/-- The wording of an error. -/
def message : RewriteError → String
  | missingReturn offset =>
      "mapped list callback has no markup return value to rewrite (at offset " ++ toString offset
        ++ ")"
  | unbalancedStack offset =>
      "loop context stack unbalanced while rewriting list (at offset " ++ toString offset ++ ")"
  | snippet code message =>
      "synthesized `" ++ code ++ "` did not parse into the expected node: " ++ message

/-- The byte offset of an error. A synthesized text has none. -/
def offset : RewriteError → Nat
  | missingReturn offset => offset
  | unbalancedStack offset => offset
  | snippet _ _ => 0

end RewriteError

/-- Reads a synthesized text and takes what is needed of it, looking through parentheses. -/
def readSnippet (code : String) (take : Node → Option Node) : Except RewriteError Node :=
  match Grammar.readExpression code.toList with
  | .error fault => .error (.snippet code fault.cause.message)
  | .ok node =>
      match take node.withoutParentheses with
      | some found => .ok found
      | none => .error (.snippet code "unexpected node")

/-! ## Parameters -/

/-- The text of an arrow with the given parameters. -/
def parametersCode (names : List String) : String :=
  "(" ++ ", ".intercalate names ++ ") => \x7b\x7d"

/-- The parameters of an arrow. -/
def arrowParameters? : Node → Option Node
  | .mk _ (.arrow _) (parameters :: _) => some parameters
  | _ => none

/-- Plain parameters with the given names. -/
def parametersSnippet (names : List String) : Except RewriteError Node :=
  readSnippet (parametersCode names) arrowParameters?

/-! ## Captured names -/

/-- The text of an object with a property for each name. -/
def captureCode (names : Names) : String :=
  "(\x7b" ++ ", ".intercalate (names.map fun name => name ++ ": " ++ name) ++ "\x7d)"

/-- A node that is an object. -/
def object? : Node → Option Node
  | .mk start .object properties => some (.mk start .object properties)
  | _ => none

/-- The object that hands over the given names. -/
def captureObject (names : Names) : Except RewriteError Node :=
  readSnippet (captureCode names) object?

/-! ## Loop elements -/

/-- The tag of the element that is the loop in the template. -/
def wrapperTag : String := "block"

/-- The text of the element that is the loop in the template, with a placeholder for the
collection. -/
def wrapperCode (adapter : Adapter) (item index : String) : String :=
  "<" ++ wrapperTag ++ " " ++ adapter.collection ++ "=\x7b0\x7d " ++ adapter.item ++ "=\"" ++ item
    ++ "\" " ++ adapter.index ++ "=\"" ++ index ++ "\"></" ++ wrapperTag ++ ">"

/-- A node that is an element. -/
def element? : Node → Option Node
  | .mk start .element parts => some (.mk start .element parts)
  | _ => none

/-- The element that is the loop in the template, with a placeholder for the collection and without
children. -/
def wrapperSnippet (adapter : Adapter) (item index : String) : Except RewriteError Node :=
  readSnippet (wrapperCode adapter item index) element?

/-- Puts a collection in the place of the value of an element's first attribute, and a child behind
its children. -/
def fillWrapper (collection child : Node) : Node → Option Node
  | .mk start .element
      (.mk openingStart (.opening tag selfClosing)
        (.mk attributeStart (.attribute name) [.mk containerStart .container _] :: attributes)
        :: children) =>
      some (.mk start .element
        (.mk openingStart (.opening tag selfClosing)
          (.mk attributeStart (.attribute name) [.mk containerStart .container [collection]]
            :: attributes)
          :: children ++ [child]))
  | _ => none

/-- The loop in the template, filled. -/
def loopWrapper (adapter : Adapter) (item index : String) (collection child : Node) :
    Except RewriteError Node := do
  let wrapper ← wrapperSnippet adapter item index
  match fillWrapper collection child wrapper with
  | some filled => return filled
  | none => throw (.snippet wrapperTag "loop wrapper has no collection attribute")

end LoopTemplate.Loop
