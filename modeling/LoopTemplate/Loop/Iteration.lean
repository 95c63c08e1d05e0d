import LoopTemplate.Loop.Names
import LoopTemplate.Tree.Node

/-!
# Mapped lists

A mapped list is a call of `map` with one inline callback that renders markup: it takes at most two
plain names and yields one element or fragment, as its expression body or by its only `return`.
-/

namespace LoopTemplate.Loop

open LoopTemplate.Tree (Form Node)

/-- The shape of a callback's body. -/
inductive BodyShape where
  /-- The body is the markup. -/
  | expression
  /-- The body returns the markup. -/
  | block
deriving DecidableEq, Inhabited

/-- A mapped list: the names that its callback declares, and the shape of its body. -/
structure Iteration where
  item : Option String
  index : Option String
  body : BodyShape
deriving DecidableEq, Inhabited

namespace Iteration

/-- The name of the item, declared or not. -/
def itemName (iteration : Iteration) : String := iteration.item.getD "item"

/-- The name of the index, declared or not. -/
def indexName (iteration : Iteration) : String := iteration.index.getD "index"

end Iteration

/-! ## Shapes of nodes -/

/-- Whether a node, looking through parentheses, is an element or fragment. -/
def isMarkup (node : Node) : Bool :=
  match node.withoutParentheses.form with
  | .element | .fragment => true
  | _ => false

/-- Whether a callee, looking through parentheses, is a property named `map`. -/
def isMapCallee (callee : Node) : Bool :=
  match callee.withoutParentheses.form with
  | .member "map" _ => true
  | _ => false

/-- Whether a node, looking through parentheses, is a call of a property named `map`. -/
def isMapCall (node : Node) : Bool :=
  match node.withoutParentheses with
  | .mk _ (.call _ _ _) (callee :: _) => isMapCallee callee
  | _ => false

mutual

/-- How many `return` statements a node holds outside inner functions. -/
def countReturns : Node → Nat
  | .mk _ .returnStatement _ => 1
  | .mk _ (.function _) _ => 0
  | .mk _ (.arrow _) _ => 0
  | .mk _ _ parts => countAllReturns parts

/-- How many `return` statements nodes hold outside inner functions. -/
def countAllReturns : List Node → Nat
  | [] => 0
  | node :: nodes => countReturns node + countAllReturns nodes

end

/-- The value that a statement returns, if it is a `return` with a value. -/
def returned? : Node → Option Node
  | .mk _ .returnStatement [value] => some value
  | _ => none

/-- Whether statements have exactly one `return`, which stands among them and returns markup. -/
def returnsMarkup (statements : List Node) : Bool :=
  countAllReturns statements == 1
    && statements.any fun statement => (returned? statement).any isMarkup

/-! ## Callbacks -/

/-- The parameters and body of an inline callback that is neither async nor a generator. -/
def callback? : Node → Option (Node × Node)
  | .mk _ (.arrow ⟨false, _, _⟩) [parameters, body] => some (parameters, body)
  | .mk _ (.function ⟨_, false, false, _, _⟩) [_, parameters, body] => some (parameters, body)
  | _ => none

/-- The shape of a callback's body, if it renders markup. -/
def bodyShape? (body : Node) : Option BodyShape :=
  match body with
  | .mk _ (.body _) statements => if returnsMarkup statements then some .block else none
  | body => if isMarkup body then some .expression else none

/-- The name of a parameter that is a plain name. -/
def parameterName? : Node → Option String
  | .mk _ .parameter (.mk _ (.binding name) _ :: _) => some name
  | _ => none

/-- The names of at most two parameters that are all plain names. -/
def parameterNames? (parameters : Node) : Option (List String) :=
  if 2 < parameters.parts.length then none else parameters.parts.mapM parameterName?

/-- The mapped list that an expression is, if it is one. Parentheses around it are looked
through. -/
def iteration? (node : Node) : Option Iteration :=
  match node.withoutParentheses with
  | .mk _ (.call _ _ _) [callee, argument] =>
      if isMapCallee callee then do
        let (parameters, body) ← callback? argument
        let names ← parameterNames? parameters
        let shape ← bodyShape? body
        return ⟨names[0]?, names[1]?, shape⟩
      else none
  | _ => none

/-! ## Declared names -/

mutual

/-- The names that a pattern binds, in order. Values and keys in it are not entered. -/
def patternNames : Node → List String
  | .mk _ (.binding name) _ => [name]
  | .mk _ (.arrayPattern _) parts => allPatternNames parts
  | .mk _ (.objectPattern _) parts => allPatternNames parts
  | .mk _ (.patternProperty _ _ _) [_, pattern] => patternNames pattern
  | .mk _ .patternDefault (pattern :: _) => patternNames pattern
  | .mk _ .patternRest [pattern] => patternNames pattern
  | _ => []

/-- The names that patterns bind, in order. -/
def allPatternNames : List Node → List String
  | [] => []
  | node :: nodes => patternNames node ++ allPatternNames nodes

end

/-- The names that a statement declares: variables, a function or a class. -/
def statementNames : Node → List String
  | .mk _ (.variableList _) declarators =>
      declarators.flatMap fun declarator => patternNames (declarator.part 0)
  | .mk _ (.function _) (name :: _) => patternNames name
  | .mk _ (.classDefinition _) (_ :: name :: _) => patternNames name
  | _ => []

/-- The names that a callback's body declares at its top level. -/
def declaredNames : Node → Names
  | .mk _ (.body _) statements => namesOf (statements.flatMap statementNames)
  | _ => []

end LoopTemplate.Loop
