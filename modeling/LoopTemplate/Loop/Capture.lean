import LoopTemplate.Loop.Adapter
import LoopTemplate.Loop.Names
import LoopTemplate.Tree.Node

/-!
# Captured names

A template cannot see the variables of the code around it. So the callback of a loop hands it the
names that its markup reads. `captures` finds them, in the order in which they are first read.

Under `flatten` a declaration counts as a reading. Under `scoped` it hides the name until the
function, arrow, block or element around it ends.
-/

namespace LoopTemplate.Loop

open LoopTemplate.Tree (AttributeName Form Node)

/-! ## Attributes -/

/-- Splits a text at its first colon. -/
def splitColon (chars : List Char) : Option (List Char × List Char) :=
  match chars.dropWhile (· != ':') with
  | [] => none
  | _ :: name => some (chars.takeWhile (· != ':'), name)

/-- Whether an attribute is spelled as given, its namespace included. -/
def spells (name : AttributeName) (text : String) : Bool :=
  match name with
  | .plain name => name == text
  | .namespaced space name => splitColon text.toList == some (space.toList, name.toList)

/-- The value of a part of an opening tag, if it is an attribute of the given name with a string
value. -/
def stringValue? (name : String) : Node → Option String
  | .mk _ (.attribute found) [.mk _ (.quoted raw) _] => if spells found name then some raw else none
  | _ => none

/-- The value of the first attribute of the given name that has a string value. -/
def stringAttribute? (opening : Node) (name : String) : Option String :=
  opening.parts.findSome? (stringValue? name)

/-! ## Analysis -/

/-- What an analysis looks for. -/
structure CaptureRules where
  /-- The names that loops bind. -/
  bound : Names
  policy : MergePolicy
  /-- The attributes that name the item and index of a loop in the template, if they are to be
  recognised. -/
  loopAttributes : Option (String × String)
deriving Inhabited

/-- How far an analysis came. -/
structure CaptureState where
  /-- Names that are hidden by declarations, the last first. -/
  hidden : List String
  /-- Names found so far. -/
  found : Names
deriving DecidableEq, Inhabited

namespace CaptureState

/-- Nothing found yet. -/
def empty : CaptureState := ⟨[], []⟩

/-- A name is read. -/
def read (state : CaptureState) (rules : CaptureRules) (name : String) : CaptureState :=
  if name ∈ rules.bound ∧ ¬(rules.policy = .scoped ∧ name ∈ state.hidden) then
    { state with found := insertName state.found name }
  else state

/-- A name is declared. -/
def declare (state : CaptureState) (rules : CaptureRules) (name : String) : CaptureState :=
  match rules.policy with
  | .flatten => state.read rules name
  | .scoped => { state with hidden := name :: state.hidden }

/-- What was hidden before a scope is hidden after it, and nothing else. -/
def leave (inside before : CaptureState) : CaptureState :=
  { inside with hidden := before.hidden }

end CaptureState

/-- The item and index that an element binds over its children, if it is a loop of the template. -/
def loopNames? (rules : CaptureRules) (opening : Node) : Option (String × String) := do
  let (itemAttribute, indexAttribute) ← rules.loopAttributes
  let item ← stringAttribute? opening itemAttribute
  let index ← stringAttribute? opening indexAttribute
  return (item, index)

/-- The state on the children of an element. -/
def enterElement (rules : CaptureRules) (opening : Node) (state : CaptureState) : CaptureState :=
  match rules.policy, loopNames? rules opening with
  | .scoped, some (item, index) => { state with hidden := index :: item :: state.hidden }
  | _, _ => state

mutual

/-- Analyses a node. The value of a variable is read before its name is declared. -/
def analyze (rules : CaptureRules) : Node → CaptureState → CaptureState
  | .mk _ (.reference name) _, state => state.read rules name
  | .mk _ (.binding name) _, state => state.declare rules name
  | .mk _ .element (opening :: children), state =>
      let before := analyze rules opening state
      (analyzeAll rules children (enterElement rules opening before)).leave before
  | .mk _ .declarator [pattern, value], state => analyze rules pattern (analyze rules value state)
  | .mk _ (.function _) parts, state => (analyzeAll rules parts state).leave state
  | .mk _ (.arrow _) parts, state => (analyzeAll rules parts state).leave state
  | .mk _ .block parts, state => (analyzeAll rules parts state).leave state
  | .mk _ _ parts, state => analyzeAll rules parts state

/-- Analyses nodes one after the other. -/
def analyzeAll (rules : CaptureRules) : List Node → CaptureState → CaptureState
  | [], state => state
  | node :: nodes, state => analyzeAll rules nodes (analyze rules node state)

end

/-- The bound names that a node reads, in the order in which they are first read. -/
def captures (rules : CaptureRules) (node : Node) : Names :=
  (analyze rules node .empty).found

end LoopTemplate.Loop
