import LoopTemplate.Loop.Capture
import LoopTemplate.Loop.Event
import LoopTemplate.Loop.Frame
import LoopTemplate.Loop.Iteration
import LoopTemplate.Loop.Snippet

/-!
# Rewriting mapped lists

A mapped list between tags is replaced by a loop of the template. The markup moves from the callback
into the loop, and the callback returns an object with the names that the markup reads:

```text
<View>{list.map((value, position) => <item data={value} />)}</View>

<View><block a:for={list.map((value, position) => ({ value }))} a:for-item="value"
  a:for-index="position"><item data={value} /></block></View>
```

Inner lists are rewritten before the lists around them. The collection of a list lies outside the
list, its callback's body inside.
-/

namespace LoopTemplate.Loop

open LoopTemplate.Tree (Form Node)

/-! ## Walks -/

/-- How a rewrite is done. -/
structure RewriteRules where
  adapter : Adapter
  policy : MergePolicy
deriving DecidableEq, Inhabited

/-- How far a walk came. -/
structure WalkState where
  /-- The loops around the current node. -/
  stack : LoopStack
  /-- How many lists were rewritten. -/
  count : Nat
  /-- What was reported, in order. -/
  events : List Event
deriving DecidableEq, Inhabited

/-- A step of a walk. -/
abbrev Walk := StateT WalkState (Except RewriteError)

/-- Reports an event. -/
def emit (event : Event) : Walk Unit :=
  modify fun state => { state with events := state.events ++ [event] }

/-- Opens a loop and yields the names that the loops around it bind, and how many they are. -/
def openLoop (frame : Frame) : Walk (Names × Nat) := do
  let state ← get
  set { state with stack := LoopStack.push state.stack frame }
  return (LoopStack.bindings state.stack, LoopStack.depth state.stack)

/-- Closes the loop that was opened at the given depth. -/
def closeLoop (depth offset : Nat) : Walk Frame := do
  let state ← get
  if LoopStack.depth state.stack = depth + 1 then
    match LoopStack.pop? state.stack with
    | some (frame, stack) =>
        set { state with stack }
        return frame
    | none => throw (.unbalancedStack offset)
  else throw (.unbalancedStack offset)

/-! ## Callbacks -/

/-- Replaces the value of the first `return` that has one, and yields the old value. -/
def replaceReturned (value : Node) : List Node → Option (Node × List Node)
  | [] => none
  | .mk start .returnStatement [old] :: statements =>
      some (old, .mk start .returnStatement [value] :: statements)
  | statement :: statements => do
      let (old, statements) ← replaceReturned value statements
      return (old, statement :: statements)

/-- Replaces the result of a callback's body, and yields the old result. -/
def replaceResult (value : Node) : Node → Option (Node × Node)
  | .mk start (.body closing) statements => do
      let (old, statements) ← replaceReturned value statements
      return (old, .mk start (.body closing) statements)
  | body => some (body, value)

/-- The result of a callback's body. -/
def result? : Node → Option Node
  | .mk _ (.body _) statements => statements.findSome? returned?
  | body => some body

/-- The names that a callback hands to its template. -/
def handedNames (rules : RewriteRules) (frame : Frame) (outer : Names) (markup : Node) : Names :=
  let own := insertNames (insertNames (namesOf [frame.item, frame.index]) frame.locals) outer
  let bound := match rules.policy with
    | .flatten => insertNames own frame.innerBindings
    | .scoped => own
  let captureRules : CaptureRules :=
    { bound, policy := rules.policy
      loopAttributes := some (rules.adapter.item, rules.adapter.index) }
  insertNames (captures captureRules markup) frame.innerCaptures

/-- The parameters of a rewritten callback. Where names are missing, all are spelled anew. -/
def spellParameters (iteration : Iteration) (parameters : Node) : Except RewriteError Node :=
  if parameters.parts.length < 2 then
    parametersSnippet [iteration.itemName, iteration.indexName]
  else .ok parameters

/-- The parameters that an inline callback gets when it is rewritten. -/
def spellCallback (iteration : Iteration) (offset : Nat) (callback : Node) :
    Except RewriteError Node :=
  match callback? callback with
  | some (parameters, _) => spellParameters iteration parameters
  | none => .error (.missingReturn offset)

/-- A rewritten callback: its node, the markup taken out of it, and its finished loop. -/
structure RewrittenCallback where
  callback : Node
  markup : Node
  frame : Frame

/-- Finishes a callback whose body was walked: closes its loop, and puts the object with the
captured names in the place of the markup. -/
def finishCallback (rules : RewriteRules) (offset depth : Nat) (outer : Names) (body : Node)
    (rebuild : Node → Node) : Walk RewrittenCallback := do
  let frame ← closeLoop depth offset
  match result? body with
  | none => throw (.missingReturn offset)
  | some result =>
      unless isMarkup result do throw (.missingReturn offset)
      let markup := result.withoutParentheses
      let frame := { frame with captures := handedNames rules frame outer markup }
      let object ← captureObject frame.captures
      match replaceResult object body with
      | none => throw (.missingReturn offset)
      | some (_, body) => return ⟨rebuild body, markup, frame⟩

/-- Reports a rewritten list and hands its loop to the one around it. -/
def reportLoop (frame : Frame) : Walk Unit := do
  let state ← get
  emit (.rewrote frame.item frame.index frame.captures (LoopStack.depth state.stack))
  modify fun state =>
    { state with stack := LoopStack.report state.stack frame, count := state.count + 1 }

/-! ## The walk -/

/-- Where a node stands. -/
inductive Place where
  /-- Between tags, where a list is rewritten. -/
  | child
  /-- Anywhere else. -/
  | inner
deriving DecidableEq

mutual

/-- Rewrites the lists in a node. -/
def walk (rules : RewriteRules) (place : Place) : Node → Walk Node
  | .mk start .container [value] =>
      match place, iteration? value with
      | .child, some iteration => walkList rules iteration start value
      | .child, none => do
          if isMapCall value then emit (.skipped start)
          return .mk start .container [← walk rules .inner value]
      | .inner, _ => return .mk start .container [← walk rules .inner value]
  | .mk start .element (opening :: children) => do
      let opening ← walk rules .inner opening
      let children ← walkAll rules .child children
      return .mk start .element (opening :: children)
  | .mk start .fragment children => return .mk start .fragment (← walkAll rules .child children)
  | .mk start form parts => return .mk start form (← walkAll rules .inner parts)

/-- Rewrites the lists in nodes one after the other. -/
def walkAll (rules : RewriteRules) (place : Place) : List Node → Walk (List Node)
  | [] => return []
  | node :: nodes => do
      let node ← walk rules place node
      return node :: (← walkAll rules place nodes)

/-- The loop that replaces a mapped list in a container at the given offset. Its parameters are
spelled first: where they cannot be, that is the error, whatever is wrong in the collection. -/
def walkList (rules : RewriteRules) (iteration : Iteration) (offset : Nat) : Node → Walk Node
  | .mk _ .parenthesized [inner] => walkList rules iteration offset inner
  | .mk start (.call optional pure closing) [callee, argument] => do
      let parameters ← spellCallback iteration offset argument
      let callee ← walkCallee rules callee
      let rewritten ← walkCallback rules iteration offset parameters argument
      reportLoop rewritten.frame
      let call := Node.mk start (.call optional pure closing) [callee, rewritten.callback]
      loopWrapper rules.adapter rewritten.frame.item rewritten.frame.index call rewritten.markup
  | _ => throw (.missingReturn offset)

/-- Rewrites the lists in the collection of a mapped list. -/
def walkCallee (rules : RewriteRules) : Node → Walk Node
  | .mk start .parenthesized [inner] =>
      return .mk start .parenthesized [← walkCallee rules inner]
  | .mk start (.member name optional) [object] =>
      return .mk start (.member name optional) [← walk rules .inner object]
  | node => return node

/-- Gives a callback its parameters and rewrites the lists in its body. -/
def walkCallback (rules : RewriteRules) (iteration : Iteration) (offset : Nat) (parameters : Node) :
    Node → Walk RewrittenCallback
  | .mk start (.arrow head) [_, body] => do
      let frame := Frame.of iteration.itemName iteration.indexName
      let (outer, depth) ← openLoop { frame with locals := declaredNames body }
      let body ← walk rules .inner body
      finishCallback rules offset depth outer body fun body =>
        .mk start (.arrow head) [parameters, body]
  | .mk start (.function head) [name, _, body] => do
      let frame := Frame.of iteration.itemName iteration.indexName
      let (outer, depth) ← openLoop { frame with locals := declaredNames body }
      let body ← walk rules .inner body
      finishCallback rules offset depth outer body fun body =>
        .mk start (.function head) [name, parameters, body]
  | _ => throw (.missingReturn offset)

end

/-- A tree with its lists rewritten, and what was reported. -/
structure Rewritten where
  tree : Node
  events : List Event

/-- Rewrites all mapped lists of a tree. -/
def rewrite (rules : RewriteRules) (tree : Node) : Except RewriteError Rewritten := do
  let (tree, state) ← (walk rules .inner tree).run ⟨[], 0, []⟩
  return ⟨tree, state.events ++ [.finished state.count]⟩

end LoopTemplate.Loop
