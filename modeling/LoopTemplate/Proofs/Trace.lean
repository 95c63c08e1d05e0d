import LoopTemplate.Loop.Rewrite
import LoopTemplate.Proofs.Names

/-!
# Runs as traces

A walk threads a stack of open loops through the tree. `expand` describes the same rewriting without
a state: it is given the names that the loops around a node bind, and yields beside the rewritten
node a trace of what was done, in order. The trace of a list holds the traces of everything done in
its callback's body.

`walk_follows` identifies the two: a walk yields the node of the expansion, and its state is the
one before with the trace recorded in it. In particular a walk leaves the loops that were open
before it open, and a list depends on the state only through the names that those loops bind.
-/

namespace LoopTemplate.Loop

open LoopTemplate.Tree (Form Node)

/-! ## Traces -/

/-- What a walk did at one place. -/
inductive Trace where
  /-- A call of `map` was left as it is. -/
  | skipped (offset : Nat)
  /-- A list was rewritten: its finished loop, the element that replaced it, and what was done in
  the body of its callback. -/
  | list (frame : Frame) (wrapper : Node) (inside : List Trace)
deriving Inhabited

namespace Trace

mutual

/-- The events of a trace, with the given number of loops open around it. -/
def events (depth : Nat) : Trace → List Event
  | skipped offset => [.skipped offset]
  | list frame _ inside =>
      allEvents (depth + 1) inside ++ [.rewrote frame.item frame.index frame.captures depth]

/-- The events of traces one after the other. -/
def allEvents (depth : Nat) : List Trace → List Event
  | [] => []
  | trace :: traces => events depth trace ++ allEvents depth traces

end

mutual

/-- How many lists were rewritten. -/
def lists : Trace → Nat
  | skipped _ => 0
  | list _ _ inside => allLists inside + 1

/-- How many lists were rewritten in traces one after the other. -/
def allLists : List Trace → Nat
  | [] => 0
  | trace :: traces => lists trace + allLists traces

end

/-- What holds of a list whenever it holds of the lists in its body holds of every list. -/
@[elab_as_elim]
theorem list_induction {motive : Frame → Node → List Trace → Prop}
    (step : ∀ frame wrapper inside, (∀ nested element inner, list nested element inner ∈ inside →
      motive nested element inner) → motive frame wrapper inside) (frame : Frame) (wrapper : Node)
    (inside : List Trace) : motive frame wrapper inside := by
  let OfList : Trace → Prop := fun trace =>
    ∀ frame wrapper inside, trace = list frame wrapper inside → motive frame wrapper inside
  have all : ∀ trace, OfList trace := by
    intro trace
    refine @Trace.rec OfList (fun traces => ∀ trace ∈ traces, OfList trace) ?_ ?_ ?_ ?_ trace
    · exact fun offset frame wrapper inside same => nomatch same
    · intro frame wrapper inside insideHolds _ _ _ same
      cases same
      exact step _ _ _ fun nested element inner member => insideHolds _ member _ _ _ rfl
    · exact fun trace member => nomatch member
    · intro head rest headHolds restHolds trace member
      rcases List.mem_cons.1 member with rfl | later
      · exact headHolds
      · exact restHolds trace later
  exact all _ frame wrapper inside rfl

end Trace

/-- A loop after something done directly in it reported to it. -/
def Frame.note (frame : Frame) : Trace → Frame
  | .skipped _ => frame
  | .list finished _ _ => frame.absorb finished

/-- A loop after all that was done directly in it reported to it. -/
def Frame.noteAll (frame : Frame) (traces : List Trace) : Frame := traces.foldl Frame.note frame

/-- The open loops after something done inside the innermost of them reported to it. -/
def LoopStack.note (stack : LoopStack) : Trace → LoopStack
  | .skipped _ => stack
  | .list finished _ _ => stack.report finished

namespace WalkState

/-- The state after something was done. -/
def record (state : WalkState) (trace : Trace) : WalkState :=
  { stack := LoopStack.note state.stack trace
    count := state.count + trace.lists
    events := state.events ++ trace.events (LoopStack.depth state.stack) }

/-- The state after things were done one after the other. -/
def recordAll (state : WalkState) (traces : List Trace) : WalkState :=
  traces.foldl record state

end WalkState

/-! ## Expansion -/

/-- A computation that may fail and otherwise leaves traces. -/
def Traced (α : Type) := Except RewriteError (α × List Trace)

namespace Traced

/-- A result without traces. -/
def ofExcept {α : Type} (result : Except RewriteError α) : Traced α :=
  result.map fun value => (value, [])

/-- Runs a second computation behind the first. -/
def next {α β : Type} (first : Traced α) (second : α → Traced β) : Traced β :=
  match first with
  | .error error => .error error
  | .ok (value, before) =>
      match second value with
      | .error error => .error error
      | .ok (result, after) => .ok (result, before ++ after)

instance : Monad Traced where
  pure value := .ok (value, [])
  bind := next

theorem ofExcept_ok_bind {α β : Type} (value : α) (later : α → Traced β) :
    (ofExcept (.ok value) >>= later) = later value := by
  change next (.ok (value, [])) later = later value
  rw [next]
  cases later value <;> rfl

/-- Leaves a trace. -/
def leave (trace : Trace) : Traced Unit := .ok ((), [trace])

/-- A computation with the traces that it leaves. -/
def run {α : Type} (computation : Traced α) : Except RewriteError (α × List Trace) := computation

end Traced

/-- The loop that a callback opens. -/
def loopOf (iteration : Iteration) (body : Node) : Frame :=
  { Frame.of iteration.itemName iteration.indexName with locals := declaredNames body }

/-- Puts the object with the captured names in the place of the markup of a rewritten body. -/
def completeCallback (rules : RewriteRules) (offset : Nat) (frame : Frame) (outer : Names)
    (body : Node) (rebuild : Node → Node) : Except RewriteError RewrittenCallback :=
  match result? body with
  | none => .error (.missingReturn offset)
  | some result =>
      if isMarkup result then do
        let markup := result.withoutParentheses
        let frame := { frame with captures := handedNames rules frame outer markup }
        let object ← captureObject frame.captures
        match replaceResult object body with
        | none => .error (.missingReturn offset)
        | some (_, body) => return ⟨rebuild body, markup, frame⟩
      else .error (.missingReturn offset)

mutual

/-- Rewrites the lists in a node, with the given names bound by the loops around it. -/
def expand (rules : RewriteRules) (outer : Names) (place : Place) : Node → Traced Node
  | .mk start .container [value] =>
      match place, iteration? value with
      | .child, some iteration => expandList rules outer iteration start value
      | .child, none => do
          if isMapCall value then Traced.leave (.skipped start)
          return .mk start .container [← expand rules outer .inner value]
      | .inner, _ => return .mk start .container [← expand rules outer .inner value]
  | .mk start .element (opening :: children) => do
      let opening ← expand rules outer .inner opening
      let children ← expandAll rules outer .child children
      return .mk start .element (opening :: children)
  | .mk start .fragment children =>
      return .mk start .fragment (← expandAll rules outer .child children)
  | .mk start form parts => return .mk start form (← expandAll rules outer .inner parts)

/-- Rewrites the lists in nodes one after the other. -/
def expandAll (rules : RewriteRules) (outer : Names) (place : Place) :
    List Node → Traced (List Node)
  | [] => return []
  | node :: nodes => do
      let node ← expand rules outer place node
      return node :: (← expandAll rules outer place nodes)

/-- The loop that replaces a mapped list. What is done in its collection is done before it. -/
def expandList (rules : RewriteRules) (outer : Names) (iteration : Iteration) (offset : Nat) :
    Node → Traced Node
  | .mk _ .parenthesized [inner] => expandList rules outer iteration offset inner
  | .mk start (.call optional pure closing) [callee, argument] => do
      let parameters ← Traced.ofExcept (spellCallback iteration offset argument)
      let callee ← expandCallee rules outer callee
      let (rewritten, inside) ←
        Traced.ofExcept (expandCallback rules outer iteration offset parameters argument)
      let call := Node.mk start (.call optional pure closing) [callee, rewritten.callback]
      let wrapper ← Traced.ofExcept (loopWrapper rules.adapter rewritten.frame.item
        rewritten.frame.index call rewritten.markup)
      Traced.leave (.list rewritten.frame wrapper inside)
      return wrapper
  | _ => Traced.ofExcept (.error (.missingReturn offset))

/-- Rewrites the lists in the collection of a mapped list. -/
def expandCallee (rules : RewriteRules) (outer : Names) : Node → Traced Node
  | .mk start .parenthesized [inner] =>
      return .mk start .parenthesized [← expandCallee rules outer inner]
  | .mk start (.member name optional) [object] =>
      return .mk start (.member name optional) [← expand rules outer .inner object]
  | node => return node

/-- Gives a callback its parameters and rewrites the lists in its body, and yields what was done in
the body. -/
def expandCallback (rules : RewriteRules) (outer : Names) (iteration : Iteration) (offset : Nat)
    (parameters : Node) : Node → Except RewriteError (RewrittenCallback × List Trace)
  | .mk start (.arrow head) [_, body] => do
      let frame := loopOf iteration body
      let (body, inside) ← (expand rules (insertNames outer frame.bindings) .inner body).run
      let rewritten ← completeCallback rules offset (frame.noteAll inside) outer body fun body =>
        .mk start (.arrow head) [parameters, body]
      return (rewritten, inside)
  | .mk start (.function head) [name, _, body] => do
      let frame := loopOf iteration body
      let (body, inside) ← (expand rules (insertNames outer frame.bindings) .inner body).run
      let rewritten ← completeCallback rules offset (frame.noteAll inside) outer body fun body =>
        .mk start (.function head) [name, parameters, body]
      return (rewritten, inside)
  | _ => .error (.missingReturn offset)

end

/-! ## Recording -/

namespace LoopStack

theorem bindings_note (stack : LoopStack) (trace : Trace) :
    LoopStack.bindings (LoopStack.note stack trace) = LoopStack.bindings stack := by
  cases trace with
  | skipped offset => rfl
  | list finished wrapper inside => exact bindings_report stack finished

theorem depth_note (stack : LoopStack) (trace : Trace) :
    LoopStack.depth (LoopStack.note stack trace) = LoopStack.depth stack := by
  cases trace with
  | skipped offset => rfl
  | list finished wrapper inside => exact depth_report stack finished

theorem note_cons (frame : Frame) (stack : LoopStack) (trace : Trace) :
    LoopStack.note (frame :: stack) trace = frame.note trace :: stack := by
  cases trace <;> rfl

theorem foldl_note_cons (frame : Frame) (stack : LoopStack) (traces : List Trace) :
    traces.foldl LoopStack.note (frame :: stack) = frame.noteAll traces :: stack := by
  induction traces generalizing frame with
  | nil => rfl
  | cons trace traces ih =>
      rw [List.foldl_cons, note_cons, ih]
      rfl

end LoopStack

namespace WalkState

theorem recordAll_cons (state : WalkState) (trace : Trace) (traces : List Trace) :
    state.recordAll (trace :: traces) = (state.record trace).recordAll traces := rfl

theorem recordAll_append (state : WalkState) (before after : List Trace) :
    state.recordAll (before ++ after) = (state.recordAll before).recordAll after := by
  simp only [recordAll, List.foldl_append]

theorem bindings_recordAll (state : WalkState) (traces : List Trace) :
    LoopStack.bindings (state.recordAll traces).stack = LoopStack.bindings state.stack := by
  induction traces generalizing state with
  | nil => rfl
  | cons trace traces ih =>
      rw [recordAll_cons, ih]
      exact LoopStack.bindings_note _ _

theorem depth_recordAll (state : WalkState) (traces : List Trace) :
    LoopStack.depth (state.recordAll traces).stack = LoopStack.depth state.stack := by
  induction traces generalizing state with
  | nil => rfl
  | cons trace traces ih =>
      rw [recordAll_cons, ih]
      exact LoopStack.depth_note _ _

theorem recordAll_eq (state : WalkState) (traces : List Trace) :
    state.recordAll traces =
      { stack := traces.foldl LoopStack.note state.stack
        count := state.count + Trace.allLists traces
        events := state.events ++ Trace.allEvents (LoopStack.depth state.stack) traces } := by
  induction traces generalizing state with
  | nil => simp [recordAll, Trace.allLists, Trace.allEvents]
  | cons trace traces ih =>
      rw [recordAll_cons, ih]
      simp [record, LoopStack.depth_note, Trace.allLists, Trace.allEvents, Nat.add_assoc]

/-- What is done under one more open loop reaches the loops around it only through its events and
its count. -/
theorem recordAll_push (state : WalkState) (frame : Frame) (traces : List Trace) :
    WalkState.recordAll { state with stack := frame :: state.stack } traces =
      { stack := frame.noteAll traces :: state.stack
        count := state.count + Trace.allLists traces
        events := state.events ++ Trace.allEvents (LoopStack.depth state.stack + 1) traces } := by
  rw [recordAll_eq, LoopStack.foldl_note_cons]
  rfl

end WalkState

/-- The outcome of an expansion with its traces recorded in a state. -/
def Traced.recorded {α : Type} (expansion : Traced α) (state : WalkState) :
    Except RewriteError (α × WalkState) :=
  match expansion with
  | .error error => .error error
  | .ok (value, traces) => .ok (value, state.recordAll traces)

theorem Traced.recorded_eq_ok {α : Type} {expansion : Traced α} {state later : WalkState}
    {value : α} (done : expansion.recorded state = .ok (value, later)) :
    ∃ traces, expansion.run = .ok (value, traces) ∧ later = state.recordAll traces := by
  unfold Traced.recorded at done
  split at done
  case h_1 => cases done
  case h_2 found traces =>
    cases done
    exact ⟨traces, rfl, rfl⟩

/-- A step of a walk does what an expansion says, given the names that the open loops bind. -/
def Follows {α : Type} (step : Walk α) (expansion : Names → Traced α) : Prop :=
  ∀ state : WalkState,
    step state = (expansion (LoopStack.bindings state.stack)).recorded state

namespace Follows

theorem pure {α : Type} (value : α) :
    Follows (Pure.pure value) fun _ => (Pure.pure value : Traced α) :=
  fun _ => rfl

theorem bind {α β : Type} {step : Walk α} {expansion : Names → Traced α} {later : α → Walk β}
    {laterExpansion : α → Names → Traced β} (first : Follows step expansion)
    (second : ∀ value, Follows (later value) (laterExpansion value)) :
    Follows (step >>= later) fun outer =>
      (expansion outer >>= fun value => laterExpansion value outer) := by
  intro state
  change (step state).bind (fun result => later result.1 result.2) =
    (Traced.next (expansion (LoopStack.bindings state.stack)) _).recorded state
  rw [first state]
  cases expansion (LoopStack.bindings state.stack) with
  | error error => rfl
  | ok result =>
      obtain ⟨value, before⟩ := result
      have rest := second value (state.recordAll before)
      rw [WalkState.bindings_recordAll] at rest
      simp only [Traced.recorded, Except.bind, Traced.next, rest]
      cases laterExpansion value (LoopStack.bindings state.stack) with
      | error error => rfl
      | ok result =>
          obtain ⟨result, after⟩ := result
          simp only [WalkState.recordAll_append]

theorem ofExcept {α : Type} (outcome : Except RewriteError α) :
    Follows (liftM outcome) fun _ => Traced.ofExcept outcome := by
  intro state
  cases outcome <;> rfl

theorem emit_skipped (offset : Nat) :
    Follows (emit (.skipped offset)) fun _ => Traced.leave (.skipped offset) := by
  intro state
  simp [emit, Traced.leave, Traced.recorded, WalkState.recordAll, WalkState.record,
    LoopStack.note, Trace.lists, Trace.events]
  rfl

end Follows

/-! ## Walks follow expansions -/

theorem Walk.bind_of_ok {α β : Type} {step : Walk α} {later : α → Walk β} {state after : WalkState}
    {value : α} (done : step state = .ok (value, after)) :
    (step >>= later) state = later value after := by
  change (step state).bind (fun result => later result.1 result.2) = _
  rw [done]
  rfl

/-- A loop that is innermost is closed at the depth at which it was opened. -/
theorem closeLoop_push (frame : Frame) (state : WalkState) (offset : Nat) :
    closeLoop (LoopStack.depth state.stack) offset { state with stack := frame :: state.stack } =
      .ok (frame, state) := by
  have read : (get : Walk WalkState) { state with stack := frame :: state.stack } =
      .ok ({ state with stack := frame :: state.stack },
        { state with stack := frame :: state.stack }) := rfl
  have deeper : LoopStack.depth (frame :: state.stack) = LoopStack.depth state.stack + 1 := rfl
  rw [closeLoop, Walk.bind_of_ok read, if_pos deeper]
  rfl

/-- A callback is finished with the loop that is innermost, which it closes. -/
theorem finishCallback_eq (rules : RewriteRules) (offset : Nat) (outer : Names) (body : Node)
    (rebuild : Node → Node) (frame : Frame) (state : WalkState) :
    finishCallback rules offset (LoopStack.depth state.stack) outer body rebuild
        { state with stack := frame :: state.stack } =
      (completeCallback rules offset frame outer body rebuild).map fun rewritten =>
        (rewritten, state) := by
  rw [finishCallback, Walk.bind_of_ok (closeLoop_push frame state offset), completeCallback]
  cases result? body with
  | none => rfl
  | some result =>
      dsimp only
      by_cases shown : isMarkup result = true
      · simp only [if_pos shown]
        cases captureObject _ with
        | error error => rfl
        | ok object =>
            have lifted : (liftM (Except.ok object : Except RewriteError Node) : Walk Node) state =
                .ok (object, state) := rfl
            rw [Walk.bind_of_ok lifted]
            simp only [bind, Except.bind]
            cases replaceResult object body with
            | none => rfl
            | some replaced => rfl
      · simp only [if_neg shown]
        rfl

/-- The state after things were done in a callback that is finished but not reported. -/
def WalkState.recordInside (state : WalkState) (inside : List Trace) : WalkState :=
  { state with
    count := state.count + Trace.allLists inside
    events := state.events ++ Trace.allEvents (LoopStack.depth state.stack + 1) inside }

/-- A walked callback is the expanded one, and what was done in its body is recorded. -/
def FollowsInside (step : Walk RewrittenCallback)
    (expansion : Names → Except RewriteError (RewrittenCallback × List Trace)) : Prop :=
  ∀ state : WalkState,
    step state =
      (expansion (LoopStack.bindings state.stack)).map fun (rewritten, inside) =>
        (rewritten, state.recordInside inside)

/-- A callback follows its expansion if its body does. -/
theorem followsInside_of_body (rules : RewriteRules) (iteration : Iteration) (offset : Nat)
    (body : Node) (rebuild : Node → Node)
    (bodyFollows : Follows (walk rules .inner body) fun outer => expand rules outer .inner body) :
    FollowsInside
      (do
        let frame := Frame.of iteration.itemName iteration.indexName
        let (outer, depth) ← openLoop { frame with locals := declaredNames body }
        let body ← walk rules .inner body
        finishCallback rules offset depth outer body rebuild)
      fun outer => do
        let frame := loopOf iteration body
        let (body, inside) ← (expand rules (insertNames outer frame.bindings) .inner body).run
        let rewritten ← completeCallback rules offset (frame.noteAll inside) outer body rebuild
        return (rewritten, inside) := by
  intro state
  have opened : openLoop (loopOf iteration body) state =
      .ok ((LoopStack.bindings state.stack, LoopStack.depth state.stack),
        { state with stack := loopOf iteration body :: state.stack }) := rfl
  have walked := bodyFollows { state with stack := loopOf iteration body :: state.stack }
  rw [LoopStack.bindings_cons] at walked
  change (openLoop (loopOf iteration body) >>= _) state = _
  rw [Walk.bind_of_ok opened]
  change (walk rules .inner body _).bind _ = _
  rw [walked]
  simp only [bind, Except.bind, Traced.run]
  cases expand rules (insertNames (LoopStack.bindings state.stack)
      (loopOf iteration body).bindings) .inner body with
  | error error => rfl
  | ok result =>
      obtain ⟨expanded, inside⟩ := result
      have finished := finishCallback_eq rules offset (LoopStack.bindings state.stack) expanded
        rebuild ((loopOf iteration body).noteAll inside) (state.recordInside inside)
      simp only [Traced.recorded, WalkState.recordAll_push]
      simp only [WalkState.recordInside] at finished ⊢
      rw [finished]
      cases completeCallback rules offset ((loopOf iteration body).noteAll inside)
          (LoopStack.bindings state.stack) expanded rebuild with
      | error error => rfl
      | ok rewritten => rfl

/-- Reporting a list completes the record of what was done in its callback. -/
theorem reportLoop_recordInside (frame : Frame) (wrapper : Node) (inside : List Trace)
    (state : WalkState) :
    reportLoop frame (state.recordInside inside) =
      .ok ((), state.record (.list frame wrapper inside)) := by
  have recorded : state.record (.list frame wrapper inside) =
      { stack := LoopStack.report state.stack frame
        count := state.count + Trace.allLists inside + 1
        events := state.events ++ Trace.allEvents (LoopStack.depth state.stack + 1) inside ++
          [.rewrote frame.item frame.index frame.captures (LoopStack.depth state.stack)] } := by
    simp only [WalkState.record, LoopStack.note, Trace.lists, Trace.events, Nat.add_assoc,
      List.append_assoc]
  rw [recorded]
  rfl

/-- A list follows its expansion if its callback does. -/
theorem follows_list (rules : RewriteRules) {step : Walk RewrittenCallback}
    {expansion : Names → Except RewriteError (RewrittenCallback × List Trace)}
    (callbackFollows : FollowsInside step expansion) (rebuild : Node → Node) :
    Follows
      (do
        let rewritten ← step
        reportLoop rewritten.frame
        loopWrapper rules.adapter rewritten.frame.item rewritten.frame.index
          (rebuild rewritten.callback) rewritten.markup)
      fun outer => do
        let (rewritten, inside) ← Traced.ofExcept (expansion outer)
        let wrapper ← Traced.ofExcept (loopWrapper rules.adapter rewritten.frame.item
          rewritten.frame.index (rebuild rewritten.callback) rewritten.markup)
        Traced.leave (.list rewritten.frame wrapper inside)
        return wrapper := by
  intro state
  change (step state).bind _ = _
  rw [callbackFollows state]
  dsimp only
  cases expansion (LoopStack.bindings state.stack) with
  | error error => rfl
  | ok result =>
      obtain ⟨rewritten, inside⟩ := result
      rw [Traced.ofExcept_ok_bind]
      change (reportLoop rewritten.frame >>= _) (state.recordInside inside) = _
      cases loopWrapper rules.adapter rewritten.frame.item rewritten.frame.index
          (rebuild rewritten.callback) rewritten.markup with
      | error error => rfl
      | ok wrapper =>
          rw [Traced.ofExcept_ok_bind,
            Walk.bind_of_ok (reportLoop_recordInside rewritten.frame wrapper inside state)]
          rfl

/-- A walk does what the expansion says at every node. -/
theorem walk_follows (rules : RewriteRules) :
    (∀ place node, Follows (walk rules place node) fun outer => expand rules outer place node) ∧
      (∀ place nodes,
        Follows (walkAll rules place nodes) fun outer => expandAll rules outer place nodes) ∧
      (∀ iteration offset node,
        Follows (walkList rules iteration offset node) fun outer =>
          expandList rules outer iteration offset node) ∧
      (∀ iteration offset parameters node,
        FollowsInside (walkCallback rules iteration offset parameters node) fun outer =>
          expandCallback rules outer iteration offset parameters node) ∧
      (∀ node, Follows (walkCallee rules node) fun outer => expandCallee rules outer node) := by
  apply walk.mutual_induct rules
  case case1 =>
    intro start value iteration matched listFollows
    simpa only [walk, expand, matched] using listFollows
  case case2 =>
    intro start value unmatched called valueFollows
    simp only [walk, expand, unmatched, called, if_true]
    exact (Follows.emit_skipped start).bind fun _ => valueFollows.bind fun _ => Follows.pure _
  case case3 =>
    intro start value unmatched notCalled valueFollows
    simp only [walk, expand, unmatched, notCalled, Bool.false_eq_true, if_false]
    exact valueFollows.bind fun _ => Follows.pure _
  case case4 =>
    intro start value valueFollows
    simp only [walk, expand]
    exact valueFollows.bind fun _ => Follows.pure _
  case case5 =>
    intro place start opening children openingFollows childrenFollow
    simp only [walk, expand]
    exact openingFollows.bind fun _ => childrenFollow.bind fun _ => Follows.pure _
  case case6 =>
    intro place start children childrenFollow
    simp only [walk, expand]
    exact childrenFollow.bind fun _ => Follows.pure _
  case case7 =>
    intro place start form parts notContainer notElement notFragment partsFollow
    simp only [walk, expand]
    exact partsFollow.bind fun _ => Follows.pure _
  case case8 =>
    intro iteration offset start inner innerFollows
    simpa only [walkList, expandList] using innerFollows
  case case9 =>
    intro iteration offset start optional pure closing callee argument calleeFollows
      argumentFollows
    simp only [walkList, expandList]
    refine (Follows.ofExcept _).bind fun parameters => calleeFollows.bind fun callee => ?_
    exact follows_list rules (argumentFollows parameters) fun callback =>
      .mk start (.call optional pure closing) [callee, callback]
  case case10 =>
    intro node iteration offset notParenthesized notCall
    simp only [walkList, expandList]
    exact fun _ => rfl
  case case11 =>
    intro iteration offset parameters start head declared body bodyFollows
    simp only [walkCallback, expandCallback]
    exact followsInside_of_body rules iteration offset body
      (fun body => .mk start (.arrow head) [parameters, body]) bodyFollows
  case case12 =>
    intro iteration offset parameters start head name declared body bodyFollows
    simp only [walkCallback, expandCallback]
    exact followsInside_of_body rules iteration offset body
      (fun body => .mk start (.function head) [name, parameters, body]) bodyFollows
  case case13 =>
    intro node iteration offset parameters notArrow notFunction
    simp only [walkCallback, expandCallback]
    exact fun _ => rfl
  case case14 =>
    intro start inner innerFollows
    simp only [walkCallee, expandCallee]
    exact innerFollows.bind fun _ => Follows.pure _
  case case15 =>
    intro start name optional object objectFollows
    simp only [walkCallee, expandCallee]
    exact objectFollows.bind fun _ => Follows.pure _
  case case16 =>
    intro node notParenthesized notMember
    simp only [walkCallee, expandCallee]
    exact Follows.pure _
  case case17 =>
    intro place
    simp only [walkAll, expandAll]
    exact Follows.pure _
  case case18 =>
    intro place node nodes nodeFollows nodesFollow
    simp only [walkAll, expandAll]
    exact nodeFollows.bind fun _ => nodesFollow.bind fun _ => Follows.pure _

/-- A rewritten tree and its events, from the expansion of the tree. -/
theorem rewrite_eq_expand (rules : RewriteRules) (tree : Node) :
    rewrite rules tree =
      (expand rules [] .inner tree).run.map fun (tree, traces) =>
        ⟨tree, Trace.allEvents 0 traces ++ [.finished (Trace.allLists traces)]⟩ := by
  have walked := (walk_follows rules).1 .inner tree ⟨[], 0, []⟩
  change (walk rules .inner tree ⟨[], 0, []⟩).bind _ = _
  rw [walked]
  change Except.bind ((expand rules [] .inner tree).recorded _) _ = _
  cases expand rules [] .inner tree with
  | error error => rfl
  | ok result =>
      obtain ⟨expanded, traces⟩ := result
      simp only [Traced.recorded, WalkState.recordAll_eq, Nat.zero_add, List.nil_append]
      rfl

/-- What was done in a rewrite of a tree. -/
def tracesOf (rules : RewriteRules) (tree : Node) : List Trace :=
  match (expand rules [] .inner tree).run with
  | .error _ => []
  | .ok (_, traces) => traces

/-- The traces of a rewrite are those of the expansion, and its events are theirs. -/
theorem expand_of_rewrite {rules : RewriteRules} {tree : Node} {rewritten : Rewritten}
    (done : rewrite rules tree = .ok rewritten) :
    (expand rules [] .inner tree).run = .ok (rewritten.tree, tracesOf rules tree) ∧
      rewritten.events = Trace.allEvents 0 (tracesOf rules tree) ++
        [.finished (Trace.allLists (tracesOf rules tree))] := by
  rw [rewrite_eq_expand] at done
  unfold tracesOf
  cases expansion : (expand rules [] .inner tree).run with
  | error error =>
      rw [expansion] at done
      cases done
  | ok result =>
      rw [expansion] at done
      cases done
      exact ⟨rfl, rfl⟩

end LoopTemplate.Loop
