import LoopTemplate.Loop.Names

/-!
# Enclosing loops

While a tree is walked, the stack holds a frame for every loop around the current node. A finished
loop reports to the loop around it which names it binds and which it needs from outside.
-/

namespace LoopTemplate.Loop

/-- One enclosing loop. -/
structure Frame where
  item : String
  index : String
  /-- Names that the callback declares beside its return. -/
  locals : Names
  /-- Names that the callback hands to its template. -/
  captures : Names
  /-- Items and indices of finished inner loops. -/
  innerBindings : Names
  /-- Names that finished inner loops hand over but do not bind. -/
  innerCaptures : Names
deriving DecidableEq, Inhabited

namespace Frame

/-- A frame with nothing but its item and index. -/
def of (item index : String) : Frame := ⟨item, index, [], [], [], []⟩

/-- Whether a name is the frame's own item, index or local. -/
def binds (frame : Frame) (name : String) : Bool :=
  frame.item == name || frame.index == name || frame.locals.contains name

/-- The names that the frame binds. -/
def bindings (frame : Frame) : List String := frame.item :: frame.index :: frame.locals

/-- The frame after a finished inner loop reported to it. -/
def absorb (frame finished : Frame) : Frame :=
  { frame with
    innerBindings :=
      insertNames (insertName (insertName frame.innerBindings finished.item) finished.index)
        finished.innerBindings
    innerCaptures :=
      insertNames frame.innerCaptures (finished.captures.filter fun name => !finished.binds name) }

end Frame

/-- The enclosing loops, the innermost first. -/
abbrev LoopStack := List Frame

namespace LoopStack

/-- How many loops are open. -/
def depth (stack : LoopStack) : Nat := stack.length

/-- The names that the open loops bind, the outermost first. -/
def bindings (stack : LoopStack) : Names :=
  namesOf (stack.reverse.flatMap Frame.bindings)

/-- Opens a loop. -/
def push (stack : LoopStack) (frame : Frame) : LoopStack := frame :: stack

/-- Closes the innermost loop. -/
def pop? : LoopStack → Option (Frame × LoopStack)
  | [] => none
  | frame :: stack => some (frame, stack)

/-- Hands a finished loop to the one around it, if there is one. -/
def report (stack : LoopStack) (finished : Frame) : LoopStack :=
  match stack with
  | [] => []
  | parent :: outer => parent.absorb finished :: outer

end LoopStack

end LoopTemplate.Loop
