import LoopTemplate.Proofs.Declared

/-!
# Loops of the template

A rewritten list can be read off the element that replaced it: the call of `map` is the value of the
attribute for the collection, the call's callback declares the item, the index and the locals and
returns the object with the captured names, and the markup is the only child.
-/

namespace LoopTemplate.Loop

open LoopTemplate.Grammar (IsName attributeNameOf plainParameter plainProperty? quotedAttribute)
open LoopTemplate.Tree (Node)

/-! ## Names of loops -/

theorem isName_defaults : IsName "item" ∧ IsName "index" := by decide +kernel

theorem isName_item : IsName "item" := isName_defaults.1

theorem isName_index : IsName "index" := isName_defaults.2

/-- The names of a rewritten list are names, and so are those that loops bind around its body. -/
theorem names_of_list {rules : RewriteRules} {outer : Names} {start : Nat}
    {value callee body wrapper : Node} {iteration : Iteration} {before inside : List Trace}
    {frame : Frame} {list : MatchedList value iteration}
    (matched : iteration? value = some iteration)
    (collection : Expanded rules outer .callee [list.callee] [callee] before)
    (inner : Expanded rules (insertNames outer (loopOf iteration list.body).bindings)
      (.place .inner) [list.body] [body] inside)
    (rewritten : RewrittenList rules outer list callee body inside frame wrapper)
    (declared : Node.Everywhere (DeclaresOnly IsName) [.mk start .container [value]])
    (around : ∀ name ∈ outer, IsName name) :
    frame.Only IsName ∧
      ∀ name ∈ insertNames outer (loopOf iteration list.body).bindings, IsName name := by
  have only : frame.Only IsName :=
    (Expanded.list matched collection inner rewritten).only isName_item isName_index around
      declared frame wrapper inside (List.mem_append_right _ List.mem_cons_self)
  refine ⟨only, fun name member => ?_⟩
  rcases mem_insertNames.1 member with outside | own
  · exact around name outside
  · exact only.bindings name (rewritten.bindings_eq ▸ own)

/-! ## Reading loops -/

/-- Whether a part of an opening tag is an attribute of the given name. -/
def isAttribute (name : String) : Node → Bool
  | .mk _ (.attribute found) _ => spells found name
  | _ => false

/-- The value of an attribute of the given name, if it stands in braces. -/
def bracedValue? (name : String) : Node → Option Node
  | .mk _ (.attribute found) [.mk _ .container [value]] =>
      if spells found name then some value else none
  | _ => none

/-- The value of the first attribute of the given name whose value stands in braces. -/
def bracedAttribute? (opening : Node) (name : String) : Option Node :=
  opening.parts.findSome? (bracedValue? name)

/-- Whether a node is an element with the attribute for the collection of a loop. -/
def isLoop (adapter : Adapter) : Node → Bool
  | .mk _ .element (opening :: _) => opening.parts.any (isAttribute adapter.collection)
  | _ => false

/-- The value of the attribute for the collection of a loop, and the loop's only child. -/
def loopParts? (adapter : Adapter) : Node → Option (Node × Node)
  | .mk _ .element [opening, child] => do
      let call ← bracedAttribute? opening adapter.collection
      return (call, child)
  | _ => none

/-- The parameters and body of the callback of a call. -/
def callbackParts? (call : Node) : Option (Node × Node) :=
  match call.withoutParentheses with
  | .mk _ (.call _ _ _) [_, argument] => callback? argument
  | _ => none

theorem callbackParts?_of_shape {call callee parameters body : Node} {mapping : Mapping}
    (shape : call.withoutParentheses = mapping.call callee parameters body) :
    callbackParts? call = some (parameters, body) := by
  rw [callbackParts?, shape]
  exact mapping.callback?_callback parameters body

/-- The keys of an object in which each property is a name with the variable of that name. -/
def objectKeys? : Node → Option (List String)
  | .mk _ .object properties => properties.mapM plainProperty?
  | _ => none

/-- A loop as it can be read in the template. -/
structure TemplateLoop where
  item : String
  index : String
  /-- Names that the callback declares beside its return. -/
  locals : Names
  /-- The keys of the object that the callback returns. -/
  keys : List String
  child : Node
  /-- The body of the callback. -/
  body : Node

/-- What a finished loop is expected to be read as. -/
def TemplateLoop.ofFrame (frame : Frame) (child body : Node) : TemplateLoop :=
  ⟨frame.item, frame.index, frame.locals, frame.captures, child, body⟩

/-- The loop that an element is. -/
def templateLoop? (adapter : Adapter) (element : Node) : Option TemplateLoop := do
  let (call, child) ← loopParts? adapter element
  let (parameters, body) ← callbackParts? call
  let names ← parameterNames? parameters
  let item ← names[0]?
  let index ← names[1]?
  let keys ← (result? body).bind objectKeys?
  return ⟨item, index, declaredNames body, keys, child, body⟩

/-! ## Elements -/

/-- The element of a loop, filled: three attributes and one child. -/
def loopElement (adapter : Adapter) (item index : String) (call child : Node)
    (outer first firstInner second secondInner third thirdInner : Nat) : Node :=
  .mk outer .element [
    .mk outer (.opening (.plain wrapperTag) false) [
      .mk first (.attribute (attributeNameOf adapter.collection.toList))
        [.mk firstInner .container [call]],
      quotedAttribute second secondInner adapter.item.toList item.toList,
      quotedAttribute third thirdInner adapter.index.toList index.toList],
    child]

section Element

variable {adapter : Adapter} {item index : String} {call child wrapper : Node}

/-- A loop is made of any call and any child, where names stay the same always at the same
offsets. -/
theorem loopWrapper_ok (adapter : Adapter) (itemValid : IsName item) (indexValid : IsName index) :
    ∃ outer first firstInner second secondInner third thirdInner, ∀ call child,
      loopWrapper adapter item index call child =
        .ok (loopElement adapter item index call child outer first firstInner second secondInner
          third thirdInner) := by
  obtain ⟨outer, first, firstInner, second, secondInner, third, thirdInner, place, read⟩ :=
    wrapperSnippet_ok adapter itemValid.word indexValid.word
  refine ⟨outer, first, firstInner, second, secondInner, third, thirdInner, fun call child => ?_⟩
  rw [loopWrapper, except_bind_of_ok read]
  rfl

theorem loopElement_of_loopWrapper (itemValid : IsName item) (indexValid : IsName index)
    (wrapped : loopWrapper adapter item index call child = .ok wrapper) :
    ∃ outer first firstInner second secondInner third thirdInner,
      wrapper = loopElement adapter item index call child outer first firstInner second secondInner
        third thirdInner := by
  obtain ⟨outer, first, firstInner, second, secondInner, third, thirdInner, made⟩ :=
    loopWrapper_ok adapter itemValid indexValid
  rw [made] at wrapped
  cases wrapped
  exact ⟨outer, first, firstInner, second, secondInner, third, thirdInner, rfl⟩

@[simp] theorem isLoop_loopElement
    (outer first firstInner second secondInner third thirdInner : Nat) :
    isLoop adapter (loopElement adapter item index call child outer first firstInner second
      secondInner third thirdInner) = true := by
  simp [loopElement, isLoop, isAttribute, Grammar.spells_attributeNameOf]

@[simp] theorem loopParts?_loopElement
    (outer first firstInner second secondInner third thirdInner : Nat) :
    loopParts? adapter (loopElement adapter item index call child outer first firstInner second
      secondInner third thirdInner) = some (call, child) := by
  simp [loopElement, loopParts?, bracedAttribute?, bracedValue?, Grammar.spells_attributeNameOf]

/-- The call and the child of a loop are those that it was filled with. -/
theorem loopParts?_of_loopWrapper (itemValid : IsName item) (indexValid : IsName index)
    (wrapped : loopWrapper adapter item index call child = .ok wrapper) :
    loopParts? adapter wrapper = some (call, child) := by
  obtain ⟨outer, first, firstInner, second, secondInner, third, thirdInner, rfl⟩ :=
    loopElement_of_loopWrapper itemValid indexValid wrapped
  exact loopParts?_loopElement outer first firstInner second secondInner third thirdInner

end Element

/-! ## Rows of cells -/

/-- The cells of a row: `row.map((cell, index) => <text>{row}{cell}</text>)`. -/
def cells : Node :=
  .mk 0 (.call false false 0) [.mk 0 (.member "map" false) [.mk 0 (.reference "row") []],
    .mk 0 (.arrow ⟨false, false, false⟩) [
      .mk 0 .parameters [plainParameter 0 "cell", plainParameter 0 "index"],
      .mk 0 .element [.mk 0 (.opening (.plain "text") false) [],
        .mk 0 .container [.mk 0 (.reference "row") []],
        .mk 0 .container [.mk 0 (.reference "cell") []]]]]

/-- A list in a list: `<view>{(rows.map(row => (<view>{cells}</view>)))}</view>`. -/
def rowsOfCells : Node :=
  .mk 0 .element [.mk 0 (.opening (.plain "view") false) [],
    .mk 0 .container [.mk 0 .parenthesized [
      .mk 0 (.call false false 0) [.mk 0 (.member "map" false) [.mk 0 (.reference "rows") []],
        .mk 0 (.arrow ⟨false, false, false⟩) [.mk 0 .parameters [plainParameter 0 "row"],
          .mk 0 .parenthesized [.mk 0 .element [.mk 0 (.opening (.plain "view") false) [],
            .mk 0 .container [cells]]]]]]]]

/-- Whether an expansion rewrote just the cells of rows: the cells hand over their row and cell, and
the rows also the index of the cells. -/
def rewroteRowsOfCells : Except RewriteError (Node × List Trace) → Bool
  | .ok (_, [.list rows _ [.list cells _ []]]) =>
      decide (rows.captures = ["row", "cell", "index"] ∧ cells.captures = ["row", "cell"] ∧
        cells.bindings = ["cell", "index"])
  | _ => false

theorem rewrite_rowsOfCells :
    ∃ rewritten rows rowsLoop cells cellsLoop,
      rewrite ⟨.wechat, .flatten⟩ rowsOfCells = .ok rewritten ∧
      tracesOf ⟨.wechat, .flatten⟩ rowsOfCells =
        [.list rows rowsLoop [.list cells cellsLoop []]] ∧
      rows.captures = ["row", "cell", "index"] ∧ cells.captures = ["row", "cell"] ∧
      cells.bindings = ["cell", "index"] := by
  have lists : rewroteRowsOfCells (expand ⟨.wechat, .flatten⟩ [] .inner rowsOfCells).run =
      true := by
    decide +kernel
  unfold rewroteRowsOfCells at lists
  split at lists
  case h_1 tree rows rowsLoop cells cellsLoop expansion =>
    rw [rewrite_eq_expand, tracesOf, expansion]
    exact ⟨_, rows, rowsLoop, cells, cellsLoop, rfl, rfl, of_decide_eq_true lists⟩
  case h_2 => cases lists

end LoopTemplate.Loop
