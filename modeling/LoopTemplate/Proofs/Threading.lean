import LoopTemplate.Proofs.TemplateLoop

/-!
# Captured names go outward

A name that a list hands to its template but does not bind comes from outside of it. The list
around it then hands that name over as well, and so on outward up to the list that binds it. One
list reports to the one around it (`mem_captures_of_nested`), and the rest is induction on the
nesting.
-/

namespace LoopTemplate.Loop

open LoopTemplate.Grammar (IsName)
open LoopTemplate.Tree (Node)

/-- The names that a list hands over but does not bind. -/
def Trace.handed : Trace → List String
  | skipped _ => []
  | list frame _ _ => frame.captures.filter fun name => !frame.binds name

theorem Frame.binds_iff {frame : Frame} {name : String} :
    frame.binds name = true ↔ name ∈ frame.bindings := by
  simp [Frame.binds, Frame.bindings, or_assoc, @eq_comm _ name]

theorem Trace.mem_handed {frame : Frame} {wrapper : Node} {inside : List Trace} {name : String} :
    name ∈ (Trace.list frame wrapper inside).handed ↔
      name ∈ frame.captures ∧ name ∉ frame.bindings := by
  rw [handed, List.mem_filter, ← Frame.binds_iff]
  simp

/-- What the lists in the body of a list hand over is put together in order. -/
theorem Frame.innerCaptures_noteAll (frame : Frame) (traces : List Trace) :
    (frame.noteAll traces).innerCaptures =
      insertNames frame.innerCaptures (traces.flatMap Trace.handed) := by
  induction traces generalizing frame with
  | nil => rfl
  | cons trace traces ih =>
      have step : (frame.note trace).innerCaptures =
          insertNames frame.innerCaptures trace.handed := by
        cases trace <;> rfl
      rw [List.flatMap_cons, insertNames_append, ← step]
      exact ih (frame.note trace)

section Threading

variable {rules : RewriteRules} {outer : Names} {slot : Slot} {nodes expanded : List Node}
  {traces enclosing inside : List Trace} {frame : Frame} {wrapper : Node}

/-- A finished loop hands over what the lists in its body hand over but do not bind. -/
theorem mem_captures_of_nested {iteration : Iteration} {body markup : Node} {name : String}
    {nested : Frame} {element : Node} {inner : List Trace}
    (member : .list nested element inner ∈ inside) (captured : name ∈ nested.captures)
    (free : name ∉ nested.bindings) :
    name ∈ (finishedLoop rules outer iteration body inside markup).captures := by
  have reported : name ∈ ((loopOf iteration body).noteAll inside).innerCaptures := by
    rw [Frame.innerCaptures_noteAll, mem_insertNames]
    exact .inr (List.mem_flatMap.2 ⟨_, member, Trace.mem_handed.2 ⟨captured, free⟩⟩)
  exact mem_insertNames.2 (.inr reported)

/-- A name that a list does not bind is handed over by the lists around it, up to the first that
binds it. -/
theorem Within.threaded (derived : Expanded rules outer slot nodes expanded traces)
    (within : Within traces enclosing frame wrapper inside) {name : String}
    (captured : name ∈ frame.captures) (free : name ∉ frame.bindings)
    {nearer inner further : List Trace} {around : Frame} {element : Node}
    (enclosing_eq : enclosing = nearer ++ .list around element inner :: further)
    (unbound : ∀ trace ∈ nearer, name ∉ trace.bindings) : name ∈ around.captures := by
  induction within generalizing nearer with
  | here member => simp at enclosing_eq
  | inside enclosed member ih =>
      obtain ⟨others, otherExpanded, ⟨rewrote⟩, -⟩ := enclosed.rewrote derived
      have next : name ∈ Frame.captures _ := rewrote.rewritten.frame_eq ▸
        mem_captures_of_nested member captured free
      cases nearer with
      | nil =>
          cases enclosing_eq
          exact next
      | cons nearest nearer =>
          cases enclosing_eq
          exact ih next (unbound _ List.mem_cons_self) rfl
            fun trace among => unbound trace (List.mem_cons_of_mem _ among)

end Threading

/-- Captured names go outward without a gap: whatever a rewritten list hands over and does not bind,
each list around it hands over, from the nearest up to the first that binds it. The lists are those
that the events report, and each can be read off the loop that replaced it. -/
theorem captures_threaded {rules : RewriteRules} {tree : Node} {rewritten : Rewritten}
    (done : rewrite rules tree = .ok rewritten) :
    rewritten.events = Trace.allEvents 0 (tracesOf rules tree) ++
        [.finished (Trace.allLists (tracesOf rules tree))] ∧
      ∀ enclosing frame wrapper inside,
        Within (tracesOf rules tree) enclosing frame wrapper inside →
        (∀ name ∈ frame.captures, name ∉ frame.bindings →
          ∀ nearer around element inner further,
            enclosing = nearer ++ .list around element inner :: further →
            (∀ trace ∈ nearer, name ∉ trace.bindings) → name ∈ around.captures) ∧
        (Node.Everywhere (DeclaresOnly IsName) [tree] →
          (∃ child body, templateLoop? rules.adapter wrapper =
            some (.ofFrame frame child body)) ∧
          StandsIn rules.adapter rewritten.tree wrapper enclosing) := by
  obtain ⟨expansion, events_eq⟩ := expand_of_rewrite done
  have derived := (expanded_of_expansion rules).1 [] .inner tree rewritten.tree _ expansion
  refine ⟨events_eq, fun enclosing frame wrapper inside within => ⟨?_, fun declared => ?_⟩⟩
  · intro name captured free nearer around element inner further enclosing_eq unbound
    exact within.threaded derived captured free enclosing_eq unbound
  · exact ⟨within.exists_templateLoop derived declared nofun,
      within.standsIn derived declared nofun⟩

/-- The cells of a row hand over the row, which the list of rows binds. -/
theorem captures_threaded_rowsOfCells :
    ∃ rewritten frame wrapper inside around element inner,
      rewrite ⟨.wechat, .flatten⟩ rowsOfCells = .ok rewritten ∧
      Within (tracesOf ⟨.wechat, .flatten⟩ rowsOfCells) [.list around element inner] frame wrapper
        inside ∧
      "row" ∈ frame.captures ∧ "row" ∉ frame.bindings ∧ "row" ∈ around.captures := by
  obtain ⟨rewritten, rows, rowsLoop, cells, cellsLoop, done, traces_eq, -, captures_eq,
    bindings_eq⟩ := rewrite_rowsOfCells
  have within : Within (tracesOf ⟨.wechat, .flatten⟩ rowsOfCells)
      [.list rows rowsLoop [.list cells cellsLoop []]] cells cellsLoop [] :=
    .inside (.here (traces_eq ▸ List.mem_cons_self)) List.mem_cons_self
  have captured : "row" ∈ cells.captures := by simp [captures_eq]
  have free : "row" ∉ cells.bindings := by simp [bindings_eq]
  refine ⟨rewritten, cells, cellsLoop, [], rows, rowsLoop, _, done, within, captured, free, ?_⟩
  exact ((captures_threaded done).2 _ _ _ _ within).1 "row" captured free [] rows rowsLoop _ [] rfl
    nofun

end LoopTemplate.Loop
