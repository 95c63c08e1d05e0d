import LoopTemplate.Proofs.Flattening
import LoopTemplate.Proofs.Sites

/-!
# What scoped loops hand over

Where each loop keeps its names to itself, a list hands over only names that it binds or that a list
around it binds, and only names that are read in the body of its callback. The second holds of the
source: a rewrite puts new readings into a body, namely the objects of the lists in it, but it reads
no name there that was not read before (`Expanded.reads`).
-/

namespace LoopTemplate.Loop

open LoopTemplate.Grammar (IsName plainParameter plainProperty?)
open LoopTemplate.Tree (Form Node)

/-! ## Objects -/

/-- The property of an object that hands over a name reads that name and no other. -/
theorem reads_of_plainProperty? {property : Node} {name other : String}
    (plain : plainProperty? property = some name) : property.Reads other ↔ other = name := by
  unfold plainProperty? at plain
  split at plain
  case h_1 =>
    split at plain
    case isTrue same =>
      cases plain
      simp [Node.Reads, Node.mem_nodes_mk, eq_comm]
    case isFalse => cases plain
  case h_2 => cases plain

/-- An object reads the names that it hands over and no others. -/
theorem reads_of_handsOver {object : Node} {names : Names} (hands : HandsOver object names)
    {name : String} : object.Reads name ↔ name ∈ names := by
  obtain ⟨start, properties, rfl, seen⟩ := hands
  have readsPart : (Node.mk start .object properties).Reads name ↔
      ∃ property ∈ properties, property.Reads name := by
    simp only [Node.Reads, Node.mem_nodes_mk]
    constructor
    · rintro ⟨inner, rfl | ⟨property, member, inside⟩, form_eq⟩
      · cases form_eq
      · exact ⟨property, member, inner, inside, form_eq⟩
    · rintro ⟨property, member, inner, inside, form_eq⟩
      exact ⟨inner, .inr ⟨property, member, inside⟩, form_eq⟩
  rw [readsPart]
  constructor
  · rintro ⟨property, member, reads⟩
    have found : plainProperty? property ∈ names.map some := seen ▸ List.mem_map_of_mem member
    obtain ⟨other, among, plain⟩ := List.mem_map.1 found
    rwa [(reads_of_plainProperty? plain.symm).1 reads]
  · intro member
    have found : some name ∈ properties.map plainProperty? := seen ▸ List.mem_map_of_mem member
    obtain ⟨property, among, plain⟩ := List.mem_map.1 found
    exact ⟨property, among, (reads_of_plainProperty? plain).2 rfl⟩

/-! ## One list -/

section Step

variable {rules : RewriteRules} {outer : Names} {value callee body wrapper : Node}
  {iteration : Iteration} {list : MatchedList value iteration} {inside : List Trace} {frame : Frame}

/-- Under `scoped` a callback hands over names that its loop or a loop around it binds and the
markup reads, or that the lists in its body hand over. -/
theorem mem_handedNames_scoped (isScoped : rules.policy = .scoped) {markup : Node} {name : String}
    (member : name ∈ handedNames rules frame outer markup) :
    (name ∈ frame.bindings ∨ name ∈ outer) ∧ markup.Reads name ∨ name ∈ frame.innerCaptures := by
  rw [handedNames, isScoped, mem_insertNames] at member
  rcases member with captured | inner
  · have found :=
      ((findsOnly_analyze _).1 markup .empty name captured).resolve_left List.not_mem_nil
    have bound := found.bound
    have reads := found.read rfl
    simp only [namesOf, mem_insertNames, List.not_mem_nil, false_or] at bound
    exact .inl ⟨by simpa [Frame.bindings, or_assoc] using bound, by simpa using reads⟩
  · exact .inr inner

/-- Under `scoped` a name that a list hands over is bound by it or around it and read in its markup,
or a list in its body hands it over and does not bind it. -/
theorem RewrittenList.mem_captures_scoped
    (rewritten : RewrittenList rules outer list callee body inside frame wrapper)
    (isScoped : rules.policy = .scoped) {name : String} (member : name ∈ frame.captures) :
    (name ∈ frame.bindings ∨ name ∈ outer) ∧
        rewritten.result.withoutParentheses.Reads name ∨
      ∃ nested element inner, .list nested element inner ∈ inside ∧ name ∈ nested.captures ∧
        name ∉ nested.bindings := by
  rw [rewritten.captures_eq] at member
  rw [rewritten.bindings_eq, ← Frame.bindings_noteAll _ inside]
  refine (mem_handedNames_scoped isScoped member).imp_right fun reported => ?_
  rw [Frame.innerCaptures_noteAll, mem_insertNames] at reported
  rcases reported with before | handed
  · cases before
  · obtain ⟨trace, among, handed⟩ := List.mem_flatMap.1 handed
    cases trace with
    | skipped offset => cases handed
    | list nested element inner =>
        exact ⟨nested, element, inner, among, Trace.mem_handed.1 handed⟩

/-- Under `scoped` a list hands over only names that it binds or that are bound around it. -/
theorem RewrittenList.bound_of_captures
    (rewritten : RewrittenList rules outer list callee body inside frame wrapper)
    (isScoped : rules.policy = .scoped)
    (nestedBound : ∀ nested element inner, .list nested element inner ∈ inside →
      ∀ name ∈ nested.captures, name ∈ nested.bindings ∨ name ∈ insertNames outer frame.bindings) :
    ∀ name ∈ frame.captures, name ∈ frame.bindings ∨ name ∈ outer := by
  intro name member
  rcases rewritten.mem_captures_scoped isScoped member with
    ⟨bound, -⟩ | ⟨nested, element, inner, among, captured, free⟩
  · exact bound
  · have outside := (nestedBound nested element inner among name captured).resolve_left free
    exact (mem_insertNames.1 outside).symm

/-- Under `scoped` the names that a list hands over are read in its rewritten body. -/
theorem RewrittenList.reads_of_captures
    (rewritten : RewrittenList rules outer list callee body inside frame wrapper)
    (inner : Expanded rules (insertNames outer frame.bindings) (.place .inner) [list.body] [body]
      inside) (isScoped : rules.policy = .scoped)
    (around : ∀ name ∈ insertNames outer frame.bindings, IsName name)
    (declared : Node.Everywhere (DeclaresOnly IsName) [list.body]) :
    ∀ name ∈ frame.captures, body.Reads name := by
  intro name member
  rcases rewritten.mem_captures_scoped isScoped member with
    ⟨-, read, inMarkup, form_eq⟩ | ⟨nested, element, nestedInside, among, captured, -⟩
  · refine ⟨read, ?_, form_eq⟩
    rw [rewritten.body_eq]
    exact Node.mem_nodes_trans inMarkup (rewritten.context.markup_mem_fill rewritten.result)
  · have only :=
      inner.only isName_item isName_index around declared nested element nestedInside among
    obtain ⟨rewrote⟩ := inner.rewrote among
    have hands := handsOver_of_captureObject only.captures rewrote.rewritten.handed
    obtain ⟨read, inObject, form_eq⟩ := (reads_of_handsOver hands).2 captured
    have inElement : read ∈ element.nodes := Node.mem_nodes_trans
      (Node.mem_nodes_trans inObject (rewrote.rewritten.context.result_mem_fill _))
      rewrote.rewritten.object_mem_wrapper
    have inBody : element ∈ body.nodes := by simpa using rewrote.placed
    exact ⟨read, Node.mem_nodes_trans inElement inBody, form_eq⟩

end Step

/-! ## Whole rewrites -/

section Rewrites

variable {rules : RewriteRules} {outer : Names} {slot : Slot} {nodes expanded : List Node}
  {traces inside : List Trace} {frame : Frame} {wrapper : Node}

theorem Expanded.bound_of_captures (derived : Expanded rules outer slot nodes expanded traces)
    (isScoped : rules.policy = .scoped) (member : .list frame wrapper inside ∈ traces) :
    ∀ name ∈ frame.captures, name ∈ frame.bindings ∨ name ∈ outer := by
  induction frame, wrapper, inside using Trace.list_induction
    generalizing outer slot nodes expanded traces with
  | step frame wrapper inside ih =>
      obtain ⟨rewrote⟩ := derived.rewrote member
      exact rewrote.rewritten.bound_of_captures isScoped fun nested element inner among =>
        ih nested element inner among rewrote.inner among

/-- Whether a node is no reading of a name is kept by a rewrite, the objects that it puts in
apart. -/
theorem stable_noReading (name : String) : Stable fun node => node.form ≠ .reference name where
  scaffold start form parts isScaffold := by
    rintro rfl
    cases isScaffold
  element start parts := nofun
  parameters start first second item index _ _ := by
    simp [Node.Everywhere, Node.mem_nodes_mk, plainParameter, or_imp, forall_and]
  parts start form parts others _ other := other

theorem everywhere_noReading {node : Node} {name : String} :
    Node.Everywhere (fun inner => inner.form ≠ .reference name) [node] ↔ ¬node.Reads name := by
  simp [Node.Everywhere, Node.Reads]

/-- Under `scoped` the objects that a rewrite puts into a body read nothing new. -/
theorem objectsHold_noReading (isScoped : rules.policy = .scoped) (name : String) :
    ObjectsHold rules fun node => node.form ≠ .reference name := by
  intro outer value callee body wrapper iteration list inside frame rewritten inner around declared
    only unread
  rw [everywhere_noReading] at unread ⊢
  intro reads
  have captured := (reads_of_handsOver
    (handsOver_of_captureObject only.captures rewritten.handed)).1 reads
  exact unread (rewritten.reads_of_captures inner isScoped around declared name captured)

/-- Under `scoped` a rewritten node reads only what was read in it before. -/
theorem Expanded.reads {node result : Node}
    (derived : Expanded rules outer slot [node] [result] traces) (isScoped : rules.policy = .scoped)
    (around : ∀ name ∈ outer, IsName name) (declared : Node.Everywhere (DeclaresOnly IsName) [node])
    {name : String} (reads : result.Reads name) : node.Reads name := by
  by_contra unread
  have kept :=
    derived.everywhere (stable_noReading name) (objectsHold_noReading isScoped name) around
    declared (everywhere_noReading.2 unread)
  exact everywhere_noReading.1 kept reads

end Rewrites

/-- What the loop of a site hands over under `scoped`. -/
theorem ReplacedBy.mem_captures_scoped {rules : RewriteRules} {site : Site} {loop : Frame × Node}
    (replaced : ReplacedBy rules site loop) (isScoped : rules.policy = .scoped) {name : String}
    (member : name ∈ loop.1.captures) :
    (name ∈ site.bindings ∨ ∃ scope ∈ site.scopes, name ∈ scope) ∧ site.body.Reads name := by
  have bound := replaced.rewritten.bound_of_captures isScoped
    (fun nested element inner among => replaced.inner.bound_of_captures isScoped among) name member
  have reads := replaced.rewritten.reads_of_captures replaced.inner isScoped replaced.around
    replaced.declared name member
  rw [replaced.rewritten.bindings_eq, replaced.body_eq, mem_boundBy] at bound
  rw [← replaced.body_eq]
  exact ⟨bound, replaced.inner.reads isScoped replaced.around replaced.declared reads⟩

/-- Under `scoped` a list hands over only names that it binds or that a list binds in whose body it
stands, and only names that are read in the body of its callback. The lists are replaced one after
the other, each by a loop in the result, and each is reported with the names that it hands over. -/
theorem scoped_captures {adapter : Adapter} {tree : Node} {rewritten : Rewritten}
    (declared : Node.Everywhere (DeclaresOnly IsName) [tree])
    (done : rewrite ⟨adapter, .scoped⟩ tree = .ok rewritten) :
    ∃ loops : List (Frame × Node),
      rewritten.events.filterMap Event.loop? =
        loops.map (fun loop => (loop.1.item, loop.1.index, loop.1.captures)) ∧
      (∀ loop ∈ loops, loop.2 ∈ rewritten.tree.nodes) ∧
      List.Forall₂ (fun site loop =>
        (∃ child body, templateLoop? adapter loop.2 = some (.ofFrame loop.1 child body)) ∧
        ∀ name ∈ loop.1.captures,
          (name ∈ site.bindings ∨ ∃ scope ∈ site.scopes, name ∈ scope) ∧ site.body.Reads name)
        (sites [] .inner tree) loops := by
  obtain ⟨loops, events_eq, placed, replaced⟩ := replaced_of_rewrite declared done
  refine ⟨loops, events_eq, placed, replaced.imp fun site loop replacedBy => ?_⟩
  obtain ⟨replacedBy⟩ := replacedBy
  exact ⟨⟨_, _, replacedBy.rewritten.templateLoop?_eq replacedBy.inner replacedBy.only⟩,
    fun name member => replacedBy.mem_captures_scoped rfl member⟩

/-- The cells hand over their row and cell, and the rows only their row. -/
theorem rewrite_rowsOfCells_scoped :
    ∃ rewritten, rewrite ⟨.wechat, .scoped⟩ rowsOfCells = .ok rewritten ∧
      rewritten.events.filterMap Event.loop? =
        [("cell", "index", ["row", "cell"]), ("row", "index", ["row"])] := by
  apply rewrite_of_reportedLoops?
  decide +kernel

/-- The list of cells hands over its cell and the row, which the list of rows binds. Both are read
in the body of its callback. The list of rows hands over the row alone. -/
theorem scoped_captures_rowsOfCells :
    Node.Everywhere (DeclaresOnly IsName) [rowsOfCells] ∧
      ∃ (rewritten : Rewritten) (cells rows : Site) (cellsLoop rowsLoop : Frame),
        rewrite ⟨.wechat, .scoped⟩ rowsOfCells = .ok rewritten ∧
        sites [] .inner rowsOfCells = [cells, rows] ∧
        cellsLoop.captures = ["row", "cell"] ∧ rowsLoop.captures = ["row"] ∧
        (∀ name ∈ cellsLoop.captures,
          (name ∈ cells.bindings ∨ ∃ scope ∈ cells.scopes, name ∈ scope) ∧ cells.body.Reads name) ∧
        ∀ name ∈ rowsLoop.captures,
          (name ∈ rows.bindings ∨ ∃ scope ∈ rows.scopes, name ∈ scope) ∧ rows.body.Reads name := by
  have declared := declaresOnly_of_properName properName_rowsOfCells
  obtain ⟨rewritten, done, reported⟩ := rewrite_rowsOfCells_scoped
  obtain ⟨loops, events_eq, -, captured⟩ := scoped_captures declared done
  rw [reported] at events_eq
  obtain ⟨cellsLoop, rest, rfl, cells_eq, rest_eq⟩ := List.map_eq_cons_iff.1 events_eq.symm
  obtain ⟨rowsLoop, rest, rfl, rows_eq, rest_eq⟩ := List.map_eq_cons_iff.1 rest_eq
  obtain rfl := List.map_eq_nil_iff.1 rest_eq
  obtain ⟨cells, rest, cellsCaptured, restCaptured, sites_eq⟩ :=
    List.forall₂_cons_right_iff.1 captured
  obtain ⟨rows, rest, rowsCaptured, noneCaptured, rfl⟩ := List.forall₂_cons_right_iff.1 restCaptured
  obtain rfl := List.forall₂_nil_right_iff.1 noneCaptured
  simp only [Prod.mk.injEq] at cells_eq rows_eq
  exact ⟨declared, rewritten, cells, rows, cellsLoop.1, rowsLoop.1, done, sites_eq, cells_eq.2.2,
    rows_eq.2.2, cellsCaptured.2, rowsCaptured.2⟩

end LoopTemplate.Loop
