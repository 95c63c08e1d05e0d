import LoopTemplate.Proofs.SameBut

/-!
# Two ways to merge names

Whether the names of inner loops are merged into the loops around them decides only what the
callbacks hand over. Where a rewrite that merges them succeeds, so does one that keeps them apart.
It rewrites the same lists, and each hands over no more than before. The two are compared
derivation by derivation: a list analyses markup in which the inner objects already differ, and
`SameBut.reads` says that those of the second rewrite make it read no more.
-/

namespace LoopTemplate.Loop

open scoped List
open LoopTemplate.Grammar (IsName)
open LoopTemplate.Tree (Form Node)

/-! ## Traces and events -/

/-- Traces of the same lists, where those of the second hand over no more than those of the first.
The pairs are what they hand over, in the order in which they were rewritten. -/
inductive Alike : List (Names × Names) → List Trace → List Trace → Prop where
  | nil : Alike [] [] []
  | skipped {pairs : List (Names × Names)} {traces others : List Trace} (offset : Nat)
      (later : Alike pairs traces others) :
      Alike pairs (.skipped offset :: traces) (.skipped offset :: others)
  | list {first rest : List (Names × Names)} {frame other : Frame} {wrapper otherWrapper : Node}
      {inside otherInside traces others : List Trace} (item_eq : other.item = frame.item)
      (index_eq : other.index = frame.index) (locals_eq : other.locals = frame.locals)
      (fewer : ∀ name ∈ other.captures, name ∈ frame.captures)
      (inner : Alike first inside otherInside) (later : Alike rest traces others) :
      Alike (first ++ (frame.captures, other.captures) :: rest)
        (.list frame wrapper inside :: traces) (.list other otherWrapper otherInside :: others)

namespace Alike

variable {pairs first later : List (Names × Names)} {traces others : List Trace}

theorem append {moreTraces moreOthers : List Trace} (front : Alike first traces others)
    (back : Alike later moreTraces moreOthers) :
    Alike (first ++ later) (traces ++ moreTraces) (others ++ moreOthers) := by
  induction front with
  | nil => exact back
  | skipped offset rest ih => exact .skipped offset ih
  | list item_eq index_eq locals_eq fewer inner rest innerIh restIh =>
      rw [List.append_assoc, List.cons_append]
      exact .list item_eq index_eq locals_eq fewer inner restIh

theorem fewer (alike : Alike pairs traces others) :
    ∀ pair ∈ pairs, ∀ name ∈ pair.2, name ∈ pair.1 := by
  induction alike with
  | nil => exact nofun
  | skipped offset rest ih => exact ih
  | list item_eq index_eq locals_eq fewer inner rest innerIh restIh =>
      intro pair member
      rcases List.mem_append.1 member with inside | inside
      · exact innerIh pair inside
      rcases List.mem_cons.1 inside with rfl | inside
      · exact fewer
      · exact restIh pair inside

/-- What the second lists hand over but do not bind, the first hand over and do not bind. -/
theorem handed (alike : Alike pairs traces others) :
    ∀ name ∈ others.flatMap Trace.handed, name ∈ traces.flatMap Trace.handed := by
  induction alike with
  | nil => exact nofun
  | skipped offset rest ih => exact ih
  | @list first rest frame other wrapper otherWrapper inside otherInside traces others item_eq
      index_eq locals_eq fewer inner later innerIh laterIh =>
      have bindings_eq : other.bindings = frame.bindings := by
        rw [Frame.bindings, Frame.bindings, item_eq, index_eq, locals_eq]
      intro name member
      rw [List.flatMap_cons, List.mem_append] at member ⊢
      rcases member with own | among
      · obtain ⟨captured, free⟩ := Trace.mem_handed.1 own
        exact .inl (Trace.mem_handed.2 ⟨fewer name captured, bindings_eq ▸ free⟩)
      · exact .inr (laterIh name among)

end Alike

/-- Events that are the same, except that the second may report fewer captured names. -/
inductive Event.Narrows : Event → Event → Prop where
  | same (event : Event) : Narrows event event
  | rewrote {item index : String} {names others : Names} {depth : Nat}
      (fewer : ∀ name ∈ others, name ∈ names) :
      Narrows (.rewrote item index names depth) (.rewrote item index others depth)

/-- The captured names that events report, in order. -/
def reportedNames (events : List Event) : List Names :=
  (events.filterMap Event.loop?).map fun loop => loop.2.2

section Events

variable {pairs : List (Names × Names)} {traces others : List Trace}

theorem Alike.events (alike : Alike pairs traces others) (depth : Nat) :
    List.Forall₂ Event.Narrows (Trace.allEvents depth traces) (Trace.allEvents depth others) := by
  induction alike generalizing depth with
  | nil => exact .nil
  | skipped offset rest ih => exact .cons (.same _) (ih depth)
  | list item_eq index_eq locals_eq fewer inner rest innerIh restIh =>
      simp only [Trace.allEvents, Trace.events, item_eq, index_eq]
      exact List.rel_append (List.rel_append (innerIh _) (.cons (.rewrote fewer) .nil))
        (restIh depth)

theorem Alike.allLists_eq (alike : Alike pairs traces others) :
    Trace.allLists others = Trace.allLists traces := by
  induction alike with
  | nil => rfl
  | skipped offset rest ih => simp only [Trace.allLists, Trace.lists, ih]
  | list item_eq index_eq locals_eq fewer inner rest innerIh restIh =>
      simp only [Trace.allLists, Trace.lists, innerIh, restIh]

theorem Alike.allLoops (alike : Alike pairs traces others) :
    (Trace.allLoops traces).map (fun loop => loop.1.captures) = pairs.map Prod.fst ∧
      (Trace.allLoops others).map (fun loop => loop.1.captures) = pairs.map Prod.snd := by
  induction alike with
  | nil => exact ⟨rfl, rfl⟩
  | skipped offset rest ih => exact ih
  | list item_eq index_eq locals_eq fewer inner rest innerIh restIh =>
      simp [Trace.allLoops, Trace.loops, innerIh, restIh]

/-- The captured names that a rewrite reports are those of its lists. -/
theorem reportedNames_eq (traces : List Trace) (loops : Nat) :
    reportedNames (Trace.allEvents 0 traces ++ [.finished loops]) =
      (Trace.allLoops traces).map fun loop => loop.1.captures := by
  rw [reportedNames, List.filterMap_append, Trace.filterMap_events.2, List.map_append, List.map_map]
  exact List.append_nil _

end Events

/-! ## Two rewrites -/

/-- Results and traces of two rewrites of the same lists. They differ only in the objects that the
callbacks return, and those of the second hand over no more. -/
def Narrowed (expanded others : List Node) (traces otherTraces : List Trace) : Prop :=
  ∃ pairs placed, Alike pairs traces otherTraces ∧ SameBut placed expanded others ∧ placed ~ pairs

namespace Narrowed

variable {node other : Node} {nodes others : List Node}
  {traces otherTraces before otherBefore after otherAfter : List Trace}

theorem length_eq (narrowed : Narrowed nodes others traces otherTraces) :
    others.length = nodes.length := by
  obtain ⟨pairs, placed, alike, same, perm⟩ := narrowed
  exact same.length_eq

theorem push (head : Narrowed [node] [other] before otherBefore)
    (tail : Narrowed nodes others after otherAfter) :
    Narrowed (node :: nodes) (other :: others) (before ++ after) (otherBefore ++ otherAfter) := by
  obtain ⟨pairs, placed, alike, same, perm⟩ := head
  obtain ⟨morePairs, morePlaced, moreAlike, moreSame, morePerm⟩ := tail
  exact ⟨_, _, alike.append moreAlike, same.push moreSame, perm.append morePerm⟩

theorem mk {start : Nat} {form : Form} (inner : Narrowed nodes others traces otherTraces) :
    Narrowed [.mk start form nodes] [.mk start form others] traces otherTraces := by
  obtain ⟨pairs, placed, alike, same, perm⟩ := inner
  exact ⟨pairs, placed, alike, .node same, perm⟩

theorem skipped (offset : Nat) (narrowed : Narrowed nodes others traces otherTraces) :
    Narrowed nodes others (.skipped offset :: traces) (.skipped offset :: otherTraces) := by
  obtain ⟨pairs, placed, alike, same, perm⟩ := narrowed
  exact ⟨pairs, placed, .skipped offset alike, same, perm⟩

theorem refl (nodes : List Node) : Narrowed nodes nodes [] [] := ⟨[], [], .nil, .refl nodes, .nil⟩

end Narrowed

/-! ## One list -/

section Step

variable {adapter : Adapter} {outer : Names} {iteration : Iteration}
  {body markup otherMarkup : Node}
  {pairs inner : List (Names × Names)} {inside otherInside : List Trace}

/-- A list that keeps names apart hands over no more than one that merges them, if the lists in its
body do so. -/
theorem captures_subset (alike : Alike pairs inside otherInside)
    (same : SameBut inner [markup] [otherMarkup])
    (fewer : ∀ pair ∈ inner, ∀ name ∈ pair.2, name ∈ pair.1)
    (proper : Node.Everywhere ProperName [markup]) :
    ∀ name ∈
        (finishedLoop ⟨adapter, .scoped⟩ outer iteration body otherInside otherMarkup).captures,
      name ∈ (finishedLoop ⟨adapter, .flatten⟩ outer iteration body inside markup).captures := by
  intro name member
  rw [finishedLoop_captures] at member ⊢
  rcases mem_handedNames_scoped rfl member with ⟨bound, reads⟩ | reported
  · rw [Frame.bindings_noteAll] at bound
    obtain ⟨node, single, nodeReads⟩ := same.reads fewer ⟨_, List.mem_cons_self, reads⟩
    rw [List.mem_singleton.1 single] at nodeReads
    apply mem_handedNames_flatten rfl
    · rwa [Frame.bindings_noteAll]
    · exact mem_occurrences_of_reads proper nodeReads
  · rw [Frame.innerCaptures_noteAll, mem_insertNames] at reported
    have handed := alike.handed name (reported.resolve_left List.not_mem_nil)
    apply mem_insertNames.2
    right
    rw [Frame.innerCaptures_noteAll, mem_insertNames]
    exact .inr handed

/-- Where names make an object, so do some of them. Both objects stand at the same offset. -/
theorem captureObject_of_subset {names others : Names} {object : Node}
    (valid : ∀ name ∈ names, IsName name) (read : captureObject names = .ok object)
    (fewer : ∀ name ∈ others, name ∈ names) :
    ∃ other, captureObject others = .ok other ∧ SameBut [(names, others)] [object] [other] := by
  have refers := refers_of_captureObject valid read
  obtain ⟨hands, start_eq⟩ := captureObject_cases valid read
  obtain ⟨other, made, otherHands, otherStart_eq⟩ :=
    captureObject_ok fun name member => refers name (fewer name member)
  refine ⟨other, made, ?_⟩
  obtain ⟨start, properties, rfl, seen⟩ := hands
  obtain ⟨otherStart, otherProperties, rfl, otherSeen⟩ := otherHands
  cases start_eq
  cases otherStart_eq
  exact .object ⟨1, properties, rfl, seen⟩ ⟨1, otherProperties, rfl, otherSeen⟩

variable {value callee wrapper otherCallee otherBody : Node} {list : MatchedList value iteration}
  {frame : Frame} {before otherBefore : List Trace}

/-- A list that was rewritten with merged names can be rewritten without merging them, if this can
be done with its collection and with the body of its callback. -/
theorem RewrittenList.narrowed
    (rewritten : RewrittenList ⟨adapter, .flatten⟩ outer list callee body inside frame wrapper)
    (only : frame.Only IsName) (proper : Node.Everywhere ProperName [body])
    (collection : Narrowed [callee] [otherCallee] before otherBefore)
    (inner : Narrowed [body] [otherBody] inside otherInside)
    (done : (expand ⟨adapter, .scoped⟩ (insertNames outer (loopOf iteration list.body).bindings)
      .inner list.body).run = .ok (otherBody, otherInside)) :
    ∃ (other : Frame) (otherWrapper : Node),
      Nonempty (RewrittenList ⟨adapter, .scoped⟩ outer list otherCallee otherBody otherInside other
        otherWrapper) ∧
      Narrowed [wrapper] [otherWrapper] (before ++ [.list frame wrapper inside])
        (otherBefore ++ [.list other otherWrapper otherInside]) := by
  obtain ⟨calleePairs, calleePlaced, calleeAlike, calleeSame, calleePerm⟩ := collection
  obtain ⟨bodyPairs, bodyPlaced, bodyAlike, bodySame, bodyPerm⟩ := inner
  obtain ⟨otherContext, otherResult, rfl, otherOutline_eq, otherMarkup⟩ :=
    context_of_expand list.markup done
  obtain ⟨parameters, context, result, object, spelled, rfl, outline_eq, markup, rfl, handed,
    wrapped⟩ := rewritten
  obtain ⟨markupPlaced, restPlaced, split, resultSame, refill⟩ :=
    bodySame.fill (otherOutline_eq.trans outline_eq.symm) markup otherMarkup
  have markupSame := resultSame.withoutParentheses
  have fewer : ∀ name ∈ (finishedLoop ⟨adapter, .scoped⟩ outer iteration list.body otherInside
        otherResult.withoutParentheses).captures,
      name ∈ (finishedLoop ⟨adapter, .flatten⟩ outer iteration list.body inside
        result.withoutParentheses).captures := by
    refine captures_subset bodyAlike markupSame (fun pair member => bodyAlike.fewer pair ?_)
      (proper.of_mem (context.markup_mem_fill result))
    exact bodyPerm.mem_iff.1 (split.mem_iff.2 (List.mem_append_left _ member))
  -- The bodies are filled with the two objects, and the elements with what results and the markup.
  obtain ⟨otherObject, otherHanded, objectSame⟩ :=
    captureObject_of_subset only.captures handed fewer
  obtain ⟨filledPlaced, filledPerm, filledSame⟩ := refill _ _ _ objectSame
  obtain ⟨start, first, firstInner, second, secondInner, third, thirdInner, made⟩ :=
    loopWrapper_ok adapter only.item only.index
  simp only [finishedLoop_item, finishedLoop_index] at made wrapped
  rw [made] at wrapped
  cases wrapped
  have wrapperSame := (calleeSame.call list.mapping parameters filledSame).loopElement adapter
    iteration.itemName iteration.indexName start first firstInner second secondInner third
      thirdInner
    markupSame
  refine ⟨_, _, ⟨⟨parameters, otherContext, otherResult, otherObject, spelled, rfl, otherOutline_eq,
    otherMarkup, rfl, otherHanded, ?_⟩⟩, _, _,
    calleeAlike.append (.list (by simp) (by simp) (by simp) fewer bodyAlike .nil), wrapperSame, ?_⟩
  · rw [finishedLoop_item, finishedLoop_index]
    exact made _ _
  · rw [List.append_assoc]
    refine calleePerm.append ?_
    calc
      filledPlaced ++ markupPlaced ~ [_] ++ restPlaced ++ markupPlaced :=
        filledPerm.append_right markupPlaced
      _ ~ markupPlaced ++ restPlaced ++ [_] := by
        rw [List.append_assoc]
        exact List.perm_append_comm.trans (List.perm_append_comm.append_right _)
      _ ~ bodyPairs ++ [_] := (split.symm.trans bodyPerm).append_right _

end Step

/-! ## Whole trees -/

/-- Every derivation with merged names has one without. -/
theorem Expanded.narrowed {adapter : Adapter} {outer : Names} {slot : Slot}
    {nodes expanded : List Node} {traces : List Trace}
    (derived : Expanded ⟨adapter, .flatten⟩ outer slot nodes expanded traces)
    (around : ∀ name ∈ outer, IsName name) (proper : Node.Everywhere ProperName nodes) :
    ∃ others otherTraces, Expanded ⟨adapter, .scoped⟩ outer slot nodes others otherTraces ∧
      Narrowed expanded others traces otherTraces := by
  induction derived with
  | nil => exact ⟨[], [], .nil, .refl []⟩
  | cons head tail headIh tailIh =>
      obtain ⟨headProper, tailProper⟩ := Node.everywhere_cons.1 proper
      obtain ⟨firsts, otherBefore, headDerived, headNarrowed⟩ := headIh around headProper
      obtain ⟨rest, otherAfter, tailDerived, tailNarrowed⟩ := tailIh around tailProper
      obtain ⟨first, rfl⟩ := List.length_eq_one_iff.1 headNarrowed.length_eq
      exact ⟨_, _, .cons headDerived tailDerived, headNarrowed.push tailNarrowed⟩
  | @container outer start value expanded traces unmatched inner ih =>
      obtain ⟨others, otherTraces, otherDerived, narrowed⟩ :=
        ih around (Node.everywhere_mk.1 proper).2
      obtain ⟨other, rfl⟩ := List.length_eq_one_iff.1 narrowed.length_eq
      refine ⟨_, _, .container unmatched otherDerived, ?_⟩
      split
      · exact narrowed.mk.skipped start
      · exact narrowed.mk
  | @list outer start value callee body wrapper iteration list before inside frame matched
      collection inner rewritten collectionIh innerIh =>
      obtain ⟨only, bodyAround⟩ := names_of_list matched collection inner rewritten
        (declaresOnly_of_properName proper) around
      obtain ⟨calleeProper, -, bodyProper⟩ := list.everywhere (Node.everywhere_mk.1 proper).2
      obtain ⟨callees, otherBefore, calleeDerived, calleeNarrowed⟩ :=
        collectionIh around calleeProper
      obtain ⟨bodies, otherInside, bodyDerived, bodyNarrowed⟩ := innerIh bodyAround bodyProper
      obtain ⟨otherCallee, rfl⟩ := List.length_eq_one_iff.1 calleeNarrowed.length_eq
      obtain ⟨otherBody, rfl⟩ := List.length_eq_one_iff.1 bodyNarrowed.length_eq
      obtain ⟨other, otherWrapper, ⟨otherRewritten⟩, narrowed⟩ := rewritten.narrowed only
        (inner.properName bodyAround bodyProper) calleeNarrowed bodyNarrowed
        (runs_place.1 bodyDerived.runs)
      exact ⟨_, _, .list matched calleeDerived bodyDerived otherRewritten, narrowed⟩
  | element head tail headIh tailIh =>
      obtain ⟨headProper, tailProper⟩ := Node.everywhere_cons.1 (Node.everywhere_mk.1 proper).2
      obtain ⟨firsts, otherBefore, headDerived, headNarrowed⟩ := headIh around headProper
      obtain ⟨rest, otherAfter, tailDerived, tailNarrowed⟩ := tailIh around tailProper
      obtain ⟨first, rfl⟩ := List.length_eq_one_iff.1 headNarrowed.length_eq
      exact ⟨_, _, .element headDerived tailDerived, (headNarrowed.push tailNarrowed).mk⟩
  | fragment inner ih =>
      obtain ⟨others, otherTraces, otherDerived, narrowed⟩ :=
        ih around (Node.everywhere_mk.1 proper).2
      exact ⟨_, _, .fragment otherDerived, narrowed.mk⟩
  | plain plain unbraced inner ih =>
      obtain ⟨others, otherTraces, otherDerived, narrowed⟩ :=
        ih around (Node.everywhere_mk.1 proper).2
      exact ⟨_, _, .plain plain unbraced otherDerived, narrowed.mk⟩
  | parenthesized inner ih =>
      obtain ⟨others, otherTraces, otherDerived, narrowed⟩ :=
        ih around (Node.everywhere_mk.1 proper).2
      obtain ⟨other, rfl⟩ := List.length_eq_one_iff.1 narrowed.length_eq
      exact ⟨_, _, .parenthesized otherDerived, narrowed.mk⟩
  | member inner ih =>
      obtain ⟨others, otherTraces, otherDerived, narrowed⟩ :=
        ih around (Node.everywhere_mk.1 proper).2
      obtain ⟨other, rfl⟩ := List.length_eq_one_iff.1 narrowed.length_eq
      exact ⟨_, _, .member otherDerived, narrowed.mk⟩
  | @kept outer node notParenthesized notMember =>
      exact ⟨_, _, .kept notParenthesized notMember, .refl [node]⟩

/-- Where the rewrite under `flatten` succeeds, so does the one under `scoped`. It reports the same
events, but each list with no more captured names. The two trees are the same, except for as many
objects as lists are reported: these hand over the names that the lists are reported with. -/
theorem policies_differ_in_captures {adapter : Adapter} {tree : Node} {flat : Rewritten}
    (proper : Node.Everywhere ProperName [tree])
    (done : rewrite ⟨adapter, .flatten⟩ tree = .ok flat) :
    ∃ (other : Rewritten) (pairs placed : List (Names × Names)),
      rewrite ⟨adapter, .scoped⟩ tree = .ok other ∧
      List.Forall₂ Event.Narrows flat.events other.events ∧
      reportedNames flat.events = pairs.map Prod.fst ∧
      reportedNames other.events = pairs.map Prod.snd ∧
      (∀ pair ∈ pairs, ∀ name ∈ pair.2, name ∈ pair.1) ∧
      SameBut placed [flat.tree] [other.tree] ∧ placed ~ pairs := by
  obtain ⟨expansion, events_eq⟩ := expand_of_rewrite done
  have derived := (expanded_of_expansion _).1 [] .inner tree flat.tree _ expansion
  obtain ⟨others, otherTraces, otherDerived, pairs, placed, alike, same, perm⟩ :=
    derived.narrowed nofun proper
  obtain ⟨other, rfl⟩ := List.length_eq_one_iff.1 same.length_eq
  have otherExpansion := runs_place.1 otherDerived.runs
  refine ⟨⟨other, Trace.allEvents 0 otherTraces ++ [.finished (Trace.allLists otherTraces)]⟩, pairs,
    placed, ?_, ?_, ?_, ?_, alike.fewer, same, perm⟩
  · rw [rewrite_eq_expand, otherExpansion]
    rfl
  · rw [events_eq, alike.allLists_eq]
    exact List.rel_append (alike.events 0) (.cons (.same _) .nil)
  · rw [events_eq, reportedNames_eq, alike.allLoops.1]
  · rw [reportedNames_eq, alike.allLoops.2]

/-- The cells hand over the same names under both policies. The rows hand over their row, and under
`flatten` also the names of the cells. -/
theorem policies_differ_in_captures_rowsOfCells :
    Node.Everywhere ProperName [rowsOfCells] ∧
      ∃ (flat other : Rewritten) (placed : List (Names × Names)),
        rewrite ⟨.wechat, .flatten⟩ rowsOfCells = .ok flat ∧
        rewrite ⟨.wechat, .scoped⟩ rowsOfCells = .ok other ∧
        List.Forall₂ Event.Narrows flat.events other.events ∧
        SameBut placed [flat.tree] [other.tree] ∧
        placed ~ [(["row", "cell"], ["row", "cell"]), (["row", "cell", "index"], ["row"])] := by
  obtain ⟨flat, rows, rowsLoop, cells, cellsLoop, flatDone, traces_eq, rows_eq, cells_eq, -⟩ :=
    rewrite_rowsOfCells
  obtain ⟨scopedRewrite, scopedDone, reported⟩ := rewrite_rowsOfCells_scoped
  obtain ⟨other, pairs, placed, otherDone, events, flat_eq, other_eq, -, same, perm⟩ :=
    policies_differ_in_captures properName_rowsOfCells flatDone
  obtain rfl : scopedRewrite = other := Except.ok.inj (scopedDone.symm.trans otherDone)
  have pairs_eq : pairs =
      [(["row", "cell"], ["row", "cell"]), (["row", "cell", "index"], ["row"])] := by
    have flatNames : reportedNames flat.events = [["row", "cell"], ["row", "cell", "index"]] := by
      rw [(expand_of_rewrite flatDone).2, reportedNames_eq, traces_eq, ← cells_eq, ← rows_eq]
      rfl
    have otherNames : reportedNames scopedRewrite.events = [["row", "cell"], ["row"]] := by
      rw [reportedNames, reported]
      rfl
    rw [← List.zip_unzip pairs, List.unzip_eq_map, ← flat_eq, ← other_eq, flatNames, otherNames]
    rfl
  exact ⟨properName_rowsOfCells, flat, scopedRewrite, placed, flatDone, otherDone, events, same,
    pairs_eq ▸ perm⟩

end LoopTemplate.Loop
