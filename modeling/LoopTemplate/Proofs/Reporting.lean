import LoopTemplate.Proofs.Names
import Mathlib.Data.List.Forall2

/-!
# Reporting finished loops

A finished loop is reported to the loop around it, which takes over the names that it needs to
know. In whatever order loops were opened, closed and reported before, no set of names of an open
loop holds a name twice (`Reachable.distinct`). On such loops a report is a merge
(`report_merges`): it reaches nothing but what the innermost loop knows of the loops in it, puts
the missing names behind those that are there, changes nothing when it is repeated, and leaves the
same sets whether it is made before or after another report.
-/

namespace LoopTemplate.Loop

/-! ## Sets that gain names -/

/-- How a set of names changes when names are offered to it. -/
structure Gains (before after : Names) (offered : String → Prop) : Prop where
  /-- What was there stands first, in its former order. -/
  kept : before <+: after
  distinct : after.Nodup
  /-- Nothing is gained but what was offered, and nothing that was offered is missing. -/
  mem_iff : ∀ name, name ∈ after ↔ name ∈ before ∨ offered name

theorem gains_insertNames {names more : List String} {offered : String → Prop}
    (distinct : names.Nodup) (offers : ∀ name, name ∈ more ↔ offered name) :
    Gains names (insertNames names more) offered where
  kept := prefix_insertNames names more
  distinct := nodup_insertNames distinct
  mem_iff := by
    intro name
    rw [mem_insertNames, offers]

namespace Gains

variable {before after later otherAfter otherLater : Names} {offered others : String → Prop}

/-- Nothing is gained from the same offer again. -/
theorem eq_of_repeated (once : Gains before after offered) (again : Gains after later offered) :
    later = after := by
  obtain ⟨gained, rfl⟩ := again.kept
  have nothing : gained = [] := by
    apply List.eq_nil_iff_forall_not_mem.2
    intro name member
    -- What is gained the second time was offered the first time, so it would stand there twice.
    have present : name ∈ after := by
      rcases (again.mem_iff name).1 (List.mem_append_right _ member) with there | offer
      · exact there
      · exact (once.mem_iff name).2 (.inr offer)
    obtain ⟨-, -, apart⟩ := List.nodup_append.1 again.distinct
    exact apart name present name member rfl
  rw [nothing, List.append_nil]

/-- Two offers give the same set in either order. -/
theorem perm_of_swapped (first : Gains before after offered) (second : Gains after later others)
    (otherFirst : Gains before otherAfter others)
    (otherSecond : Gains otherAfter otherLater offered) : later.Perm otherLater := by
  apply (List.perm_ext_iff_of_nodup second.distinct otherSecond.distinct).2
  intro name
  rw [second.mem_iff, first.mem_iff, otherSecond.mem_iff, otherFirst.mem_iff, or_right_comm]

end Gains

/-! ## Merging a finished loop -/

namespace Frame

/-- A loop without what the loops in it reported. -/
def own (frame : Frame) : Frame := { frame with innerBindings := [], innerCaptures := [] }

/-- No set of names of the loop holds a name twice. -/
structure Distinct (frame : Frame) : Prop where
  locals : frame.locals.Nodup
  captures : frame.captures.Nodup
  innerBindings : frame.innerBindings.Nodup
  innerCaptures : frame.innerCaptures.Nodup

/-- How a loop changes when a finished loop is merged into it: it gains the items and indices of the
finished loop and of the loops in that, and the names that the finished loop hands over but does not
bind. -/
structure Merges (finished before after : Frame) : Prop where
  own_eq : after.own = before.own
  bindings : Gains before.innerBindings after.innerBindings fun name =>
    name = finished.item ∨ name = finished.index ∨ name ∈ finished.innerBindings
  captures : Gains before.innerCaptures after.innerCaptures fun name =>
    name ∈ finished.captures ∧ ¬ finished.binds name

/-- Loops that differ at most in the order of the names that the loops in them reported. -/
structure SameSets (frame other : Frame) : Prop where
  own_eq : frame.own = other.own
  bindings : frame.innerBindings.Perm other.innerBindings
  captures : frame.innerCaptures.Perm other.innerCaptures

theorem SameSets.refl (frame : Frame) : SameSets frame frame := ⟨rfl, .refl _, .refl _⟩

theorem eq_of_own_eq {frame other : Frame} (own_eq : frame.own = other.own)
    (bindings_eq : frame.innerBindings = other.innerBindings)
    (captures_eq : frame.innerCaptures = other.innerCaptures) : frame = other := by
  cases frame
  cases other
  simp_all [own]

theorem merges_absorb {frame : Frame} (distinct : frame.Distinct) (finished : Frame) :
    Merges finished frame (frame.absorb finished) where
  own_eq := rfl
  bindings := by
    have offers : ∀ name, name ∈ finished.item :: finished.index :: finished.innerBindings ↔
        name = finished.item ∨ name = finished.index ∨ name ∈ finished.innerBindings := by simp
    exact gains_insertNames distinct.innerBindings offers
  captures := gains_insertNames distinct.innerCaptures (by simp)

/-- A loop is opened with sets: its inner loops reported nothing yet, and its locals are put in one
after the other. -/
theorem distinct_opened (item index : String) (declared : List String) :
    { Frame.of item index with locals := namesOf declared }.Distinct where
  locals := nodup_insertNames .nil
  captures := .nil
  innerBindings := .nil
  innerCaptures := .nil

/-- Merging keeps the sets of a loop sets. -/
theorem Distinct.absorb {frame : Frame} (distinct : frame.Distinct) (finished : Frame) :
    (frame.absorb finished).Distinct where
  locals := distinct.locals
  captures := distinct.captures
  innerBindings := (merges_absorb distinct finished).bindings.distinct
  innerCaptures := (merges_absorb distinct finished).captures.distinct

namespace Merges

variable {finished other before after later otherAfter otherLater : Frame}

theorem eq_of_repeated (once : Merges finished before after) (again : Merges finished after later) :
    later = after :=
  eq_of_own_eq again.own_eq (once.bindings.eq_of_repeated again.bindings)
    (once.captures.eq_of_repeated again.captures)

theorem sameSets_of_swapped (first : Merges finished before after)
    (second : Merges other after later) (otherFirst : Merges other before otherAfter)
    (otherSecond : Merges finished otherAfter otherLater) : SameSets later otherLater where
  own_eq := by rw [second.own_eq, first.own_eq, otherSecond.own_eq, otherFirst.own_eq]
  bindings := first.bindings.perm_of_swapped second.bindings otherFirst.bindings
    otherSecond.bindings
  captures := first.captures.perm_of_swapped second.captures otherFirst.captures
    otherSecond.captures

end Merges

end Frame

/-! ## Runs -/

namespace LoopStack

/-- The open loops that come about when loops are opened, closed and reported one after the other. A
loop is opened with sets of names, closing changes nothing if none is open, and any loop can be
reported. -/
inductive Reachable : LoopStack → Prop where
  | start : Reachable []
  | push {stack : LoopStack} {frame : Frame} (reached : Reachable stack)
      (distinct : frame.Distinct) : Reachable (LoopStack.push stack frame)
  | pop {stack rest : LoopStack} {frame : Frame} (reached : Reachable stack)
      (closed : LoopStack.pop? stack = some (frame, rest)) : Reachable rest
  | report {stack : LoopStack} (reached : Reachable stack) (finished : Frame) :
      Reachable (LoopStack.report stack finished)

section Step

variable {stack : LoopStack} (distinct : ∀ frame ∈ stack, frame.Distinct)

include distinct

theorem distinct_push {opened : Frame} (openedDistinct : opened.Distinct) :
    ∀ frame ∈ push stack opened, frame.Distinct := by
  intro frame member
  rcases List.mem_cons.1 member with rfl | outer
  · exact openedDistinct
  · exact distinct frame outer

theorem distinct_pop {rest : LoopStack} {closing : Frame}
    (closed : pop? stack = some (closing, rest)) : ∀ frame ∈ rest, frame.Distinct := by
  cases stack with
  | nil => cases closed
  | cons top outer =>
      cases closed
      intro frame member
      exact distinct frame (List.mem_cons_of_mem _ member)

theorem distinct_report (finished : Frame) :
    ∀ frame ∈ report stack finished, frame.Distinct := by
  cases stack with
  | nil => exact distinct
  | cons top outer =>
      intro frame member
      rcases List.mem_cons.1 member with rfl | unchanged
      · exact (distinct top List.mem_cons_self).absorb finished
      · exact distinct frame (List.mem_cons_of_mem _ unchanged)

end Step

theorem Reachable.distinct {stack : LoopStack} (reached : Reachable stack) :
    ∀ frame ∈ stack, frame.Distinct := by
  induction reached with
  | start => simp
  | push _ opened ih => exact distinct_push ih opened
  | pop _ closed ih => exact distinct_pop ih closed
  | report _ finished ih => exact distinct_report ih finished

/-- Reporting a finished loop merges it into the innermost open loop and touches nothing else. To
report it again changes nothing, and two reports give the same sets in either order. -/
theorem report_merges {stack : LoopStack} (reached : Reachable stack) (finished other : Frame) :
    depth (report stack finished) = depth stack ∧
      LoopStack.bindings (report stack finished) = LoopStack.bindings stack ∧
      (report stack finished).tail = stack.tail ∧
      (∀ top ∈ stack.head?, ∃ merged ∈ (report stack finished).head?,
        finished.Merges top merged) ∧
      report (report stack finished) finished = report stack finished ∧
      List.Forall₂ Frame.SameSets (report (report stack finished) other)
        (report (report stack other) finished) := by
  refine ⟨depth_report stack finished, bindings_report stack finished, ?_⟩
  cases stack with
  | nil => exact ⟨rfl, by simp, rfl, .nil⟩
  | cons top outer =>
      have distinct : top.Distinct := reached.distinct top List.mem_cons_self
      -- The laws follow from what a single merge does, in each place where one is made.
      have first := Frame.merges_absorb distinct finished
      have again := Frame.merges_absorb (distinct.absorb finished) finished
      have second := Frame.merges_absorb (distinct.absorb finished) other
      have otherFirst := Frame.merges_absorb distinct other
      have otherSecond := Frame.merges_absorb (distinct.absorb other) finished
      refine ⟨rfl, ?_, ?_, ?_⟩
      · intro frame isTop
        cases isTop
        exact ⟨top.absorb finished, rfl, first⟩
      · exact congrArg (· :: outer) (first.eq_of_repeated again)
      · refine .cons (first.sameSets_of_swapped second otherFirst otherSecond) ?_
        exact List.forall₂_same.2 fun frame _ => .refl frame

/-- The loops of tables and of their rows, after a loop over the cells of a row was reported. -/
def openRows : LoopStack :=
  report (push (push [] (Frame.of "table" "index"))
      { Frame.of "row" "index" with locals := ["label"] })
    { Frame.of "cell" "index" with captures := ["cell", "label", "table"] }

/-- A loop that hands over names that it binds itself and names that another loop handed over. -/
def marks : Frame :=
  { Frame.of "mark" "mark" with
    locals := ["tone"]
    captures := ["tone", "table", "mark", "row"]
    innerBindings := ["dot", "cell"] }

/-- Another loop in the same row. -/
def notes : Frame := { Frame.of "note" "index" with captures := ["note", "label", "owner"] }

theorem reachable_openRows : Reachable openRows := by
  have tables : Reachable (push [] (Frame.of "table" "index")) :=
    .push .start (Frame.distinct_opened "table" "index" [])
  have rows : Reachable (push (push [] (Frame.of "table" "index"))
      { Frame.of "row" "index" with locals := ["label"] }) :=
    .push tables (Frame.distinct_opened "row" "index" ["label"])
  exact .report rows _

/-- The order of two reports shows only in the order of the names. -/
theorem report_merges_openRows :
    Reachable openRows ∧
      depth (report openRows marks) = depth openRows ∧
      LoopStack.bindings (report openRows marks) = LoopStack.bindings openRows ∧
      (report openRows marks).tail = openRows.tail ∧
      (∀ top ∈ openRows.head?, ∃ merged ∈ (report openRows marks).head?, marks.Merges top merged) ∧
      report (report openRows marks) marks = report openRows marks ∧
      List.Forall₂ Frame.SameSets (report (report openRows marks) notes)
        (report (report openRows notes) marks) ∧
      report (report openRows marks) notes ≠ report (report openRows notes) marks := by
  obtain ⟨depth_eq, bindings_eq, tail_eq, merged, repeated, swapped⟩ :=
    report_merges reachable_openRows marks notes
  exact ⟨reachable_openRows, depth_eq, bindings_eq, tail_eq, merged, repeated, swapped, by decide⟩

end LoopStack

end LoopTemplate.Loop
