import LoopTemplate.Proofs.Scoping

/-!
# Trees that differ in what objects hand over

`SameBut` relates trees that are the same except for objects that hand over names, and says which
names these are. The pieces of a rewritten list are related one by one, so the relation can be taken
apart along the pieces and put together again.
-/

namespace LoopTemplate.Loop

open LoopTemplate.Tree (Form Node)

/-- Nodes that are the same except for objects that hand over names. The pairs are the names that
these objects hand over on the two sides, in source order. -/
inductive SameBut : List (Names × Names) → List Node → List Node → Prop where
  | nil : SameBut [] [] []
  | cons {first later : List (Names × Names)} {node other next : Node} {nodes others : List Node}
      (head : SameBut first [node] [other]) (tail : SameBut later (next :: nodes) others) :
      SameBut (first ++ later) (node :: next :: nodes) (other :: others)
  | node {pairs : List (Names × Names)} {start : Nat} {form : Form} {parts others : List Node}
      (inner : SameBut pairs parts others) :
      SameBut pairs [.mk start form parts] [.mk start form others]
  | object {start : Nat} {properties others : List Node} {names otherNames : Names}
      (hands : HandsOver (.mk start .object properties) names)
      (otherHands : HandsOver (.mk start .object others) otherNames) :
      SameBut [(names, otherNames)] [.mk start .object properties] [.mk start .object others]

namespace SameBut

variable {pairs first later : List (Names × Names)} {node other : Node} {nodes others : List Node}

/-! ## Putting together -/

theorem push (head : SameBut first [node] [other]) (tail : SameBut later nodes others) :
    SameBut (first ++ later) (node :: nodes) (other :: others) := by
  cases nodes with
  | nil =>
      cases tail
      rw [List.append_nil]
      exact head
  | cons next nodes => exact .cons head tail

theorem append {moreNodes moreOthers : List Node} (front : SameBut first nodes others)
    (back : SameBut later moreNodes moreOthers) :
    SameBut (first ++ later) (nodes ++ moreNodes) (others ++ moreOthers) := by
  induction front with
  | nil => exact back
  | cons head tail headIh tailIh =>
      rw [List.append_assoc]
      exact head.push tailIh
  | node inner ih => exact (SameBut.node inner).push back
  | object hands otherHands => exact (SameBut.object hands otherHands).push back

theorem refl (nodes : List Node) : SameBut [] nodes nodes := by
  have each : ∀ node : Node, SameBut [] [node] [node] := by
    intro node
    induction node using Node.induction_on_parts with
    | step start form parts ih =>
        apply SameBut.node
        induction parts with
        | nil => exact .nil
        | cons part parts partsIh =>
            exact (ih part List.mem_cons_self).push
              (partsIh fun other member => ih other (List.mem_cons_of_mem _ member))
  induction nodes with
  | nil => exact .nil
  | cons node nodes ih => exact (each node).push ih

/-! ## Taking apart -/

theorem uncons (same : SameBut pairs (node :: nodes) (other :: others)) :
    ∃ first later, pairs = first ++ later ∧ SameBut first [node] [other] ∧
      SameBut later nodes others := by
  cases same with
  | cons head tail => exact ⟨_, _, rfl, head, tail⟩
  | node inner => exact ⟨_, [], (List.append_nil _).symm, .node inner, .nil⟩
  | object hands otherHands =>
      exact ⟨_, [], (List.append_nil _).symm, .object hands otherHands, .nil⟩

theorem length_eq (same : SameBut pairs nodes others) : others.length = nodes.length := by
  induction same with
  | nil => rfl
  | cons head tail headIh tailIh => simp only [List.length_cons, tailIh]
  | node | object => rfl

theorem split {before otherBefore after otherAfter : List Node}
    (same : SameBut pairs (before ++ node :: after) (otherBefore ++ other :: otherAfter))
    (length_eq : otherBefore.length = before.length) :
    ∃ early middle late, pairs = early ++ (middle ++ late) ∧ SameBut early before otherBefore ∧
      SameBut middle [node] [other] ∧ SameBut late after otherAfter := by
  induction before generalizing otherBefore pairs with
  | nil =>
      obtain rfl := List.length_eq_zero_iff.1 length_eq
      obtain ⟨middle, late, rfl, nodeSame, afterSame⟩ := same.uncons
      exact ⟨[], middle, late, rfl, .nil, nodeSame, afterSame⟩
  | cons statement before ih =>
      cases otherBefore with
      | nil => cases length_eq
      | cons otherStatement otherBefore =>
          obtain ⟨head, tail, rfl, headSame, tailSame⟩ := same.uncons
          obtain ⟨early, middle, late, rfl, beforeSame, nodeSame, afterSame⟩ :=
            ih tailSame (Nat.succ.inj length_eq)
          exact ⟨head ++ early, middle, late, by rw [List.append_assoc], headSame.push beforeSame,
            nodeSame, afterSame⟩

theorem form_eq (same : SameBut pairs [node] [other]) : other.form = node.form := by
  cases same <;> rfl

/-- Nodes that are no objects have the same offset, and their parts are the same but for objects. -/
theorem parts {start otherStart : Nat} {form otherForm : Form} {parts otherParts : List Node}
    (same : SameBut pairs [.mk start form parts] [.mk otherStart otherForm otherParts])
    (notObject : form ≠ .object) :
    otherStart = start ∧ otherForm = form ∧ SameBut pairs parts otherParts := by
  cases same with
  | node inner => exact ⟨rfl, rfl, inner⟩
  | object => exact absurd rfl notObject

theorem withoutParentheses (same : SameBut pairs [node] [other]) :
    SameBut pairs [node.withoutParentheses] [other.withoutParentheses] := by
  fun_induction Node.withoutParentheses node generalizing other with
  | case1 start inner ih =>
      obtain ⟨otherStart, otherForm, otherParts⟩ := other
      obtain ⟨rfl, rfl, partsSame⟩ := same.parts (by simp)
      obtain ⟨otherInner, rfl⟩ := List.length_eq_one_iff.1 partsSame.length_eq
      simpa only [Node.withoutParentheses] using ih partsSame
  | case2 node alone =>
      have kept : other.withoutParentheses = other := by
        rw [Node.withoutParentheses]
        rintro start inner rfl
        obtain ⟨nodeStart, form, parts⟩ := node
        obtain rfl : Form.parenthesized = form := same.form_eq
        obtain ⟨-, -, partsSame⟩ := same.parts (by simp)
        obtain ⟨part, rfl⟩ := List.length_eq_one_iff.1 partsSame.length_eq.symm
        exact alone nodeStart part rfl
      rwa [kept]

/-! ## Pieces of a rewritten list -/

theorem call (mapping : Mapping) (parameters : Node) {callee otherCallee body otherBody : Node}
    (calleeSame : SameBut first [callee] [otherCallee])
    (bodySame : SameBut later [body] [otherBody]) :
    SameBut (first ++ later) [mapping.call callee parameters body]
      [mapping.call otherCallee parameters otherBody] :=
  .node (calleeSame.push (.node ((refl mapping.lead).append ((refl [parameters]).push bodySame))))

theorem loopElement (adapter : Adapter) (item index : String)
    (outer firstStart firstInner secondStart secondInner thirdStart thirdInner : Nat)
    {call otherCall child otherChild : Node} (callSame : SameBut first [call] [otherCall])
    (childSame : SameBut later [child] [otherChild]) :
    SameBut (first ++ later)
      [Loop.loopElement adapter item index call child outer firstStart firstInner secondStart
        secondInner thirdStart thirdInner]
      [Loop.loopElement adapter item index otherCall otherChild outer firstStart firstInner
        secondStart secondInner thirdStart thirdInner] := by
  unfold Loop.loopElement
  refine .node (push ?_ childSame)
  rw [← List.append_nil first]
  exact .node ((SameBut.node (.node callSame)).push (refl _))

/-- Bodies that are the same but for objects have the same results but for objects, and stay so when
both results are replaced. -/
theorem fill {context otherContext : BodyContext} {result otherResult : Node}
    (same : SameBut pairs [context.fill result] [otherContext.fill otherResult])
    (outline_eq : otherContext.outline = context.outline) (markup : isMarkup result = true)
    (otherMarkup : isMarkup otherResult = true) :
    ∃ inner around, pairs.Perm (inner ++ around) ∧ SameBut inner [result] [otherResult] ∧
      ∀ put object otherObject, SameBut put [object] [otherObject] →
        ∃ placed, placed.Perm (put ++ around) ∧
          SameBut placed [context.fill object] [otherContext.fill otherObject] := by
  cases context with
  | whole =>
      cases otherContext with
      | whole =>
          refine ⟨pairs, [], by simp, same, fun put object otherObject putSame => ?_⟩
          exact ⟨put, by simp, putSame⟩
      | block start closing before returnStart after beforeClear afterClear =>
          exact absurd same.form_eq.symm (noBody_of_isMarkup markup closing)
  | block start closing before returnStart after beforeClear afterClear =>
      cases otherContext with
      | whole => exact absurd same.form_eq (noBody_of_isMarkup otherMarkup closing)
      | block otherStart otherClosing otherBefore otherReturn otherAfter _ _ =>
          obtain ⟨rfl, closing_eq, statementsSame⟩ := same.parts (by simp)
          cases closing_eq
          have length_eq : otherBefore.length = before.length := by
            simpa [BodyContext.outline] using congrArg (fun outline => outline.1.length) outline_eq
          obtain ⟨early, middle, late, rfl, beforeSame, returnSame, afterSame⟩ :=
            statementsSame.split length_eq
          obtain ⟨rfl, -, resultSame⟩ := returnSame.parts (by simp)
          refine ⟨middle, early ++ late, ?_, resultSame, fun put object otherObject putSame => ?_⟩
          · exact List.perm_append_comm_assoc early middle late
          · exact ⟨early ++ (put ++ late), List.perm_append_comm_assoc early put late,
              .node (beforeSame.append ((SameBut.node putSame).push afterSame))⟩

/-! ## Readings -/

/-- Where the objects of the second side hand over no more than those of the first, the second side
reads no more than the first. -/
theorem reads (same : SameBut pairs nodes others)
    (fewer : ∀ pair ∈ pairs, ∀ name ∈ pair.2, name ∈ pair.1) {name : String}
    (found : ∃ other ∈ others, other.Reads name) : ∃ node ∈ nodes, node.Reads name := by
  induction same with
  | nil => exact found
  | cons head tail headIh tailIh =>
      obtain ⟨other, member, reads⟩ := found
      rcases List.mem_cons.1 member with rfl | among
      · obtain ⟨node, single, reads⟩ := headIh
          (fun pair inside => fewer pair (List.mem_append_left _ inside))
          ⟨_, List.mem_cons_self, reads⟩
        exact ⟨node, List.mem_cons.2 (.inl (List.mem_singleton.1 single)), reads⟩
      · obtain ⟨node, inside, reads⟩ := tailIh
          (fun pair inside => fewer pair (List.mem_append_right _ inside)) ⟨other, among, reads⟩
        exact ⟨node, List.mem_cons_of_mem _ inside, reads⟩
  | @node pairs start form parts others inner ih =>
      obtain ⟨other, member, read, inside, form_eq⟩ := found
      rw [List.mem_singleton.1 member] at inside
      rcases Node.mem_nodes_mk.1 inside with rfl | ⟨part, partMember, inPart⟩
      · exact ⟨_, List.mem_cons_self, _, Node.mem_nodes_self _, form_eq⟩
      · obtain ⟨node, among, own, inNode, own_eq⟩ :=
          ih fewer ⟨part, partMember, read, inPart, form_eq⟩
        exact ⟨_, List.mem_cons_self, own, Node.mem_nodes_of_part among inNode, own_eq⟩
  | object hands otherHands =>
      obtain ⟨other, member, reads⟩ := found
      rw [List.mem_singleton.1 member, reads_of_handsOver otherHands] at reads
      have captured := fewer _ List.mem_cons_self name reads
      exact ⟨_, List.mem_cons_self, (reads_of_handsOver hands).2 captured⟩

end SameBut

end LoopTemplate.Loop
