import LoopTemplate.Proofs.Flattening
import LoopTemplate.Proofs.Sites
import LoopTemplate.Proofs.Undo

/-!
# Parameters of rewritten callbacks

A callback that declares two parameters keeps them as they are. One that declares fewer gets two
parameters that are spelled anew from their names, so a parameter stays as it was only if it is a
plain name: a lone parameter loses its default value.
-/

namespace LoopTemplate.Loop

open LoopTemplate.Grammar (IsName plainParameter)
open LoopTemplate.Tree (Form Node)

/-! ## Plain parameters -/

/-- Offsets apart, a parameter that is a plain name is known by its name. -/
theorem isPlainParameter_iff_bare {name : String} {parameter : Node} :
    IsPlainParameter name parameter ↔ bare parameter = bare (plainParameter 0 name) := by
  constructor
  · exact IsPlainParameter.bare_eq
  · intro same
    obtain ⟨start, form, parts⟩ := parameter
    simp only [plainParameter, bare_mk, List.map_cons, List.map_nil, Node.mk.injEq, true_and]
      at same
    obtain ⟨rfl, parts_eq⟩ := same
    obtain ⟨⟨bindingStart, bindingForm, bindingParts⟩, rfl, binding⟩ :=
      List.map_eq_singleton_iff.1 parts_eq
    simp only [bare_mk, Node.mk.injEq, List.map_eq_nil_iff, true_and] at binding
    obtain ⟨rfl, rfl⟩ := binding
    exact ⟨start, bindingStart, rfl⟩

/-! ## Kept parameters -/

/-- How the parameters that a callback declares stand among those of the rewritten callback. -/
structure KeptParameters (declared kept : Node) : Prop where
  count : declared.parts.length ≤ 2 ∧ kept.parts.length = 2
  both : declared.parts.length = 2 → kept = declared
  /-- Each has its name and its position. It is a plain name if fewer than two are declared.
  So, offsets apart, it is as it was if two are declared or it was a plain name, and in no
  other case. -/
  each : ∀ (position : Nat) (parameter : Node), declared.parts[position]? = some parameter →
    ∃ name other, parameterName? parameter = some name ∧ kept.parts[position]? = some other ∧
      parameterName? other = some name ∧
      (declared.parts.length < 2 → IsPlainParameter name other) ∧
      (bare other = bare parameter ↔
        declared.parts.length = 2 ∨ IsPlainParameter name parameter)

/-- The parameters of the callback in a loop. -/
def callbackParameters? (adapter : Adapter) (loop : Node) : Option Node := do
  let (call, _) ← loopParts? adapter loop
  let (parameters, _) ← callbackParts? call
  return parameters

section Spelled

variable {value : Node} {iteration : Iteration} (list : MatchedList value iteration)

/-- The parameter at a position declares the name at that position. -/
theorem MatchedList.parameterName?_eq {position : Nat} {parameter : Node}
    (found : list.parameters.parts[position]? = some parameter) :
    ∃ name, list.names[position]? = some name ∧ parameterName? parameter = some name := by
  obtain ⟨-, named⟩ := plain_of_parameterNames? list.declared
  have same := congrArg (·[position]?) named
  simp only [List.getElem?_map, found, Option.map_some] at same
  obtain ⟨name, name_eq, same⟩ := Option.map_eq_some_iff.1 same.symm
  exact ⟨name, name_eq, same.symm⟩

theorem keptParameters_of_spelled {parameters : Node} (item : IsName iteration.itemName)
    (index : IsName iteration.indexName)
    (spelled : spellParameters iteration list.parameters = .ok parameters) :
    KeptParameters list.parameters parameters := by
  obtain ⟨few, named⟩ := plain_of_parameterNames? list.declared
  unfold spellParameters at spelled
  split at spelled
  case isTrue fewer =>
    obtain ⟨start, first, second, rfl⟩ := parametersSnippet_cases item index spelled
    refine ⟨⟨few, rfl⟩, fun two => absurd two (by omega), fun position parameter found => ?_⟩
    -- There is at most one parameter, so it is the item.
    obtain rfl : position = 0 := by
      have inside := (List.getElem?_eq_some_iff.1 found).1
      omega
    obtain ⟨name, name_eq, parameter_eq⟩ := list.parameterName?_eq found
    have itemName_eq : iteration.itemName = name := by
      rw [Iteration.itemName, list.item_eq, name_eq, Option.getD_some]
    refine ⟨name, plainParameter first name, parameter_eq, by simp [itemName_eq], rfl,
      fun _ => ⟨first, first, rfl⟩, ?_⟩
    rw [isPlainParameter_iff_bare, or_iff_right (by omega), eq_comm]
    simp [plainParameter]
  case isFalse both =>
    cases spelled
    have two : list.parameters.parts.length = 2 := by omega
    refine ⟨⟨few, two⟩, fun _ => rfl, fun position parameter found => ?_⟩
    obtain ⟨name, -, parameter_eq⟩ := list.parameterName?_eq found
    exact ⟨name, parameter, parameter_eq, found, parameter_eq, fun fewer => absurd two (by omega),
      by simp [two]⟩

end Spelled

/-- The callback of a loop has the parameters that were spelled for it. -/
theorem ReplacedBy.callbackParameters?_eq {rules : RewriteRules} {site : Site} {loop : Frame × Node}
    (replaced : ReplacedBy rules site loop) :
    callbackParameters? rules.adapter loop.2 = some replaced.rewritten.parameters := by
  have parts : callbackParts? (replaced.list.mapping.call replaced.callee
      replaced.rewritten.parameters (replaced.rewritten.context.fill replaced.rewritten.object)) =
        some (replaced.rewritten.parameters,
          replaced.rewritten.context.fill replaced.rewritten.object) :=
    callbackParts?_of_shape (Node.withoutParentheses_of_form (by simp [Mapping.call]))
  rw [callbackParameters?, loopParts?_of_loopWrapper replaced.only.item replaced.only.index
    replaced.rewritten.wrapped]
  simp [parts]

theorem ReplacedBy.keptParameters {rules : RewriteRules} {site : Site} {loop : Frame × Node}
    (replaced : ReplacedBy rules site loop) :
    ∃ kept, callbackParameters? rules.adapter loop.2 = some kept ∧
      KeptParameters site.parameters kept := by
  have item := replaced.rewritten.item_eq ▸ replaced.only.item
  have index := replaced.rewritten.index_eq ▸ replaced.only.index
  refine ⟨_, replaced.callbackParameters?_eq, ?_⟩
  rw [← replaced.parameters_eq]
  exact keptParameters_of_spelled replaced.list item index replaced.rewritten.spelled

/-- In the callback of every list that is rewritten the declared parameters stand where they stood,
with their names. Two of them are kept with all that belongs to them; a lone one is kept, offsets
apart, just if it is a plain name. -/
theorem callback_keeps_parameters {rules : RewriteRules} {tree : Node} {rewritten : Rewritten}
    (declared : Node.Everywhere (DeclaresOnly IsName) [tree])
    (done : rewrite rules tree = .ok rewritten) :
    ∃ loops : List (Frame × Node),
      rewritten.events.filterMap Event.loop? =
        loops.map (fun loop => (loop.1.item, loop.1.index, loop.1.captures)) ∧
      (∀ loop ∈ loops, loop.2 ∈ rewritten.tree.nodes) ∧
      List.Forall₂ (fun site loop => ∃ kept, callbackParameters? rules.adapter loop.2 = some kept ∧
        KeptParameters site.parameters kept) (sites [] .inner tree) loops := by
  obtain ⟨loops, reported, placed, replaced⟩ := replaced_of_rewrite declared done
  refine ⟨loops, reported, placed, replaced.imp ?_⟩
  rintro site loop ⟨replacedBy⟩
  exact replacedBy.keptParameters

/-! ## Default values -/

/-- A parameter with a default value: `name = 1`. -/
def defaulted (name : String) : Node :=
  .mk 0 .parameter [.mk 0 (.binding name) [], .mk 0 (.number (.ofNat 1)) []]

/-- A list whose callback has the given parameters:
`<view>{xs.map((…) => <text>{x}</text>)}</view>`. -/
def listWith (parameters : List Node) : Node :=
  .mk 0 .element [.mk 0 (.opening (.plain "view") false) [],
    .mk 0 .container [.mk 0 (.call false false 0) [
      .mk 0 (.member "map" false) [.mk 0 (.reference "xs") []],
      .mk 0 (.arrow ⟨false, false, false⟩) [.mk 0 .parameters parameters,
        .mk 0 .element [.mk 0 (.opening (.plain "text") false) [],
          .mk 0 .container [.mk 0 (.reference "x") []]]]]]]

/-- With an index beside it, a parameter keeps its default value. -/
theorem callback_keeps_parameters_defaulted :
    Node.Everywhere (DeclaresOnly IsName) [listWith [defaulted "x", plainParameter 0 "i"]] ∧
      ∃ rewritten loop,
        rewrite ⟨.wechat, .scoped⟩ (listWith [defaulted "x", plainParameter 0 "i"]) =
          .ok rewritten ∧
        loop ∈ rewritten.tree.nodes ∧
        callbackParameters? .wechat loop =
          some (.mk 0 .parameters [defaulted "x", plainParameter 0 "i"]) := by
  have proper : Node.Everywhere ProperName [listWith [defaulted "x", plainParameter 0 "i"]] := by
    unfold Node.Everywhere
    decide +kernel
  have reported : reportedLoops? ⟨.wechat, .scoped⟩
      (listWith [defaulted "x", plainParameter 0 "i"]) = some [("x", "i", ["x"])] := by
    decide +kernel
  have declared := declaresOnly_of_properName proper
  obtain ⟨rewritten, done, -⟩ := rewrite_of_reportedLoops? reported
  obtain ⟨loops, -, placed, kept⟩ := callback_keeps_parameters declared done
  obtain ⟨loop, rest, ⟨parameters, read, keeps⟩, -, rfl⟩ := List.forall₂_cons_left_iff.1 kept
  rw [keeps.both rfl] at read
  exact ⟨declared, rewritten, loop.2, done, placed loop List.mem_cons_self, read⟩

/-- A lone parameter loses its default value. -/
theorem lone_parameter_loses_default :
    Node.Everywhere (DeclaresOnly IsName) [listWith [defaulted "x"]] ∧
      ∃ rewritten loop kept other,
        rewrite ⟨.wechat, .scoped⟩ (listWith [defaulted "x"]) = .ok rewritten ∧
        loop ∈ rewritten.tree.nodes ∧ callbackParameters? .wechat loop = some kept ∧
        kept.parts[0]? = some other ∧ IsPlainParameter "x" other ∧
        bare other ≠ bare (defaulted "x") := by
  have proper : Node.Everywhere ProperName [listWith [defaulted "x"]] := by
    unfold Node.Everywhere
    decide +kernel
  have reported : reportedLoops? ⟨.wechat, .scoped⟩ (listWith [defaulted "x"]) =
      some [("x", "index", ["x"])] := by
    decide +kernel
  have declared := declaresOnly_of_properName proper
  obtain ⟨rewritten, done, -⟩ := rewrite_of_reportedLoops? reported
  obtain ⟨loops, -, placed, replaced⟩ := replaced_of_rewrite declared done
  obtain ⟨loop, rest, ⟨replacedBy⟩, -, rfl⟩ := List.forall₂_cons_left_iff.1 replaced
  obtain ⟨kept, read, keeps⟩ := replacedBy.keptParameters
  obtain ⟨name, other, name_eq, found, -, plain, same_iff⟩ := keeps.each 0 (defaulted "x") rfl
  cases name_eq
  refine ⟨declared, rewritten, loop.2, kept, other, done, placed loop List.mem_cons_self, read,
    found, plain (by decide), ?_⟩
  rw [Ne, same_iff]
  rintro (two | ⟨start, bindingStart, same⟩)
  · cases two
  · cases same

end LoopTemplate.Loop
