import LoopTemplate.Proofs.Flattening
import LoopTemplate.Proofs.Resolution
import LoopTemplate.Proofs.Sites

/-!
# Default names

A callback that declares fewer than two parameters gets the names `item` and `index` for those
that are missing. These names are fixed, and the callback may use them already: as its parameter,
as a variable of its body, or for something outside of it. The parameters clash with others
exactly if the callback declares a name that is added. To see what names stand for in the
rewritten callback, its markup is put back into its body; they stand for the same as before
exactly if neither the callback nor one in it reads a name from outside that is added to it.
-/

namespace LoopTemplate.Loop

open LoopTemplate.Grammar (IsName plainParameter)
open LoopTemplate.Tree (Form Node)

/-! ## Variables of bodies -/

/-- Whether a statement of this form declares names that must not be declared twice. -/
def isLexical : Form → Bool
  | .variableList kind => kind != .hoisted
  | .classDefinition _ => true
  | _ => false

/-- The names that a statement declares with `let`, `const`, `using` or `class`. -/
def lexicalStatementNames (statement : Node) : List String :=
  if isLexical statement.form then statementNames statement else []

/-- The names that a body declares at its top level with `let`, `const`, `using` or `class`. -/
def lexicalNames (body : Node) : List String := topNames lexicalStatementNames body

/-- What statements declare so follows from their forms and names. -/
theorem map_lexicalStatementNames (statements : List Node) :
    statements.map lexicalStatementNames =
      List.zipWith (fun form names => if isLexical form then names else [])
        (statements.map Node.form) (statements.map statementNames) := by
  rw [List.zipWith_map, List.zipWith_self]
  rfl

/-- A rewrite keeps the variables of a body. -/
theorem Expanded.lexicalNames_eq {rules : RewriteRules} {outer : Names} {node result : Node}
    {traces : List Trace}
    (derived : Expanded rules outer (.place .inner) [node] [result] traces) :
    lexicalNames result = lexicalNames node := by
  apply derived.topNames_eq
  intro nodes expanded traces inside
  rw [map_lexicalStatementNames, map_lexicalStatementNames, inside.map_form rfl,
    inside.map_statementNames rfl]

/-! ## Tidied lists -/

/-- A mapped list is no pattern, and neither is the tidied list. -/
theorem patternNames_of_iteration? {value : Node} {iteration : Iteration}
    (matched : iteration? value = some iteration) :
    patternNames value = [] ∧ patternNames (tidyList value) = [] := by
  obtain ⟨list⟩ := nonempty_of_iteration? matched
  have shape := list.shape_body
  refine ⟨?_, ?_⟩
  · fun_cases Node.withoutParentheses value with
    | case1 => rfl
    | case2 node other =>
        rw [Node.withoutParentheses] at shape
        · rw [shape]
          rfl
        · exact other
  · rw [tidyList_of_shape shape]
    rfl

/-- Tidying changes nothing about what is declared outside of callbacks. -/
theorem sameNames_tidy (place : Place) (node : Node) : SameNames node (tidy place node) := by
  induction node using Node.induction_on_parts generalizing place with
  | step start form parts ih =>
      have all : ∀ place, ∀ nodes ⊆ parts, List.Forall₂ SameNames nodes (nodes.map (tidy place)) :=
        fun place nodes among => List.forall₂_map_right_iff.2
          (List.forall₂_same.2 fun node member => ih node (among member) place)
      unfold tidy
      split
      case h_1 value same =>
        cases same
        split
        case h_1 matched =>
          obtain ⟨value_eq, tidied_eq⟩ := patternNames_of_iteration? matched
          exact ⟨rfl, tidied_eq.trans value_eq.symm, rfl, rfl, rfl, rfl⟩
        case h_2 => exact .of_parts (all .inner _ (List.Subset.refl _))
      case h_2 opening children same =>
        cases same
        rw [tidyAll_eq_map]
        exact .of_parts (.cons (ih opening (by simp) .inner) (all .child _ (by simp)))
      case h_3 same =>
        cases same
        rw [tidyAll_eq_map]
        exact .of_parts (all .child _ (List.Subset.refl _))
      case h_4 same =>
        cases same
        rw [tidyAll_eq_map]
        exact .of_parts (all .inner _ (List.Subset.refl _))

/-- Whether a node reads nothing. -/
structure Silent (node : Node) : Prop where
  readings_eq : ∀ scopes, readings scopes node = []
  isFree_eq : ∀ name, isFree name node = false

theorem silent_of_isOptionalName {node : Node} (named : isOptionalName node = true) :
    Silent node := by
  unfold isOptionalName at named
  split at named
  case h_1 | h_2 =>
    exact ⟨fun _ => by simp [readings, allReadings, lookedUp],
      fun _ => by simp [isFree, anyFree, lookedUp]⟩
  case h_3 => cases named

theorem PlainParameters.silent {parameters : Node} (plain : PlainParameters parameters) :
    Silent parameters := by
  obtain ⟨start, parts, rfl, named⟩ := plain
  constructor
  · intro scopes
    simp only [readings, lookedUp, scopesOf, allReadings_eq_flatMap, List.map_nil, List.nil_append,
      List.flatMap_eq_nil_iff]
    intro parameter member
    obtain ⟨name, start, bindingStart, rfl⟩ := named parameter member
    simp [readings, allReadings, lookedUp, scopesOf]
  · intro name
    simp only [isFree, lookedUp, scopesOf, anyFree_eq_any, List.any_eq_false, Bool.not_eq_true,
      List.not_mem_nil, decide_false, Bool.false_or, Bool.and_eq_false_iff]
    refine .inr fun parameter member => ?_
    obtain ⟨own, start, bindingStart, rfl⟩ := named parameter member
    simp [isFree, anyFree, lookedUp, scopesOf]

/-- The parameters of a mapped list declare the names that they are. -/
theorem MatchedList.formalNames_eq {value : Node} {iteration : Iteration}
    (list : MatchedList value iteration) (form_eq : list.parameters.form = .parameters) :
    formalNames list.parameters = list.names := by
  have named := (plain_of_parameterNames? list.declared).2
  cases declared : list.parameters with
  | mk start form parts =>
      rw [declared] at form_eq named
      cases form_eq
      generalize list.names = names at named
      simp only [Node.parts_mk] at named
      rw [formalNames]
      clear declared
      induction parts generalizing names with
      | nil => simpa using named
      | cons parameter parts ih =>
          cases names with
          | nil => cases named
          | cons name names =>
              simp only [List.map_cons, List.cons.injEq] at named
              obtain ⟨_, _, _, _, rfl⟩ := parameter_of_parameterName? named.1
              rw [List.flatMap_cons, ih names named.2]
              rfl

/-- Tidied parameters declare the default names of those that are missing. -/
theorem formalNames_bothParameters {parameters : Node} (form_eq : parameters.form = .parameters) :
    formalNames (bothParameters parameters) =
      formalNames parameters ++ ["item", "index"].drop parameters.parts.length := by
  obtain ⟨start, form, parts⟩ := parameters
  cases form_eq
  simp only [bothParameters, formalNames, List.flatMap_append, List.flatMap_map, Node.parts_mk]
  congr 1
  exact List.flatMap_singleton' _

theorem PlainParameters.bothParameters {parameters : Node} (plain : PlainParameters parameters) :
    PlainParameters (bothParameters parameters) := by
  obtain ⟨start, parts, rfl, named⟩ := plain
  refine ⟨start, _, rfl, fun parameter member => ?_⟩
  rcases List.mem_append.1 member with own | added
  · exact named parameter own
  · obtain ⟨name, -, rfl⟩ := List.mem_map.1 added
    exact ⟨name, 0, 0, rfl⟩

namespace Mapping

variable {mapping : Mapping} {callee parameters body : Node}
  (lead : ∀ name ∈ mapping.lead, Silent name) (silent : Silent parameters)
include lead silent

/-- In a call with an inline callback the collection is read first, and then the body where the
parameters are bound, and around them the callback's own name. -/
theorem readings_call (scopes : List (List String)) :
    readings scopes (mapping.call callee parameters body) =
      readings scopes callee ++
        readings (formalNames parameters :: (mapping.lead.map patternNames ++ scopes)) body := by
  obtain ⟨start, optional, pure, closing, callbackStart, form, own, callable⟩ := mapping
  cases callable with
  | arrow head sync =>
      simp [Mapping.call, Mapping.callback, readings, allReadings, lookedUp, scopesOf,
        silent.readings_eq]
  | function head name sync single =>
      have unread := (lead name (by simp)).readings_eq
      simp [Mapping.call, Mapping.callback, readings, allReadings, lookedUp, scopesOf,
        silent.readings_eq, unread]

theorem isFree_call (name : String) :
    isFree name (mapping.call callee parameters body) =
      (isFree name callee ||
        (name ∉ (formalNames parameters :: mapping.lead.map patternNames).flatten &&
          isFree name body)) := by
  obtain ⟨start, optional, pure, closing, callbackStart, form, own, callable⟩ := mapping
  cases callable with
  | arrow head sync =>
      simp [Mapping.call, Mapping.callback, isFree, anyFree, lookedUp, scopesOf, silent.isFree_eq]
  | function head ownName sync single =>
      have unread := (lead ownName (by simp)).isFree_eq
      simp [Mapping.call, Mapping.callback, isFree, anyFree, lookedUp, scopesOf, silent.isFree_eq,
        unread]

end Mapping

/-! ## Callbacks -/

namespace Site

/-- The names of the parameters that the callback declares. -/
def declared (site : Site) : List String := (parameterNames? site.parameters).getD []

/-- The default names of the parameters that it does not declare. -/
def added (site : Site) : List String := ["item", "index"].drop site.declared.length

/-- Whether its body reads no name from outside of the callback that is added to its parameters. -/
def Clean (site : Site) : Prop :=
  ∀ name ∈ site.added, isFree name site.body = true → name ∈ site.declared

instance (site : Site) : Decidable site.Clean :=
  inferInstanceAs (Decidable (∀ name ∈ site.added, isFree name site.body = true → _))

end Site

section Tidied

variable {adapter : Adapter} {value : Node} {iteration : Iteration} {start : Nat}

/-- A mapped list reads the same after it was tidied, if this holds for its collection and its body
and the body reads no name from outside that is added to the parameters. -/
theorem readsAlike_list (list : MatchedList value iteration)
    (fit : Fit adapter (.place .child) [.mk start .container [value]])
    (matched : iteration? value = some iteration) {calleeClear bodyClear : Prop}
    (callee : ReadsAlike calleeClear list.callee (tidy .inner list.callee))
    (body : ReadsAlike bodyClear list.body (tidy .inner list.body)) :
    ReadsAlike (calleeClear ∧ bodyClear ∧ ∀ name ∈ ["item", "index"].drop list.names.length,
        isFree name list.body = true → name ∈ list.names)
      (.mk start .container [value]) (tidy .child (.mk start .container [value])) := by
  obtain ⟨leadPlain, rewritable, form_eq, alone⟩ := fit.callback list matched
  have lead : ∀ name ∈ list.mapping.lead, Silent name :=
    fun name member => silent_of_isOptionalName (leadPlain name member)
  have plain := plainParameters_of_list rewritable form_eq alone
  have length_eq : list.parameters.parts.length = list.names.length := by
    simpa using congrArg List.length (plain_of_parameterNames? list.declared).2
  have tidied : tidy .child (.mk start .container [value]) = .mk start .container [
      list.mapping.call (tidy .inner list.callee) (bothParameters list.parameters)
        (openResult (tidy .inner list.body))] := by
    simp only [tidy, matched, tidyList_of_shape list.shape_body]
    rfl
  have braces : ∀ scopes inner, readings scopes (.mk start .container [inner]) =
      readings scopes inner := by
    simp [readings, allReadings, lookedUp, scopesOf]
  intro scopes others
  have before : readings others (.mk start .container [value]) = readings others list.callee ++
      readings (list.names :: (list.mapping.lead.map patternNames ++ others)) list.body := by
    rw [braces, ← readings_withoutParentheses, list.shape_body,
      Mapping.readings_call lead plain.silent, list.formalNames_eq form_eq]
  have after : readings scopes (tidy .child (.mk start .container [value])) =
      readings scopes (tidy .inner list.callee) ++
        readings ((list.names ++ ["item", "index"].drop list.names.length) ::
          (list.mapping.lead.map patternNames ++ scopes)) (tidy .inner list.body) := by
    rw [tidied, braces, Mapping.readings_call lead plain.bothParameters.silent,
      formalNames_bothParameters form_eq, list.formalNames_eq form_eq, length_eq,
      readings_openResult]
  rw [before, after]
  refine ((callee scopes others).append (body _ _).widened.enclosed).congr Iff.rfl fun name => ?_
  have free_eq : isFree name (.mk start .container [value]) = isFree name value := by
    simp [isFree, anyFree, lookedUp, scopesOf]
  rw [free_eq, ← isFree_withoutParentheses, list.shape_body, Mapping.isFree_call lead plain.silent,
    list.formalNames_eq form_eq]
  simp [Bool.and_left_comm, Bool.and_assoc]

theorem forall₂_sameNames_tidy (place : Place) (nodes : List Node) :
    List.Forall₂ SameNames nodes (nodes.map (tidy place)) :=
  List.forall₂_map_right_iff.2 (List.forall₂_same.2 fun node _ => sameNames_tidy place node)

/-- A node whose parts are tidied reads alike, if they do. -/
theorem allReadAlike_of_tidied {place : Place} {form : Form} {parts tidied : List Node}
    {before after : List Site}
    (alike : AllReadAlike (∀ site ∈ before, site.Clean) parts tidied)
    (same : List.Forall₂ SameNames parts tidied) (sites_eq : after = before)
    (tidied_eq : tidy place (.mk start form parts) = .mk start form tidied) :
    AllReadAlike (∀ site ∈ after, site.Clean) [.mk start form parts]
      ([.mk start form parts].map (tidy place)) := by
  rw [List.map_singleton, tidied_eq, sites_eq]
  exact (alike.of_parts same).single

end Tidied

/-- A tidied tree reads the same just if no mapped list in it reads a name from outside that is
added to its parameters. -/
theorem Expanded.allReadAlike {rules : RewriteRules} {outer : Names} {slot : Slot}
    {nodes expanded : List Node} {traces : List Trace}
    (derived : Expanded rules outer slot nodes expanded traces)
    (fit : Fit rules.adapter slot nodes) (scopes : List (List String)) :
    AllReadAlike (∀ site ∈ slotSites scopes slot nodes, site.Clean) nodes
      (nodes.map (tidy slot.toPlace)) := by
  induction derived generalizing scopes with
  | @nil outer slot => exact .nil (by cases slot <;> simp [slotSites, allSites])
  | cons head tail headIh tailIh =>
      obtain ⟨headFit, tailFit⟩ := fit.cons
      refine .cons ?_ (headIh headFit scopes).single (tailIh tailFit scopes)
      rw [slotSites_cons]
      exact List.forall_mem_append
  | container unmatched inner ih =>
      refine allReadAlike_of_tidied (ih fit.parts scopes) (forall₂_sameNames_tidy _ _) ?_ ?_
      · simp [sites, unmatched]
      · simp [tidy, unmatched, Slot.toPlace]
  | @list outer start value callee body wrapper iteration list before inside frame matched
      collection inner rewritten collectionIh innerIh =>
      obtain ⟨calleeFit, bodyFit⟩ := fit.list list
      have calleeAlike := (collectionIh calleeFit scopes).single
      have bodyAlike :=
        (innerIh bodyFit ((loopOf iteration list.body).bindings :: scopes)).single
      refine ReadsAlike.single
        ((readsAlike_list list fit matched calleeAlike bodyAlike).congr ?_)
      rw [list.slotSites_container matched, List.forall_mem_append, List.forall_mem_append,
        List.forall_mem_singleton, Site.Clean, Site.added, Site.declared, list.declared]
      rfl
  | @element outer place start opening first children rest before after head tail headIh tailIh =>
      obtain ⟨openingFit, childrenFit⟩ := fit.element
      have alike : AllReadAlike
          (∀ site ∈ slotSites scopes (.place .inner) [opening] ++
            slotSites scopes (.place .child) children, site.Clean)
          (opening :: children) (tidy .inner opening :: children.map (tidy .child)) :=
        .cons List.forall_mem_append (headIh openingFit scopes).single (tailIh childrenFit scopes)
      refine allReadAlike_of_tidied alike
        (.cons (sameNames_tidy .inner opening) (forall₂_sameNames_tidy .child children)) ?_ ?_
      · rw [slotSites_place, slotSites_place, sites, slotSites]
      · simp [tidy]
  | fragment inner ih =>
      refine allReadAlike_of_tidied (ih fit.fragment scopes) (forall₂_sameNames_tidy _ _) ?_ ?_
      · rw [slotSites_place, sites, slotSites]
      · simp [tidy, Slot.toPlace]
  | plain plain unbraced inner ih =>
      refine allReadAlike_of_tidied (ih fit.parts scopes) (forall₂_sameNames_tidy _ _) ?_
        (tidy_plain plain unbraced)
      rw [slotSites_place, sites_plain scopes plain unbraced, slotSites]
  | parenthesized inner ih =>
      refine allReadAlike_of_tidied (ih fit.parenthesized scopes) (forall₂_sameNames_tidy _ _) ?_ ?_
      · simp [calleeSites]
      · simp [tidy, Slot.toPlace]
  | member inner ih =>
      refine allReadAlike_of_tidied (ih fit.parts scopes) (forall₂_sameNames_tidy _ _) ?_ ?_
      · simp [calleeSites]
      · simp [tidy, Slot.toPlace]
  | @kept outer node notParenthesized notMember =>
      obtain ⟨start, name, optional, object, rfl⟩ := fit.member notParenthesized
      exact (notMember start name optional object rfl).elim

/-! ## Rewritten callbacks -/

/-- The body of a rewritten callback, with the markup of its loop put back in the place of the
object that it returns. So it is read what a name stands for in the callback and in the markup. -/
def TemplateLoop.putBack (adapter : Adapter) (loop : TemplateLoop) : Node :=
  withResult (undo adapter loop.child) (undo adapter loop.body)

/-- Whether the parameters of a rewritten callback have the names of others or of variables of its
body only where they have in the source. -/
structure NoClash (site : Site) (loop : TemplateLoop) : Prop where
  nodup : site.declared.Nodup → [loop.item, loop.index].Nodup
  lexical : ∀ name ∈ [loop.item, loop.index], name ∈ lexicalNames loop.body →
    name ∈ site.declared ∧ name ∈ lexicalNames site.body

/-- Whether each name that is read in a rewritten callback and its markup is bound in the same place
as in the source, whatever is bound around the callback. -/
def SameMeaning (adapter : Adapter) (site : Site) (loop : TemplateLoop) : Prop :=
  ∀ scopes, readings ([loop.item, loop.index] :: scopes) (loop.putBack adapter) =
    readings (site.declared :: scopes) site.body

/-- Default names clash with nothing just if the callback does not declare them. -/
theorem noClash_iff {site : Site} {loop : TemplateLoop}
    (names_eq : [loop.item, loop.index] = site.declared ++ site.added)
    (few : site.declared.length < 2)
    (lexical_eq : lexicalNames loop.body = lexicalNames site.body) :
    NoClash site loop ↔
      ∀ name ∈ site.added, name ∉ site.declared ∧ name ∉ lexicalNames site.body := by
  have declaredNodup : site.declared.Nodup := by
    match site.declared, few with
    | [], _ => exact List.nodup_nil
    | [name], _ => simp
  have addedNodup : site.added.Nodup :=
    List.Nodup.sublist (List.drop_sublist _ _) (by decide : ["item", "index"].Nodup)
  constructor
  · intro noClash name isAdded
    have nodup := noClash.nodup declaredNodup
    rw [names_eq, List.nodup_append] at nodup
    have undeclared : name ∉ site.declared := fun member => nodup.2.2 name member name isAdded rfl
    refine ⟨undeclared, fun inBody => undeclared ?_⟩
    exact (noClash.lexical name (names_eq ▸ List.mem_append_right _ isAdded)
      (lexical_eq ▸ inBody)).1
  · intro unused
    constructor
    · intro _
      rw [names_eq, List.nodup_append]
      refine ⟨declaredNodup, addedNodup, ?_⟩
      rintro name parameter _ isAdded rfl
      exact (unused name isAdded).1 parameter
    · intro name member inBody
      rw [lexical_eq] at inBody
      rw [names_eq, List.mem_append] at member
      exact ⟨member.resolve_right fun isAdded => (unused name isAdded).2 inBody, inBody⟩

namespace ReplacedBy

variable {rules : RewriteRules} {site : Site} {loop : Frame × Node}

theorem names_eq (replaced : ReplacedBy rules site loop) :
    [loop.1.item, loop.1.index] = site.declared ++ site.added := by
  have declared_eq : site.declared = replaced.list.names := by
    rw [Site.declared, ← replaced.parameters_eq, replaced.list.declared, Option.getD_some]
  rw [replaced.rewritten.item_eq, replaced.rewritten.index_eq, replaced.list.names_eq, Site.added,
    declared_eq]

theorem noBody_object (replaced : ReplacedBy rules site loop) :
    NoBody replaced.rewritten.object := by
  obtain ⟨start, properties, object_eq, -⟩ :=
    handsOver_of_captureObject replaced.only.captures replaced.rewritten.handed
  exact object_eq ▸ nofun

theorem lexicalNames_eq (replaced : ReplacedBy rules site loop) :
    lexicalNames (replaced.rewritten.context.fill replaced.rewritten.object) =
      lexicalNames site.body := by
  have kept := replaced.inner.lexicalNames_eq
  rw [replaced.rewritten.body_eq, replaced.body_eq] at kept
  rw [← kept]
  exact topNames_fill _ replaced.noBody_object (noBody_of_isMarkup replaced.rewritten.markup)
    fun _ _ => rfl

/-- With the markup put back, a rewritten callback reads what the tidied source reads. -/
theorem readings_putBack (replaced : ReplacedBy rules site loop)
    (undoable : Node.Everywhere (Undoable rules.adapter) [site.body])
    (scopes : List (List String)) :
    readings scopes (TemplateLoop.putBack rules.adapter
      (.ofFrame loop.1 replaced.rewritten.result.withoutParentheses
        (replaced.rewritten.context.fill replaced.rewritten.object))) =
      readings scopes (tidy .inner site.body) := by
  have seen := bare_undo_of_seen (replaced.inner.seen_eq
    (.inner (replaced.body_eq.symm ▸ undoable)) replaced.around)
  have body_eq : bare (undo rules.adapter replaced.body) = bare (tidy .inner site.body) := by
    simpa [replaced.body_eq] using seen
  rw [TemplateLoop.putBack, TemplateLoop.ofFrame, withResult_undo_fill rules.adapter _
    replaced.noBody_object (noBody_of_isMarkup replaced.rewritten.markup), readings_openResult,
    ← replaced.rewritten.body_eq, ← readings_bare, body_eq, readings_bare]

/-- Names stand for the same just if no callback reads a name from outside that is added to it. -/
theorem sameMeaning_iff (replaced : ReplacedBy rules site loop)
    (undoable : Node.Everywhere (Undoable rules.adapter) [site.body]) :
    SameMeaning rules.adapter site (.ofFrame loop.1 replaced.rewritten.result.withoutParentheses
        (replaced.rewritten.context.fill replaced.rewritten.object)) ↔
      ∀ inner ∈ site :: sites [] .inner site.body, inner.Clean := by
  have alike := (replaced.inner.allReadAlike (.inner (replaced.body_eq.symm ▸ undoable)) []).single
  rw [replaced.body_eq, slotSites_place, Slot.toPlace] at alike
  have each : ∀ scopes, readings ([loop.1.item, loop.1.index] :: scopes)
      (tidy .inner site.body) = readings (site.declared :: scopes) site.body ↔
        ∀ inner ∈ site :: sites [] .inner site.body, inner.Clean := by
    intro scopes
    rw [replaced.names_eq, (alike _ _).widened.eq_iff, List.forall_mem_cons,
      and_iff_left fun _ _ => rfl]
    exact and_comm
  simp only [SameMeaning, readings_putBack replaced undoable]
  exact ⟨fun same => (each []).1 (same []), fun clean scopes => (each scopes).2 clean⟩

end ReplacedBy

/-- Where a callback declares fewer than two parameters, the rewritten one declares the same and
then the default names of those that are missing. They clash with no other parameter and no
variable of the body just if the callback declares none of the names that are added. In the
rewritten callback and its markup each name stands for the same as in the source just if neither
the callback nor one in its body reads a name from outside that is added to it. This is told of
trees in which all loops come from the rewrite and no parameter has a default value, which the
rewrite may drop with what it reads. -/
theorem defaults_hygienic_iff {rules : RewriteRules} {tree : Node} {rewritten : Rewritten}
    (declared : Node.Everywhere (DeclaresOnly IsName) [tree])
    (done : rewrite rules tree = .ok rewritten) :
    ∃ loops : List (Frame × Node),
      rewritten.events.filterMap Event.loop? =
        loops.map (fun loop => (loop.1.item, loop.1.index, loop.1.captures)) ∧
      (∀ loop ∈ loops, loop.2 ∈ rewritten.tree.nodes) ∧
      List.Forall₂ (fun site loop => site.declared.length < 2 →
        ∃ read, templateLoop? rules.adapter loop.2 = some read ∧
          [read.item, read.index] = site.declared ++ site.added ∧
          (NoClash site read ↔
            ∀ name ∈ site.added, name ∉ site.declared ∧ name ∉ lexicalNames site.body) ∧
          (Node.Everywhere (Undoable rules.adapter) [tree] →
            (SameMeaning rules.adapter site read ↔
              ∀ inner ∈ site :: sites [] .inner site.body, inner.Clean)))
        (sites [] .inner tree) loops := by
  obtain ⟨loops, events_eq, placed, replaced⟩ := replaced_of_rewrite declared done
  refine ⟨loops, events_eq, placed, ?_⟩
  have bodies : ∀ site ∈ sites [] .inner tree, site.body ∈ tree.nodes :=
    (holdsBodies tree).anywhere [] .inner
  refine ((List.forall₂_and_left _ _).2 ⟨bodies, replaced⟩).imp ?_
  rintro site loop ⟨inside, ⟨replacedBy⟩⟩ few
  exact ⟨_, replacedBy.rewritten.templateLoop?_eq replacedBy.inner replacedBy.only,
    replacedBy.names_eq, noClash_iff replacedBy.names_eq few replacedBy.lexicalNames_eq,
    fun undoable => replacedBy.sameMeaning_iff (undoable.of_mem inside)⟩

/-- The list of rows gets an index. Its body reads no such name from outside, as the index that is
read there is that of the cells. -/
theorem defaults_hygienic_iff_rowsOfCells :
    Node.Everywhere (DeclaresOnly IsName) [rowsOfCells] ∧
      ∃ (rewritten : Rewritten) (cells rows : Site) (read : TemplateLoop),
        rewrite ⟨.wechat, .flatten⟩ rowsOfCells = .ok rewritten ∧
        sites [] .inner rowsOfCells = [cells, rows] ∧ rows.declared = ["row"] ∧
        [read.item, read.index] = ["row", "index"] ∧ NoClash rows read ∧
        SameMeaning .wechat rows read := by
  have declared := declaresOnly_of_properName properName_rowsOfCells
  have undoable : Node.Everywhere (Undoable .wechat) [rowsOfCells] := by
    unfold Node.Everywhere
    decide +kernel
  have sites_eq : (sites [] .inner rowsOfCells).map Site.declared =
      [["cell", "index"], ["row"]] := by
    decide +kernel
  have unused : ∀ site ∈ sites [] .inner rowsOfCells,
      (∀ name ∈ site.added, name ∉ site.declared ∧ name ∉ lexicalNames site.body) ∧
        ∀ inner ∈ site :: sites [] .inner site.body, inner.Clean := by
    decide +kernel
  obtain ⟨rewritten, -, -, -, -, done, -⟩ := rewrite_rowsOfCells
  obtain ⟨loops, -, -, added⟩ := defaults_hygienic_iff declared done
  obtain ⟨cells, rest, whole_eq, -, rest_eq⟩ := List.map_eq_cons_iff.1 sites_eq
  obtain ⟨rows, rest, rfl, rows_eq, rest_eq⟩ := List.map_eq_cons_iff.1 rest_eq
  obtain rfl := List.map_eq_nil_iff.1 rest_eq
  rw [whole_eq] at added unused
  cases added with
  | cons _ rest =>
      cases rest with
      | cons rowsAdded _ =>
          obtain ⟨read, -, names_eq, noClash_iff, sameMeaning_iff⟩ := rowsAdded (by simp [rows_eq])
          obtain ⟨undeclared, clean⟩ := unused rows (by simp)
          refine ⟨declared, rewritten, cells, rows, read, done, whole_eq, rows_eq, ?_,
            noClash_iff.2 undeclared, (sameMeaning_iff undoable).2 clean⟩
          rw [names_eq, Site.added, rows_eq]
          rfl

/-! ## Conflicts -/

/-- A list in braces: `xs` mapped with an arrow. -/
def mapped (parameters : List String) (body : Node) : Node :=
  .mk 0 .container [.mk 0 (.call false false 0) [
    .mk 0 (.member "map" false) [.mk 0 (.reference "xs") []],
    .mk 0 (.arrow ⟨false, false, false⟩) [
      .mk 0 .parameters (parameters.map (plainParameter 0)), body]]]

/-- A name between tags: `<text>{name}</text>`. -/
def shown (name : String) : Node :=
  .mk 0 .element [.mk 0 (.opening (.plain "text") false) [],
    .mk 0 .container [.mk 0 (.reference name) []]]

/-- Lists whose callbacks use the default names: `index => <text>{index}</text>`,
`x => <text>{index}</text>` and `() => { const item = xs; return <text>{item}</text>; }`. -/
def clashes : Node :=
  .mk 0 .element [.mk 0 (.opening (.plain "view") false) [],
    mapped ["index"] (shown "index"),
    mapped ["x"] (shown "index"),
    mapped [] (.mk 0 (.body 0) [
      .mk 0 (.variableList .constant) [
        .mk 0 .declarator [.mk 0 (.binding "item") [], .mk 0 (.reference "xs") []]],
      .mk 0 .returnStatement [shown "item"]])]

/-- Default names are not always added without a conflict. The first list gets a second parameter of
the same name, the second reads its own index instead of that from outside, and the third gets a
parameter with the name of its variable. -/
theorem defaults_clash :
    ∃ (rewritten : Rewritten) (loops : List (Frame × Node)),
      rewrite ⟨.wechat, .flatten⟩ clashes = .ok rewritten ∧
      rewritten.events.filterMap Event.loop? =
        [("index", "index", ["index"]), ("x", "index", ["index"]), ("item", "index", ["item"])] ∧
      (∀ loop ∈ loops, loop.2 ∈ rewritten.tree.nodes) ∧
      List.Forall₂ (fun site loop => site.declared.length < 2 ∧
        ∃ read, templateLoop? .wechat loop.2 = some read ∧
          ¬ (NoClash site read ∧ SameMeaning .wechat site read))
        (sites [] .inner clashes) loops := by
  have proper : Node.Everywhere ProperName [clashes] := by
    unfold Node.Everywhere
    decide +kernel
  have undoable : Node.Everywhere (Undoable .wechat) [clashes] := by
    unfold Node.Everywhere
    decide +kernel
  have reported : reportedLoops? ⟨.wechat, .flatten⟩ clashes = some [("index", "index", ["index"]),
      ("x", "index", ["index"]), ("item", "index", ["item"])] := by
    decide +kernel
  have used : ∀ site ∈ sites [] .inner clashes, site.declared.length < 2 ∧
      ¬ ((∀ name ∈ site.added, name ∉ site.declared ∧ name ∉ lexicalNames site.body) ∧
        site.Clean) := by
    decide +kernel
  obtain ⟨rewritten, done, reported⟩ := rewrite_of_reportedLoops? reported
  obtain ⟨loops, -, placed, replaced⟩ :=
    replaced_of_rewrite (declaresOnly_of_properName proper) done
  refine ⟨rewritten, loops, done, reported, placed, ?_⟩
  have known : ∀ site ∈ sites [] .inner clashes, site.body ∈ clashes.nodes ∧ _ :=
    fun site member => ⟨(holdsBodies clashes).anywhere [] .inner site member, used site member⟩
  refine ((List.forall₂_and_left _ _).2 ⟨known, replaced⟩).imp ?_
  rintro site loop ⟨⟨inside, few, uses⟩, ⟨replacedBy⟩⟩
  refine ⟨few, _, replacedBy.rewritten.templateLoop?_eq replacedBy.inner replacedBy.only, ?_⟩
  rintro ⟨noClash, sameMeaning⟩
  have clean := (replacedBy.sameMeaning_iff (undoable.of_mem inside)).1 sameMeaning
  exact uses ⟨(noClash_iff replacedBy.names_eq few replacedBy.lexicalNames_eq).1 noClash,
    clean site List.mem_cons_self⟩

end LoopTemplate.Loop
