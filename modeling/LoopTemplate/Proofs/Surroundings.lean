import LoopTemplate.Proofs.Comparison
import LoopTemplate.Proofs.Flattening
import LoopTemplate.Proofs.Sites

/-!
# What a loop depends on

The loop that replaces a mapped list depends on the list and on the names that the lists around it
bind. What else stands in the tree, and what was rewritten before, is left out of it: two rewrites
that find the same list, perhaps at another place of the source, under the same names replace it by
the same loop.
-/

namespace LoopTemplate.Tree

/-! ## Trees without offsets -/

/-- The names of an export list without their offsets. -/
def ExportSpecifier.unplaced (specifier : ExportSpecifier) : ExportSpecifier :=
  { specifier with insideStart := 0, outsideStart := 0 }

/-- A form without the offsets that it holds. -/
def Form.unplaced : Form → Form
  | .body _ => .body 0
  | .call optional pure _ => .call optional pure 0
  | .construct pure _ => .construct pure 0
  | .importCall phase _ => .importCall phase 0
  | .emptyContainer _ => .emptyContainer 0
  | .spreadAttribute _ => .spreadAttribute 0
  | .exportNames specifiers source => .exportNames (specifiers.map ExportSpecifier.unplaced) source
  | .module hashbang _ => .module hashbang 0
  | form => form

mutual

/-- A tree without offsets: what it says wherever it stands. -/
def Node.unplaced : Node → Node
  | .mk _ form parts => .mk 0 form.unplaced (Node.unplacedAll parts)

def Node.unplacedAll : List Node → List Node
  | [] => []
  | node :: nodes => node.unplaced :: Node.unplacedAll nodes

end

theorem Node.unplacedAll_eq_map (nodes : List Node) : unplacedAll nodes = nodes.map unplaced := by
  induction nodes with
  | nil => rfl
  | cons node nodes ih => rw [unplacedAll, ih, List.map_cons]

end LoopTemplate.Tree

namespace LoopTemplate.Loop

open LoopTemplate.Grammar (IsName plainParameter)
open LoopTemplate.Tree (ExportSpecifier Form Node)

/-- Any two offsets. -/
def Anywhere (_ _ : Nat) : Prop := True

theorem movedSpecifier_iff {specifier other : ExportSpecifier} :
    MovedSpecifier Anywhere specifier other ↔ specifier.unplaced = other.unplaced := by
  constructor
  · rintro ⟨inside, outside, -, -⟩
    simp [ExportSpecifier.unplaced, inside, outside]
  · intro same
    simp only [ExportSpecifier.unplaced, ExportSpecifier.mk.injEq] at same
    exact ⟨same.1.symm, same.2.2.1.symm, trivial, trivial⟩

theorem forall₂_movedSpecifier_iff {specifiers others : List ExportSpecifier} :
    List.Forall₂ (MovedSpecifier Anywhere) specifiers others ↔
      specifiers.map ExportSpecifier.unplaced = others.map ExportSpecifier.unplaced := by
  have moved_eq : MovedSpecifier Anywhere =
      fun specifier other => specifier.unplaced = other.unplaced := by
    funext specifier other
    exact propext movedSpecifier_iff
  rw [moved_eq, ← List.forall₂_eq_eq_eq, List.forall₂_map_left_iff, List.forall₂_map_right_iff]

namespace Moved

variable {form other third : Form}

theorem unplaced (form : Form) : Moved Anywhere form form.unplaced := by
  unfold Form.unplaced
  split
  case h_1 => exact .body trivial
  case h_2 => exact .call trivial
  case h_3 => exact .construct trivial
  case h_4 => exact .importCall trivial
  case h_5 => exact .emptyContainer trivial
  case h_6 => exact .spreadAttribute trivial
  case h_7 specifiers source =>
    apply Moved.exportNames
    rw [forall₂_movedSpecifier_iff, List.map_map]
    rfl
  case h_8 => exact .module trivial
  case h_9 => exact .same _

theorem unplaced_eq (moved : Moved Anywhere form other) : form.unplaced = other.unplaced := by
  cases moved with
  | exportNames names => rw [Form.unplaced, forall₂_movedSpecifier_iff.1 names, Form.unplaced]
  | _ => rfl

theorem symm (moved : Moved Anywhere form other) : Moved Anywhere other form := by
  cases moved with
  | same => exact .same _
  | exportNames names =>
      exact .exportNames (forall₂_movedSpecifier_iff.2 (forall₂_movedSpecifier_iff.1 names).symm)
  | _ =>
      constructor
      trivial

theorem trans (first : Moved Anywhere form other) (second : Moved Anywhere other third) :
    Moved Anywhere form third := by
  cases first with
  | same => exact second
  | exportNames names =>
      have names_eq := forall₂_movedSpecifier_iff.1 names
      cases second with
      | same => exact .exportNames names
      | exportNames later =>
          have later_eq := forall₂_movedSpecifier_iff.1 later
          exact .exportNames (forall₂_movedSpecifier_iff.2 (names_eq.trans later_eq))
  | _ => cases second <;> constructor <;> trivial

end Moved

/-- Forms that differ in offsets are the same without them, and the other way around. -/
theorem moved_iff {form other : Form} :
    Moved Anywhere form other ↔ form.unplaced = other.unplaced := by
  constructor
  · exact Moved.unplaced_eq
  · intro same
    have back := (Moved.unplaced other).symm
    rw [← same] at back
    exact (Moved.unplaced form).trans back

theorem corresponds_of_map_unplaced {nodes others : List Node}
    (each : ∀ node ∈ nodes, ∀ other : Node, node.unplaced = other.unplaced →
      Corresponds Anywhere none [node] [other])
    (same : nodes.map Node.unplaced = others.map Node.unplaced) :
    Corresponds Anywhere none nodes others := by
  induction nodes generalizing others with
  | nil =>
      obtain rfl := List.map_eq_nil_iff.1 same.symm
      exact .nil
  | cons node nodes ih =>
      obtain ⟨other, others, rfl, head_eq, tail_eq⟩ := List.map_eq_cons_iff.1 same.symm
      refine (each node List.mem_cons_self other head_eq.symm).push (ih ?_ tail_eq.symm)
      exact fun part member => each part (List.mem_cons_of_mem _ member)

/-- Trees that differ in offsets are the same without them, and the other way around. -/
theorem corresponds_iff_unplaced {nodes others : List Node} :
    Corresponds Anywhere none nodes others ↔
      nodes.map Node.unplaced = others.map Node.unplaced := by
  constructor
  · intro same
    induction same with
    | nil => rfl
    | cons head tail headIh tailIh =>
        exact congrArg₂ List.cons (List.head_eq_of_cons_eq headIh) tailIh
    | node starts forms ordinary inner ih =>
        simp only [List.map_cons, List.map_nil, Node.unplaced, Node.unplacedAll_eq_map, ih,
          forms.unplaced_eq]
    | loop renamed => cases renamed
  · have each : ∀ node other : Node, node.unplaced = other.unplaced →
        Corresponds Anywhere none [node] [other] := by
      intro node
      induction node using Node.induction_on_parts with
      | step start form parts ih =>
          rintro ⟨otherStart, otherForm, otherParts⟩ same
          simp only [Node.unplaced, Node.mk.injEq, true_and, Node.unplacedAll_eq_map] at same
          exact .node trivial (moved_iff.2 same.1) trivial (corresponds_of_map_unplaced ih same.2)
    exact corresponds_of_map_unplaced fun node _ => each node

/-! ## Lists and their loops -/

/-- The braces of a site. -/
def Site.container (site : Site) : Node := .mk site.start .container [site.value]

/-- The loops that a rewrite of a tree puts in, in the order of the lists that they replace. -/
def loopsOf (rules : RewriteRules) (tree : Node) : List (Frame × Node) :=
  Trace.allLoops (tracesOf rules tree)

/-- A list that is replaced by a loop wherever it stands, if the same names are bound around it. -/
structure Computed (rules : RewriteRules) (site : Site) (loop : Frame × Node) : Prop where
  run : ∃ traces, (expand rules (boundBy site.scopes) .child site.container).run =
    .ok (loop.2, traces)
  declared : Node.Everywhere (DeclaresOnly IsName) [site.container]
  around : ∀ name ∈ boundBy site.scopes, IsName name

theorem forall₂_computed {rules : RewriteRules} {tree : Node} {rewritten : Rewritten}
    (declared : Node.Everywhere (DeclaresOnly IsName) [tree])
    (done : rewrite rules tree = .ok rewritten) :
    List.Forall₂ (Computed rules) (sites [] .inner tree) (loopsOf rules tree) := by
  obtain ⟨expansion, -⟩ := expand_of_rewrite done
  have derived := (expanded_of_expansion _).1 [] .inner tree rewritten.tree _ expansion
  rw [← slotSites_place]
  refine derived.forall₂_slotSites ?_ (show [] = boundBy [] from rfl) (by simp) declared
  intro scopes value callee body wrapper iteration list before inside frame start found
  have replaced : Expanded rules (boundBy scopes) (.place .child) [.mk start .container [value]]
      [wrapper] (before ++ [.list frame wrapper inside]) :=
    .list found.matched found.collection found.inner found.rewritten
  refine ⟨⟨_, runs_place.1 replaced.runs⟩, Node.everywhere_mk.2 ⟨?_, found.declared⟩, found.around⟩
  exact fun name same => by cases same

/-- Lists that are the same but for offsets are replaced by loops that are the same but for offsets,
if the same names are bound around them. -/
theorem Computed.unplaced_eq {rules : RewriteRules} {site otherSite : Site}
    {loop otherLoop : Frame × Node} (computed : Computed rules site loop)
    (otherComputed : Computed rules otherSite otherLoop)
    (scopes_eq : site.scopes = otherSite.scopes)
    (same : site.container.unplaced = otherSite.container.unplaced) :
    loop.2.unplaced = otherLoop.2.unplaced := by
  obtain ⟨traces, run⟩ := computed.run
  obtain ⟨otherTraces, otherRun⟩ := otherComputed.run
  have containers : Corresponds Anywhere none [site.container] [otherSite.container] :=
    corresponds_iff_unplaced.2 (by simp [same])
  have agree : Agree (WithTraces Anywhere (Twins Anywhere none))
      (expand rules (boundBy site.scopes) .child site.container).run
      (expand rules (boundBy site.scopes) .child otherSite.container).run :=
    (agree_of_expansion (fun _ => trivial) (.same rules.adapter)).1 _ _ _ computed.around
      computed.declared (fun _ _ => trivial) _ containers
  rw [← scopes_eq] at otherRun
  rw [run, otherRun] at agree
  cases agree with
  | ok related => exact List.head_eq_of_cons_eq (corresponds_iff_unplaced.1 related.1)

/-- A mapped list is replaced by the same loop in any two trees if the lists in whose bodies it
stands bind the same names, whatever else is in the trees. If the list stands at other offsets, so
do the nodes of its loop. -/
theorem loop_depends_on_list_and_scopes {rules : RewriteRules} {tree otherTree : Node}
    {result otherResult : Rewritten} (declared : Node.Everywhere (DeclaresOnly IsName) [tree])
    (otherDeclared : Node.Everywhere (DeclaresOnly IsName) [otherTree])
    (done : rewrite rules tree = .ok result)
    (otherDone : rewrite rules otherTree = .ok otherResult) :
    List.Forall₂ (fun site loop => Nonempty (ReplacedBy rules site loop)) (sites [] .inner tree)
        (loopsOf rules tree) ∧
      (∀ loop ∈ loopsOf rules tree, loop.2 ∈ result.tree.nodes) ∧
      ∀ site loop otherSite otherLoop,
        (site, loop) ∈ (sites [] .inner tree).zip (loopsOf rules tree) →
        (otherSite, otherLoop) ∈ (sites [] .inner otherTree).zip (loopsOf rules otherTree) →
        site.scopes = otherSite.scopes →
          (site.container = otherSite.container → loop.2 = otherLoop.2) ∧
          (site.container.unplaced = otherSite.container.unplaced →
            loop.2.unplaced = otherLoop.2.unplaced) := by
  obtain ⟨expansion, -⟩ := expand_of_rewrite done
  have derived := (expanded_of_expansion _).1 [] .inner tree result.tree _ expansion
  have replaced := derived.forall₂_sites (show [] = boundBy [] from rfl) (by simp) declared
  rw [slotSites_place] at replaced
  refine ⟨replaced, fun loop among => by simpa using derived.placed among, ?_⟩
  intro site loop otherSite otherLoop pair otherPair scopes_eq
  have computed := (List.forall₂_iff_zip.1 (forall₂_computed declared done)).2 pair
  have otherComputed :=
    (List.forall₂_iff_zip.1 (forall₂_computed otherDeclared otherDone)).2 otherPair
  refine ⟨fun same => ?_, computed.unplaced_eq otherComputed scopes_eq⟩
  obtain ⟨traces, run⟩ := computed.run
  obtain ⟨otherTraces, otherRun⟩ := otherComputed.run
  rw [← scopes_eq, ← same, run] at otherRun
  exact congrArg Prod.fst (Except.ok.inj otherRun)

/-- The rows of cells behind another list that binds an item of the same name:
`<view>{names.map(row => <text>{row}</text>)}{(rows.map(row => (<view>{cells}</view>)))}</view>`. -/
def rowsBehindNames : Node :=
  .mk 0 .element (.mk 0 (.opening (.plain "view") false) [] ::
    .mk 6 .container [
      .mk 7 (.call false false 40) [.mk 7 (.member "map" false) [.mk 7 (.reference "names") []],
        .mk 17 (.arrow ⟨false, false, false⟩) [.mk 17 .parameters [plainParameter 17 "row"],
          .mk 24 .element [.mk 24 (.opening (.plain "text") false) [],
            .mk 30 .container [.mk 31 (.reference "row") []]]]]] ::
    rowsOfCells.parts.tail)

theorem loop_depends_on_list_and_scopes_rowsOfCells :
    Node.Everywhere (DeclaresOnly IsName) [rowsOfCells] ∧
      Node.Everywhere (DeclaresOnly IsName) [rowsBehindNames] ∧
      ∃ result otherResult cells rows names otherCells otherRows,
        rewrite ⟨.wechat, .flatten⟩ rowsOfCells = .ok result ∧
        rewrite ⟨.wechat, .flatten⟩ rowsBehindNames = .ok otherResult ∧
        loopsOf ⟨.wechat, .flatten⟩ rowsOfCells = [cells, rows] ∧
        loopsOf ⟨.wechat, .flatten⟩ rowsBehindNames = [names, otherCells, otherRows] ∧
        cells.2 = otherCells.2 ∧ rows.2 = otherRows.2 := by
  have declared := declaresOnly_of_properName properName_rowsOfCells
  have otherDeclared : Node.Everywhere (DeclaresOnly IsName) [rowsBehindNames] := by
    apply declaresOnly_of_properName
    unfold Node.Everywhere
    decide +kernel
  obtain ⟨result, -, -, -, -, done, -⟩ := rewrite_rowsOfCells
  obtain ⟨otherResult, otherDone, -⟩ : ∃ rewritten,
      rewrite ⟨.wechat, .flatten⟩ rowsBehindNames = .ok rewritten ∧
        rewritten.events.filterMap Event.loop? = [("row", "index", ["row"]),
          ("cell", "index", ["row", "cell"]), ("row", "index", ["row", "cell", "index"])] :=
    rewrite_of_reportedLoops? (by decide +kernel)
  have otherReplaced := forall₂_computed otherDeclared otherDone
  obtain ⟨replaced, -, loops_eq⟩ :=
    loop_depends_on_list_and_scopes declared otherDeclared done otherDone
  obtain ⟨cellsSite, rowsSite, sites_eq⟩ : ∃ cellsSite rowsSite,
      sites [] .inner rowsOfCells = [cellsSite, rowsSite] := List.length_eq_two.1 (by rfl)
  obtain ⟨namesSite, otherSites_eq⟩ : ∃ namesSite,
      sites [] .inner rowsBehindNames = namesSite :: sites [] .inner rowsOfCells := ⟨_, rfl⟩
  rw [sites_eq] at replaced loops_eq otherSites_eq
  rw [otherSites_eq] at otherReplaced loops_eq
  obtain ⟨cells, rows, found⟩ := List.length_eq_two.1 replaced.length_eq.symm
  obtain ⟨names, otherCells, otherRows, otherFound⟩ :=
    List.length_eq_three.1 otherReplaced.length_eq.symm
  rw [found, otherFound] at loops_eq
  refine ⟨declared, otherDeclared, result, otherResult, cells, rows, names, otherCells, otherRows,
    done, otherDone, found, otherFound, ?_, ?_⟩
  · exact (loops_eq cellsSite cells cellsSite otherCells (by simp) (by simp) rfl).1 rfl
  · exact (loops_eq rowsSite rows rowsSite otherRows (by simp) (by simp) rfl).1 rfl

end LoopTemplate.Loop
