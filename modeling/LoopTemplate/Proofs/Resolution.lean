import LoopTemplate.Proofs.TemplateLoop
import LoopTemplate.Proofs.Undo
import Mathlib.Data.List.Forall2

/-!
# What names stand for

Functions, blocks and other nodes open scopes for their parts. A name stands for what the nearest
scope binds that binds it. What a node declares can be told from its form and from what its parts
declare (`SameNames.of_parts`), and neither offsets nor parentheses change what names stand for. Two
readings of a node in different scopes are compared through the names that are free in it
(`Compared`).
-/

namespace LoopTemplate.Loop

open LoopTemplate.Tree (Form Node TagName)

/-! ## Declarations -/

/-- The names that a statement declares for the block around it. -/
def blockNames (statement : Node) : List String :=
  if statement.form = .variableList .hoisted then [] else statementNames statement

/-- Whether statements stand in a statement of this form, outside of functions and classes. -/
def holdsStatements : Form → Bool
  | .block | .ifStatement | .forLoop | .forIn | .forOf _ | .whileLoop | .doWhile | .tryStatement
  | .catchClause | .switchStatement | .switchCase | .labeled _ | .withStatement => true
  | _ => false

mutual

/-- The names that `var` declares in a statement, not those in inner functions and classes. -/
def hoistedNames : Node → List String
  | .mk _ form parts =>
      if form = .variableList .hoisted then parts.flatMap firstNames
      else if holdsStatements form then allHoistedNames parts
      else []

/-- The names that `var` declares in statements, not those in inner functions and classes. -/
def allHoistedNames : List Node → List String
  | [] => []
  | node :: nodes => hoistedNames node ++ allHoistedNames nodes

end

theorem allHoistedNames_eq_flatMap (nodes : List Node) :
    allHoistedNames nodes = nodes.flatMap hoistedNames := by
  induction nodes with
  | nil => rfl
  | cons node nodes ih => rw [allHoistedNames, ih, List.flatMap_cons]

/-- The names that parameters declare. -/
def formalNames : Node → List String
  | .mk _ .parameters parameters => parameters.flatMap firstNames
  | _ => []

/-- The names that the statements of a case declare. They are bound in all cases of the `switch`. -/
def caseNames : Node → List String
  | .mk _ .switchCase (_ :: statements) => statements.flatMap blockNames
  | _ => []

/-- Nodes that declare the same, whatever they are part of. -/
structure SameNames (node other : Node) : Prop where
  pattern_eq : patternNames other = patternNames node
  first_eq : firstNames other = firstNames node
  block_eq : blockNames other = blockNames node
  hoisted_eq : hoistedNames other = hoistedNames node
  formal_eq : formalNames other = formalNames node
  case_eq : caseNames other = caseNames node

namespace SameNames

variable {parts others : List Node}

theorem refl (node : Node) : SameNames node node := ⟨rfl, rfl, rfl, rfl, rfl, rfl⟩

theorem map_eq (same : List.Forall₂ SameNames parts others) {read : Node → List String}
    (read_eq : ∀ node other, SameNames node other → read other = read node) :
    others.map read = parts.map read := by
  induction same with
  | nil => rfl
  | cons head tail ih => rw [List.map_cons, List.map_cons, read_eq _ _ head, ih]

theorem flatMap_eq (same : List.Forall₂ SameNames parts others) {read : Node → List String}
    (read_eq : ∀ node other, SameNames node other → read other = read node) :
    others.flatMap read = parts.flatMap read := by
  rw [List.flatMap_def, List.flatMap_def, map_eq same read_eq]

theorem allHoistedNames_eq (same : List.Forall₂ SameNames parts others) :
    allHoistedNames others = allHoistedNames parts := by
  rw [allHoistedNames_eq_flatMap, allHoistedNames_eq_flatMap,
    flatMap_eq same fun _ _ => SameNames.hoisted_eq]

/-- What a node declares follows from its form and from what its parts declare. -/
theorem of_parts {start otherStart : Nat} {form : Form}
    (same : List.Forall₂ SameNames parts others) :
    SameNames (.mk start form parts) (.mk otherStart form others) := by
  have patterns := map_eq same fun _ _ => SameNames.pattern_eq
  have firsts := map_eq same fun _ _ => SameNames.first_eq
  constructor
  case pattern_eq => exact patternNames_congr form patterns
  case first_eq => exact firstNames_congr patterns
  case block_eq =>
    have same_eq : statementNames (.mk otherStart form others) =
        statementNames (.mk start form parts) := statementNames_congr form patterns firsts
    rw [blockNames, blockNames, same_eq]
    rfl
  case hoisted_eq =>
    rw [hoistedNames, hoistedNames, flatMap_eq same fun _ _ => SameNames.first_eq,
      allHoistedNames_eq same]
  case formal_eq =>
    cases form with
    | parameters => exact flatMap_eq same fun _ _ => SameNames.first_eq
    | _ => rfl
  case case_eq =>
    cases form with
    | switchCase =>
        cases same with
        | nil => rfl
        | cons test statements => exact flatMap_eq statements fun _ _ => SameNames.block_eq
    | _ => rfl

end SameNames

/-! ## Scopes -/

/-- The scopes that a node opens for its parts, the inner one first. -/
def scopesOf : Form → List Node → List (List String)
  | .function _, name :: parameters :: _ => [formalNames parameters, patternNames name]
  | .arrow _, parameters :: _ => [formalNames parameters]
  | .body _, statements => [allHoistedNames statements ++ statements.flatMap blockNames]
  | .staticBlock, statements => [allHoistedNames statements ++ statements.flatMap blockNames]
  | .block, statements => [statements.flatMap blockNames]
  | .catchClause, pattern :: _ => [patternNames pattern]
  | .forLoop, head :: _ => [blockNames head]
  | .forIn, head :: _ => [blockNames head]
  | .forOf _, head :: _ => [blockNames head]
  | .classDefinition _, _ :: name :: _ => [patternNames name]
  | _, _ => []

theorem scopesOf_eq {parts others : List Node} (same : List.Forall₂ SameNames parts others)
    (form : Form) : scopesOf form others = scopesOf form parts := by
  cases form with
  | body closing | staticBlock =>
      simp only [scopesOf, SameNames.allHoistedNames_eq same,
        SameNames.flatMap_eq same fun _ _ => SameNames.block_eq]
  | block => simp only [scopesOf, SameNames.flatMap_eq same fun _ _ => SameNames.block_eq]
  | function | arrow | catchClause | forLoop | forIn | forOf | classDefinition =>
      rcases same with _ | ⟨first, _ | ⟨second, rest⟩⟩
      · rfl
      · simp only [scopesOf, first.pattern_eq, first.block_eq, first.formal_eq]
      · simp only [scopesOf, first.pattern_eq, first.block_eq, first.formal_eq, second.pattern_eq,
          second.formal_eq]
  | _ => rfl

/-- The number of the scope that binds a name, if one does. The nearest is first. -/
def binder (scopes : List (List String)) (name : String) : Option Nat :=
  scopes.findIdx? (name ∈ ·)

theorem binder_cons (scope : List String) (scopes : List (List String)) (name : String) :
    binder (scope :: scopes) name =
      if name ∈ scope then some 0 else (binder scopes name).map (· + 1) := by
  simp [binder, List.findIdx?_cons]

/-- A scope decides on the names that it binds, whatever stands around it. If it binds more on one
side, these names must not be read, or be bound on the other side too. -/
theorem binder_cons_eq_iff {bound added : List String} {scopes others : List (List String)}
    {name : String} :
    binder ((bound ++ added) :: scopes) name = binder (bound :: others) name ↔
      (name ∈ added → name ∈ bound) ∧
        (name ∉ bound → binder scopes name = binder others name) := by
  rw [binder_cons, binder_cons]
  by_cases isBound : name ∈ bound
  · simp [isBound]
  by_cases isAdded : name ∈ added
  · cases binder others name <;> simp [isBound, isAdded]
  simp only [List.mem_append, isBound, isAdded, or_self, if_false, false_imp_iff,
    not_false_eq_true, true_imp_iff, true_and]
  cases binder scopes name <;> cases binder others name <;> simp

/-- The same scopes decide on the names that they bind. -/
theorem binder_append_eq_iff {inner scopes others : List (List String)} {name : String} :
    binder (inner ++ scopes) name = binder (inner ++ others) name ↔
      (name ∉ inner.flatten → binder scopes name = binder others name) := by
  induction inner with
  | nil => simp
  | cons scope inner ih =>
      have step := @binder_cons_eq_iff scope [] (inner ++ scopes) (inner ++ others) name
      rw [List.append_nil] at step
      rw [List.cons_append, List.cons_append, step, ih]
      simp [and_imp]

/-! ## Readings -/

/-- Whether a tag names an element of the host, as opposed to a component. -/
def isHostTag (name : String) : Bool :=
  '-' ∈ name.toList || name.toList.head?.any Char.isLower

/-- The names that a form itself looks up: a tag looks up a component, or the object that has it. -/
def lookedUp : Form → List String
  | .reference name => [name]
  | .opening (.plain name) _ => if isHostTag name then [] else [name]
  | .opening (.member object _) _ => if object = "this" then [] else [object]
  | _ => []

mutual

/-- The names that a node reads, in source order, each with the number of the scope that binds it.
A node's own scopes are around its parts, and the given ones are around it. -/
def readings (scopes : List (List String)) : Node → List (String × Option Nat)
  | .mk _ .switchStatement (value :: cases) =>
      readings scopes value ++ allReadings (cases.flatMap caseNames :: scopes) cases
  | .mk _ form parts =>
      (lookedUp form).map (fun name => (name, binder scopes name)) ++
        allReadings (scopesOf form parts ++ scopes) parts

/-- The names that nodes read, in source order. -/
def allReadings (scopes : List (List String)) : List Node → List (String × Option Nat)
  | [] => []
  | node :: nodes => readings scopes node ++ allReadings scopes nodes

end

mutual

/-- Whether a node reads a name that it does not bind. -/
def isFree (name : String) : Node → Bool
  | .mk _ .switchStatement (value :: cases) =>
      isFree name value || (name ∉ cases.flatMap caseNames && anyFree name cases)
  | .mk _ form parts =>
      name ∈ lookedUp form || (name ∉ (scopesOf form parts).flatten && anyFree name parts)

/-- Whether one of some nodes reads a name that it does not bind. -/
def anyFree (name : String) : List Node → Bool
  | [] => false
  | node :: nodes => isFree name node || anyFree name nodes

end

section Equations

variable {scopes : List (List String)} {name : String} {start : Nat} {form : Form}
  {parts : List Node}
  (other : ∀ value cases, form = .switchStatement → parts = value :: cases → False)
include other

theorem readings_mk : readings scopes (.mk start form parts) =
    (lookedUp form).map (fun name => (name, binder scopes name)) ++
      allReadings (scopesOf form parts ++ scopes) parts := by
  rw [readings]
  exact other

theorem isFree_mk : isFree name (.mk start form parts) =
    (decide (name ∈ lookedUp form) ||
      (decide (name ∉ (scopesOf form parts).flatten) && anyFree name parts)) := by
  rw [isFree]
  exact other

end Equations

theorem allReadings_eq_flatMap (scopes : List (List String)) (nodes : List Node) :
    allReadings scopes nodes = nodes.flatMap (readings scopes) := by
  induction nodes with
  | nil => rfl
  | cons node nodes ih => rw [allReadings, ih, List.flatMap_cons]

theorem anyFree_eq_any (name : String) (nodes : List Node) :
    anyFree name nodes = nodes.any (isFree name) := by
  induction nodes with
  | nil => rfl
  | cons node nodes ih => rw [anyFree, ih, List.any_cons]

/-! ## Comparing readings -/

/-- What is read in two lists of scopes. It is as much, and it is the same just if it is `clear` and
the free names are bound by scopes of the same number. -/
structure Compared (scopes others : List (List String))
    (read otherRead : List (String × Option Nat)) (clear : Prop) (free : String → Bool) : Prop where
  length_eq : read.length = otherRead.length
  eq_iff : read = otherRead ↔
    clear ∧ ∀ name, free name = true → binder scopes name = binder others name

namespace Compared

variable {scopes others : List (List String)} {read otherRead : List (String × Option Nat)}
  {clear : Prop} {free : String → Bool}

theorem looked (names : List String) :
    Compared scopes others (names.map fun name => (name, binder scopes name))
      (names.map fun name => (name, binder others name)) True (fun name => name ∈ names) where
  length_eq := by simp
  eq_iff := by simp

theorem append {more otherMore : List (String × Option Nat)} {moreClear : Prop}
    {moreFree : String → Bool} (first : Compared scopes others read otherRead clear free)
    (second : Compared scopes others more otherMore moreClear moreFree) :
    Compared scopes others (read ++ more) (otherRead ++ otherMore) (clear ∧ moreClear)
      (fun name => free name || moreFree name) where
  length_eq := by rw [List.length_append, List.length_append, first.length_eq, second.length_eq]
  eq_iff := by
    have split : read ++ more = otherRead ++ otherMore ↔ read = otherRead ∧ more = otherMore :=
      ⟨fun same => List.append_inj same first.length_eq,
        fun ⟨same, moreSame⟩ => same ▸ moreSame ▸ rfl⟩
    rw [split, first.eq_iff, second.eq_iff]
    simp only [Bool.or_eq_true, or_imp, forall_and]
    exact and_and_and_comm

/-- Names that are bound in between are bound alike. -/
theorem enclosed {inner : List (List String)}
    (within : Compared (inner ++ scopes) (inner ++ others) read otherRead clear free) :
    Compared scopes others read otherRead clear
      (fun name => name ∉ inner.flatten && free name) where
  length_eq := within.length_eq
  eq_iff := by
    rw [within.eq_iff]
    refine and_congr_right fun _ => forall_congr' fun name => ?_
    rw [binder_append_eq_iff, Bool.and_eq_true, decide_eq_true_eq, and_comm, and_imp]

/-- A scope that binds more names on one side must not bind names that are free, or they are bound
on the other side too. -/
theorem widened {bound added : List String}
    (within : Compared ((bound ++ added) :: scopes) (bound :: others) read otherRead clear free) :
    Compared scopes others read otherRead
      (clear ∧ ∀ name ∈ added, free name = true → name ∈ bound)
      (fun name => name ∉ bound && free name) where
  length_eq := within.length_eq
  eq_iff := by
    rw [within.eq_iff, and_assoc]
    refine and_congr_right fun _ => ?_
    simp only [binder_cons_eq_iff, Bool.and_eq_true, decide_eq_true_eq]
    constructor
    · intro same
      exact ⟨fun name isAdded isFree => (same name isFree).1 isAdded,
        fun name ⟨unbound, isFree⟩ => (same name isFree).2 unbound⟩
    · rintro ⟨covered, same⟩ name isFree
      exact ⟨fun isAdded => covered name isAdded isFree, fun unbound => same name ⟨unbound, isFree⟩⟩

theorem congr {otherClear : Prop} {otherFree : String → Bool}
    (compared : Compared scopes others read otherRead clear free) (clear_iff : otherClear ↔ clear)
    (free_eq : ∀ name, otherFree name = free name) :
    Compared scopes others read otherRead otherClear otherFree := by
  obtain rfl : otherFree = free := funext free_eq
  rw [propext clear_iff]
  exact compared

end Compared

/-- Whether a node reads the same as another in all scopes, if and only if it is `clear`. -/
def ReadsAlike (clear : Prop) (node other : Node) : Prop :=
  ∀ scopes others, Compared scopes others (readings scopes other) (readings others node) clear
    fun name => isFree name node

/-- Nodes that read alike one by one. -/
inductive AllReadAlike : Prop → List Node → List Node → Prop where
  | nil {clear : Prop} (always : clear) : AllReadAlike clear [] []
  | cons {clear headClear tailClear : Prop} {node other : Node} {nodes others : List Node}
      (clear_iff : clear ↔ headClear ∧ tailClear) (head : ReadsAlike headClear node other)
      (tail : AllReadAlike tailClear nodes others) :
      AllReadAlike clear (node :: nodes) (other :: others)

theorem ReadsAlike.congr {clear otherClear : Prop} {node other : Node}
    (alike : ReadsAlike clear node other) (clear_iff : otherClear ↔ clear) :
    ReadsAlike otherClear node other :=
  fun scopes others => (alike scopes others).congr clear_iff fun _ => rfl

theorem ReadsAlike.single {clear : Prop} {node other : Node} (alike : ReadsAlike clear node other) :
    AllReadAlike clear [node] [other] :=
  .cons (by simp) alike (.nil trivial)

namespace AllReadAlike

variable {clear : Prop} {node other : Node} {nodes others : List Node}

theorem single (alike : AllReadAlike clear [node] [other]) : ReadsAlike clear node other := by
  cases alike with
  | cons clear_iff head tail =>
      cases tail with
      | nil always => exact head.congr (clear_iff.trans (and_iff_left always))

theorem compared (alike : AllReadAlike clear nodes others) (scopes around : List (List String)) :
    Compared scopes around (allReadings scopes others) (allReadings around nodes) clear
      fun name => anyFree name nodes := by
  induction alike with
  | nil always => exact ⟨rfl, by simp [allReadings, anyFree, always]⟩
  | cons clear_iff head tail ih =>
      exact ((head scopes around).append ih).congr clear_iff fun _ => by rw [anyFree]

/-- Nodes of one form whose parts declare the same and read alike read alike. -/
theorem of_parts {start otherStart : Nat} {form : Form} {parts others : List Node}
    (alike : AllReadAlike clear parts others) (same : List.Forall₂ SameNames parts others) :
    ReadsAlike clear (.mk start form parts) (.mk otherStart form others) := by
  intro scopes around
  by_cases isSwitch : form = .switchStatement ∧ parts ≠ []
  · obtain ⟨rfl, nonempty⟩ := isSwitch
    cases alike with
    | nil => exact absurd rfl nonempty
    | @cons _ _ _ value other cases otherCases clear_iff head tail =>
        have names_eq := SameNames.flatMap_eq (List.forall₂_cons.1 same).2
          fun _ _ => SameNames.case_eq
        have inCases := @Compared.enclosed scopes around _ _ _ _ [cases.flatMap caseNames]
          (tail.compared _ _)
        simp only [readings, isFree, names_eq]
        exact ((head scopes around).append inCases).congr clear_iff (by simp)
  · have notSwitch : ∀ value cases, form = .switchStatement → parts = value :: cases → False := by
      rintro value cases rfl rfl
      exact isSwitch ⟨rfl, by simp⟩
    have otherNotSwitch : ∀ value cases, form = .switchStatement → others = value :: cases →
        False := by
      rintro value cases rfl rfl
      cases same with
      | cons => exact notSwitch _ _ rfl rfl
    rw [readings_mk notSwitch, readings_mk otherNotSwitch, scopesOf_eq same]
    exact ((Compared.looked (lookedUp form)).append (alike.compared _ _).enclosed).congr
      (by simp) fun name => isFree_mk notSwitch

end AllReadAlike

/-! ## Offsets and parentheses -/

theorem sameNames_bare (node : Node) : SameNames node (bare node) := by
  induction node using Node.induction_on_parts with
  | step start form parts ih =>
      rw [bare_mk]
      exact .of_parts (List.forall₂_map_right_iff.2 (List.forall₂_same.2 ih))

theorem readsAlike_bare (node : Node) : ReadsAlike True node (bare node) := by
  induction node using Node.induction_on_parts with
  | step start form parts ih =>
      have all : AllReadAlike True parts (parts.map bare) := by
        clear start form
        induction parts with
        | nil => exact .nil trivial
        | cons part parts tailIh =>
            exact .cons (by simp) (ih part List.mem_cons_self)
              (tailIh fun other member => ih other (List.mem_cons_of_mem _ member))
      rw [bare_mk]
      exact all.of_parts
        (List.forall₂_map_right_iff.2 (List.forall₂_same.2 fun part _ => sameNames_bare part))

/-- Offsets do not change what is read. -/
theorem readings_bare (scopes : List (List String)) (node : Node) :
    readings scopes (bare node) = readings scopes node :=
  (readsAlike_bare node scopes scopes).eq_iff.2 ⟨trivial, fun _ _ => rfl⟩

theorem readings_withoutParentheses (scopes : List (List String)) (node : Node) :
    readings scopes node.withoutParentheses = readings scopes node := by
  fun_induction Node.withoutParentheses node with
  | case1 start inner ih => simp [readings, allReadings, lookedUp, scopesOf, ih]
  | case2 node other => rfl

theorem isFree_withoutParentheses (name : String) (node : Node) :
    isFree name node.withoutParentheses = isFree name node := by
  fun_induction Node.withoutParentheses node with
  | case1 start inner ih => simp [isFree, anyFree, lookedUp, scopesOf, ih]
  | case2 node other => rfl

theorem readings_openReturned (scopes : List (List String)) (statement : Node) :
    readings scopes (openReturned statement) = readings scopes statement := by
  fun_cases openReturned statement with
  | case1 start value =>
      simp [readings, allReadings, lookedUp, scopesOf, readings_withoutParentheses]
  | case2 statement other => rfl

/-- Parentheses around the result of a body do not change what is read. -/
theorem readings_openResult (scopes : List (List String)) (body : Node) :
    readings scopes (openResult body) = readings scopes body := by
  fun_cases openResult body with
  | case1 start closing statements =>
      have block_eq : ∀ statement, blockNames (openReturned statement) = blockNames statement := by
        intro statement
        fun_cases openReturned statement <;> rfl
      have hoisted_eq : ∀ statement,
          hoistedNames (openReturned statement) = hoistedNames statement := by
        intro statement
        fun_cases openReturned statement <;> rfl
      simp [readings, lookedUp, scopesOf, allHoistedNames_eq_flatMap, allReadings_eq_flatMap,
        List.flatMap_map, hoisted_eq, block_eq, readings_openReturned]
  | case2 body other => exact readings_withoutParentheses scopes body

end LoopTemplate.Loop
