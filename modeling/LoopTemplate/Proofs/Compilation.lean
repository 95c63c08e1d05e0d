import LoopTemplate.Compile
import LoopTemplate.Proofs.Failure
import LoopTemplate.Proofs.Parsing.Statements
import LoopTemplate.Proofs.Sites

/-!
# What can be compiled

A source that is read is compiled, unless a mapped list binds the name `await`: a list may do so
in a function where that is no operator, but in a text of its own it always is one. All other
names are read in the synthesized texts as they were in the source.
-/

namespace LoopTemplate

open LoopTemplate.Grammar (Admits IsName Regular isWellFormed_of_admits plainParameter
  properName_of_admits)
open LoopTemplate.Loop
open LoopTemplate.Tree (Node)

/-! ## Compiling in steps -/

/-- The tree that a source is read as: that of one expression, or of a module. -/
def readTree (expression : Bool) (source : String) : Except CompileError Node :=
  if expression then readExpression source else do return (← readModule source).tree

theorem mapError_eq_ok {ε ε' α : Type} {convert : ε → ε'} {first : Except ε α} {value : α}
    (done : first.mapError convert = .ok value) : first = .ok value := by
  cases first with
  | error error => cases done
  | ok other =>
      cases done
      rfl

theorem mapError_eq_error {ε ε' α : Type} {convert : ε → ε'} {first : Except ε α} {error : ε'}
    (failed : first.mapError convert = .error error) :
    ∃ cause, first = .error cause ∧ error = convert cause := by
  cases first with
  | error cause =>
      cases failed
      exact ⟨cause, rfl, rfl⟩
  | ok value => cases failed

section Steps

variable {expression : Bool} {source : String} {tree : Node} {error : CompileError}

/-- A source that is not read is not compiled, for the same reason. -/
theorem compile_of_unread (options : CompileOptions)
    (unread : readTree expression source = .error error) :
    compile options expression source = .error error := by
  cases expression with
  | true =>
      have unread : readExpression source = .error error := unread
      simp only [compile, compileExpression, if_true, unread]
      rfl
  | false =>
      rcases except_bind_eq_error unread with unread | ⟨module, -, failed⟩
      · simp only [compile, compileModule, Bool.false_eq_true, if_false, unread]
        rfl
      · cases failed

/-- A source that is read is compiled if its lists are rewritten. -/
theorem compile_of_read (options : CompileOptions) (read : readTree expression source = .ok tree) :
    ∃ finish, compile options expression source =
      (rewriteTree options.rewriteRules source tree).map finish := by
  cases expression with
  | true =>
      have read : readExpression source = .ok tree := read
      simp only [compile, compileExpression, if_true]
      rw [except_bind_of_ok read]
      exact ⟨_, rfl⟩
  | false =>
      obtain ⟨module, moduleRead, same⟩ := except_bind_eq_ok read
      cases same
      simp only [compile, compileModule, Bool.false_eq_true, if_false]
      rw [except_bind_of_ok moduleRead]
      exact ⟨_, rfl⟩

/-- What is not read is reported as such. -/
theorem parse_of_unread (unread : readTree expression source = .error error) :
    ∃ message position, error = .parse message position := by
  cases expression with
  | true =>
      obtain ⟨fault, -, rfl⟩ := mapError_eq_error unread
      exact ⟨_, _, rfl⟩
  | false =>
      rcases except_bind_eq_error unread with unread | ⟨module, -, failed⟩
      · obtain ⟨fault, -, rfl⟩ := mapError_eq_error unread
        exact ⟨_, _, rfl⟩
      · cases failed

/-- What is read is regular. -/
theorem regular_of_readTree (read : readTree expression source = .ok tree) : Regular tree := by
  cases expression with
  | true => exact Grammar.regular_of_readExpression (mapError_eq_ok read)
  | false =>
      obtain ⟨module, moduleRead, same⟩ := except_bind_eq_ok read
      cases same
      exact Grammar.regular_of_readModule (mapError_eq_ok moduleRead)

end Steps

/-! ## Names -/

/-- The names that the loop of a mapped list binds: those of its item and its index, and those that
its callback declares beside them. -/
def listBindings (value : Node) : List String :=
  match iteration? value, callbackParts? value with
  | some iteration, some (_, body) => (loopOf iteration body).bindings
  | _, _ => []

/-- The names that the mapped lists in a tree bind. -/
def listNames (tree : Node) : List String := tree.nodes.flatMap listBindings

/-- A name that stands in a tree, declared or read, or that of an item or an index left out. -/
def NamedIn (tree : Node) (name : String) : Prop :=
  name = "item" ∨ name = "index" ∨ tree.Declares name ∨ tree.Reads name

theorem listBindings_of_list {value : Node} {iteration : Iteration}
    (list : MatchedList value iteration) (matched : iteration? value = some iteration) :
    listBindings value = (loopOf iteration list.body).bindings := by
  rw [listBindings, matched, callbackParts?_of_shape list.shape_body]

section Names

variable {tree : Node} (regular : Regular tree)
include regular

/-- The names in a regular tree are identifiers. -/
theorem isName_of_namedIn {name : String} (named : NamedIn tree name) : IsName name := by
  have admits : ∀ node ∈ tree.nodes, Admits node.form node.parts :=
    fun node inside => regular node (by simpa using inside)
  rcases named with rfl | rfl | ⟨node, inside, form_eq⟩ | ⟨node, inside, form_eq⟩
  · exact isName_item
  · exact isName_index
  · exact (form_eq ▸ admits node inside).1
  · exact (form_eq ▸ admits node inside).1

theorem properName_of_regular : Node.Everywhere ProperName [tree] :=
  fun node inside => properName_of_admits (regular node inside)

/-- The lists of a regular tree bind identifiers. -/
theorem bindsOnly_listNames :
    Node.Everywhere (BindsOnly fun name => IsName name ∧ name ∈ listNames tree) [tree] := by
  have named := bindsOnly_of_declaresOnly isName_item isName_index
    (declaresOnly_of_properName (properName_of_regular regular))
  intro value inside iteration list matched
  refine .of_bindings fun name member => ?_
  refine ⟨(named value inside _ list matched).bindings name member, ?_⟩
  rw [← listBindings_of_list list matched] at member
  exact List.mem_flatMap.2 ⟨value, by simpa using inside, member⟩

end Names

/-! ## Texts -/

/-- The texts that are synthesized for names of a kind are read as what they are meant to be, but
for parameters and objects with the operator `await` among their names: these are not read. -/
structure ReadsTexts (adapter : Adapter) (Known : String → Prop) : Prop where
  parameters : ∀ item index, Known item → Known index → item ≠ "await" → index ≠ "await" →
    ∃ start first second, parametersSnippet [item, index] =
      .ok (.mk start .parameters [plainParameter first item, plainParameter second index])
  noParameters : ∀ item index, Known item → Known index → item = "await" ∨ index = "await" →
    ∃ message, parametersSnippet [item, index] =
      .error (.snippet (parametersCode [item, index]) message)
  object : ∀ names, (∀ name ∈ names, Known name) → "await" ∉ names →
    ∃ object, captureObject names = .ok object ∧ HandsOver object names
  noObject : ∀ names, (∀ name ∈ names, Known name) → "await" ∈ names →
    ∃ message, captureObject names = .error (.snippet (captureCode names) message)
  wrapper : ∀ item index, Known item → Known index →
    ∃ outer first firstInner second secondInner third thirdInner, ∀ call child,
      loopWrapper adapter item index call child =
        .ok (loopElement adapter item index call child outer first firstInner second secondInner
          third thirdInner)

/-- The texts for identifiers are read. -/
theorem readsTexts (adapter : Adapter) {Known : String → Prop}
    (valid : ∀ name, Known name → IsName name) : ReadsTexts adapter Known where
  parameters item index itemKnown indexKnown :=
    parametersSnippet_ok (valid item itemKnown) (valid index indexKnown)
  noParameters item index itemKnown indexKnown operator := by
    cases read : parametersSnippet [item, index] with
    | ok node =>
        exact absurd read
          (parametersSnippet_await (valid item itemKnown) (valid index indexKnown) operator node)
    | error error =>
        obtain ⟨message, rfl⟩ := error_of_readSnippet read
        exact ⟨message, rfl⟩
  object names known other := by
    obtain ⟨object, read, hands, -⟩ :=
      captureObject_ok (refers_module (fun name inside => valid name (known name inside)) other)
    exact ⟨object, read, hands⟩
  noObject names known operator := by
    cases read : captureObject names with
    | ok object =>
        exact absurd read
          (captureObject_await (fun name inside => valid name (known name inside)) operator object)
    | error error =>
        obtain ⟨message, rfl⟩ := error_of_readSnippet read
        exact ⟨message, rfl⟩
  wrapper item index itemKnown indexKnown :=
    loopWrapper_ok adapter (valid item itemKnown) (valid index indexKnown)

/-- The error of a text for names of a kind with the operator `await` among them. -/
inductive OperatorRefused (Known : String → Prop) : RewriteError → Prop where
  | parameters (item index message : String) (itemKnown : Known item) (indexKnown : Known index)
      (operator : item = "await" ∨ index = "await") :
      OperatorRefused Known (.snippet (parametersCode [item, index]) message)
  | object (names : Names) (message : String) (known : ∀ name ∈ names, Known name)
      (operator : "await" ∈ names) : OperatorRefused Known (.snippet (captureCode names) message)

theorem OperatorRefused.known {Known : String → Prop} {error : RewriteError}
    (refused : OperatorRefused Known error) : Known "await" := by
  cases refused with
  | parameters item index message itemKnown indexKnown operator =>
      rcases operator with rfl | rfl
      · exact itemKnown
      · exact indexKnown
  | object names message known operator => exact known _ operator

/-- A text for identifiers that is not read has the operator `await` in it. -/
theorem OperatorRefused.of_text {adapter : Adapter} {Known : String → Prop} {error : RewriteError}
    (refused : TextRefused adapter (fun name => IsName name ∧ Known name) error) :
    OperatorRefused Known error := by
  have texts := readsTexts adapter fun name (known : IsName name ∧ Known name) => known.1
  cases refused with
  | parameters item index itemKnown indexKnown refused =>
      obtain ⟨message, rfl⟩ := error_of_readSnippet refused
      refine .parameters item index message itemKnown.2 indexKnown.2 ?_
      by_contra other
      obtain ⟨itemOther, indexOther⟩ := not_or.1 other
      obtain ⟨_, _, _, read⟩ :=
        texts.parameters item index itemKnown indexKnown itemOther indexOther
      rw [read] at refused
      cases refused
  | object names known refused =>
      obtain ⟨message, rfl⟩ := error_of_readSnippet refused
      refine .object names message (fun name inside => (known name inside).2) ?_
      by_contra other
      obtain ⟨_, read, _⟩ := texts.object names known other
      rw [read] at refused
      cases refused
  | wrapper item index itemKnown indexKnown refused =>
      obtain ⟨_, _, _, _, _, _, _, _, read⟩ :=
        wrapperSnippet_ok adapter itemKnown.1.word indexKnown.1.word
      rw [read] at refused
      cases refused

/-! ## Compiling what is read -/

section Compile

variable {rules : RewriteRules} {tree : Node}

/-- The lists of a regular tree are rewritten, unless one binds the operator `await` and a text with
it is not read. -/
theorem operatorRefused_of_rewrite (regular : Regular tree) {error : RewriteError}
    (failed : rewrite rules tree = .error error) :
    OperatorRefused (· ∈ listNames tree) error := by
  rw [rewrite_eq_expand] at failed
  cases expansion : (expand rules [] .inner tree).run with
  | ok result =>
      rw [expansion] at failed
      cases failed
  | error other =>
      rw [expansion] at failed
      cases failed
      exact .of_text
        (refused_of_bindsOnly.1 [] .inner tree (by simp) (bindsOnly_listNames regular) _
          expansion)

/-- A list that was rewritten and leaves out a parameter has no operator for an item. -/
theorem item_ne_await {site : Site} {loop : Frame × Node} (replaced : ReplacedBy rules site loop)
    (few : site.parameters.parts.length < 2) : site.iteration.itemName ≠ "await" := by
  intro operator
  have spelled := replaced.rewritten.spelled
  rw [replaced.parameters_eq, spellParameters, if_pos few] at spelled
  have item := replaced.only.item
  have index := replaced.only.index
  rw [replaced.rewritten.item_eq] at item
  rw [replaced.rewritten.index_eq] at index
  exact parametersSnippet_await item index (.inl operator) _ spelled

/-- Where lists are rewritten, none that leaves out a parameter has the operator `await` for an
item. -/
theorem items_ne_await_of_rewrite (regular : Regular tree) {rewritten : Rewritten}
    (done : rewrite rules tree = .ok rewritten) :
    ∀ site ∈ sites [] .inner tree, site.parameters.parts.length < 2 →
      site.iteration.itemName ≠ "await" := by
  obtain ⟨loops, -, -, replaced⟩ :=
    replaced_of_rewrite (declaresOnly_of_properName (properName_of_regular regular)) done
  have each : List.Forall₂ (fun site loop => (site.parameters.parts.length < 2 →
      site.iteration.itemName ≠ "await") ∧ Nonempty (ReplacedBy rules site loop))
      (sites [] .inner tree) loops := by
    refine replaced.imp ?_
    intro site loop replacement
    exact ⟨replacement.elim item_ne_await, replacement⟩
  exact ((List.forall₂_and_left _ _).1 each).1

end Compile

/-- What results on rewriting assume holds of every tree that is read. -/
theorem wellFormed_of_readTree {expression : Bool} {source : String} {tree : Node}
    (read : readTree expression source = .ok tree) :
    Node.Everywhere (isWellFormed · = true) [tree] ∧ Node.Everywhere ProperName [tree] :=
  have regular := regular_of_readTree read
  ⟨fun node inside => isWellFormed_of_admits (regular node inside), properName_of_regular regular⟩

/-- A source that is not read is not compiled, for that reason. One that is read is compiled,
unless a mapped list binds the name `await`: then a text with that name may be refused, and the
text of a callback with this one parameter always is. -/
theorem compile_fails_only_on_await (options : CompileOptions) (expression : Bool)
    (source : String) :
    (∀ error, readTree expression source = .error error →
        compile options expression source = .error error ∧
          ∃ message position, error = .parse message position) ∧
      ∀ tree, readTree expression source = .ok tree →
        ("await" ∉ listNames tree → ∃ compiled, compile options expression source = .ok compiled) ∧
        (∀ error, compile options expression source = .error error →
          ∃ cause, OperatorRefused (· ∈ listNames tree) cause ∧
            error = .ofRewrite source.toList cause) ∧
        (∀ compiled, compile options expression source = .ok compiled →
          ∀ site ∈ sites [] .inner tree, site.parameters.parts.length < 2 →
            site.iteration.itemName ≠ "await") ∧
        ReadsTexts options.adapter (NamedIn tree) := by
  refine ⟨fun error unread => ⟨compile_of_unread options unread, parse_of_unread unread⟩, ?_⟩
  intro tree read
  have regular := regular_of_readTree read
  obtain ⟨finish, compile_eq⟩ := compile_of_read options read
  rw [compile_eq, rewriteTree]
  have texts : ReadsTexts options.adapter (NamedIn tree) :=
    readsTexts options.adapter fun name => isName_of_namedIn regular
  cases outcome : rewrite options.rewriteRules tree with
  | ok rewritten =>
      refine ⟨fun _ => ⟨finish rewritten, rfl⟩, ?_, ?_, texts⟩
      · intro error failed
        cases failed
      · exact fun _ _ => items_ne_await_of_rewrite regular outcome
  | error cause =>
      have refused := operatorRefused_of_rewrite regular outcome
      refine ⟨fun other => absurd refused.known other, ?_, ?_, texts⟩
      · intro error failed
        cases failed
        exact ⟨cause, refused, rfl⟩
      · intro compiled done
        cases done

/-- Names that are sometimes keywords, bound by nested lists; `await` is bound around them. -/
def contextualNames : String :=
  "function Page(await) \x7b return <view>\x7bawait.map(of => <text>" ++
    "\x7bof.cells.map((get, async) => <text>\x7bof\x7d\x7bget\x7d\x7basync\x7d</text>)\x7d" ++
    "</text>)\x7d</view>; \x7d"

/-- Whether a source was read and its lists bind other names than `await`. -/
def readWithoutAwait : Except CompileError Node → Bool
  | .ok tree => decide ("await" ∉ listNames tree)
  | .error _ => false

theorem compile_contextualNames :
    ∃ tree compiled, readTree false contextualNames = .ok tree ∧ "await" ∉ listNames tree ∧
      compile (.ofTarget .ali) false contextualNames = .ok compiled := by
  have other : readWithoutAwait (readTree false contextualNames) = true := by decide +kernel
  cases read : readTree false contextualNames with
  | error error =>
      rw [read] at other
      cases other
  | ok tree =>
      rw [read] at other
      have free := of_decide_eq_true other
      obtain ⟨compiled, done⟩ :=
        ((compile_fails_only_on_await (.ofTarget .ali) false contextualNames).2 tree read).1 free
      exact ⟨tree, compiled, rfl, free, done⟩

/-- The reason why the lists of a source that was read were not rewritten. -/
def refusal? : Except CompileError Compiled → Option RewriteError
  | .error (.transform cause _) => some cause
  | _ => none

/-- A callback with the parameter `await`, in a function where that is no operator. -/
def awaitParameter : String :=
  "function f() \x7b return <V>\x7ba.map(await => <T>\x7bawait\x7d</T>)\x7d</V>; \x7d"

/-- It is read, but not compiled. -/
theorem compile_refuses_await :
    (readTree false awaitParameter).isOk = true ∧
      refusal? (compile (.ofTarget .ali) false awaitParameter) =
        some (.snippet (parametersCode ["await", "index"])
          "Cannot use `await` as an identifier in an async context") := by
  decide +kernel

end LoopTemplate
