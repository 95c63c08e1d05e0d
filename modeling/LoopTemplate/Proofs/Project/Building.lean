import LoopTemplate.Project.Build
import LoopTemplate.Proofs.Files.Edits
import LoopTemplate.Proofs.Files.Listing

/-!
# What a build does to the files

A build that gets as far as touching a file empties its output directory and writes the code of its
sources below it (`produce`); all else that it does is to refuse before, or to name the sources that
failed at its end (`build_cases`). Each part is described by its edits and by what holds after it.
-/

namespace LoopTemplate.Project

open LoopTemplate.Files

/-! ## The output directory -/

/-- Whether a path ends in a name, below the root. -/
structure EndsInName (path : String) : Prop where
  unfinished : endsInSlash path = false
  below : location path ≠ []

theorem EndsInName.names_join {directory path : String} (ends : EndsInName directory)
    (relative : isAbsolute path = false) :
    names (join directory path) = names directory ++ names path := by
  apply Files.names_join _ ends.unfinished relative
  rw [Bool.eq_false_iff]
  intro empty
  apply ends.below
  rw [String.isEmpty_iff.1 empty]
  rfl

theorem EndsInName.location_join {directory path : String} (ends : EndsInName directory)
    (relative : isAbsolute path = false) :
    location (join directory path) = follow (location directory) (names path) := by
  rw [location, ends.names_join relative, follow_append]
  rfl

/-- The way of a path below a directory is the way to the directory, and then the way from there. -/
theorem EndsInName.onWay_join {directory path : String} (ends : EndsInName directory)
    (relative : isAbsolute path = false) {inner : Location}
    (onWay : OnWay (names (join directory path)) inner) :
    OnWay (names directory) inner ∨
      ∃ way, way <+: names path ∧ inner = follow (location directory) way := by
  obtain ⟨way, within, rfl⟩ := onWay
  rw [ends.names_join relative] at within
  rcases List.prefix_or_prefix_of_prefix within (List.prefix_append _ _) with
    shorter | ⟨further, rfl⟩
  · exact .inl ⟨way, shorter, rfl⟩
  · exact .inr ⟨further, (List.prefix_append_right_inj _).1 within, follow_append _ _ _⟩

theorem outputName_cases (config : Config) :
    config.outputName = "custom" ∨ config.outputName = "ali" ∨ config.outputName = "wechat" := by
  unfold Config.outputName
  split_ifs
  · exact .inl rfl
  · cases config.target
    · exact .inr (.inl rfl)
    · exact .inr (.inr rfl)

/-- The output directory is named for the host. -/
theorem exists_location_outputDirectory (project : Project) :
    ∃ parent, location project.outputDirectory = parent ++ [project.config.outputName] := by
  have named : '/' ∉ project.config.outputName.toList ∧ isSelf project.config.outputName = false ∧
      (project.config.outputName == "..") = false := by
    rcases outputName_cases project.config with same | same | same <;> rw [same] <;> decide
  obtain ⟨clear, notSelf, notUp⟩ := named
  obtain ⟨ways, names_eq⟩ := exists_names_join (join project.root project.config.out) clear
  refine ⟨follow [] ways, ?_⟩
  rw [outputDirectory, location, names_eq, follow_concat, FileTree.step, notSelf, notUp]
  rfl

theorem endsInName_outputDirectory (project : Project) : EndsInName project.outputDirectory where
  unfinished := by
    rcases outputName_cases project.config with same | same | same <;>
      exact endsInSlash_join _ (by rw [same]; decide) (by rw [same]; decide)
  below := by
    obtain ⟨parent, location_eq⟩ := exists_location_outputDirectory project
    simp [location_eq]

/-! ## Actions -/

namespace Action

/-- What an action does to the files from a session on. It fails only where a file
operation does. -/
abbrev Does {α : Type} (session : Session) (action : Action α) (Allowed : Edit → Prop)
    (Aim : α → FileTree → Prop) : Prop :=
  Files.Does Session.tree session action Allowed Aim fun error => ∃ fault, error = .file fault

variable {session : Session} {Allowed : Edit → Prop}

theorem does_pure {α : Type} {value : α} {Aim : α → FileTree → Prop}
    (aim : Aim value session.tree) :
    Does session (pure value) Allowed Aim :=
  .of_ok rfl .refl aim

theorem does_print (text : String) :
    Does session (print text) Allowed fun _ tree => tree = session.tree :=
  .of_ok rfl .refl rfl

theorem does_report (text : String) :
    Does session (report text) Allowed fun _ tree => tree = session.tree :=
  .of_ok rfl .refl rfl

theorem does_change {change : Change Unit} {Aim : FileTree → Prop}
    (does : Change.Does session.tree change Allowed Aim) :
    Does session (Action.change change) Allowed fun _ => Aim := by
  obtain ⟨steps, aim, -⟩ := does
  rcases outcome : change.run session.tree with ⟨result, tree⟩
  rw [outcome] at steps aim
  have run_eq : (Action.change change).run session =
      (result.mapError ProjectError.file, { session with tree }) := by
    rw [Action.change, run_bind_of_ok (run_get session), outcome]
    cases result <;> rfl
  cases result with
  | error error => exact .of_error run_eq steps ⟨error, rfl⟩
  | ok value => exact .of_ok run_eq steps (aim value rfl)

end Action

/-! ## Parts of a build -/

/-- The edits that make room for the output: the directory is removed, and made with those above
it. -/
def Prepares (directory : String) : Edit → Prop
  | .make changed => OnWay (names directory) changed
  | .write _ => False
  | .remove changed => changed = location directory

/-- Whether a path leads to what stands at its location, if anything stands there or below. -/
def Leads (tree : FileTree) (directory : String) : Prop :=
  tree.has directory = true ∨ IsFree (location directory) tree

/-- Removing the directory leaves nothing there. -/
theorem does_removeDirectory {directory : String} (ends : EndsInName directory) (tree : FileTree) :
    Change.Does tree (Change.removeDirectory directory) (Prepares directory)
      (IsFree (location directory)) := by
  rcases Change.removeDirectory_cases tree directory with ⟨error, failed⟩ | ⟨there, done⟩
  · exact .of_error failed .refl trivial
  · refine .of_ok done (.single (.remove _ rfl there)) ?_
    intro inner inside
    have present : inner ≠ [] := by
      rintro rfl
      exact ends.below (List.prefix_nil.1 inside)
    exact (FileTree.get?_eraseBelow _ _ _ present).trans (if_pos (by simpa using inside))

theorem makes_prepares {directory : String} (edit : Edit)
    (makes : Change.MakesOnWay (names directory) edit) : Prepares directory edit := by
  cases edit with
  | make changed => exact makes
  | write changed => exact makes
  | remove changed => exact makes.elim

/-- Once the directory is made, the way to it is open, and nothing is added off the way. -/
theorem does_makeOutput (directory : String) (session : Session) :
    Action.Does session (Action.change (Change.createDirectories directory)) (Prepares directory)
      fun _ tree => IsOpen (names directory) tree ∧
        (IsFree (location directory) session.tree → ∀ inner, location directory <+: inner →
          tree.get? inner = none ∨ OnWay (names directory) inner) := by
  have made := Change.does_createDirectories directory session.tree
  apply Action.does_change
  refine ⟨made.steps.mono makes_prepares, ?_, made.fault⟩
  intro value done
  refine ⟨made.aim value done, ?_⟩
  intro free inner inside
  by_cases onWay : OnWay (names directory) inner
  · exact .inr onWay
  · refine .inl ((made.steps.unchanged ?_).trans (free inner inside))
    intro edit makes touches
    cases edit with
    | make changed =>
        obtain rfl : changed = inner := touches
        exact onWay makes
    | write changed => exact makes
    | remove changed => exact makes

/-- After the output directory is prepared, the way to it is open, and there is nothing else below
it if its path led to all that was there. -/
theorem does_prepareOutput {directory : String} (ends : EndsInName directory) (session : Session) :
    Action.Does session (prepareOutput directory) (Prepares directory) fun _ tree =>
      IsOpen (names directory) tree ∧
        (Leads session.tree directory → ∀ inner, location directory <+: inner →
          tree.get? inner = none ∨ OnWay (names directory) inner) := by
  refine .congr ?_ (run_bind_of_ok (run_get session))
  by_cases there : session.tree.has directory = true
  · dsimp only
    rw [if_pos there]
    refine (Action.does_change (does_removeDirectory ends session.tree)).next ?_
    intro _ after free
    refine (does_makeOutput directory after).mono (fun _ => id) ?_
    exact fun _ tree made => ⟨made.1, fun _ => made.2 free⟩
  · dsimp only
    rw [if_neg there]
    refine (does_makeOutput directory session).mono (fun _ => id) ?_
    exact fun _ tree made => ⟨made.1, fun leads => made.2 (leads.resolve_left there)⟩

/-- The edits that write the code of a source to a path below the output directory. -/
def WritesCode (directory path : String) : Edit → Prop
  | .make changed => OnWay (names (join directory path)) changed
  | .write changed => changed = location (join directory path) ∧ changed ≠ location directory
  | .remove _ => False

/-- Once the code of a source is written, it stands in its place, and the way there is open. -/
theorem does_writeCode {directory path : String} (code : String) (ends : EndsInName directory)
    (relative : isAbsolute path = false) (session : Session) :
    Action.Does session (writeCode directory path code) (WritesCode directory path) fun _ tree =>
      tree.get? (location (join directory path)) = some (.text code) ∧
        IsOpen (Change.parentNames (join directory path)) tree := by
  have makes : ∀ edit, Change.MakesOnWay (names (join directory path)) edit →
      WritesCode directory path edit := by
    intro edit makes
    cases edit with
    | make changed => exact makes
    | write changed => exact makes.elim
    | remove changed => exact makes
  have parents := (Change.does_createParents (join directory path) session.tree).mono makes
    fun _ _ isOpen => isOpen
  refine (Action.does_change parents).next fun _ between isOpen => ?_
  have written : Change.Does between.tree (Change.writeText (join directory path) code)
      (WritesCode directory path) fun tree =>
        tree.get? (location (join directory path)) = some (.text code) ∧
          IsOpen (Change.parentNames (join directory path)) tree := by
    rcases Change.writeText_cases between.tree (join directory path) code with
      ⟨error, failed⟩ | ⟨passable, noDirectory, done⟩
    · exact .of_error failed .refl trivial
    · have directoryThere : between.tree.get? (location directory) = some .directory := by
        refine passable (names directory) ?_ ?_ <;> rw [ends.names_join relative]
        · exact List.prefix_append _ _
        · simpa using names_ne_nil path
      have elsewhere : location (join directory path) ≠ location directory := by
        intro same
        rw [same] at noDirectory
        exact noDirectory directoryThere
      have present : location (join directory path) ≠ [] := by
        intro root
        rw [root, FileTree.get?_nil] at noDirectory
        exact noDirectory rfl
      have step : Step (WritesCode directory path) between.tree
          (between.tree.insert (location (join directory path)) (.text code)) :=
        .write _ code ⟨rfl, elsewhere⟩ noDirectory
      refine .of_ok done (.single step) ⟨?_, ?_⟩
      · exact (FileTree.get?_insert _ _ _ _ present).trans (if_pos rfl)
      · intro location onWay
        exact step.kept (isOpen location onWay) (fun _ => False.elim) (.inl rfl)
  refine (Action.does_change written).next fun _ after aim => ?_
  refine (Action.does_print _).mono (fun _ => id) ?_
  intro _ tree same
  rw [same]
  exact aim

/-! ## Compiling the sources -/

/-- The sources that can be compiled, with their code in place of their content. -/
def compiledOf (options : CompileOptions) (sources : Sources) : Sources :=
  sources.filterMap fun source =>
    (compileModule options source.2).toOption.map fun compiled => (source.1, compiled.code)

/-- The paths of the sources that cannot be compiled. -/
def failedOf (options : CompileOptions) (sources : Sources) : List String :=
  (sources.filter fun source => (compileModule options source.2).toOption.isNone).map Prod.fst

/-- What holds of the code written so far, and is kept when the code of another source is written,
holds of all code in the end. -/
theorem does_compileSources {options : CompileOptions} {directory : String} {Allowed : Edit → Prop}
    (Holds : Sources → FileTree → Prop) (sources : Sources)
    (distinct : (sources.map Prod.fst).Nodup)
    (write : ∀ written path code, path ∈ sources.map Prod.fst → path ∉ written.map Prod.fst →
      ∀ session : Session, Holds written session.tree →
        Action.Does session (writeCode directory path code) Allowed fun _ =>
          Holds (written ++ [(path, code)]))
    (written : Sources) (fresh : ∀ path ∈ sources.map Prod.fst, path ∉ written.map Prod.fst)
    (session : Session) (holds : Holds written session.tree) :
    Action.Does session (compileSources options directory sources) Allowed fun failed tree =>
      Holds (written ++ compiledOf options sources) tree ∧ failed = failedOf options sources := by
  induction sources generalizing written session with
  | nil =>
      apply Action.does_pure
      exact ⟨by rwa [compiledOf, List.filterMap_nil, List.append_nil], rfl⟩
  | cons source sources ih =>
      obtain ⟨path, content⟩ := source
      obtain ⟨new, distinct⟩ := List.nodup_cons.1 distinct
      have rest := ih distinct fun written other code member =>
        write written other code (List.mem_cons_of_mem _ member)
      unfold compileSources
      cases compiled : compileModule options content with
      | ok result =>
          have added : written ++ compiledOf options ((path, content) :: sources) =
              written ++ [(path, result.code)] ++ compiledOf options sources := by
            simp [compiledOf, compiled, Except.toOption]
          have failed_eq : failedOf options ((path, content) :: sources) =
              failedOf options sources := by
            simp [failedOf, compiled, Except.toOption]
          rw [added, failed_eq]
          refine (write written path result.code List.mem_cons_self
            (fresh path List.mem_cons_self) session holds).next fun _ after holds => ?_
          refine rest _ ?_ after holds
          intro other member
          rw [List.map_append, List.mem_append, not_or]
          refine ⟨fresh other (List.mem_cons_of_mem _ member), ?_⟩
          rintro same
          rw [List.map_singleton, List.mem_singleton] at same
          exact new (same ▸ member)
      | error error =>
          have added : compiledOf options ((path, content) :: sources) =
              compiledOf options sources := by
            simp [compiledOf, compiled, Except.toOption]
          have failed_eq : failedOf options ((path, content) :: sources) =
              path :: failedOf options sources := by
            simp [failedOf, compiled, Except.toOption]
          rw [added, failed_eq]
          refine (Action.does_report _).next fun _ between same => ?_
          rw [← same] at holds
          refine (rest written (fun other member => fresh other (List.mem_cons_of_mem _ member))
            between holds).next fun failed after aim => ?_
          apply Action.does_pure
          exact ⟨aim.1, congrArg (List.cons path) aim.2⟩

/-! ## The whole build -/

/-- What a build does once it has all that it needs. The result is the paths of the sources that
failed. -/
def produce (project : Project) (options : CompileOptions) (sources : Sources) :
    Action (List String) := do
  Action.print ("Building '" ++ project.config.name ++ "' for " ++ project.config.outputName ++
    "...\n")
  Action.print ("  Collected " ++ toString sources.length ++ " source files\n")
  prepareOutput project.outputDirectory
  let failed ← compileSources options project.outputDirectory sources
  Action.print ("\nBuild complete: " ++ toString (sources.length - failed.length) ++
    " file(s) in " ++ project.config.out ++ "/" ++ project.config.outputName ++ "/\n")
  return failed

/-- What holds once the output directory is prepared, and is kept when the code of a source is
written, holds in the end. -/
theorem does_produce {project : Project} {options : CompileOptions} {sources : Sources}
    {Allowed : Edit → Prop} {session : Session} (Holds : Sources → FileTree → Prop)
    (distinct : (sources.map Prod.fst).Nodup)
    (prepare : ∀ start : Session, start.tree = session.tree →
      Action.Does start (prepareOutput project.outputDirectory) Allowed fun _ => Holds [])
    (write : ∀ written path code, path ∈ sources.map Prod.fst → path ∉ written.map Prod.fst →
      ∀ session : Session, Holds written session.tree →
        Action.Does session (writeCode project.outputDirectory path code) Allowed fun _ =>
          Holds (written ++ [(path, code)])) :
    Action.Does session (produce project options sources) Allowed fun failed tree =>
      Holds (compiledOf options sources) tree ∧ failed = failedOf options sources := by
  refine (Action.does_print _).next fun _ first first_eq => ?_
  refine (Action.does_print _).next fun _ second second_eq => ?_
  refine (prepare second (second_eq.trans first_eq)).next fun _ third holds => ?_
  refine (does_compileSources Holds sources distinct write [] (by simp) third holds).next
    fun failed fourth aim => ?_
  refine (Action.does_print _).next fun _ last last_eq => ?_
  apply Action.does_pure
  rw [last_eq]
  exact aim

/-- How a build ends, if the given sources could not be compiled. -/
def verdict (failed : List String) : Except ProjectError Unit :=
  if failed.isEmpty then .ok () else .error (.failedSources failed)

theorem run_compileOptions {project : Project} {options : CompileOptions}
    (ready : project.config.compileOptions = .ok options) (session : Session) :
    (Action.ofExcept (project.config.compileOptions.mapError .adapter)).run session =
      (.ok options, session) := by
  rw [ready]
  rfl

/-- A build that has all that it needs ends as its sources say. -/
theorem build_of_ready {project : Project} {options : CompileOptions} {sources : Sources}
    {session : Session} (ready : project.config.compileOptions = .ok options)
    (collected : project.sources session.tree = .ok sources) :
    project.build.run session =
      (((produce project options sources).run session).1.bind verdict,
        ((produce project options sources).run session).2) := by
  have sourcesRead : (Action.ofExcept (project.sources session.tree)).run session =
      (.ok sources, session) := by
    rw [collected]
    rfl
  have split : project.build.run session = (produce project options sources >>= fun failed =>
      if !failed.isEmpty then throw (.failedSources failed) else pure ()).run session := by
    rw [build, run_bind_of_ok (run_compileOptions ready session), run_bind_of_ok (run_get session),
      run_bind_of_ok sourcesRead]
    simp only [produce, bind_assoc, pure_bind]
  rw [split]
  rcases outcome : (produce project options sources).run session with ⟨result, after⟩
  cases result with
  | error error => exact run_bind_of_error outcome
  | ok failed =>
      rw [run_bind_of_ok outcome]
      cases failed <;> rfl

/-- A build that lacks something touches no file. -/
theorem build_cases (project : Project) (session : Session) :
    (∃ error, project.build.run session = (.error error, session)) ∨
      ∃ options sources, project.config.compileOptions = .ok options ∧
        project.sources session.tree = .ok sources := by
  cases ready : project.config.compileOptions with
  | error error =>
      refine .inl ⟨.adapter error, run_bind_of_error ?_⟩
      rw [ready]
      rfl
  | ok options =>
      cases collected : project.sources session.tree with
      | ok sources => exact .inr ⟨options, sources, rfl, rfl⟩
      | error error =>
          refine .inl ⟨error, ?_⟩
          rw [build, run_bind_of_ok (run_compileOptions ready session),
            run_bind_of_ok (run_get session)]
          apply run_bind_of_error
          rw [collected]
          rfl

end LoopTemplate.Project
