import LoopTemplate.CommandLine.Run
import LoopTemplate.Proofs.Adapters
import LoopTemplate.Proofs.Project.Building
import LoopTemplate.Proofs.Project.Configuration
import LoopTemplate.Proofs.Project.Sources

/-!
# Builds that are refused

A build needs a configuration, an adapter and sources that are texts. If it lacks one of them
(`Hindered`), it is refused before it touches a file: it prints nothing but the reason, and leaves
all files as they are. A build that lacks nothing is never refused this way
(`refused_iff_hindered`).
-/

namespace LoopTemplate.Project

open LoopTemplate.CommandLine (failureLine runCommand)
open LoopTemplate.Files
open LoopTemplate.Loop (Adapter AdapterConfig Target attributeNames)

/-! ## What a build needs -/

/-- What keeps a build from starting. -/
inductive Hindered (tree : FileTree) (root : String) : Prop where
  /-- There is no text to take the configuration from. -/
  | unreadable (missing : ∀ text, tree.readText (join root configFile) ≠ .ok text)
  /-- The text gives no configuration. -/
  | invalid {text : String} (read : tree.readText (join root configFile) = .ok text)
      (unparsed : ∀ config, Config.parse text ≠ .ok config)
  /-- A role of the configured adapter is missing, or its name is not valid. -/
  | adapter {config : Config} {custom : AdapterConfig} {value : Option String}
      (configured : Configured tree root config) (chosen : config.adapter = some custom)
      (role : value ∈ [custom.collection, custom.item, custom.index])
      (unfit : ∀ name, value = some name → name.toList ∉ attributeNames)
  /-- The path of the source directory does not lead to a directory. -/
  | directory {config : Config} (configured : Configured tree root config)
      (closed : ¬ IsOpen (names (join root config.src)) tree)
  /-- A file with a script's name, at any depth, is no text. -/
  | source {config : Config} {names : Location} {bytes : List UInt8}
      (configured : Configured tree root config) (script : IsScript names)
      (stands : (location (join root config.src) ++ names, .binary bytes) ∈ tree.entries)

/-- A project has what a build of it needs. -/
def Ready (project : Project) (tree : FileTree) : Prop :=
  (∃ options, project.config.compileOptions = .ok options) ∧
    ∃ sources, project.sources tree = .ok sources

theorem exists_compileOptions_iff {config : Config} :
    (∃ options, config.compileOptions = .ok options) ↔
      ∀ custom, config.adapter = some custom →
        ∃ adapter, Adapter.ofConfig custom = .ok adapter := by
  unfold Config.compileOptions Config.compileAdapter
  cases config.adapter with
  | none => exact iff_of_true ⟨_, rfl⟩ (by simp)
  | some custom =>
      simp only [Option.some.injEq, forall_eq']
      cases Adapter.ofConfig custom with
      | error error =>
          constructor
          · rintro ⟨options, made⟩
            cases made
          · rintro ⟨adapter, made⟩
            cases made
      | ok adapter => exact iff_of_true ⟨_, rfl⟩ ⟨adapter, rfl⟩

/-- Another host changes nothing that a build needs. -/
theorem ready_withTarget {project : Project} {tree : FileTree} (target : Option Target) :
    Ready (project.withTarget target) tree ↔ Ready project tree := by
  unfold Ready
  rw [exists_compileOptions_iff, exists_compileOptions_iff]
  cases target <;> rfl

/-- Nothing hinders the build of a project that has what it needs. -/
theorem not_hindered_iff {tree : FileTree} {root : String} :
    ¬ Hindered tree root ↔ ∃ project, load tree root = .ok project ∧ Ready project tree := by
  simp only [Ready, exists_compileOptions_iff, exists_sources_iff, Loop.exists_ofConfig_iff,
    load_eq_ok]
  constructor
  · intro clear
    cases read : tree.readText (join root configFile) with
    | error error => exact absurd (.unreadable (by simp [read])) clear
    | ok text =>
        cases parsed : Config.parse text with
        | error error => exact absurd (.invalid read (by simp [parsed])) clear
        | ok config =>
            have configured : Configured tree root config := ⟨text, read, parsed⟩
            refine ⟨⟨root, config⟩, ⟨rfl, configured⟩, fun custom chosen value role => ?_, ?_, ?_⟩
            · by_contra unfit
              exact clear (.adapter configured chosen role fun name same valid =>
                unfit ⟨name, same, valid⟩)
            · by_contra closed
              exact clear (.directory configured closed)
            · exact fun names bytes script stands => clear (.source configured script stands)
  · rintro ⟨⟨_, config⟩, ⟨rfl, configured⟩, adapters, isOpen, texts⟩ hindered
    cases hindered with
    | unreadable missing =>
        obtain ⟨text, read, -⟩ := configured
        exact missing text read
    | invalid otherRead unparsed =>
        obtain ⟨text, read, parsed⟩ := configured
        rw [read] at otherRead
        cases otherRead
        exact unparsed config parsed
    | adapter again chosen role unfit =>
        rw [configured.unique again] at chosen
        obtain ⟨name, named, valid⟩ := adapters _ chosen _ role
        exact unfit name named valid
    | directory again closed =>
        rw [configured.unique again] at closed
        exact closed isOpen
    | source again script stands =>
        rw [configured.unique again] at stands
        exact texts _ _ script stands

/-! ## What is printed -/

namespace Action

/-- Whatever an action prints, what was printed before stays. -/
def KeepsOutput {α : Type} (action : Action α) : Prop :=
  ∀ session, ∃ more, (action.run session).2.output = session.output ++ more

variable {α β : Type} {action : Action α} {later : α → Action β}

theorem keepsOutput_of_same (same : ∀ session, (action.run session).2.output = session.output) :
    KeepsOutput action :=
  fun session => ⟨"", by rw [same, String.append_empty]⟩

theorem KeepsOutput.bind (first : KeepsOutput action)
    (second : ∀ value, KeepsOutput (later value)) :
    KeepsOutput (action >>= later) := by
  intro session
  obtain ⟨more, first_eq⟩ := first session
  rcases outcome : action.run session with ⟨result, after⟩
  rw [outcome] at first_eq
  cases result with
  | error error =>
      rw [run_bind_of_error outcome]
      exact ⟨more, first_eq⟩
  | ok value =>
      rw [run_bind_of_ok outcome]
      obtain ⟨further, second_eq⟩ := second value after
      exact ⟨more ++ further, by rw [second_eq, first_eq, String.append_assoc]⟩

theorem keepsOutput_pure (value : α) : KeepsOutput (pure value) :=
  keepsOutput_of_same fun _ => rfl

theorem keepsOutput_print (text : String) : KeepsOutput (print text) := fun _ => ⟨text, rfl⟩

theorem keepsOutput_report (text : String) : KeepsOutput (report text) :=
  keepsOutput_of_same fun _ => rfl

theorem keepsOutput_change (change : Change Unit) : KeepsOutput (Action.change change) := by
  apply keepsOutput_of_same
  intro session
  rcases outcome : change.run session.tree with ⟨result, tree⟩
  rw [Action.change, run_bind_of_ok (run_get session), outcome]
  cases result <;> rfl

/-- What is printed first is not taken back. -/
theorem output_print_ne_empty {text : String} (something : text ≠ "") {next : Unit → Action β}
    (rest : ∀ value, KeepsOutput (next value)) (session : Session) :
    ((print text >>= next).run session).2.output ≠ "" := by
  have printed : (print text).run session =
      (.ok (), { session with output := session.output ++ text }) := rfl
  rw [run_bind_of_ok printed]
  obtain ⟨more, output_eq⟩ := rest () { session with output := session.output ++ text }
  rw [output_eq]
  simp [something]

end Action

open LoopTemplate.Project.Action

theorem keepsOutput_prepareOutput (directory : String) : KeepsOutput (prepareOutput directory) := by
  refine .bind (keepsOutput_of_same fun _ => rfl) fun session => ?_
  split
  · exact .bind (keepsOutput_change _) fun _ => keepsOutput_change _
  · exact keepsOutput_change _

theorem keepsOutput_writeCode (directory path code : String) :
    KeepsOutput (writeCode directory path code) :=
  .bind (keepsOutput_change _) fun _ => .bind (keepsOutput_change _) fun _ => keepsOutput_print _

theorem keepsOutput_compileSources (options : CompileOptions) (directory : String)
    (sources : Sources) :
    KeepsOutput (compileSources options directory sources) := by
  induction sources with
  | nil => exact keepsOutput_pure []
  | cons source sources ih =>
      obtain ⟨path, content⟩ := source
      unfold compileSources
      cases compileModule options content with
      | ok compiled => exact .bind (keepsOutput_writeCode _ _ _) fun _ => ih
      | error error =>
          exact .bind (keepsOutput_report _) fun _ => .bind ih fun _ => keepsOutput_pure _

/-- A build that starts says so. -/
theorem output_produce_ne_empty (project : Project) (options : CompileOptions) (sources : Sources)
    (session : Session) : ((produce project options sources).run session).2.output ≠ "" := by
  unfold produce
  refine output_print_ne_empty (by simp) (fun _ => ?_) session
  exact .bind (keepsOutput_print _) fun _ => .bind (keepsOutput_prepareOutput _) fun _ =>
    .bind (keepsOutput_compileSources _ _ _) fun _ => .bind (keepsOutput_print _) fun _ =>
      keepsOutput_pure _

/-! ## Running a build -/

section Running

variable {root : String} {target : Option Target} {session : Session}

theorem run_buildAt_of_error {error : ProjectError}
    (failed : load session.tree root = .error error) :
    (buildAt root target).run session = (.error error, session) := by
  rw [buildAt, run_bind_of_ok (run_get session)]
  apply run_bind_of_error
  rw [failed]
  rfl

theorem run_buildAt_of_ok {project : Project}
    (loaded : load session.tree root = .ok project) :
    (buildAt root target).run session = (project.withTarget target).build.run session := by
  rw [buildAt, run_bind_of_ok (run_get session)]
  apply run_bind_of_ok
  rw [loaded]
  rfl

/-- A build that is hindered ends as it began. -/
theorem run_buildAt_of_hindered (hindered : Hindered session.tree root) :
    ∃ error, (buildAt root target).run session = (.error error, session) := by
  cases loaded : load session.tree root with
  | error error => exact ⟨error, run_buildAt_of_error loaded⟩
  | ok project =>
      rw [run_buildAt_of_ok loaded]
      refine (build_cases (project.withTarget target) session).resolve_right ?_
      rintro ⟨options, sources, ready, collected⟩
      refine not_hindered_iff.2 ⟨project, loaded, ?_⟩ hindered
      exact (ready_withTarget target).1 ⟨⟨options, ready⟩, sources, collected⟩

/-- A build that nothing hinders prints something. -/
theorem output_buildAt_of_clear (clear : ¬ Hindered session.tree root) :
    ((buildAt root target).run session).2.output ≠ "" := by
  obtain ⟨project, loaded, ready⟩ := not_hindered_iff.1 clear
  obtain ⟨⟨options, ready⟩, sources, collected⟩ := (ready_withTarget target).2 ready
  rw [run_buildAt_of_ok loaded, build_of_ready ready collected]
  dsimp only
  exact output_produce_ne_empty _ _ _ _

/-- A command that builds prints what the build does. -/
theorem output_runCommand_build (tree : FileTree) (root : String) (target : Option Target) :
    (runCommand tree root (.build target)).output =
      ((buildAt root target).run (.start tree)).2.output := by
  rcases ended : (buildAt root target).run (.start tree) with ⟨result, session⟩
  unfold runCommand
  dsimp only
  rw [ended]
  cases result <;> rfl

/-- A build is refused, with nothing printed but the reason and all files as they were, just if
something hinders it. -/
theorem refused_iff_hindered (tree : FileTree) (root : String) (target : Option Target) :
    Hindered tree root ↔ ∃ error : ProjectError,
      runCommand tree root (.build target) = ⟨1, "", failureLine error.message, tree⟩ := by
  constructor
  · intro hindered
    obtain ⟨error, failed⟩ := @run_buildAt_of_hindered root target (.start tree) hindered
    refine ⟨error, ?_⟩
    unfold runCommand
    dsimp only
    rw [failed]
    simp only [Session.start, String.empty_append]
  · rintro ⟨error, refused⟩
    by_contra clear
    -- A build that starts prints before it touches a file, so its output is not empty.
    apply @output_buildAt_of_clear root target (.start tree) clear
    rw [← output_runCommand_build, refused]

/-- A project that was built before, with a source below its source directory that is no text. -/
def brokenFiles : FileTree :=
  ⟨[(["app"], .directory), (["app", configFile], .text (Config.ofName "demo").toJson.pretty),
    (["app", "src"], .directory), (["app", "src", "a.js"], .text "1"),
    (["app", "src", "pages"], .directory), (["app", "src", "pages", "list.jsx"], .binary [0xFF]),
    (["app", "dist"], .directory), (["app", "dist", "wechat"], .directory),
    (["app", "dist", "wechat", "a.js"], .text "0")]⟩

theorem brokenFiles_refused :
    Hindered brokenFiles "/app" ∧ ∃ error : ProjectError,
      runCommand brokenFiles "/app" (.build (some .wechat)) =
        ⟨1, "", failureLine error.message, brokenFiles⟩ := by
  have configured : Configured brokenFiles "/app" (Config.ofName "demo") :=
    ⟨_, rfl, Config.parse_pretty _⟩
  have hindered : Hindered brokenFiles "/app" := by
    refine @Hindered.source _ _ _ ["pages", "list.jsx"] [0xFF] configured ?_ ?_
    · exact ⟨["pages"], "list", "jsx", rfl, by decide, .inr rfl⟩
    · have source : location (join "/app" (Config.ofName "demo").src) = ["app", "src"] := by decide
      rw [source]
      exact List.mem_of_getElem? (i := 5) rfl
  exact ⟨hindered, (refused_iff_hindered brokenFiles "/app" (some .wechat)).1 hindered⟩

end Running

end LoopTemplate.Project
