import LoopTemplate.Proofs.Project.Confinement

/-!
# Builds keep their sources

If the output directory is not the source directory or below it, and the path of the source
directory does not lead below the output directory, a build that reaches its end leaves the
sources as they were. Nothing keeps a configuration from letting the two directories overlap, and
then a build can remove its sources or add to them (`build_changes_overlapping_sources`).
-/

namespace LoopTemplate.Project

open LoopTemplate.Files

/-! ## Directories apart -/

/-- Whether the output of a project does not meet its sources: the output directory is neither the
source directory nor below it, and the path of the source directory does not lead below the output
directory. -/
structure IsApart (project : Project) : Prop where
  outside : ¬ location project.sourceDirectory <+: location project.outputDirectory
  clear : ∀ inner, OnWay (names project.sourceDirectory) inner →
    location project.outputDirectory <+: inner → inner = location project.outputDirectory

section Apart

variable {project : Project} {before after : FileTree}

/-- Nothing is below both directories. -/
theorem IsApart.not_both (apart : IsApart project) {inner : Location}
    (inSource : location project.sourceDirectory <+: inner) :
    ¬ location project.outputDirectory <+: inner := by
  intro inOutput
  rcases List.prefix_or_prefix_of_prefix inSource inOutput with above | below
  · exact apart.outside above
  · apply apart.outside
    rw [apart.clear _ (onWay_location _) below]

theorem IsApart.readSources_step (apart : IsApart project)
    (step : Step (Confined project.outputDirectory) before after) :
    readSources project.sourceDirectory (after.below (location project.sourceDirectory)) =
      readSources project.sourceDirectory (before.below (location project.sourceDirectory)) := by
  cases step with
  | make changed confined free =>
      rcases FileTree.below_make free with same | ⟨added, longer⟩
      · rw [same]
      · rw [longer, readSources_append_directory]
  | write changed content confined noDirectory =>
      rw [FileTree.below_insert_of_outside]
      exact fun inside => apart.not_both inside confined.1
  | remove changed confined directory =>
      obtain rfl : changed = location project.outputDirectory := confined
      rw [FileTree.below_eraseBelow_of_apart fun inner => apart.not_both]

/-- Confined edits leave what is read from the source directory. -/
theorem IsApart.readSources_steps (apart : IsApart project)
    (steps : Steps (Confined project.outputDirectory) before after) :
    readSources project.sourceDirectory (after.below (location project.sourceDirectory)) =
      readSources project.sourceDirectory (before.below (location project.sourceDirectory)) := by
  induction steps with
  | refl => rfl
  | tail _ step ih => rw [apart.readSources_step step, ih]

/-- Confined edits leave the way to the source directory open, if the output directory is there in
the end. -/
theorem IsApart.isOpen_steps (apart : IsApart project)
    (steps : Steps (Confined project.outputDirectory) before after)
    (there : after.get? (location project.outputDirectory) = some .directory)
    (isOpen : IsOpen (names project.sourceDirectory) before) :
    IsOpen (names project.sourceDirectory) after := by
  intro inner onWay
  by_cases same : inner = location project.outputDirectory
  · rw [same, there]
  · refine steps.kept (isOpen inner onWay) ?_ (.inl rfl)
    rintro removed rfl within
    exact same (apart.clear inner onWay within)

end Apart

/-! ## Builds -/

/-- Whether a build reached its end, with or without sources that failed. -/
inductive IsFinished : Except ProjectError Unit → Prop where
  | done : IsFinished (.ok ())
  | failed (names : List String) : IsFinished (.error (.failedSources names))

/-- A build that reaches its end leaves its sources as they were, if its output does not meet
them and no path of a source leads out of the output directory. So a second build has the same
sources. -/
theorem build_keeps_sources {project : Project} {session : Session} (apart : IsApart project)
    (inward : ∀ sources, project.sources session.tree = .ok sources →
      ∀ source ∈ sources, Inward source.1)
    (finished : IsFinished (project.build.run session).1) :
    project.sources (project.build.run session).2.tree = project.sources session.tree := by
  rcases build_cases project session with ⟨error, refused⟩ | ⟨options, sources, ready, collected⟩
  · rw [refused]
  · have does := does_produce_confined project options (sorted_sources collected)
      (inward sources collected) session
    rw [build_of_ready ready collected] at finished ⊢
    rcases outcome : (produce project options sources).run session with ⟨result, after⟩
    rw [outcome] at finished
    obtain ⟨steps, aim, fault⟩ := does
    rw [outcome] at steps aim fault
    cases result with
    | error error =>
        obtain ⟨reason, rfl⟩ := fault error rfl
        cases finished
    | ok failed =>
        obtain ⟨isOpen, read⟩ := sources_eq_ok.1 collected
        obtain ⟨there, -⟩ := aim failed rfl
        rw [collected]
        exact sources_eq_ok.2
          ⟨apart.isOpen_steps steps there isOpen, (apart.readSources_steps steps).trans read⟩

/-! ## Places of the two directories -/

/-- The sample project with other directories. -/
def sampleProjectAt (src out : String) : Project :=
  ⟨"/app", { Config.ofName "demo" with src, out }⟩

/-- The files of the sample project, with a source that can be compiled and one that cannot. -/
def mixedFiles : FileTree :=
  ⟨[(["app"], .directory), (["app", "src"], .directory), (["app", "src", "bad.js"], .text "1 +"),
    (["app", "src", "good.js"], .text "1")]⟩

/-- The sample project with an output path that leads through the source directory. -/
def crossingProject : Project := sampleProjectAt "src" "src/../dist"

/-- An output path that leads through the source directory does no harm. -/
theorem build_keeps_sources_mixedFiles :
    IsApart crossingProject ∧
      (crossingProject.build.run (.start mixedFiles)).1 = .error (.failedSources ["bad.js"]) ∧
      crossingProject.sources (crossingProject.build.run (.start mixedFiles)).2.tree =
        .ok [("bad.js", "1 +"), ("good.js", "1")] := by
  have collected : crossingProject.sources mixedFiles =
      .ok [("bad.js", "1 +"), ("good.js", "1")] := by
    decide +kernel
  have apart : IsApart crossingProject := by
    have ways : ∀ way ∈ (names crossingProject.sourceDirectory).inits,
        location crossingProject.outputDirectory <+: follow [] way →
          follow [] way = location crossingProject.outputDirectory := by
      decide +kernel
    refine ⟨by decide +kernel, ?_⟩
    rintro inner ⟨way, within, rfl⟩
    exact ways way ((List.mem_inits _ _).2 within)
  have ended : (crossingProject.build.run (.start mixedFiles)).1 =
      .error (.failedSources ["bad.js"]) := by
    decide +kernel
  have finished : IsFinished (crossingProject.build.run (.start mixedFiles)).1 := by
    rw [ended]
    exact .failed _
  have inward := inward_of_collected collected (by decide)
  exact ⟨apart, ended, (build_keeps_sources apart inward finished).trans collected⟩

/-- Files whose only source lies where the output goes by default. -/
def sourceInOutput : FileTree :=
  ⟨[(["app"], .directory), (["app", "dist"], .directory), (["app", "dist", "ali"], .directory),
    (["app", "dist", "ali", "bad.js"], .text "1 +")]⟩

/-- Files with a source beside the configuration. -/
def sourceInRoot : FileTree := ⟨[(["app"], .directory), (["app", "a.js"], .text "1")]⟩

/-- If the output directory is the source directory, a source that fails is removed. If it is
below the source directory, the code that is written is a source afterwards. -/
theorem build_changes_overlapping_sources :
    ((sampleProjectAt "dist/ali" "dist").sources sourceInOutput = .ok [("bad.js", "1 +")] ∧
        (sampleProjectAt "dist/ali" "dist").sources
          ((sampleProjectAt "dist/ali" "dist").build.run (.start sourceInOutput)).2.tree = .ok []) ∧
      (sampleProjectAt "." "dist").sources sourceInRoot = .ok [("a.js", "1")] ∧
        (sampleProjectAt "." "dist").sources
          ((sampleProjectAt "." "dist").build.run (.start sourceInRoot)).2.tree =
            .ok [("a.js", "1"), ("dist/ali/a.js", "1;\n")] := by
  decide +kernel

end LoopTemplate.Project
