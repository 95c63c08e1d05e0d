import LoopTemplate.Proofs.Project.Building
import LoopTemplate.Proofs.Project.Sources

/-!
# Builds keep to their output directory

Unless the path of a source leads out of the output directory, all edits of a build are confined
to this directory: it is removed, files are written below it, and directories are made on the way
to it and below it. The path of a source is made of the names of directories and of a file, with
slashes in place of backslashes, so a backslash in a name can make a path that leads out
(`build_escapes`).
-/

namespace LoopTemplate.Project

open LoopTemplate.Files

/-! ## Confined edits -/

/-- The edits that add to an output directory: directories are made on the way to it, and
directories and files below it. -/
def Adds (directory : String) : Edit → Prop
  | .make changed => OnWay (names directory) changed ∨ location directory <+: changed
  | .write changed => location directory <+: changed ∧ changed ≠ location directory
  | .remove _ => False

/-- The edits that add to an output directory or remove it. -/
def Confined (directory : String) : Edit → Prop
  | .remove changed => changed = location directory
  | edit => Adds directory edit

theorem confined_of_adds {directory : String} (edit : Edit) (adds : Adds directory edit) :
    Confined directory edit := by
  cases edit with
  | make changed => exact adds
  | write changed => exact adds
  | remove changed => exact adds.elim

theorem confined_of_prepares {directory : String} (edit : Edit)
    (prepares : Prepares directory edit) :
    Confined directory edit := by
  cases edit with
  | make changed => exact .inl prepares
  | write changed => exact prepares.elim
  | remove changed => exact prepares

theorem adds_of_writesCode {directory path : String} (ends : EndsInName directory)
    (inward : Inward path) (edit : Edit) (writes : WritesCode directory path edit) :
    Adds directory edit := by
  cases edit with
  | make changed =>
      rcases ends.onWay_join inward.relative writes with onWay | ⟨way, within, rfl⟩
      · exact .inl onWay
      · exact .inr (inward.inside _ way within)
  | write changed =>
      obtain ⟨rfl, elsewhere⟩ := writes
      refine ⟨?_, elsewhere⟩
      rw [ends.location_join inward.relative]
      exact inward.inside _ _ List.prefix_rfl
  | remove changed => exact writes

/-! ## Confined builds -/

/-- Once a build has all that it needs, its edits are confined to its output directory, which is
there in the end. -/
theorem does_produce_confined (project : Project) (options : CompileOptions) {sources : Sources}
    (sorted : IsSorted sources) (inward : ∀ source ∈ sources, Inward source.1) (session : Session) :
    Action.Does session (produce project options sources) (Confined project.outputDirectory)
      fun failed tree => tree.get? (location project.outputDirectory) = some .directory ∧
        failed = failedOf options sources := by
  have ends := endsInName_outputDirectory project
  refine does_produce
    (fun _ tree => tree.get? (location project.outputDirectory) = some .directory)
    sorted.distinct ?_ ?_
  · intro start _
    refine (does_prepareOutput ends start).mono confined_of_prepares ?_
    intro _ tree prepared
    exact prepared.1 _ (onWay_location _)
  · intro written path code member _ between there
    obtain ⟨source, among, rfl⟩ := List.mem_map.1 member
    have adds := adds_of_writesCode ends (inward source among)
    have wrote := does_writeCode code ends (inward source among).relative between
    refine ⟨wrote.steps.mono fun edit writes => confined_of_adds edit (adds edit writes), ?_,
      wrote.fault⟩
    intro value done
    exact wrote.steps.kept there (fun _ => False.elim) (.inl rfl)

/-- All edits of a build are confined to its output directory, whatever its sources contain and
however it ends, if no path of a source leads out of it. So what changed is the output directory or
below it, or a directory that was made on the way to it. -/
theorem build_confined (project : Project) (session : Session)
    (inward : ∀ sources, project.sources session.tree = .ok sources →
      ∀ source ∈ sources, Inward source.1) :
    Steps (Confined project.outputDirectory) session.tree (project.build.run session).2.tree ∧
      ∀ changed,
        (project.build.run session).2.tree.get? changed ≠ session.tree.get? changed →
          location project.outputDirectory <+: changed ∨
            OnWay (names project.outputDirectory) changed ∧ session.tree.get? changed = none ∧
              (project.build.run session).2.tree.get? changed = some .directory := by
  have steps : Steps (Confined project.outputDirectory) session.tree
      (project.build.run session).2.tree := by
    rcases build_cases project session with ⟨error, refused⟩ | ⟨options, sources, ready, collected⟩
    · rw [refused]
    · rw [build_of_ready ready collected]
      dsimp only
      exact (does_produce_confined project options (sorted_sources collected)
        (inward sources collected) session).steps
  refine ⟨steps, ?_⟩
  intro changed differs
  by_cases inside : location project.outputDirectory <+: changed
  · exact .inl inside
  · have notRemoved : ∀ removed, Confined project.outputDirectory (.remove removed) →
        ¬ removed <+: changed := by
      rintro removed rfl
      exact inside
    have notWritten : ¬ Confined project.outputDirectory (.write changed) := fun wrote =>
      inside wrote.1
    obtain ⟨free, made⟩ := (steps.kept_or_made notRemoved notWritten).resolve_left differs
    refine .inr ⟨?_, free, made⟩
    by_contra off
    apply differs
    apply steps.unchanged
    intro edit confined touches
    cases edit with
    | make other =>
        obtain rfl : other = changed := touches
        exact confined.elim off inside
    | write other =>
        obtain rfl : other = changed := touches
        exact inside confined.1
    | remove other => exact notRemoved other confined touches

/-! ## A project in `/app` -/

/-- Sources whose paths lead down lead nowhere out. -/
theorem inward_of_collected {project : Project} {tree : FileTree} {sources : Sources}
    (collected : project.sources tree = .ok sources)
    (down : ∀ source ∈ sources, isAbsolute source.1 = false ∧ ".." ∉ names source.1) :
    ∀ found, project.sources tree = .ok found → ∀ source ∈ found, Inward source.1 := by
  intro found again source member
  obtain rfl : sources = found := Except.ok.inj (collected.symm.trans again)
  exact inward_of_down (down source member).1 (down source member).2

/-- A project with a name and nothing else configured. -/
def sampleProject : Project := ⟨"/app", Config.ofName "demo"⟩

/-- The files of the sample project, with one source of the given name. -/
def sampleFiles (name content : String) : FileTree :=
  ⟨[(["app"], .directory), (["app", "src"], .directory), (["app", "src", name], .text content)]⟩

/-- A source whose path leads down is written below the output directory, backslash or not. -/
theorem build_confined_sample :
    sampleProject.sources (sampleFiles "pages\\a.js" "1") = .ok [("pages/a.js", "1")] ∧
      Steps (Confined sampleProject.outputDirectory) (sampleFiles "pages\\a.js" "1")
        (sampleProject.build.run (.start (sampleFiles "pages\\a.js" "1"))).2.tree := by
  have collected : sampleProject.sources (sampleFiles "pages\\a.js" "1") =
      .ok [("pages/a.js", "1")] := by
    decide +kernel
  exact ⟨collected, (build_confined sampleProject (.start (sampleFiles "pages\\a.js" "1"))
    (inward_of_collected collected (by decide))).1⟩

/-- A source whose name has backslashes is written beside the source directory: its path leads out
of the output directory. -/
theorem build_escapes :
    (sampleProject.build.run (.start (sampleFiles "..\\..\\escaped.js" "1"))).2.tree.get?
        ["app", "escaped.js"] = some (.text "1;\n") ∧
      (sampleFiles "..\\..\\escaped.js" "1").get? ["app", "escaped.js"] = none ∧
      location sampleProject.outputDirectory = ["app", "dist", "ali"] := by
  decide +kernel

end LoopTemplate.Project
