import LoopTemplate.Project.Basic

/-!
# Builds

A build compiles every source of a project into its output directory. A source that cannot be
compiled is reported and passed; the build then fails at its end. What a build can refuse, it
refuses before it touches a file.
-/

namespace LoopTemplate.Project

open LoopTemplate.Files (Change FileTree)
open LoopTemplate.Loop (Target)

/-- The state of a command: the files, and what it printed. -/
structure Session where
  tree : FileTree
  output : String
  errors : String
deriving DecidableEq, Inhabited

/-- A session that starts on a tree. -/
def Session.start (tree : FileTree) : Session := ⟨tree, "", ""⟩

/-- An action that works on files and prints. What was done before a failure stays done. -/
abbrev Action := ExceptT ProjectError (StateM Session)

namespace Action

/-- Prints a text. -/
def print (text : String) : Action Unit :=
  modify fun session => { session with output := session.output ++ text }

/-- Prints a text beside the output. -/
def report (text : String) : Action Unit :=
  modify fun session => { session with errors := session.errors ++ text }

/-- Changes the files. -/
def change (change : Change Unit) : Action Unit := do
  let session ← get
  let (result, tree) := change.run session.tree
  set { session with tree }
  match result with
  | .ok _ => pure ()
  | .error error => throw (.file error)

/-- A result that may be missing. -/
def ofExcept {α : Type} : Except ProjectError α → Action α
  | .ok value => pure value
  | .error error => throw error

end Action

/-- Empties the output directory, and makes it if it is missing. -/
def prepareOutput (directory : String) : Action Unit := do
  if (← get).tree.has directory then
    Action.change (Change.removeDirectory directory)
  Action.change (Change.createDirectories directory)

/-- Writes the code of one source, with the directories it needs. -/
def writeCode (directory path code : String) : Action Unit := do
  let target := Files.join directory path
  Action.change (Change.createParents target)
  Action.change (Change.writeText target code)
  Action.print ("  " ++ path ++ "\n")

/-- Compiles the sources in turn. The result is the paths of those that failed. -/
def compileSources (options : CompileOptions) (directory : String) :
    Sources → Action (List String)
  | [] => return []
  | (path, content) :: sources => do
      match compileModule options content with
      | .ok compiled => do
          writeCode directory path compiled.code
          compileSources options directory sources
      | .error error => do
          Action.report ("  " ++ path ++ ": " ++ error.fullMessage ++ "\n")
          return path :: (← compileSources options directory sources)

/-- Builds a project. -/
def build (project : Project) : Action Unit := do
  let options ← Action.ofExcept (project.config.compileOptions.mapError .adapter)
  let sources ← Action.ofExcept (project.sources (← get).tree)
  let output := project.config.outputName
  Action.print ("Building '" ++ project.config.name ++ "' for " ++ output ++ "...\n")
  Action.print ("  Collected " ++ toString sources.length ++ " source files\n")
  prepareOutput project.outputDirectory
  let failed ← compileSources options project.outputDirectory sources
  let count := sources.length - failed.length
  Action.print ("\nBuild complete: " ++ toString count ++ " file(s) in "
    ++ project.config.out ++ "/" ++ output ++ "/\n")
  if !failed.isEmpty then throw (.failedSources failed)

/-- The project built for another host. -/
def withTarget (project : Project) (target : Option Target) : Project :=
  match target with
  | some target => { project with config := { project.config with target } }
  | none => project

/-- Builds the project in a directory, for another host if one is given. -/
def buildAt (root : String) (target : Option Target) : Action Unit := do
  let project ← Action.ofExcept (load (← get).tree root)
  (project.withTarget target).build

end LoopTemplate.Project
