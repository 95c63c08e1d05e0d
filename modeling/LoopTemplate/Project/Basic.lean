import LoopTemplate.Files.Tree
import LoopTemplate.Project.Config

/-!
# Projects

A project is a directory with a configuration in it. Its sources are the script files below its
source directory; its output goes to a directory named for the host.
-/

namespace LoopTemplate.Project

open LoopTemplate.Files (Entry FileError FileTree Location)
open LoopTemplate.Json (DecodeError)
open LoopTemplate.Loop (AdapterError)

/-- The name of the file that configures a project. -/
def configFile : String := "jsx2mp.json"

/-- Why a project cannot be used. -/
inductive ProjectError where
  | noConfig
  | unreadableConfig (error : FileError)
  | invalidConfig (error : DecodeError)
  | adapter (error : AdapterError)
  /-- The source directory is missing. -/
  | noSources (directory : String)
  | unreadableSource (path : String) (error : FileError)
  /-- A file operation failed. -/
  | file (error : FileError)
  /-- Sources that could not be compiled. -/
  | failedSources (names : List String)
deriving DecidableEq, Inhabited

/-- The wording of a failure. -/
def ProjectError.message : ProjectError → String
  | noConfig => "No " ++ configFile ++ " found. Are you in a jsx2mp project directory?"
  | unreadableConfig error => "Failed to read " ++ configFile ++ ": " ++ error.message
  | invalidConfig error => "Failed to parse " ++ configFile ++ ": " ++ error.message
  | adapter error => error.message
  | noSources directory => "No " ++ directory ++ "/ directory found."
  | unreadableSource path error => "Failed to read " ++ path ++ ": " ++ error.message
  | file error => error.message
  | failedSources names =>
      toString names.length ++ " file(s) failed to compile: " ++ ", ".intercalate names

end LoopTemplate.Project

namespace LoopTemplate

/-- A directory and its configuration. -/
structure Project where
  root : String
  config : Project.Config
deriving DecidableEq, Inhabited

end LoopTemplate

namespace LoopTemplate.Project

open LoopTemplate.Files (Entry FileError FileTree Location)

/-- The project in a directory. -/
def load (tree : FileTree) (root : String) : Except ProjectError Project := do
  let path := Files.join root configFile
  if !tree.has path then throw .noConfig
  let text ← (tree.readText path).mapError .unreadableConfig
  let config ← (Config.parse text).mapError .invalidConfig
  return ⟨root, config⟩

/-- The directory of the sources. -/
def sourceDirectory (project : Project) : String := Files.join project.root project.config.src

/-- The directory of the output. -/
def outputDirectory (project : Project) : String :=
  Files.join (Files.join project.root project.config.out) project.config.outputName

/-! ## Sources -/

/-- Sources by their paths below the source directory, in the order of the paths. -/
abbrev Sources := List (String × String)

/-- A file that is a source by its name. -/
def isSourceName (name : String) : Bool :=
  match Files.extension? name with
  | some extension => extension == "js" || extension == "jsx"
  | none => false

/-- Whether an entry below the source directory is a source. -/
def isSource (entry : Location × Entry) : Bool :=
  match entry.2, entry.1.getLast? with
  | .directory, _ => false
  | _, some name => isSourceName name
  | _, none => false

/-- Adds a source in the order of the paths; a source with the same path gives way. -/
def insertSource (path content : String) : Sources → Sources
  | [] => [(path, content)]
  | source :: sources =>
      if path < source.1 then (path, content) :: source :: sources
      else if path = source.1 then (path, content) :: sources
      else source :: insertSource path content sources

/-- Reads the sources among the entries below a directory. A source goes by the path of its names,
each of which is a text, so two files never go by one path unless a name has a backslash. -/
def readSources (directory : String) : List (Location × Entry) → Except ProjectError Sources
  | [] => .ok []
  | entry :: entries => do
      if isSource entry then
        match entry.2 with
        | .text content =>
            let sources ← readSources directory entries
            return insertSource (Files.withSlashes (Files.ofNames entry.1)) content sources
        | _ =>
            throw (.unreadableSource (Files.join directory (Files.ofNames entry.1)) .notText)
      else readSources directory entries

/-- All sources of a project. -/
def sources (project : Project) (tree : FileTree) : Except ProjectError Sources := do
  let directory := project.sourceDirectory
  if !tree.has directory then throw (.noSources project.config.src)
  let entries ← (tree.list directory).mapError .file
  readSources directory entries

end LoopTemplate.Project
