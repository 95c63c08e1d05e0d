import LoopTemplate.CommandLine.Help
import LoopTemplate.Project.Build

/-!
# Runs of the program

A run takes the arguments, the files and the directory it is called in; it gives the exit code,
what was printed, and the files afterwards.
-/

namespace LoopTemplate.CommandLine

open LoopTemplate.Files (FileError FileTree)
open LoopTemplate.Project (ProjectError Session buildAt)

/-- What a run leaves. -/
structure Outcome where
  exitCode : Nat
  output : String
  errors : String
  tree : FileTree
deriving DecidableEq, Inhabited

/-- Why a file cannot be compiled. -/
inductive CommandError where
  | unreadable (file : String) (error : FileError)
  | uncompiled (file : String) (error : CompileError)
deriving DecidableEq, Inhabited

/-- The wording of a failure. -/
def CommandError.message : CommandError → String
  | unreadable file error => "Failed to read " ++ file ++ ": " ++ error.message
  | uncompiled file error => "Failed to compile " ++ file ++ ": " ++ error.fullMessage

/-- The code of a file. The blanks around an expression are not part of it. -/
def compileText (options : CompileOptions) (expression : Bool) (source : String) :
    Except CompileError Compiled :=
  if expression then compileExpression options (Text.trim source)
  else compileModule options source

/-- The code of a file in a directory. -/
def compileFile (tree : FileTree) (directory file : String) (options : CompileOptions)
    (expression : Bool) : Except CommandError String := do
  let source ← (tree.readText (Files.join directory file)).mapError (.unreadable file)
  let compiled ← (compileText options expression source).mapError (.uncompiled file)
  return compiled.code

/-- A text with a line break at its end. -/
def withLineBreak (text : String) : String :=
  if text.toList.getLast? == some '\n' then text else text ++ "\n"

/-- The line that reports a failure. -/
def failureLine (message : String) : String := "Error: " ++ message ++ "\n"

/-- What a command does to the files, and what it prints. -/
def runCommand (tree : FileTree) (directory : String) : Command → Outcome
  | .compile file target policy expression minify =>
      match compileFile tree directory file ⟨target.adapter, policy, minify⟩ expression with
      | .ok code => ⟨0, withLineBreak code, "", tree⟩
      | .error error => ⟨1, "", failureLine error.message, tree⟩
  | .build target =>
      let (result, session) := (buildAt directory target).run (Session.start tree)
      match result with
      | .ok _ => ⟨0, session.output, session.errors, session.tree⟩
      | .error error =>
          ⟨1, session.output, session.errors ++ failureLine error.message, session.tree⟩

/-- The paths that a command looks at, as far as the files that are known tell. -/
def reach (tree : FileTree) (directory : String) : Command → List String
  | .compile file _ _ _ _ => [Files.join directory file]
  | .build target =>
      Files.join directory Project.configFile
        :: match Project.load tree directory with
          | .ok project =>
              [project.sourceDirectory, (project.withTarget target).outputDirectory]
          | .error _ => []

/-- What is printed if there is no command to run. -/
def runStop (tree : FileTree) : Stop → Outcome
  | .usage error =>
      ⟨2, "", error.message ++ "\n\nFor more information, try '--help'.\n", tree⟩
  | .help topic => ⟨0, topic.text, "", tree⟩
  | .version => ⟨0, versionText, "", tree⟩
  | .nothing => ⟨2, "", Topic.program.text, tree⟩

/-- Runs the program in a directory. -/
def run (tree : FileTree) (directory : String) (arguments : List String) : Outcome :=
  match parseArguments arguments with
  | .ok invocation => runCommand tree directory invocation.command
  | .error stop => runStop tree stop

end LoopTemplate.CommandLine
