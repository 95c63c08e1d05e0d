import LoopTemplate.Loop.Rewrite
import LoopTemplate.Print.Program
import LoopTemplate.Text.Position

/-!
# Compilation

A source is read, its mapped lists are rewritten, and the result is printed.
-/

namespace LoopTemplate

open LoopTemplate.Loop (Adapter Event MergePolicy RewriteError RewriteRules Target)
open LoopTemplate.Tree (Form Node)

/-- How a source is compiled. -/
structure CompileOptions where
  adapter : Adapter
  policy : MergePolicy
  /-- Print without white space. -/
  minify : Bool
deriving DecidableEq, Inhabited

namespace CompileOptions

/-- The options for a host, with the default policy and white space. -/
def ofTarget (target : Target) : CompileOptions := ⟨target.adapter, .flatten, false⟩

/-- How lists are rewritten. -/
def rewriteRules (options : CompileOptions) : RewriteRules := ⟨options.adapter, options.policy⟩

end CompileOptions

/-- Why a source cannot be compiled, and where. -/
inductive CompileError where
  | parse (message : String) (position : Text.Position)
  | transform (error : RewriteError) (position : Text.Position)
deriving DecidableEq, Inhabited

namespace CompileError

/-- A position as messages give it. -/
def place (position : Text.Position) : String :=
  toString position.line ++ ":" ++ toString position.column

/-- The wording of an error. -/
def message : CompileError → String
  | parse message position => "parse error at " ++ place position ++ ": " ++ message
  | transform error position =>
      "list transform failed at " ++ place position ++ ": " ++ error.message

/-- The wording of an error with its cause after it, if it has one. -/
def fullMessage (error : CompileError) : String :=
  match error with
  | parse _ _ => error.message
  | transform cause _ => error.message ++ ": " ++ cause.message

/-- The error of a text that is no program. -/
def ofFault (source : List Char) (fault : Grammar.Fault) : CompileError :=
  .parse fault.cause.message (Text.positionAt source fault.offset)

/-- The error of a tree that cannot be rewritten. -/
def ofRewrite (source : List Char) (error : RewriteError) : CompileError :=
  .transform error (Text.positionAt source error.offset)

end CompileError

/-! ## Reading -/

/-- Reads one expression. -/
def readExpression (source : String) : Except CompileError Node :=
  (Grammar.readExpression source.toList).mapError (.ofFault source.toList)

/-- Reads a module. -/
def readModule (source : String) : Except CompileError Grammar.Module :=
  (Grammar.readModule source.toList).mapError (.ofFault source.toList)

/-! ## Compiling -/

/-- The result of a compilation: the code, and what was reported. -/
structure Compiled where
  code : String
  events : List Event
deriving DecidableEq, Inhabited

/-- Whether a node is a directive. -/
def isDirective (node : Node) : Bool :=
  match node.form with
  | .directive _ => true
  | _ => false

/-- How many statements a module has, its directives not counted. -/
def statementCount (tree : Node) : Nat :=
  (tree.parts.filter fun node => !isDirective node).length

/-- Rewrites the lists of a tree that was read from a source. -/
def rewriteTree (rules : RewriteRules) (source : String) (tree : Node) :
    Except CompileError Loop.Rewritten :=
  (Loop.rewrite rules tree).mapError (.ofRewrite source.toList)

/-- Compiles one expression. -/
def compileExpression (options : CompileOptions) (source : String) :
    Except CompileError Compiled := do
  let tree ← readExpression source
  let rewritten ← rewriteTree options.rewriteRules source tree
  return {
    code := Print.printExpression options.minify rewritten.tree
    events := rewritten.events ++ [.compiledExpression options.adapter.collection] }

/-- Compiles a module. -/
def compileModule (options : CompileOptions) (source : String) : Except CompileError Compiled := do
  let module ← readModule source
  let rewritten ← rewriteTree options.rewriteRules source module.tree
  let count := statementCount rewritten.tree
  return {
    code := Print.printModule options.minify { module with tree := rewritten.tree }
    events := rewritten.events ++ [.compiledModule options.adapter.collection count] }

/-- Compiles one expression or a module. -/
def compile (options : CompileOptions) (expression : Bool) (source : String) :
    Except CompileError Compiled :=
  if expression then compileExpression options source else compileModule options source

end LoopTemplate
