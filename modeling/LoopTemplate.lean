import LoopTemplate.CommandLine.Arguments
import LoopTemplate.CommandLine.Help
import LoopTemplate.CommandLine.Run
import LoopTemplate.Compile
import LoopTemplate.Files.Difference
import LoopTemplate.Files.Path
import LoopTemplate.Files.Tree
import LoopTemplate.Grammar.Class
import LoopTemplate.Grammar.Cursor
import LoopTemplate.Grammar.Expression
import LoopTemplate.Grammar.Fault
import LoopTemplate.Grammar.Function
import LoopTemplate.Grammar.Literal
import LoopTemplate.Grammar.Markup
import LoopTemplate.Grammar.Module
import LoopTemplate.Grammar.Name
import LoopTemplate.Grammar.Operand
import LoopTemplate.Grammar.Pattern
import LoopTemplate.Grammar.Program
import LoopTemplate.Grammar.Statement
import LoopTemplate.Grammar.Target
import LoopTemplate.Json.Decode
import LoopTemplate.Json.Literal
import LoopTemplate.Json.Reader
import LoopTemplate.Json.Skip
import LoopTemplate.Json.Value
import LoopTemplate.Loop.Adapter
import LoopTemplate.Loop.Capture
import LoopTemplate.Loop.Event
import LoopTemplate.Loop.Frame
import LoopTemplate.Loop.Iteration
import LoopTemplate.Loop.Names
import LoopTemplate.Loop.Rewrite
import LoopTemplate.Loop.Shape
import LoopTemplate.Loop.Snippet
import LoopTemplate.Main
import LoopTemplate.Number.Compact
import LoopTemplate.Number.Double
import LoopTemplate.Number.Shortest
import LoopTemplate.Print.Expression
import LoopTemplate.Print.Function
import LoopTemplate.Print.Markup
import LoopTemplate.Print.Module
import LoopTemplate.Print.Output
import LoopTemplate.Print.Pattern
import LoopTemplate.Print.Piece
import LoopTemplate.Print.Program
import LoopTemplate.Print.Quoted
import LoopTemplate.Print.Statement
import LoopTemplate.Project.Basic
import LoopTemplate.Project.Build
import LoopTemplate.Project.Config
import LoopTemplate.Proofs.Comparison
import LoopTemplate.Proofs.Compilation
import LoopTemplate.Proofs.Corresponding
import LoopTemplate.Proofs.Declared
import LoopTemplate.Proofs.Expansion
import LoopTemplate.Proofs.Failure
import LoopTemplate.Proofs.Flattening
import LoopTemplate.Proofs.Hygiene
import LoopTemplate.Proofs.Kept
import LoopTemplate.Proofs.LoopElement
import LoopTemplate.Proofs.Mapping
import LoopTemplate.Proofs.Names
import LoopTemplate.Proofs.Nesting
import LoopTemplate.Proofs.Nodes
import LoopTemplate.Proofs.Parsing.Expressions
import LoopTemplate.Proofs.Parsing.Functions
import LoopTemplate.Proofs.Parsing.Operands
import LoopTemplate.Proofs.Parsing.Readers
import LoopTemplate.Proofs.Parsing.Regular
import LoopTemplate.Proofs.Parsing.Statements
import LoopTemplate.Proofs.Parsing.Words
import LoopTemplate.Proofs.Policies
import LoopTemplate.Proofs.Reading.AttributeName
import LoopTemplate.Proofs.Reading.Cursor
import LoopTemplate.Proofs.Reading.Markup
import LoopTemplate.Proofs.Reading.Name
import LoopTemplate.Proofs.Reading.Object
import LoopTemplate.Proofs.Reading.Parameters
import LoopTemplate.Proofs.Reading.Snippet
import LoopTemplate.Proofs.Reading.Spelling
import LoopTemplate.Proofs.Reading.Word
import LoopTemplate.Proofs.Resolution
import LoopTemplate.Proofs.RewrittenList
import LoopTemplate.Proofs.SameBut
import LoopTemplate.Proofs.Scoping
import LoopTemplate.Proofs.Settling
import LoopTemplate.Proofs.Shadowing
import LoopTemplate.Proofs.Siblings
import LoopTemplate.Proofs.Sites
import LoopTemplate.Proofs.Surroundings
import LoopTemplate.Proofs.Targets
import LoopTemplate.Proofs.TemplateLoop
import LoopTemplate.Proofs.Threading
import LoopTemplate.Proofs.Trace
import LoopTemplate.Proofs.Undo
import LoopTemplate.Service
import LoopTemplate.Text.Blank
import LoopTemplate.Text.Identifier
import LoopTemplate.Text.IdentifierTable
import LoopTemplate.Text.Position
import LoopTemplate.Text.Split
import LoopTemplate.Token.Basic
import LoopTemplate.Token.Gap
import LoopTemplate.Token.Numeral
import LoopTemplate.Token.Quoted
import LoopTemplate.Token.Rest
import LoopTemplate.Token.Scan
import LoopTemplate.Token.Word
import LoopTemplate.Tree.Node
import LoopTemplate.Tree.Operator
import LoopTemplate.Proofs.Addresses
import LoopTemplate.Proofs.Moments
import LoopTemplate.Proofs.Accounting
import LoopTemplate.Proofs.Files.Edits
import LoopTemplate.Proofs.Project.Building
import LoopTemplate.Proofs.Project.Sources
import LoopTemplate.Proofs.Project.Confinement
import LoopTemplate.Proofs.Project.Preservation
import LoopTemplate.Proofs.Text.ByteOrder
import LoopTemplate.Proofs.Text.Position
import LoopTemplate.Proofs.Project.Output
import LoopTemplate.Proofs.Json.Quoted
import LoopTemplate.Proofs.Json.Record
import LoopTemplate.Proofs.Responses
import LoopTemplate.Proofs.FreeNames
import LoopTemplate.Proofs.Sight
import LoopTemplate.Proofs.InnerLists
import LoopTemplate.Proofs.Trimming
import LoopTemplate.Proofs.Restriction
import LoopTemplate.Proofs.Recognition
import LoopTemplate.Proofs.CallbackParameters
import LoopTemplate.Proofs.Json.Pretty
import LoopTemplate.Proofs.Project.Configuration
import LoopTemplate.Proofs.Adapters
import LoopTemplate.Proofs.Project.Refusal
import LoopTemplate.Proofs.Reporting
