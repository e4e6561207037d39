import ServerLink.Build
import ServerLink.Course
import ServerLink.Discovery
import ServerLink.Edit
import ServerLink.Failure
import ServerLink.Files.Path
import ServerLink.Files.Resolve
import ServerLink.Files.Tree
import ServerLink.Functions
import ServerLink.Generated
import ServerLink.ImportedFunctions
import ServerLink.Imports
import ServerLink.Json.Cursor
import ServerLink.Json.Number
import ServerLink.Json.Record
import ServerLink.Json.Text
import ServerLink.Json.Value
import ServerLink.Module
import ServerLink.Options
import ServerLink.Options.Reader
import ServerLink.Passes
import ServerLink.Pattern.Bracket
import ServerLink.Pattern.CaseFold
import ServerLink.Pattern.Category
import ServerLink.Pattern.CharSet
import ServerLink.Pattern.Compile
import ServerLink.Pattern.Cursor
import ServerLink.Pattern.Element
import ServerLink.Pattern.Expr
import ServerLink.Pattern.Property
import ServerLink.Pattern.Script
import ServerLink.Proofs.Agreement
import ServerLink.Proofs.Aliases
import ServerLink.Proofs.Alignment
import ServerLink.Proofs.Appending
import ServerLink.Proofs.Bodies
import ServerLink.Proofs.CallSites
import ServerLink.Proofs.Candidates
import ServerLink.Proofs.ClientCode
import ServerLink.Proofs.ContextParameters
import ServerLink.Proofs.Courses
import ServerLink.Proofs.Cuts
import ServerLink.Proofs.Declaring
import ServerLink.Proofs.Dispatch
import ServerLink.Proofs.Excision
import ServerLink.Proofs.Exports
import ServerLink.Proofs.Finds
import ServerLink.Proofs.Histories
import ServerLink.Proofs.Hollow
import ServerLink.Proofs.Identifiers
import ServerLink.Proofs.Items
import ServerLink.Proofs.Layout
import ServerLink.Proofs.LeadingMark
import ServerLink.Proofs.LineEnds.Classes
import ServerLink.Proofs.LineEnds.Expressions
import ServerLink.Proofs.LineEnds.Functions
import ServerLink.Proofs.LineEnds.Goals
import ServerLink.Proofs.LineEnds.Markup
import ServerLink.Proofs.LineEnds.ModuleItems
import ServerLink.Proofs.LineEnds.Modules
import ServerLink.Proofs.LineEnds.Names
import ServerLink.Proofs.LineEnds.Scanning
import ServerLink.Proofs.LineEnds.Scripts
import ServerLink.Proofs.LineEnds.Statements
import ServerLink.Proofs.LineEnds.Steps
import ServerLink.Proofs.LineEnds.Texts
import ServerLink.Proofs.LineEnds.Tokens
import ServerLink.Proofs.LineEnds.Types
import ServerLink.Proofs.LineEnds.Widening
import ServerLink.Proofs.LocalNames
import ServerLink.Proofs.Mappings
import ServerLink.Proofs.Matching
import ServerLink.Proofs.Mentions
import ServerLink.Proofs.Origins
import ServerLink.Proofs.Outcomes
import ServerLink.Proofs.OwnFunctions
import ServerLink.Proofs.Parsing.Arrows
import ServerLink.Proofs.Parsing.Classes
import ServerLink.Proofs.Parsing.Cursors
import ServerLink.Proofs.Parsing.Declarations
import ServerLink.Proofs.Parsing.Expressions
import ServerLink.Proofs.Parsing.Functions
import ServerLink.Proofs.Parsing.Goals
import ServerLink.Proofs.Parsing.ImportNames
import ServerLink.Proofs.Parsing.Kinds
import ServerLink.Proofs.Parsing.Markup
import ServerLink.Proofs.Parsing.ModuleItems
import ServerLink.Proofs.Parsing.Patterns
import ServerLink.Proofs.Parsing.Scripts
import ServerLink.Proofs.Parsing.Statements
import ServerLink.Proofs.Parsing.Steps
import ServerLink.Proofs.Parsing.Tails
import ServerLink.Proofs.Parsing.Types
import ServerLink.Proofs.PathSpelling
import ServerLink.Proofs.Placement
import ServerLink.Proofs.Places
import ServerLink.Proofs.Printer
import ServerLink.Proofs.Provenance
import ServerLink.Proofs.QuotedIds
import ServerLink.Proofs.Recorded
import ServerLink.Proofs.Registering
import ServerLink.Proofs.Registration
import ServerLink.Proofs.RelativeFiles
import ServerLink.Proofs.Renaming
import ServerLink.Proofs.Reordering
import ServerLink.Proofs.Replaced
import ServerLink.Proofs.Rows
import ServerLink.Proofs.Searches
import ServerLink.Proofs.Skipping
import ServerLink.Proofs.Slices
import ServerLink.Proofs.Spelling.Expressions
import ServerLink.Proofs.Spelling.Statements
import ServerLink.Proofs.Spelling.Steps
import ServerLink.Proofs.Spelling.Stubs
import ServerLink.Proofs.Spelling.Tokens
import ServerLink.Proofs.Splice
import ServerLink.Proofs.StringLiterals
import ServerLink.Proofs.StubModule
import ServerLink.Proofs.StubTargets
import ServerLink.Proofs.Tracing
import ServerLink.Proofs.TypeNames
import ServerLink.Proofs.Walk
import ServerLink.Proofs.WholeWords
import ServerLink.Proofs.Words
import ServerLink.Registry
import ServerLink.Rename
import ServerLink.Rewrite
import ServerLink.Salt
import ServerLink.Script.Goal
import ServerLink.Script.Grammar
import ServerLink.Script.Grammar.Class
import ServerLink.Script.Grammar.Expression
import ServerLink.Script.Grammar.Function
import ServerLink.Script.Grammar.Markup
import ServerLink.Script.Grammar.ModuleItem
import ServerLink.Script.Grammar.Statement
import ServerLink.Script.Grammar.TypeExpr
import ServerLink.Script.Pattern
import ServerLink.Script.Reader
import ServerLink.Script.Scanner
import ServerLink.Script.Scope
import ServerLink.Script.Token
import ServerLink.Script.Tree
import ServerLink.Session
import ServerLink.SourceMap
import ServerLink.Text.Base64
import ServerLink.Text.CharClass
import ServerLink.Text.Decimal
import ServerLink.Text.Offset
import ServerLink.Text.Position
import ServerLink.Text.Quoted
import ServerLink.Transform
