import FilterQuery.Command.Arguments
import FilterQuery.Command.Log
import FilterQuery.Command.Session
import FilterQuery.Command.Usage
import FilterQuery.Compiler
import FilterQuery.Config.Discovery
import FilterQuery.Config.File
import FilterQuery.Config.Keys
import FilterQuery.Config.Log
import FilterQuery.Config.Merged
import FilterQuery.Config.Printed
import FilterQuery.Config.Template
import FilterQuery.Config.Warning
import FilterQuery.FileTree
import FilterQuery.Filter.Calendar
import FilterQuery.Filter.Clause
import FilterQuery.Filter.Format
import FilterQuery.Filter.Predicate
import FilterQuery.Json
import FilterQuery.Key.Changes
import FilterQuery.Key.Rule
import FilterQuery.Key.Table
import FilterQuery.Main
import FilterQuery.NameMap
import FilterQuery.Path
import FilterQuery.Proofs.Command.Checking
import FilterQuery.Proofs.Command.Initializing
import FilterQuery.Proofs.Compiler.Excerpt
import FilterQuery.Proofs.Compiler.Leaves
import FilterQuery.Proofs.Compiler.Listing
import FilterQuery.Proofs.Compiler.Meaning
import FilterQuery.Proofs.Compiler.NestingLimit
import FilterQuery.Proofs.Compiler.Parentheses
import FilterQuery.Proofs.Compiler.Steps
import FilterQuery.Proofs.Config.Blank
import FilterQuery.Proofs.Config.Discovery
import FilterQuery.Proofs.Config.Keys
import FilterQuery.Proofs.Config.Merging
import FilterQuery.Proofs.Config.Printing
import FilterQuery.Proofs.Config.Queryable
import FilterQuery.Proofs.Config.Search
import FilterQuery.Proofs.FileTree
import FilterQuery.Proofs.Filter.Dates
import FilterQuery.Proofs.Filter.Faithful
import FilterQuery.Proofs.Filter.Integers
import FilterQuery.Proofs.Filter.Meaning
import FilterQuery.Proofs.Json
import FilterQuery.Proofs.Key.History
import FilterQuery.Proofs.Key.Summaries
import FilterQuery.Proofs.Outcome
import FilterQuery.Proofs.Query.Balance
import FilterQuery.Proofs.Query.Canonical
import FilterQuery.Proofs.Query.Caret
import FilterQuery.Proofs.Query.Derivation
import FilterQuery.Proofs.Query.Descent
import FilterQuery.Proofs.Query.Descent.Leading
import FilterQuery.Proofs.Query.Descent.Order
import FilterQuery.Proofs.Query.Descent.Recursion
import FilterQuery.Proofs.Query.Descent.Room
import FilterQuery.Proofs.Query.Descent.Trace
import FilterQuery.Proofs.Query.FaultPlace
import FilterQuery.Proofs.Query.Grammar
import FilterQuery.Proofs.Query.Hints
import FilterQuery.Proofs.Query.Joining
import FilterQuery.Proofs.Query.Layout
import FilterQuery.Proofs.Query.Listing
import FilterQuery.Proofs.Query.NestingLimit
import FilterQuery.Proofs.Query.Parentheses
import FilterQuery.Proofs.Query.QueryEnd
import FilterQuery.Proofs.Query.Scanning
import FilterQuery.Proofs.Query.Spacing
import FilterQuery.Proofs.Query.Step
import FilterQuery.Proofs.Query.StrayCharacter
import FilterQuery.Proofs.Query.ViablePrefix
import FilterQuery.Proofs.Terminal.Highlighting
import FilterQuery.Proofs.Terminal.Stripping
import FilterQuery.Proofs.Text.Decimal
import FilterQuery.Proofs.Text.Outline
import FilterQuery.Proofs.Toml.Lines
import FilterQuery.Proofs.Toml.Strings
import FilterQuery.Proofs.Toml.Tables
import FilterQuery.Query.Fault
import FilterQuery.Query.Reading
import FilterQuery.Query.Reading.Steps
import FilterQuery.Query.Token
import FilterQuery.Query.Token.Scan
import FilterQuery.Query.Tree
import FilterQuery.Query.Tree.Printed
import FilterQuery.Terminal.Style
import FilterQuery.Terminal.Table
import FilterQuery.Text.Blank
import FilterQuery.Text.CharWidth
import FilterQuery.Text.Decimal
import FilterQuery.Text.Emoji
import FilterQuery.Text.Ligature
import FilterQuery.Text.Lines
import FilterQuery.Text.Quoted
import FilterQuery.Text.Ranges
import FilterQuery.Text.Search
import FilterQuery.Text.Split
import FilterQuery.Text.Unprintable
import FilterQuery.Text.Width
import FilterQuery.Toml.Document
import FilterQuery.Toml.Quoted
import FilterQuery.Toml.Scalar
import FilterQuery.Toml.Table
import FilterQuery.Toml.Value
import FilterQuery.Toml.Written
