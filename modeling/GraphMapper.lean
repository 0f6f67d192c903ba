import GraphMapper.Act
import GraphMapper.Calendar.Date
import GraphMapper.Calendar.DateTime
import GraphMapper.Calendar.Instant
import GraphMapper.Calendar.Iso
import GraphMapper.CommandLine.Command
import GraphMapper.CommandLine.Report
import GraphMapper.CommandLine.Table
import GraphMapper.Executor
import GraphMapper.Fault
import GraphMapper.Json.Reader
import GraphMapper.Json.Writer
import GraphMapper.Main
import GraphMapper.Markup.Basic
import GraphMapper.Markup.Colour
import GraphMapper.Markup.Literal
import GraphMapper.Markup.Style
import GraphMapper.Model.Declaration
import GraphMapper.Model.Definition
import GraphMapper.Model.Document
import GraphMapper.Model.Registry
import GraphMapper.Number.Binary64
import GraphMapper.Number.Decimal
import GraphMapper.Number.Numeral
import GraphMapper.Proofs.Query.Bindings
import GraphMapper.Proofs.Query.Expression
import GraphMapper.Proofs.Query.Layout
import GraphMapper.Proofs.Query.Naming
import GraphMapper.Proofs.Query.Template
import GraphMapper.Proofs.Query.Translation
import GraphMapper.Query.Filter
import GraphMapper.Query.Fragment
import GraphMapper.Query.Issue
import GraphMapper.Query.Naming
import GraphMapper.Query.Options
import GraphMapper.Query.Order
import GraphMapper.Query.Predicate
import GraphMapper.Query.Projection
import GraphMapper.Query.Statement
import GraphMapper.Repository.Basic
import GraphMapper.Repository.Dates
import GraphMapper.RunLog.Basic
import GraphMapper.RunLog.Entry
import GraphMapper.RunLog.Reading
import GraphMapper.RunLog.Span
import GraphMapper.Schema.Live
import GraphMapper.Schema.Migration
import GraphMapper.Schema.Plan
import GraphMapper.Schema.Requirement
import GraphMapper.Schema.Step
import GraphMapper.Server.Connection
import GraphMapper.Server.Migration
import GraphMapper.Server.Script
import GraphMapper.Settings.Basic
import GraphMapper.Settings.Environment
import GraphMapper.Settings.VariableFile
import GraphMapper.Text.Blank
import GraphMapper.Text.Case
import GraphMapper.Text.CaseTable
import GraphMapper.Text.Digit
import GraphMapper.Text.Half
import GraphMapper.Text.Layout
import GraphMapper.Text.Lines
import GraphMapper.Text.Parts
import GraphMapper.Text.Printable
import GraphMapper.Text.Quoted
import GraphMapper.Text.Ranges
import GraphMapper.Text.Shortcode
import GraphMapper.Text.ShortcodeTable
import GraphMapper.Text.Width
import GraphMapper.Text.WidthTable
import GraphMapper.Validation.Check
import GraphMapper.Validation.Issue
import GraphMapper.Value.Arguments
import GraphMapper.Value.Basic
import GraphMapper.Value.Display
import GraphMapper.Value.Shape
import GraphMapper.Yaml.Cursor
import GraphMapper.Yaml.Document
import GraphMapper.Yaml.Lexer
import GraphMapper.Yaml.Node
import GraphMapper.Yaml.Scalar
import GraphMapper.Yaml.Text
import GraphMapper.Yaml.Token
import GraphMapper.Proofs.Query.Drawing
import GraphMapper.Proofs.Query.Placeholders
import GraphMapper.Proofs.Query.Values
import GraphMapper.Proofs.Query.Collisions
import GraphMapper.Proofs.Query.Noninterference
import GraphMapper.Proofs.Query.Reader
import GraphMapper.Proofs.Query.Logic
import GraphMapper.Proofs.Query.Meaning
import GraphMapper.Proofs.Query.Restriction
import GraphMapper.Proofs.Query.Atoms
import GraphMapper.Proofs.Query.Strictness
import GraphMapper.Proofs.RunLog.Writing
import GraphMapper.Proofs.Schema.Pipeline
import GraphMapper.Proofs.Schema.Abort
import GraphMapper.Proofs.Schema.Recording
import GraphMapper.Proofs.Schema.Plan
import GraphMapper.Proofs.Schema.Items
import GraphMapper.Proofs.Schema.Rows
import GraphMapper.Proofs.Schema.Catalogue
import GraphMapper.Proofs.Schema.Memory
import GraphMapper.Proofs.Schema.Effects
import GraphMapper.Proofs.Schema.Convergence
import GraphMapper.Proofs.Schema.Transcript
import GraphMapper.Proofs.Schema.Chronicle
import GraphMapper.Proofs.Act.Outcomes
import GraphMapper.Proofs.Value.Entries
import GraphMapper.Proofs.Query.Selection
import GraphMapper.Proofs.Repository.Rows
import GraphMapper.Proofs.Repository.Errands
import GraphMapper.Proofs.Repository.Calls
import GraphMapper.Proofs.Repository.Identity
import GraphMapper.Proofs.Server.Exchanges
import GraphMapper.Proofs.Server.Lifecycle
import GraphMapper.Proofs.Results
import GraphMapper.Proofs.Act.Rules
import GraphMapper.Proofs.Value.Equality
import GraphMapper.Proofs.Schema.Declarations
import GraphMapper.Proofs.Schema.Overlap
import GraphMapper.Proofs.Server.Closing
import GraphMapper.Proofs.Model.Selection
import GraphMapper.Proofs.Schema.Approval
import GraphMapper.Proofs.Server.Approval
import GraphMapper.Proofs.Schema.Refusals
import GraphMapper.Proofs.Query.Grammar
import GraphMapper.Proofs.Number.Numeral
import GraphMapper.Proofs.Number.Rational
import GraphMapper.Proofs.Query.Counts
import GraphMapper.Proofs.Query.Pattern
import GraphMapper.Proofs.Query.Like
import GraphMapper.Proofs.Text.Trim
import GraphMapper.Proofs.Text.UpperCase
import GraphMapper.Proofs.Query.Entries
import GraphMapper.Proofs.Query.Sorting
import GraphMapper.Proofs.Query.Wording
import GraphMapper.Proofs.Query.NodeName
import GraphMapper.Proofs.Repository.Restoring
import GraphMapper.Proofs.Model.Loading
import GraphMapper.Proofs.RunLog.Ending
import GraphMapper.Proofs.Number.Rank
import GraphMapper.Proofs.Number.Rounding
import GraphMapper.Proofs.Number.Shortest
import GraphMapper.Proofs.Json.Numbers
import GraphMapper.Proofs.Json.Texts
import GraphMapper.Proofs.Json.Values
import GraphMapper.Proofs.RunLog.ReadingBack
import GraphMapper.Proofs.Query.Issuing
import GraphMapper.Proofs.Json.Reading
import GraphMapper.Proofs.CommandLine.Printing
import GraphMapper.Proofs.CommandLine.Telling
import GraphMapper.Proofs.CommandLine.Containment
