import RaggedTables.Browser.Page
import RaggedTables.Browser.Run
import RaggedTables.Browser.Session
import RaggedTables.CommandLine.Arguments
import RaggedTables.CommandLine.Commands
import RaggedTables.CommandLine.Program
import RaggedTables.CommandLine.Shell
import RaggedTables.CommandLine.Usage
import RaggedTables.Console.Analysis
import RaggedTables.Console.Box
import RaggedTables.Console.Colour
import RaggedTables.Console.Inspect
import RaggedTables.Csv.Document
import RaggedTables.Csv.Entry
import RaggedTables.Csv.Field
import RaggedTables.Csv.Flat
import RaggedTables.Csv.Options
import RaggedTables.Fault
import RaggedTables.Fields
import RaggedTables.Files.Path
import RaggedTables.Files.Tree
import RaggedTables.Files.Utf8
import RaggedTables.Files.Values
import RaggedTables.Header.Basic
import RaggedTables.Header.Compile
import RaggedTables.Header.Template
import RaggedTables.Json.Reader
import RaggedTables.Json.Writer
import RaggedTables.Main
import RaggedTables.Markup.Building
import RaggedTables.Markup.Closing
import RaggedTables.Markup.Fragment
import RaggedTables.Markup.Order
import RaggedTables.Markup.Reference
import RaggedTables.Markup.Token
import RaggedTables.Markup.Tree
import RaggedTables.Markup.Writer
import RaggedTables.Number.Decimal
import RaggedTables.Number.Shortest
import RaggedTables.Page.Element
import RaggedTables.Page.Lookup
import RaggedTables.Pattern.Compiled
import RaggedTables.Pattern.Expr
import RaggedTables.Pattern.Fault
import RaggedTables.Pattern.Matching
import RaggedTables.Pattern.Node
import RaggedTables.Pattern.Reader
import RaggedTables.Proofs.Csv.Alignment
import RaggedTables.Proofs.Csv.Expansion
import RaggedTables.Proofs.Csv.Workspace
import RaggedTables.Proofs.Fields
import RaggedTables.Proofs.Outcome
import RaggedTables.Proofs.Record.Columns
import RaggedTables.Record.Assembly
import RaggedTables.Record.Reshape
import RaggedTables.Selector.Basic
import RaggedTables.Selector.Matching
import RaggedTables.Selector.Reader
import RaggedTables.Selector.Token
import RaggedTables.Settings.Duration
import RaggedTables.Settings.Model
import RaggedTables.Settings.Reading
import RaggedTables.Table.BodyRows
import RaggedTables.Table.Cells
import RaggedTables.Table.Grid
import RaggedTables.Table.Records
import RaggedTables.Text.Ansi
import RaggedTables.Text.Blank
import RaggedTables.Text.CaseMap
import RaggedTables.Text.CharacterName
import RaggedTables.Text.Clean
import RaggedTables.Text.CodeRange
import RaggedTables.Text.Letter
import RaggedTables.Text.Percent
import RaggedTables.Text.Pieces
import RaggedTables.Text.Printable
import RaggedTables.Text.Quoted
import RaggedTables.Text.Similarity
import RaggedTables.Trace.Basic
import RaggedTables.Trace.Program
import RaggedTables.Trace.Tracer
import RaggedTables.Value
import RaggedTables.Value.Brief
import RaggedTables.Value.Cleaned
import RaggedTables.Value.Layout
import RaggedTables.Value.Order
import RaggedTables.Value.Shown
import RaggedTables.Web.Address
import RaggedTables.Web.Fetcher
import RaggedTables.Web.Site
import RaggedTables.XPath.Axis
import RaggedTables.XPath.Evaluation
import RaggedTables.XPath.Expr
import RaggedTables.XPath.Number
import RaggedTables.XPath.Reader
import RaggedTables.Proofs.Csv.Blocks
import RaggedTables.Proofs.Csv.Decoding
import RaggedTables.Proofs.Header.Grammar
import RaggedTables.Proofs.Header.Search
import RaggedTables.Proofs.Csv.RaggedRows
import RaggedTables.Proofs.Markup.Order
import RaggedTables.Proofs.Markup.Tree
import RaggedTables.Proofs.Table.BodyRows
import RaggedTables.Proofs.XPath.Steps
import RaggedTables.Proofs.Table.BodyPath
import RaggedTables.Proofs.Table.Records
import RaggedTables.Proofs.Table.Standing
import RaggedTables.Proofs.Table.ImpliedBodies
import RaggedTables.Proofs.Files.Utf8
import RaggedTables.Proofs.Files.Path
import RaggedTables.Proofs.Files.Tree
import RaggedTables.Proofs.Web.CacheName
import RaggedTables.Proofs.Web.Fetching
import RaggedTables.Proofs.Web.Runs
import RaggedTables.Proofs.Web.Answers
import RaggedTables.Proofs.Table.Batch
import RaggedTables.Proofs.Csv.Agreement
import RaggedTables.Proofs.Trace.Recording
import RaggedTables.Proofs.Table.Recording
import RaggedTables.Proofs.Browser.Lifecycle
import RaggedTables.Proofs.Web.Footprint
import RaggedTables.Proofs.CommandLine.Actions
import RaggedTables.Proofs.CommandLine.Calls
import RaggedTables.Proofs.CommandLine.Delivery
import RaggedTables.Proofs.Record.Failing
import RaggedTables.Proofs.Record.TextCells
import RaggedTables.Proofs.Record.Mapping
import RaggedTables.Proofs.Json.Writing
import RaggedTables.Proofs.Table.TextRows
import RaggedTables.Proofs.CommandLine.Explained
import RaggedTables.Proofs.CommandLine.Escaping
import RaggedTables.Proofs.Csv.Accumulation
import RaggedTables.Proofs.Csv.Objects
import RaggedTables.Proofs.Page.Parsing
import RaggedTables.Proofs.Pattern.Remainders
import RaggedTables.Proofs.Pattern.ControlSequences
import RaggedTables.Proofs.Pattern.Reading
import RaggedTables.Proofs.Header.Refusal
import RaggedTables.Proofs.Header.Rendering
import RaggedTables.Proofs.Csv.Appending
import RaggedTables.Proofs.Csv.FlatReading
import RaggedTables.Proofs.Csv.Acceptance
import RaggedTables.Proofs.Text.Cleaning
import RaggedTables.Proofs.Markup.Remarks
import RaggedTables.Proofs.Table.Remarks
import RaggedTables.Proofs.Table.Grid
import RaggedTables.Proofs.XPath.Answers
import RaggedTables.Proofs.XPath.Texts
import RaggedTables.Proofs.Markup.Writing
import RaggedTables.Proofs.Markup.Token
import RaggedTables.Proofs.Markup.Building
import RaggedTables.Proofs.Markup.Between
import RaggedTables.Proofs.Text.Sequences
import RaggedTables.Proofs.Number.Digits
import RaggedTables.Proofs.Console.Colours
import RaggedTables.Proofs.Console.Box
import RaggedTables.Proofs.Files.Rereading
import RaggedTables.Proofs.Web.Rereading
import RaggedTables.Proofs.Json.Scalars
import RaggedTables.Proofs.Json.Restoring
import RaggedTables.Proofs.Files.Agreement
import RaggedTables.Proofs.Web.Confinement
import RaggedTables.Proofs.Trace.Contexts
import RaggedTables.Proofs.Trace.Retelling
import RaggedTables.Proofs.Browser.CurrentPage
import RaggedTables.Proofs.Record.GridRecords
import RaggedTables.Proofs.Csv.Rearranging
import RaggedTables.Proofs.Selector.Scanning
import RaggedTables.Proofs.Selector.Tokens
import RaggedTables.Proofs.Selector.Compounds
import RaggedTables.Proofs.Selector.Chains
import RaggedTables.Proofs.Selector.Children
import RaggedTables.Proofs.Console.Analysis
