import Hypertag.Command.Arguments
import Hypertag.Command.Manual
import Hypertag.Command.Options
import Hypertag.Command.Outcome
import Hypertag.Command.Run
import Hypertag.Config.Basic
import Hypertag.Config.File
import Hypertag.Config.Validation
import Hypertag.Journal.Basic
import Hypertag.Journal.Calendar
import Hypertag.Journal.Conversion
import Hypertag.Journal.Dates
import Hypertag.Journal.Layout
import Hypertag.Journal.Record
import Hypertag.Json.Reader
import Hypertag.Json.Writer
import Hypertag.Main
import Hypertag.Pattern.Basic
import Hypertag.Pattern.Extent
import Hypertag.Pattern.Matcher
import Hypertag.Pattern.Reader
import Hypertag.Pattern.Replacement
import Hypertag.Proofs.Command.Arguments
import Hypertag.Proofs.Command.Leading
import Hypertag.Proofs.Command.Logging
import Hypertag.Proofs.Command.ParseRun
import Hypertag.Proofs.Command.Segments
import Hypertag.Proofs.Command.SplitRun
import Hypertag.Proofs.Command.WordRun
import Hypertag.Proofs.Config.Saving
import Hypertag.Proofs.Config.Storing
import Hypertag.Proofs.Journal.Delivery
import Hypertag.Proofs.Journal.Reach
import Hypertag.Proofs.Journal.Setup
import Hypertag.Proofs.Json.Emission
import Hypertag.Proofs.Json.Nesting
import Hypertag.Proofs.Json.RoundTrip
import Hypertag.Proofs.Json.Strings
import Hypertag.Proofs.Pattern.Escape
import Hypertag.Proofs.Pattern.Run
import Hypertag.Proofs.Results
import Hypertag.Proofs.Scan.Cuts
import Hypertag.Proofs.Scan.Division
import Hypertag.Proofs.Scan.Literal
import Hypertag.Proofs.Scan.Measures
import Hypertag.Proofs.Scan.Pieces
import Hypertag.Proofs.Scan.Runs
import Hypertag.Proofs.Scan.Search
import Hypertag.Proofs.Scan.Trim
import Hypertag.Proofs.Selector.Compound
import Hypertag.Proofs.Selector.Document
import Hypertag.Proofs.Selector.Ends
import Hypertag.Proofs.Selector.Grouping
import Hypertag.Proofs.Selector.Joining
import Hypertag.Proofs.Selector.Meaning
import Hypertag.Proofs.Selector.Members
import Hypertag.Proofs.Selector.Names
import Hypertag.Proofs.Selector.Outcome
import Hypertag.Proofs.Selector.Parts
import Hypertag.Proofs.Selector.Passes
import Hypertag.Proofs.Selector.Range
import Hypertag.Proofs.Selector.RoundTrip
import Hypertag.Proofs.Selector.SameTokens
import Hypertag.Proofs.Selector.Shape
import Hypertag.Proofs.Selector.Spread
import Hypertag.Proofs.Selector.Tokens
import Hypertag.Proofs.Selector.Tree
import Hypertag.Proofs.Selector.Untrimmed
import Hypertag.Proofs.Selector.Words
import Hypertag.Proofs.Template.Comments
import Hypertag.Proofs.Template.Composition
import Hypertag.Proofs.Template.Grammar
import Hypertag.Proofs.Template.Passage
import Hypertag.Proofs.Template.Quoting
import Hypertag.Proofs.Template.Splitting
import Hypertag.Proofs.Template.Unclosed
import Hypertag.Proofs.Text.Encoding
import Hypertag.Proofs.Text.Hexadecimal
import Hypertag.Proofs.Text.Quoting
import Hypertag.Proofs.Workspace.Contents
import Hypertag.Proofs.Workspace.Files
import Hypertag.Proofs.Workspace.Shape
import Hypertag.Real.Binary64
import Hypertag.Real.Numeral
import Hypertag.Real.Rounded
import Hypertag.Real.Shortest
import Hypertag.Report
import Hypertag.Scan.Basic
import Hypertag.Scan.Engine
import Hypertag.Scan.Literal
import Hypertag.Selector.Basic
import Hypertag.Selector.Chain
import Hypertag.Selector.Compound
import Hypertag.Selector.Document
import Hypertag.Selector.Error
import Hypertag.Selector.Printer
import Hypertag.Selector.Reading
import Hypertag.Session
import Hypertag.Template.Segment
import Hypertag.Template.State
import Hypertag.Text.Basic
import Hypertag.Text.Blank
import Hypertag.Text.Encoding
import Hypertag.Text.Letters
import Hypertag.Text.Numeral
import Hypertag.Text.Printable
import Hypertag.Text.Quoted
import Hypertag.Text.Word
import Hypertag.Value
import Hypertag.Workspace.Basic
import Hypertag.Workspace.Path
