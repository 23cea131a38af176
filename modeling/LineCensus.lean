import LineCensus.Block.Extent
import LineCensus.Block.Tracker
import LineCensus.Command.Request
import LineCensus.Command.Run
import LineCensus.Command.Words
import LineCensus.Console.Colour
import LineCensus.Console.Glyphs
import LineCensus.Console.Literal
import LineCensus.Console.Markup
import LineCensus.Console.Panel
import LineCensus.Console.Style
import LineCensus.Console.Table
import LineCensus.Console.Wrap
import LineCensus.Corpus.Collect
import LineCensus.Corpus.Pool
import LineCensus.Discovery.Exclude
import LineCensus.Discovery.Roots
import LineCensus.Discovery.Source
import LineCensus.Discovery.Walk
import LineCensus.Disk.Build
import LineCensus.Disk.Path
import LineCensus.Disk.Read
import LineCensus.Disk.Tree
import LineCensus.Encoding.Decode
import LineCensus.Encoding.Name
import LineCensus.Encoding.Utf8
import LineCensus.Fault
import LineCensus.Journal
import LineCensus.Json.Basic
import LineCensus.Json.Reader
import LineCensus.Line.Basic
import LineCensus.Line.Classify
import LineCensus.Line.Decision
import LineCensus.Listing.Distribution
import LineCensus.Listing.Largest
import LineCensus.Listing.ListedFile
import LineCensus.Listing.Naming
import LineCensus.Listing.Size
import LineCensus.Listing.Tally
import LineCensus.Log
import LineCensus.Main
import LineCensus.Manifest.Facts
import LineCensus.Manifest.Kind
import LineCensus.Manifest.Survey
import LineCensus.Measure.Corpus
import LineCensus.Measure.File
import LineCensus.Measure.Lengths
import LineCensus.Measure.Quotient
import LineCensus.Measure.Ratio
import LineCensus.Number.Amount
import LineCensus.Number.Basic
import LineCensus.Number.Binary64
import LineCensus.Number.Decimal
import LineCensus.Number.Shortest
import LineCensus.Number.Sum
import LineCensus.Pattern.Glob
import LineCensus.Proofs.Balance
import LineCensus.Proofs.Blame
import LineCensus.Proofs.Bounds
import LineCensus.Proofs.Breaks
import LineCensus.Proofs.Calls
import LineCensus.Proofs.Checking
import LineCensus.Proofs.Collection
import LineCensus.Proofs.Conventions
import LineCensus.Proofs.Counters
import LineCensus.Proofs.Decisions
import LineCensus.Proofs.Delivery
import LineCensus.Proofs.Digits
import LineCensus.Proofs.Discovery
import LineCensus.Proofs.Documents
import LineCensus.Proofs.Endings
import LineCensus.Proofs.Escaping
import LineCensus.Proofs.Extents
import LineCensus.Proofs.Faults
import LineCensus.Proofs.Folding
import LineCensus.Proofs.Fragments
import LineCensus.Proofs.Grouping
import LineCensus.Proofs.Hundredths
import LineCensus.Proofs.Indentation
import LineCensus.Proofs.JsonText
import LineCensus.Proofs.JsonTokens
import LineCensus.Proofs.Kinds
import LineCensus.Proofs.Language
import LineCensus.Proofs.Layers
import LineCensus.Proofs.Lengths
import LineCensus.Proofs.Listing
import LineCensus.Proofs.Loading
import LineCensus.Proofs.Magnitudes
import LineCensus.Proofs.Manifests
import LineCensus.Proofs.Markup
import LineCensus.Proofs.Names
import LineCensus.Proofs.Nearest
import LineCensus.Proofs.Nesting
import LineCensus.Proofs.Numerals
import LineCensus.Proofs.Obstacles
import LineCensus.Proofs.Octets
import LineCensus.Proofs.Order
import LineCensus.Proofs.Outlets
import LineCensus.Proofs.Paths
import LineCensus.Proofs.Patterns
import LineCensus.Proofs.Pool
import LineCensus.Proofs.Ranking
import LineCensus.Proofs.Reading
import LineCensus.Proofs.Returning
import LineCensus.Proofs.Roots
import LineCensus.Proofs.Rounding
import LineCensus.Proofs.Rows
import LineCensus.Proofs.Scaling
import LineCensus.Proofs.Screen
import LineCensus.Proofs.Sets
import LineCensus.Proofs.Shortest
import LineCensus.Proofs.Shown
import LineCensus.Proofs.Splicing
import LineCensus.Proofs.Step
import LineCensus.Proofs.Tables
import LineCensus.Proofs.Tagging
import LineCensus.Proofs.Tags
import LineCensus.Proofs.Tree
import LineCensus.Proofs.Wrapping
import LineCensus.Proofs.Writing
import LineCensus.Report.Analyze
import LineCensus.Report.Basic
import LineCensus.Report.Compose
import LineCensus.Report.Format
import LineCensus.Report.Json
import LineCensus.Report.Screen
import LineCensus.Settings.Basic
import LineCensus.Settings.File
import LineCensus.Settings.Load
import LineCensus.Settings.Variable
import LineCensus.Source.Scan
import LineCensus.Text.Blank
import LineCensus.Text.Digit
import LineCensus.Text.DigitRun
import LineCensus.Text.Letter
import LineCensus.Text.Lines
import LineCensus.Text.Printable
import LineCensus.Text.Quoted
import LineCensus.Text.RangeTable
import LineCensus.Text.Real
import LineCensus.Text.Search
import LineCensus.Text.Whole
import LineCensus.Text.Word
import LineCensus.Toml.Document
import LineCensus.Toml.Nest
import LineCensus.Toml.Number
import LineCensus.Toml.Quoted
import LineCensus.Toml.Reader
import LineCensus.Toml.Time
import LineCensus.Toml.Value
import LineCensus.Value.Basic
import LineCensus.Value.Moment
