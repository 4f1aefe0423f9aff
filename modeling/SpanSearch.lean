import SpanSearch.Annotation
import SpanSearch.Attributes
import SpanSearch.Cache
import SpanSearch.Config
import SpanSearch.Document.Basic
import SpanSearch.Document.Feed
import SpanSearch.Enumeration
import SpanSearch.Expression.Engine
import SpanSearch.Expression.Eval
import SpanSearch.Expression.Lexeme
import SpanSearch.Expression.Parser
import SpanSearch.Expression.Term
import SpanSearch.Expression.Value
import SpanSearch.Fault
import SpanSearch.Files
import SpanSearch.Index.Basic
import SpanSearch.Index.Forest
import SpanSearch.Index.Observer
import SpanSearch.Json.Failure
import SpanSearch.Json.Number
import SpanSearch.Json.Printer
import SpanSearch.Json.Reader
import SpanSearch.Json.Records
import SpanSearch.Json.Skip
import SpanSearch.Json.Text
import SpanSearch.Literals
import SpanSearch.Number.Binary64
import SpanSearch.Number.Digit
import SpanSearch.Number.Read
import SpanSearch.Number.Shortest
import SpanSearch.Offset
import SpanSearch.Pattern.Basic
import SpanSearch.Pattern.Cause
import SpanSearch.Pattern.Layout
import SpanSearch.Pattern.Parser
import SpanSearch.Pattern.Printer
import SpanSearch.Pattern.Quoted
import SpanSearch.Pattern.Reader
import SpanSearch.Proofs.Search.Backtracking
import SpanSearch.Proofs.Search.Derivation
import SpanSearch.Regex.Basic
import SpanSearch.Regex.Class
import SpanSearch.Regex.Parser
import SpanSearch.Regex.Size
import SpanSearch.Search.Explore
import SpanSearch.Search.Find
import SpanSearch.Search.Indexed
import SpanSearch.Search.Match
import SpanSearch.Search.State
import SpanSearch.Search.Worklist
import SpanSearch.Split
import SpanSearch.Table
import SpanSearch.Token
import SpanSearch.Tokenizer
import SpanSearch.Unicode.Case
import SpanSearch.Unicode.Category
import SpanSearch.Unicode.CharSet
import SpanSearch.Unicode.Fold
import SpanSearch.Unicode.Letter
import SpanSearch.Unicode.Property
import SpanSearch.Unicode.Script
import SpanSearch.Unicode.Space
import SpanSearch.Unicode.Word
import SpanSearch.Proofs.Search.Exactness
import SpanSearch.Proofs.Search.Meaning
import SpanSearch.Proofs.Pattern.Pieces
import SpanSearch.Proofs.Pattern.WellFormed
import SpanSearch.Proofs.Index.Lawful
import SpanSearch.Proofs.Search.Find
import SpanSearch.Proofs.Search.Attributes
import SpanSearch.Proofs.Search.Recursion
import SpanSearch.Proofs.Search.Loop
import SpanSearch.Proofs.Search.Order
import SpanSearch.Proofs.Search.Counts
import SpanSearch.Proofs.Pattern.Quotes
import SpanSearch.Proofs.Pattern.Requoting
import SpanSearch.Proofs.Pattern.Rereading
import SpanSearch.Proofs.Pattern.Spacing
import SpanSearch.Proofs.Pattern.Tags
import SpanSearch.Proofs.Pattern.Words
import SpanSearch.Proofs.Pattern.Collapse
import SpanSearch.Proofs.Expression.Ending
import SpanSearch.Proofs.Pattern.Legible
import SpanSearch.Proofs.Pattern.Quantifiers
import SpanSearch.Proofs.Pattern.RoundTrip
import SpanSearch.Proofs.Layout.Scanning
import SpanSearch.Proofs.Layout.Rows
import SpanSearch.Proofs.Layout.Setters
import SpanSearch.Proofs.Pattern.Setters
import SpanSearch.Proofs.Layout.RoundTrip
import SpanSearch.Proofs.Layout.Parts
import SpanSearch.Proofs.Layout.Breaks
import SpanSearch.Proofs.Layout.Probes
import SpanSearch.Proofs.Layout.Contexts
import SpanSearch.Proofs.Layout.Positions
import SpanSearch.Proofs.Layout.Solid
import SpanSearch.Proofs.Layout.Outline
import SpanSearch.Proofs.Layout.Lines
import SpanSearch.Proofs.Layout.Outlined
import SpanSearch.Proofs.Layout.Steady
import SpanSearch.Proofs.Layout.Reopened
import SpanSearch.Proofs.Layout.Idempotence
import SpanSearch.Proofs.Document.Operation
import SpanSearch.Proofs.Document.Subscriber
import SpanSearch.Proofs.Annotation.Order
import SpanSearch.Proofs.Index.Entries
import SpanSearch.Proofs.Index.Patch
import SpanSearch.Proofs.Index.Session
import SpanSearch.Proofs.Document.Identity
import SpanSearch.Proofs.Document.Spans
import SpanSearch.Proofs.Index.Lead
import SpanSearch.Proofs.Index.Agreement
import SpanSearch.Proofs.Enumeration.Chain
import SpanSearch.Proofs.Enumeration.Readings
import SpanSearch.Proofs.Enumeration.Steps
import SpanSearch.Proofs.Enumeration.Growth
import SpanSearch.Proofs.Enumeration.Reports
import SpanSearch.Proofs.Enumeration.Levels
import SpanSearch.Proofs.Enumeration.Completeness
import SpanSearch.Proofs.Document.Coverage
import SpanSearch.Proofs.Document.Replay
import SpanSearch.Proofs.Document.Delivery
import SpanSearch.Proofs.Cache.Ranking
import SpanSearch.Proofs.Cache.Recent
import SpanSearch.Proofs.Cache.Entries
import SpanSearch.Proofs.Cache.Sharing
import SpanSearch.Proofs.Pattern.Compiled
import SpanSearch.Proofs.Pattern.Composition
import SpanSearch.Proofs.Pattern.Cuts
import SpanSearch.Proofs.Index.View
import SpanSearch.Proofs.Index.Shelf
import SpanSearch.Proofs.Index.Independence
import SpanSearch.Proofs.Index.Links
import SpanSearch.Proofs.Search.Sources
import SpanSearch.Proofs.Cursor
import SpanSearch.Proofs.Expression.Scanning
import SpanSearch.Proofs.Expression.Descent
import SpanSearch.Proofs.Expression.Derived
import SpanSearch.Proofs.Expression.Grammar
import SpanSearch.Proofs.Expression.Parsing
import SpanSearch.Proofs.Pattern.Positions
import SpanSearch.Proofs.Pattern.Suffixes
import SpanSearch.Proofs.Pattern.Descent
import SpanSearch.Proofs.Token.Lossless
import SpanSearch.Proofs.Pattern.Blank
import SpanSearch.Proofs.Token.Shapes
import SpanSearch.Proofs.Token.Lossless
import SpanSearch.Proofs.Token.Apart
import SpanSearch.Proofs.Document.Seams
import SpanSearch.Proofs.Search.Literal
import SpanSearch.Proofs.Search.Spans
import SpanSearch.Proofs.Search.Batch
import SpanSearch.Proofs.Json.RoundTrip
import SpanSearch.Proofs.Search.Entire
import SpanSearch.Proofs.Document.Undo
import SpanSearch.Proofs.Document.InPlace
import SpanSearch.Proofs.Document.Refusals
import SpanSearch.Proofs.Expression.Nesting
import SpanSearch.Proofs.Pattern.Enclosed
import SpanSearch.Proofs.Pattern.Origins
import SpanSearch.Proofs.Pattern.Meets
import SpanSearch.Proofs.Pattern.Trouble
import SpanSearch.Proofs.Pattern.Failing
import SpanSearch.Proofs.Document.Notice
import SpanSearch.Proofs.Expression.Equality
import SpanSearch.Proofs.Expression.Substring
import SpanSearch.Proofs.Search.Extension
