import StackManifest.Calendar
import StackManifest.Command.Action
import StackManifest.Command.Arguments
import StackManifest.Command.Check
import StackManifest.Command.Run
import StackManifest.Console.Call
import StackManifest.Console.Call.Complaint
import StackManifest.Console.Call.Expression
import StackManifest.Console.Call.Lexer
import StackManifest.Console.Call.Word
import StackManifest.Console.Colour
import StackManifest.Console.Emoji
import StackManifest.Console.Emoji.FromA
import StackManifest.Console.Emoji.FromF
import StackManifest.Console.Emoji.FromG
import StackManifest.Console.Emoji.FromM
import StackManifest.Console.Emoji.FromN
import StackManifest.Console.Emoji.FromT
import StackManifest.Console.Grid
import StackManifest.Console.Markup
import StackManifest.Console.Style
import StackManifest.Console.Width
import StackManifest.Console.Wrap
import StackManifest.Conversion
import StackManifest.Document.Basic
import StackManifest.Document.Kept
import StackManifest.Document.Problem
import StackManifest.Document.Reader
import StackManifest.Document.Scalar
import StackManifest.Document.Source
import StackManifest.Document.Writer
import StackManifest.Fault
import StackManifest.Folder
import StackManifest.Folder.Place
import StackManifest.Json.Order
import StackManifest.Json.Reader
import StackManifest.Json.Writer
import StackManifest.Main
import StackManifest.Manifest.Compile
import StackManifest.Manifest.Estimate
import StackManifest.Manifest.Group
import StackManifest.Manifest.Provider
import StackManifest.Number.Binary64
import StackManifest.Number.Decimal
import StackManifest.Number.DigitCount
import StackManifest.Number.ExtendedDecimal
import StackManifest.Number.Numeral
import StackManifest.Number.Power
import StackManifest.Number.Shortest
import StackManifest.Number.Whole
import StackManifest.Proofs.Checks.Faults
import StackManifest.Proofs.Checks.Findings
import StackManifest.Proofs.Checks.Parts
import StackManifest.Proofs.Checks.References
import StackManifest.Proofs.Checks.Rows
import StackManifest.Proofs.Checks.Runs
import StackManifest.Proofs.Checks.Sound
import StackManifest.Proofs.Checks.Stops
import StackManifest.Proofs.Command.Actions
import StackManifest.Proofs.Command.Agreement
import StackManifest.Proofs.Command.Compiling
import StackManifest.Proofs.Command.Files
import StackManifest.Proofs.Compilation.Coverage
import StackManifest.Proofs.Compilation.Groups
import StackManifest.Proofs.Compilation.Locality
import StackManifest.Proofs.Compilation.Ready
import StackManifest.Proofs.Compilation.Refusals
import StackManifest.Proofs.Compilation.Results
import StackManifest.Proofs.Console.Grids
import StackManifest.Proofs.Console.Marks
import StackManifest.Proofs.Equality
import StackManifest.Proofs.FirstLayout.Conversion
import StackManifest.Proofs.FirstLayout.Deployment
import StackManifest.Proofs.FirstLayout.Ports
import StackManifest.Proofs.Folders
import StackManifest.Proofs.Json.Numbers
import StackManifest.Proofs.Json.RoundTrip
import StackManifest.Proofs.Json.Strings
import StackManifest.Proofs.Json.Values
import StackManifest.Proofs.Leaves
import StackManifest.Proofs.Manifest.Exactness
import StackManifest.Proofs.Manifest.Millicores
import StackManifest.Proofs.Manifest.Partition
import StackManifest.Proofs.Manifest.Targets
import StackManifest.Proofs.Manifest.Totals
import StackManifest.Proofs.Manifest.Written
import StackManifest.Proofs.Markup.Blocks
import StackManifest.Proofs.Markup.Cutting
import StackManifest.Proofs.Markup.Data
import StackManifest.Proofs.Markup.Escapes
import StackManifest.Proofs.Markup.Layout
import StackManifest.Proofs.Markup.LongNames
import StackManifest.Proofs.Markup.Records
import StackManifest.Proofs.Markup.Words
import StackManifest.Proofs.Number.Binary
import StackManifest.Proofs.Number.Digits
import StackManifest.Proofs.Number.Exact
import StackManifest.Proofs.Number.Quotient
import StackManifest.Proofs.Number.Rounding
import StackManifest.Proofs.Number.Value
import StackManifest.Proofs.Order.Documents
import StackManifest.Proofs.Order.Verdicts
import StackManifest.Proofs.Places
import StackManifest.Proofs.Quantity.Computable
import StackManifest.Proofs.Quantity.Formatted
import StackManifest.Proofs.Quantity.Grammar
import StackManifest.Proofs.Quantity.Numbers
import StackManifest.Proofs.Quantity.Texts
import StackManifest.Proofs.Quantity.WholeUnits
import StackManifest.Proofs.Reading.Changes
import StackManifest.Proofs.Reading.Emptied
import StackManifest.Proofs.Reading.Entries
import StackManifest.Proofs.Reading.Names
import StackManifest.Proofs.Reading.Parts
import StackManifest.Proofs.Reading.Quoting
import StackManifest.Proofs.Reading.Records
import StackManifest.Proofs.Reading.References
import StackManifest.Proofs.Reading.Resolved
import StackManifest.Proofs.Reading.Sections
import StackManifest.Proofs.Reading.Superseded
import StackManifest.Proofs.RightSizing.Bounds
import StackManifest.Proofs.RightSizing.Groups
import StackManifest.Proofs.RightSizing.Local
import StackManifest.Proofs.RightSizing.Reading
import StackManifest.Proofs.RightSizing.Settling
import StackManifest.Proofs.RightSizing.Sharing
import StackManifest.Proofs.RightSizing.Shrinking
import StackManifest.Proofs.RightSizing.Spellings
import StackManifest.Proofs.RightSizing.Visits
import StackManifest.Proofs.RoundTrip.Alike
import StackManifest.Proofs.RoundTrip.Document
import StackManifest.Proofs.RoundTrip.Parts
import StackManifest.Proofs.RoundTrip.Written
import StackManifest.Proofs.Sessions
import StackManifest.Proofs.Slots
import StackManifest.Proofs.Templates.Outline
import StackManifest.Proofs.Templates.Stack
import StackManifest.Proofs.Templates.Texts
import StackManifest.Proofs.Templates.Verdict
import StackManifest.Proofs.Traversal
import StackManifest.Quantity.Cores
import StackManifest.Quantity.Price
import StackManifest.Quantity.Size
import StackManifest.RightSizing
import StackManifest.Session
import StackManifest.StackError
import StackManifest.Table
import StackManifest.Template
import StackManifest.Text.Base64
import StackManifest.Text.Blank
import StackManifest.Text.Cased
import StackManifest.Text.Digit
import StackManifest.Text.Letter
import StackManifest.Text.Lines
import StackManifest.Text.Lower
import StackManifest.Text.Printable
import StackManifest.Text.Quoted
import StackManifest.Text.Range
import StackManifest.Text.Upper
import StackManifest.Text.Utf16
import StackManifest.Text.Utf8
import StackManifest.Validation.Check
import StackManifest.Validation.Finding
import StackManifest.Validation.References
import StackManifest.Validation.Structure
import StackManifest.Value.Access
import StackManifest.Value.Address
import StackManifest.Value.Assign
import StackManifest.Value.Basic
import StackManifest.Value.Label
import StackManifest.Value.Text
import StackManifest.Yaml.Cursor
import StackManifest.Yaml.Literal
import StackManifest.Yaml.Node
import StackManifest.Yaml.Reader
import StackManifest.Yaml.Scalar
import StackManifest.Yaml.Timestamp
import StackManifest.Yaml.Token
import StackManifest.Yaml.Token.Lexer
import StackManifest.Yaml.Token.Property
import StackManifest.Yaml.Token.Scalar
import StackManifest.Yaml.Writer
import StackManifest.Yaml.Writer.Page
import StackManifest.Yaml.Writer.Style
