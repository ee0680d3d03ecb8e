import Storyboard.Archive.Basic
import Storyboard.Archive.Checksum
import Storyboard.Archive.Stored
import Storyboard.Classify.Annotate
import Storyboard.Classify.Rule
import Storyboard.Config
import Storyboard.Conversion
import Storyboard.Design.Arguments
import Storyboard.Design.Diagnostic
import Storyboard.Design.Edit
import Storyboard.Design.Layer
import Storyboard.Design.Layout
import Storyboard.Design.Node
import Storyboard.Design.NodeType
import Storyboard.Design.Styles
import Storyboard.Document.Arrange
import Storyboard.Document.Fallback
import Storyboard.Document.Layer
import Storyboard.Document.Measure
import Storyboard.Document.Normalize
import Storyboard.Document.Paints
import Storyboard.Document.Reached
import Storyboard.Document.Record
import Storyboard.Document.Roots
import Storyboard.Draft
import Storyboard.Exchange.Form
import Storyboard.Exchange.Reader
import Storyboard.Exchange.Writer
import Storyboard.Export.Emit
import Storyboard.Export.Expression
import Storyboard.Export.Format
import Storyboard.Export.MarkupExport
import Storyboard.Export.Navigation
import Storyboard.Export.Options
import Storyboard.Export.Rendering
import Storyboard.Export.ScriptExport
import Storyboard.Export.Stylesheet
import Storyboard.Export.TemplateExport
import Storyboard.Failure
import Storyboard.Headers
import Storyboard.Json.Basic
import Storyboard.Json.Pairs
import Storyboard.Json.Printer
import Storyboard.Json.Reader
import Storyboard.Markup.Declaration
import Storyboard.Markup.Element
import Storyboard.Markup.Escape
import Storyboard.Number.Basic
import Storyboard.Number.Decimal
import Storyboard.Number.Double
import Storyboard.Number.Numeral
import Storyboard.Number.Power
import Storyboard.Proofs.Archive.Packing
import Storyboard.Proofs.Archive.RoundTrip
import Storyboard.Proofs.Classify.OnDemand
import Storyboard.Proofs.Classify.Precedence
import Storyboard.Proofs.Design.Complete
import Storyboard.Proofs.Design.Depth
import Storyboard.Proofs.Design.Lawful
import Storyboard.Proofs.Design.TextLeaf
import Storyboard.Proofs.Design.Untruncated
import Storyboard.Proofs.Design.Vocabulary
import Storyboard.Proofs.Document.Ancestry
import Storyboard.Proofs.Document.Answer
import Storyboard.Proofs.Document.Arrangement
import Storyboard.Proofs.Document.Convertible
import Storyboard.Proofs.Document.Declared
import Storyboard.Proofs.Document.Emptiness
import Storyboard.Proofs.Document.Enclosure
import Storyboard.Proofs.Document.Identity
import Storyboard.Proofs.Document.InView
import Storyboard.Proofs.Document.Measured
import Storyboard.Proofs.Document.OwnNode
import Storyboard.Proofs.Document.Placement
import Storyboard.Proofs.Document.Position
import Storyboard.Proofs.Document.RecordForm
import Storyboard.Proofs.Document.RecordLayer
import Storyboard.Proofs.Document.Supplement
import Storyboard.Proofs.Document.Traversal
import Storyboard.Proofs.Document.Writable
import Storyboard.Proofs.Exchange.Complete
import Storyboard.Proofs.Exchange.Echo
import Storyboard.Proofs.Exchange.InView
import Storyboard.Proofs.Exchange.Issues
import Storyboard.Proofs.Exchange.Reading
import Storyboard.Proofs.Exchange.RoundTrip
import Storyboard.Proofs.Export.Agreement
import Storyboard.Proofs.Export.Arithmetic
import Storyboard.Proofs.Export.ClosedScript
import Storyboard.Proofs.Export.ComponentPath
import Storyboard.Proofs.Export.Drawing
import Storyboard.Proofs.Export.Files
import Storyboard.Proofs.Export.Fresh
import Storyboard.Proofs.Export.Hidden
import Storyboard.Proofs.Export.Imports
import Storyboard.Proofs.Export.Inset
import Storyboard.Proofs.Export.LineBreaks
import Storyboard.Proofs.Export.Minified
import Storyboard.Proofs.Export.Offsets
import Storyboard.Proofs.Export.Orderly
import Storyboard.Proofs.Export.Parts
import Storyboard.Proofs.Export.Placeholder
import Storyboard.Proofs.Export.RootComponent
import Storyboard.Proofs.Export.ScriptLine
import Storyboard.Proofs.Export.ScriptModule
import Storyboard.Proofs.Export.Shift
import Storyboard.Proofs.Export.Statement
import Storyboard.Proofs.Export.Texts
import Storyboard.Proofs.Export.Toggle
import Storyboard.Proofs.Export.Visibility
import Storyboard.Proofs.Export.WrapAround
import Storyboard.Proofs.Json.OneLine
import Storyboard.Proofs.Json.WrittenString
import Storyboard.Proofs.Markup.Agreement
import Storyboard.Proofs.Markup.DeclarationList
import Storyboard.Proofs.Markup.Drawn
import Storyboard.Proofs.Markup.FontFamily
import Storyboard.Proofs.Markup.Legible
import Storyboard.Proofs.Markup.Lines
import Storyboard.Proofs.Markup.Nesting
import Storyboard.Proofs.Markup.Pieces
import Storyboard.Proofs.Markup.Reader
import Storyboard.Proofs.Markup.Scanning
import Storyboard.Proofs.Markup.SingleLine
import Storyboard.Proofs.Number.Finite
import Storyboard.Proofs.Number.Order
import Storyboard.Proofs.Number.PlainDecimal
import Storyboard.Proofs.Number.Rounding
import Storyboard.Proofs.Number.Unit
import Storyboard.Proofs.Number.Written
import Storyboard.Proofs.Outcome
import Storyboard.Proofs.Remote.ShareLink
import Storyboard.Proofs.Schema.Checked
import Storyboard.Proofs.Schema.Echo
import Storyboard.Proofs.Server.Rejection
import Storyboard.Proofs.Text.Percent
import Storyboard.Proofs.Text.Trim
import Storyboard.Proofs.Text.Utf8
import Storyboard.Proofs.Tree.Forest
import Storyboard.Proofs.Tree.Lineage
import Storyboard.Proofs.Tree.Sieve
import Storyboard.Proofs.Tree.Subtrees
import Storyboard.Proofs.Tree.Traverse
import Storyboard.Remote.Address
import Storyboard.Remote.Client
import Storyboard.Remote.Fetch
import Storyboard.Remote.Reference
import Storyboard.Schema.Checked
import Storyboard.Schema.Issue
import Storyboard.Schema.Scalar
import Storyboard.Schema.WholeText
import Storyboard.Server.Body
import Storyboard.Server.Message
import Storyboard.Server.Preflight
import Storyboard.Server.Route
import Storyboard.Server.Service
import Storyboard.Settings
import Storyboard.Text.Blank
import Storyboard.Text.Case
import Storyboard.Text.CaseTable
import Storyboard.Text.Digit
import Storyboard.Text.Hex
import Storyboard.Text.LegacyPage
import Storyboard.Text.Percent
import Storyboard.Text.Printable
import Storyboard.Text.Quoted
import Storyboard.Text.Ranges
import Storyboard.Text.Utf8
import Storyboard.Text.Word
import Storyboard.Tree
import Storyboard.Workspace
