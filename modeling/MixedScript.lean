import MixedScript.Calendar
import MixedScript.Command.Arguments
import MixedScript.Command.Console
import MixedScript.Command.Inputs
import MixedScript.Command.Item
import MixedScript.Command.Run
import MixedScript.Decimal.Binary64
import MixedScript.Decimal.Shortest
import MixedScript.Difference
import MixedScript.Document.Leaf
import MixedScript.Document.Node
import MixedScript.Encoding.Codec
import MixedScript.Encoding.Detection
import MixedScript.Encoding.DoubleByte
import MixedScript.Encoding.OneByte
import MixedScript.Encoding.Utf8
import MixedScript.Error
import MixedScript.Files
import MixedScript.Format
import MixedScript.Format.File
import MixedScript.Input
import MixedScript.Journal
import MixedScript.Json.Reader
import MixedScript.Markdown.Entity
import MixedScript.Markdown.FrontMatter
import MixedScript.Markdown.Label
import MixedScript.Markdown.Outline
import MixedScript.Markdown.Outline.Html
import MixedScript.Markdown.Outline.Line
import MixedScript.Markdown.Outline.Opening
import MixedScript.Markdown.Outline.Table
import MixedScript.Markdown.Phrase
import MixedScript.Markdown.Phrase.Atom
import MixedScript.Markdown.Phrase.Emphasis
import MixedScript.Markdown.Phrase.Flanking
import MixedScript.Markdown.Reader
import MixedScript.Markdown.Tag
import MixedScript.Markdown.Target
import MixedScript.Markdown.Token
import MixedScript.Markdown.TokenTree
import MixedScript.Markdown.Url
import MixedScript.Markdown.Writer
import MixedScript.Markdown.Writer.Block
import MixedScript.Markdown.Writer.Delimiter
import MixedScript.Markdown.Writer.Destination
import MixedScript.Markdown.Writer.Escape
import MixedScript.Markdown.Writer.Verbatim
import MixedScript.Output
import MixedScript.Package.Requirement
import MixedScript.Package.Specifier
import MixedScript.Package.Version
import MixedScript.Settings.ConfigFile
import MixedScript.Settings.Discovery
import MixedScript.Settings.Draft
import MixedScript.Settings.Mapping
import MixedScript.Settings.Options
import MixedScript.Settings.Section
import MixedScript.Spacing.Boundary
import MixedScript.Spacing.CharClass
import MixedScript.Spacing.Decision
import MixedScript.Spacing.Fault
import MixedScript.Spacing.MathSource
import MixedScript.Spacing.Rules
import MixedScript.Spacing.TextRun
import MixedScript.Spacing.Transform
import MixedScript.Text.Alphanumeric
import MixedScript.Text.Base64
import MixedScript.Text.Blank
import MixedScript.Text.Chars
import MixedScript.Text.DecimalDigit
import MixedScript.Text.Digits
import MixedScript.Text.Float
import MixedScript.Text.Integer
import MixedScript.Text.LetterCase
import MixedScript.Text.Quoted
import MixedScript.Text.Ranges
import MixedScript.Text.Unprintable
import MixedScript.Toml.Number
import MixedScript.Toml.Reader
import MixedScript.Toml.Table
import MixedScript.Toml.Text
import MixedScript.Value
import MixedScript.Yaml.Cursor
import MixedScript.Yaml.Layout
import MixedScript.Yaml.Lexeme
import MixedScript.Yaml.Loader
import MixedScript.Yaml.Pen
import MixedScript.Yaml.Plain
import MixedScript.Yaml.Printer
import MixedScript.Yaml.Tree
import MixedScript.Main
import MixedScript.Proofs.Document.EdgeLeaf
import MixedScript.Proofs.Spacing.Frame
import MixedScript.Proofs.Format.Content
import MixedScript.Proofs.Spacing.GapLoss
import MixedScript.Proofs.Spacing.TextRun
import MixedScript.Proofs.Spacing.Joining
import MixedScript.Proofs.Files
import MixedScript.Proofs.Format.InPlace
import MixedScript.Proofs.Spacing.Exact
import MixedScript.Proofs.Spacing.Calm
import MixedScript.Proofs.Spacing.MathSource
import MixedScript.Proofs.Spacing.Calming
import MixedScript.Proofs.Spacing.Idempotence
import MixedScript.Proofs.Mapping
import MixedScript.Proofs.Settings.Fields
import MixedScript.Proofs.Result
import MixedScript.Proofs.Settings.Overrides
import MixedScript.Proofs.Command.Arguments
import MixedScript.Proofs.Text.Chars
import MixedScript.Proofs.Command.Console
import MixedScript.Proofs.Command.Item
import MixedScript.Proofs.Command.Run
import MixedScript.Proofs.Markdown.FrontMatter
import MixedScript.Proofs.Markdown.TopLine
import MixedScript.Proofs.Markdown.FirstBlock
import MixedScript.Proofs.Document.Descent
import MixedScript.Proofs.Markdown.LinkTarget
import MixedScript.Proofs.Settings.ConfigFile
import MixedScript.Proofs.Spacing.Course
import MixedScript.Proofs.Spacing.DeadEnds
import MixedScript.Proofs.Spacing.ForeignReply
import MixedScript.Proofs.Path
import MixedScript.Proofs.Settings.Discovery
import MixedScript.Proofs.Spacing.Cut
import MixedScript.Proofs.Spacing.GapText
import MixedScript.Proofs.Spacing.Passage
import MixedScript.Proofs.Spacing.Separation
import MixedScript.Proofs.Command.Batch
import MixedScript.Proofs.Spacing.Gapped
import MixedScript.Proofs.Text.Lines
import MixedScript.Proofs.Markdown.LineStart
import MixedScript.Proofs.Markdown.Escape
import MixedScript.Proofs.Markdown.Placement
import MixedScript.Proofs.Markdown.DelimiterRun
import MixedScript.Proofs.Text.Runs
import MixedScript.Proofs.Text.Balance
import MixedScript.Proofs.Markdown.Fence
import MixedScript.Proofs.Markdown.Backslash
import MixedScript.Proofs.Markdown.Destination
import MixedScript.Proofs.Markdown.ImageText
import MixedScript.Proofs.Markdown.Pipe
import MixedScript.Proofs.Markdown.Cell
import MixedScript.Proofs.Markdown.Table
import MixedScript.Proofs.Text.Trim
import MixedScript.Proofs.Markdown.CodeSpan
import MixedScript.Proofs.Encoding.Utf8
import MixedScript.Proofs.Markdown.Url
import MixedScript.Proofs.Markdown.LineEnd
import MixedScript.Proofs.Markdown.HeldText
import MixedScript.Proofs.Markdown.Heading
import MixedScript.Proofs.Markdown.Writable
import MixedScript.Proofs.Markdown.ListItem
import MixedScript.Proofs.Settings.OptionValues
import MixedScript.Proofs.Settings.Acceptance
import MixedScript.Proofs.Settings.Rejection
import MixedScript.Proofs.Encoding.Units
import MixedScript.Proofs.Encoding.DoubleByte
import MixedScript.Proofs.Encoding.Gb18030
import MixedScript.Proofs.Encoding.Detection
import MixedScript.Proofs.Encoding.WriteBack
import MixedScript.Proofs.Mapping.Merge
import MixedScript.Proofs.Settings.Nearest
import MixedScript.Proofs.Document.LeafText
import MixedScript.Proofs.Markdown.TextMerging
import MixedScript.Proofs.Spacing.MathForm
