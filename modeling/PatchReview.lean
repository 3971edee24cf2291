import PatchReview.Calendar
import PatchReview.Command.Arguments
import PatchReview.Command.Check
import PatchReview.Command.Invocation
import PatchReview.Command.Library
import PatchReview.Command.Reach
import PatchReview.Command.Run
import PatchReview.Command.Setting
import PatchReview.Config.Basic
import PatchReview.Config.Loading
import PatchReview.Console.Layout
import PatchReview.Console.Markup
import PatchReview.Console.Pictograph
import PatchReview.Console.Screen
import PatchReview.Console.Style
import PatchReview.Console.Table
import PatchReview.Decimal.Binary
import PatchReview.Decimal.Natural
import PatchReview.Decimal.Printing
import PatchReview.Decimal.Reading
import PatchReview.Decimal.Shortest
import PatchReview.Diff.Basic
import PatchReview.Diff.Header
import PatchReview.Diff.Language
import PatchReview.Diff.Parser
import PatchReview.Diff.Path
import PatchReview.Engine
import PatchReview.Engine.Pool
import PatchReview.Engine.Selection
import PatchReview.Files.Change
import PatchReview.Files.Disk
import PatchReview.Files.Path
import PatchReview.Files.Tree
import PatchReview.Finding
import PatchReview.Json.Basic
import PatchReview.Log
import PatchReview.Main
import PatchReview.Pattern.CharTest
import PatchReview.Pattern.Escape
import PatchReview.Pattern.Flags
import PatchReview.Pattern.Matcher
import PatchReview.Pattern.Parser
import PatchReview.Pattern.Piece
import PatchReview.Pattern.Reader
import PatchReview.Pattern.Regex
import PatchReview.Pattern.Token
import PatchReview.Proofs.Command.Conduct
import PatchReview.Proofs.Command.Examination
import PatchReview.Proofs.Command.Footprint
import PatchReview.Proofs.Command.Formats
import PatchReview.Proofs.Command.Gate
import PatchReview.Proofs.Command.Misconfiguration
import PatchReview.Proofs.Command.Planning
import PatchReview.Proofs.Command.Reading
import PatchReview.Proofs.Command.Reporting
import PatchReview.Proofs.Command.Typing
import PatchReview.Proofs.Command.Validation
import PatchReview.Proofs.Config.Loading
import PatchReview.Proofs.Config.Precedence
import PatchReview.Proofs.Config.Typing
import PatchReview.Proofs.Console.Layout
import PatchReview.Proofs.Console.Markup
import PatchReview.Proofs.Console.Verbatim
import PatchReview.Proofs.Contract
import PatchReview.Proofs.Decimal.Natural
import PatchReview.Proofs.Decimal.Shortest
import PatchReview.Proofs.Diff.FileHeader
import PatchReview.Proofs.Diff.Format
import PatchReview.Proofs.Diff.Header
import PatchReview.Proofs.Diff.Language
import PatchReview.Proofs.Diff.Layout
import PatchReview.Proofs.Diff.LineEnds
import PatchReview.Proofs.Diff.Lines
import PatchReview.Proofs.Diff.Lookalikes
import PatchReview.Proofs.Diff.Merge
import PatchReview.Proofs.Diff.Normal
import PatchReview.Proofs.Diff.Refusal
import PatchReview.Proofs.Diff.Rendering
import PatchReview.Proofs.Diff.RoundTrip
import PatchReview.Proofs.Diff.Run
import PatchReview.Proofs.Diff.Script
import PatchReview.Proofs.Diff.Step
import PatchReview.Proofs.Diff.Veil
import PatchReview.Proofs.Diff.WellFormed
import PatchReview.Proofs.Engine.Attribution
import PatchReview.Proofs.Engine.Concatenation
import PatchReview.Proofs.Engine.Findings
import PatchReview.Proofs.Engine.Outcome
import PatchReview.Proofs.Engine.Pool
import PatchReview.Proofs.Engine.Requests
import PatchReview.Proofs.Engine.Selection
import PatchReview.Proofs.Engine.Triggers
import PatchReview.Proofs.Engine.Veil
import PatchReview.Proofs.Files.Growth
import PatchReview.Proofs.Files.Order
import PatchReview.Proofs.Files.Tree
import PatchReview.Proofs.Files.Ways
import PatchReview.Proofs.Json.Ascii
import PatchReview.Proofs.Json.Number
import PatchReview.Proofs.Json.Reading
import PatchReview.Proofs.Json.RoundTrip
import PatchReview.Proofs.Report.Agreement
import PatchReview.Proofs.Report.Bullets
import PatchReview.Proofs.Report.Lines
import PatchReview.Proofs.Report.Recovery
import PatchReview.Proofs.Report.Table
import PatchReview.Proofs.Report.Terminal
import PatchReview.Proofs.Skill.Decoding
import PatchReview.Proofs.Skill.Directory
import PatchReview.Proofs.Skill.FirstFailure
import PatchReview.Proofs.Skill.Footprint
import PatchReview.Proofs.Skill.Installation
import PatchReview.Proofs.Skill.Isolation
import PatchReview.Proofs.Skill.Listing
import PatchReview.Proofs.Skill.Names
import PatchReview.Proofs.Skill.Schema
import PatchReview.Proofs.Skill.Validity
import PatchReview.Proofs.Skill.Walk
import PatchReview.Proofs.Text.CaseMap
import PatchReview.Proofs.Text.Pieces
import PatchReview.Proofs.Text.Utf8
import PatchReview.Proofs.Toml.Document
import PatchReview.Proofs.Toml.Parsing
import PatchReview.Proofs.Toml.Reading
import PatchReview.Proofs.Toml.Value
import PatchReview.Proofs.Work
import PatchReview.Report.Prompt
import PatchReview.Report.Summary
import PatchReview.Report.Terminal
import PatchReview.Skill.Basic
import PatchReview.Skill.Bundled
import PatchReview.Skill.Directory
import PatchReview.Skill.Library
import PatchReview.Skill.Loading
import PatchReview.Skill.Schema
import PatchReview.Skill.Severity
import PatchReview.Skill.Validation
import PatchReview.Text.Alphanumeric
import PatchReview.Text.Blank
import PatchReview.Text.CaseMap
import PatchReview.Text.DecimalDigit
import PatchReview.Text.Identifier
import PatchReview.Text.Pieces
import PatchReview.Text.Printable
import PatchReview.Text.Quoted
import PatchReview.Text.Ranges
import PatchReview.Text.Utf8
import PatchReview.Text.Width
import PatchReview.Toml.Document
import PatchReview.Toml.Error
import PatchReview.Toml.Parser
import PatchReview.Toml.Quote
import PatchReview.Toml.Scalar
import PatchReview.Toml.Value
import PatchReview.Value
import PatchReview.Work
import PatchReview.Yaml.Construction
import PatchReview.Yaml.Cursor
import PatchReview.Yaml.Error
import PatchReview.Yaml.Grammar
import PatchReview.Yaml.Implicit
import PatchReview.Yaml.Lexer
import PatchReview.Yaml.Node
import PatchReview.Yaml.Number
import PatchReview.Yaml.Scalar
import PatchReview.Yaml.Token
