import ToolGateway.Bootstrap
import ToolGateway.Calendar
import ToolGateway.Check.Issue
import ToolGateway.Check.Shape
import ToolGateway.Check.Whole
import ToolGateway.Compression.Bits
import ToolGateway.Compression.Inflate
import ToolGateway.Compression.PrefixCode
import ToolGateway.Compression.Stream
import ToolGateway.Config
import ToolGateway.Configs
import ToolGateway.Credential
import ToolGateway.Decimal.Binary64
import ToolGateway.Decimal.DigitLimit
import ToolGateway.Decimal.Numeral
import ToolGateway.Decimal.Shortest
import ToolGateway.Dispatch
import ToolGateway.Document.Basic
import ToolGateway.Document.Source
import ToolGateway.Failure
import ToolGateway.Files
import ToolGateway.Http.Client
import ToolGateway.Http.Coding
import ToolGateway.Http.Headers
import ToolGateway.Http.HostName
import ToolGateway.Http.HostName.Characters
import ToolGateway.Http.HostName.Direction
import ToolGateway.Http.HostName.Label
import ToolGateway.Http.Locator
import ToolGateway.Http.Message
import ToolGateway.Http.Parameters
import ToolGateway.Http.Percent
import ToolGateway.Http.Query
import ToolGateway.Http.Url
import ToolGateway.Json.Reader
import ToolGateway.Json.Writer
import ToolGateway.LogThreshold
import ToolGateway.Login
import ToolGateway.Main
import ToolGateway.Outcome
import ToolGateway.Proofs.Bootstrap.Degradation
import ToolGateway.Proofs.Check.Findings
import ToolGateway.Proofs.Check.Follows
import ToolGateway.Proofs.Config.InPlace
import ToolGateway.Proofs.Config.Merging
import ToolGateway.Proofs.Dispatch.Call
import ToolGateway.Proofs.Dispatch.ProtectedHeaders
import ToolGateway.Proofs.Document.Findings
import ToolGateway.Proofs.Document.Growth
import ToolGateway.Proofs.Document.Loading
import ToolGateway.Proofs.Effect.Alike
import ToolGateway.Proofs.Effect.Follows
import ToolGateway.Proofs.Effect.Trace
import ToolGateway.Proofs.Http.Exchange
import ToolGateway.Proofs.Http.Headers
import ToolGateway.Proofs.Http.UserInformation
import ToolGateway.Proofs.Json.Nesting
import ToolGateway.Proofs.Json.Plain
import ToolGateway.Proofs.Login.Responses
import ToolGateway.Proofs.Login.Run
import ToolGateway.Proofs.Schema.Compiled
import ToolGateway.Proofs.Schema.CompiledTree
import ToolGateway.Proofs.Schema.Cycle
import ToolGateway.Proofs.Schema.Expansion
import ToolGateway.Proofs.Schema.Inlining
import ToolGateway.Proofs.Schema.Keywords
import ToolGateway.Proofs.Schema.Legible
import ToolGateway.Proofs.Schema.LostDefinitions
import ToolGateway.Proofs.Schema.Meaning
import ToolGateway.Proofs.Schema.Preservation
import ToolGateway.Proofs.Schema.Reach
import ToolGateway.Proofs.Schema.Regular
import ToolGateway.Proofs.Schema.ReportedCycle
import ToolGateway.Proofs.Schema.RoundTrip
import ToolGateway.Proofs.Schema.SharedStack
import ToolGateway.Proofs.Schema.Violations
import ToolGateway.Proofs.Schema.WellShaped
import ToolGateway.Proofs.Secrecy.Credentials
import ToolGateway.Proofs.Secrecy.Noninterference
import ToolGateway.Proofs.Secrecy.Password
import ToolGateway.Proofs.Server.Enforcement
import ToolGateway.Proofs.Server.Policies
import ToolGateway.Proofs.Server.Registry
import ToolGateway.Proofs.Table.Union
import ToolGateway.Proofs.Tool.BodyFields
import ToolGateway.Proofs.Tool.CompileFailures
import ToolGateway.Proofs.Tool.CompiledTrees
import ToolGateway.Proofs.Tool.CompilerReuse
import ToolGateway.Proofs.Tool.Delivery
import ToolGateway.Proofs.Tool.Description
import ToolGateway.Proofs.Tool.LostDefinitions
import ToolGateway.Proofs.Tool.Origin
import ToolGateway.Proofs.Tool.PathByPath
import ToolGateway.Proofs.Tool.PathTemplate
import ToolGateway.Proofs.Tool.Reach
import ToolGateway.Proofs.Tool.ReportedViolations
import ToolGateway.Proofs.Tool.SameName
import ToolGateway.Proofs.Tool.Twins
import ToolGateway.Proofs.Toolset.Filtering
import ToolGateway.Proofs.Toolset.Log
import ToolGateway.Proofs.Toolset.Merging
import ToolGateway.Proofs.Toolset.Ownership
import ToolGateway.Proofs.Toolset.Selection
import ToolGateway.Proofs.Validator.Acceptance
import ToolGateway.Proofs.Validator.Issues
import ToolGateway.Proofs.Validator.Projection
import ToolGateway.Proofs.Validator.Publication
import ToolGateway.Report
import ToolGateway.Report.Given
import ToolGateway.Schema.Compile
import ToolGateway.Schema.Instance
import ToolGateway.Schema.Reference
import ToolGateway.Schema.Validator
import ToolGateway.Schema.View
import ToolGateway.Server.Basic
import ToolGateway.Server.Inquiry
import ToolGateway.Server.Message
import ToolGateway.Server.Place
import ToolGateway.Server.Protocol
import ToolGateway.Table
import ToolGateway.Template
import ToolGateway.Template.Member
import ToolGateway.Template.MemberTable
import ToolGateway.Text.Ascii
import ToolGateway.Text.Blank
import ToolGateway.Text.Charset
import ToolGateway.Text.Charset.Chinese
import ToolGateway.Text.Charset.ChineseTable
import ToolGateway.Text.Charset.CodeTable
import ToolGateway.Text.Charset.Escaped
import ToolGateway.Text.Charset.Japanese
import ToolGateway.Text.Charset.JapanesePlanes
import ToolGateway.Text.Charset.JapaneseTable
import ToolGateway.Text.Charset.Korean
import ToolGateway.Text.Charset.KoreanTable
import ToolGateway.Text.Charset.Names
import ToolGateway.Text.Charset.Page
import ToolGateway.Text.Charset.Piece
import ToolGateway.Text.Charset.Shifted
import ToolGateway.Text.Charset.TaiwaneseTable
import ToolGateway.Text.Composition
import ToolGateway.Text.Encoding
import ToolGateway.Text.Excerpt
import ToolGateway.Text.Front
import ToolGateway.Text.Hexadecimal
import ToolGateway.Text.LetterCase
import ToolGateway.Text.Mask
import ToolGateway.Text.Printable
import ToolGateway.Text.Punycode
import ToolGateway.Text.Ranges
import ToolGateway.Text.Utf8
import ToolGateway.Tool.Basic
import ToolGateway.Tool.Compile
import ToolGateway.Tool.Routing
import ToolGateway.Tool.Surface
import ToolGateway.Toolset.AllowList
import ToolGateway.Toolset.Assemble
import ToolGateway.Toolset.Policy
import ToolGateway.Value.Basic
import ToolGateway.Value.Masked
import ToolGateway.Value.Membership
import ToolGateway.Value.Text
import ToolGateway.Yaml.Cursor
import ToolGateway.Yaml.Node
import ToolGateway.Yaml.Scalar
import ToolGateway.Yaml.Tag
import ToolGateway.Yaml.Token
import ToolGateway.Yaml.Tokenize
import ToolGateway.Yaml.Typed
import ToolGateway.Yaml.Value
