import AccountInput.Account.Scalar
import AccountInput.Account.Timing
import AccountInput.Account.TokenSymbol
import AccountInput.Account.Vocabulary
import AccountInput.Calendar
import AccountInput.Cbor.Address
import AccountInput.Value.Object
import AccountInput.Value.Standard
import AccountInput.Cbor.Item
import AccountInput.Cbor.Reader
import AccountInput.Cbor.Tag
import AccountInput.Cbor.Writer
import AccountInput.Checked.Account
import AccountInput.Checked.Bytes
import AccountInput.Checked.Field
import AccountInput.Checked.HashInput
import AccountInput.Config.Command
import AccountInput.Config.Load
import AccountInput.Config.Path
import AccountInput.Config.Settings
import AccountInput.Document.Basic
import AccountInput.Document.Number
import AccountInput.Document.Schedule
import AccountInput.Fault
import AccountInput.Field
import AccountInput.Field.Step
import AccountInput.Fields
import AccountInput.HashInput.Basic
import AccountInput.HashInput.Step
import AccountInput.Json.Encoding
import AccountInput.Json.Reader
import AccountInput.Json.Token
import AccountInput.Json.Writer
import AccountInput.Logging.Clock
import AccountInput.Logging.Context
import AccountInput.Logging.Handler
import AccountInput.Logging.Level
import AccountInput.Logging.Line
import AccountInput.Logging.Observed
import AccountInput.Logging.Record
import AccountInput.Main
import AccountInput.Number.Decimal
import AccountInput.Number.Double
import AccountInput.Number.Endian
import AccountInput.Number.Fixed
import AccountInput.Number.Shortest
import AccountInput.Pattern.Basic
import AccountInput.Pattern.Escape
import AccountInput.Pattern.Reader
import AccountInput.Problem.Arguments
import AccountInput.Problem.View
import AccountInput.Text.Blank
import AccountInput.Text.Digit
import AccountInput.Text.Hex
import AccountInput.Text.Identifier
import AccountInput.Text.Case
import AccountInput.Text.Numeral
import AccountInput.Text.Printable
import AccountInput.Text.Quoted
import AccountInput.Text.Template
import AccountInput.Text.Utf8
import AccountInput.Text.Wide
import AccountInput.Toml.Number
import AccountInput.Toml.Reader
import AccountInput.Toml.Table
import AccountInput.Toml.Text
import AccountInput.Toml.Value
import AccountInput.Value.Basic
import AccountInput.Value.Coerce
import AccountInput.Value.Equal
import AccountInput.Value.Number
import AccountInput.Value.Text
import AccountInput.Version
import AccountInput.Wire.Bytes
import AccountInput.Wire.Object
import AccountInput.Wire.Record
import AccountInput.Wire.Version
import AccountInput.HashInput.Builders
import AccountInput.Proofs.HashInput.Appending
import AccountInput.HashInput.Chunk
import AccountInput.Proofs.HashInput.Packing
import AccountInput.Proofs.HashInput.Unpacking
import AccountInput.Account.Commitment
import AccountInput.Proofs.Account.Commitment
import AccountInput.Proofs.Cbor.Framing
import AccountInput.Proofs.Value.Given
import AccountInput.Proofs.Wire.Shape
import AccountInput.Proofs.Wire.Object
import AccountInput.Proofs.Problem
import AccountInput.Proofs.Wire.Bytes
import AccountInput.Proofs.Wire.Refusal
import AccountInput.Wire.Unwrapped
import AccountInput.Proofs.Wire.Unwrapped
import AccountInput.Proofs.Wire.Closed
import AccountInput.Proofs.Document.Number
import AccountInput.Proofs.Json.Reader
import AccountInput.Proofs.Document.Timing
import AccountInput.Proofs.Account.Layout
import AccountInput.Proofs.Value.Data
import AccountInput.Proofs.Json.Data
import AccountInput.Proofs.Config.Settings
import AccountInput.Proofs.Toml.Data
import AccountInput.Proofs.Config.File
import AccountInput.Proofs.Config.Layers
import AccountInput.Proofs.Config.Refusal
import AccountInput.Proofs.Config.Command
import AccountInput.Proofs.Json.Written
import AccountInput.Proofs.Config.Reload
import AccountInput.Problem.Addition
import AccountInput.Proofs.Document.Schedule
import AccountInput.Proofs.Problem.View
import AccountInput.Logging.Program
import AccountInput.Proofs.Logging.Scoping
import AccountInput.Json.Grammar
import AccountInput.Proofs.Json.Spelled
import AccountInput.Proofs.Json.Quoted
import AccountInput.Proofs.Document.Rendering
import AccountInput.Proofs.Field.Power
import AccountInput.Proofs.Field.Bytes
import AccountInput.Field.Exact
import AccountInput.Proofs.Field.Running
import AccountInput.Proofs.Field.Hash
import AccountInput.Proofs.Account.TokenSymbol
import AccountInput.Logging.Setup
import AccountInput.Proofs.Logging.Setup
import AccountInput.Proofs.Logging.LeastLevel
import AccountInput.Proofs.Number.Rounding
import AccountInput.Proofs.Number.Shortest
import AccountInput.Proofs.Json.Number
import AccountInput.Proofs.Json.Printed
import AccountInput.Proofs.Logging.Line
import AccountInput.Proofs.Json.Writer
import AccountInput.Proofs.Logging.JsonLine
import AccountInput.Proofs.Logging.TextLine
import AccountInput.Logging.Hierarchy
import AccountInput.Proofs.Logging.Hierarchy
import AccountInput.Text.CodePoint
