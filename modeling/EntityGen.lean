import EntityGen.Command.Arguments
import EntityGen.Command.Run
import EntityGen.Command.Usage
import EntityGen.Conversion
import EntityGen.Decimal.Shortest
import EntityGen.Dialect.Basic
import EntityGen.Dialect.Mapping
import EntityGen.Entity
import EntityGen.Entity.Classify
import EntityGen.Entity.Normalize
import EntityGen.Identifier
import EntityGen.Json.Basic
import EntityGen.Json.Literal
import EntityGen.Json.Numeral
import EntityGen.Json.Parser
import EntityGen.Json.Printer
import EntityGen.Json.Reader
import EntityGen.Kind.Basic
import EntityGen.Kind.Value
import EntityGen.Main
import EntityGen.Manifest.Basic
import EntityGen.Manifest.Format
import EntityGen.Manifest.Load
import EntityGen.Manifest.Shape
import EntityGen.Record
import EntityGen.Render.Go
import EntityGen.Render.Kotlin
import EntityGen.SchemaError
import EntityGen.Settings
import EntityGen.Surroundings
import EntityGen.Template
import EntityGen.Text.Alphanumeric
import EntityGen.Text.Blank
import EntityGen.Text.Case
import EntityGen.Text.CaseTable
import EntityGen.Text.CodePoints
import EntityGen.Text.Join
import EntityGen.Text.Quoted
import EntityGen.Text.Visible
import EntityGen.Text.Words
import EntityGen.Toml.Basic
import EntityGen.Toml.Number
import EntityGen.Toml.Parser
import EntityGen.Toml.Reader
import EntityGen.Toml.Text
import EntityGen.Trace
import EntityGen.Tree
import EntityGen.Yaml.Cursor
import EntityGen.Yaml.Node
import EntityGen.Yaml.Property
import EntityGen.Yaml.Reader
import EntityGen.Yaml.Scalar
import EntityGen.Yaml.Token
import EntityGen.Yaml.Tokens
import EntityGen.Proofs.Conversion.Accounting
import EntityGen.Proofs.Sequence
import EntityGen.Proofs.Entity.Becomes
import EntityGen.Proofs.Entity.Partition
import EntityGen.Proofs.Text.Lines
import EntityGen.Proofs.Entity.Items
import EntityGen.Proofs.Identifier.Characters
import EntityGen.Proofs.Template
import EntityGen.Proofs.Template.Cut
import EntityGen.Proofs.Render.Go.Members
import EntityGen.Proofs.Render.Go.Items
import EntityGen.Proofs.Render.Kotlin.Blocks
import EntityGen.Proofs.Render.Kotlin.BlockLines
import EntityGen.Proofs.Render.Kotlin.Items
import EntityGen.Proofs.Render.Go.Complete
import EntityGen.Proofs.Render.Agreement
import EntityGen.Proofs.Render.Go.Tags
import EntityGen.Proofs.Command.FileSystem
import EntityGen.Proofs.Conversion.Options
import EntityGen.Proofs.Tree.ReadBack
import EntityGen.Proofs.Command.Delivery
import EntityGen.Proofs.Conversion.Sides
import EntityGen.Proofs.Identifier.Canonical
import EntityGen.Proofs.Render.Go.Identifiers
import EntityGen.Proofs.Render.Kotlin.Inverse
import EntityGen.Proofs.Render.Nesting
import EntityGen.Proofs.Command.Feeding
import EntityGen.Proofs.Conversion.Requests
import EntityGen.Proofs.Conversion.Isolation
import EntityGen.Proofs.Manifest.Views
import EntityGen.Proofs.Conversion.Views
import EntityGen.Proofs.Render.Unresolved
import EntityGen.Proofs.Render.Go.Unresolved
import EntityGen.Proofs.Render.Kotlin.Unresolved
import EntityGen.Proofs.Entity.Origins
import EntityGen.Proofs.Entity.Precedence
import EntityGen.Proofs.Entity.Consistency
import EntityGen.Proofs.Entity.Omissions
import EntityGen.Proofs.Conversion.Attribution
import EntityGen.Proofs.Command.Layers
import EntityGen.Proofs.Json.Grammar
import EntityGen.Proofs.Json.Scanning
import EntityGen.Proofs.Json.Completeness
import EntityGen.Proofs.Json.Printing
import EntityGen.Proofs.Record
import EntityGen.Proofs.Record.Parts
import EntityGen.Proofs.Json.Members
import EntityGen.Proofs.Json.Records
import EntityGen.Proofs.Json.Rewording
import EntityGen.Proofs.Json.Values
import EntityGen.Proofs.Manifest.Shape
import EntityGen.Proofs.Manifest.RoundTrip
import EntityGen.Proofs.Manifest.Rewording
import EntityGen.Proofs.Manifest.Decoding
import EntityGen.Proofs.Yaml.Scalars
import EntityGen.Proofs.Yaml.Scanning
import EntityGen.Proofs.Yaml.Nodes
import EntityGen.Proofs.Yaml.Common
import EntityGen.Proofs.Yaml.Records
import EntityGen.Proofs.Manifest.Formats
import EntityGen.Proofs.Render.Kotlin.Annotations
import EntityGen.Proofs.Text.Separated
import EntityGen.Proofs.Render.Go.ColumnLines
import EntityGen.Proofs.Render.Go.Constraints
import EntityGen.Proofs.Render.Go.Choices
import EntityGen.Proofs.Text.Literal
import EntityGen.Proofs.Render.TableLiteral
import EntityGen.Proofs.Identifier.Casing
import EntityGen.Proofs.Render.Go.Layout
import EntityGen.Proofs.Command.Spelling
import EntityGen.Proofs.Command.Preceding
import EntityGen.Proofs.Tree.Clear
import EntityGen.Proofs.Command.Languages
