import AbapNaming.Command.Arguments
import AbapNaming.Command.Basic
import AbapNaming.Command.Run
import AbapNaming.Config.Basic
import AbapNaming.Config.Format
import AbapNaming.Config.KeySpan
import AbapNaming.Config.Problem
import AbapNaming.Decimal.Digits
import AbapNaming.Decimal.Shortest
import AbapNaming.Descriptor.Basic
import AbapNaming.Descriptor.Format
import AbapNaming.Diagnostic
import AbapNaming.Directory
import AbapNaming.Editor
import AbapNaming.Failure
import AbapNaming.Identifier.Buckets
import AbapNaming.Identifier.InterfaceName
import AbapNaming.Identifier.Reserved
import AbapNaming.Identifier.Role
import AbapNaming.Identifier.Snake
import AbapNaming.Identifier.Suffix
import AbapNaming.Json.Codec
import AbapNaming.Json.Number
import AbapNaming.Json.Reader
import AbapNaming.Json.Record
import AbapNaming.Json.Token
import AbapNaming.Json.Tree
import AbapNaming.Json.Value
import AbapNaming.KeyedList
import AbapNaming.Lint.Basic
import AbapNaming.Lint.Collisions
import AbapNaming.Lint.Paths
import AbapNaming.Lint.Placements
import AbapNaming.Load
import AbapNaming.Main
import AbapNaming.Naming
import AbapNaming.PathTemplate
import AbapNaming.Phase.Basic
import AbapNaming.Phase.Models
import AbapNaming.Phase.Operations
import AbapNaming.Phase.SupportingData
import AbapNaming.Phase.TypeMapping
import AbapNaming.Phase.Validation
import AbapNaming.Pipeline
import AbapNaming.Proofs.Config.KeySpan
import AbapNaming.Proofs.Config.Limits
import AbapNaming.Proofs.Config.Reordering
import AbapNaming.Proofs.Config.Spellings
import AbapNaming.Proofs.Descriptor.RoundTrip
import AbapNaming.Proofs.Identifier.Buckets
import AbapNaming.Proofs.Identifier.Humps
import AbapNaming.Proofs.Identifier.InterfaceName
import AbapNaming.Proofs.Identifier.Reserved
import AbapNaming.Proofs.Identifier.Snake
import AbapNaming.Proofs.Identifier.Suffix
import AbapNaming.Proofs.Identifier.UnderscoreRuns
import AbapNaming.Proofs.KeyedList
import AbapNaming.Proofs.Lint.Collisions
import AbapNaming.Proofs.Lint.Errors
import AbapNaming.Proofs.Lint.OutsideBraces
import AbapNaming.Proofs.Lint.Paths
import AbapNaming.Proofs.Naming.Braces
import AbapNaming.Proofs.Naming.Calls
import AbapNaming.Proofs.Naming.Collisions
import AbapNaming.Proofs.Naming.Independence
import AbapNaming.Proofs.Naming.Lengths
import AbapNaming.Proofs.Naming.Paths
import AbapNaming.Proofs.Naming.ReservedWords
import AbapNaming.Proofs.Naming.Roles
import AbapNaming.Proofs.Naming.Stability
import AbapNaming.Proofs.Naming.Substitution
import AbapNaming.Proofs.PathTemplate.Defects
import AbapNaming.Proofs.PathTemplate.Filling
import AbapNaming.Proofs.PathTemplate.Matches
import AbapNaming.Proofs.PathTemplate.Reading
import AbapNaming.Proofs.PathTemplate.Template
import AbapNaming.Proofs.Phase.Operations
import AbapNaming.Proofs.Pipeline.AllOrNothing
import AbapNaming.Proofs.Pipeline.Appending
import AbapNaming.Proofs.Pipeline.Collisions
import AbapNaming.Proofs.Pipeline.Execution
import AbapNaming.Proofs.Pipeline.Frame
import AbapNaming.Proofs.Pipeline.Identifiers
import AbapNaming.Proofs.Pipeline.Notes
import AbapNaming.Proofs.Pipeline.Placeholders
import AbapNaming.Proofs.Pipeline.Premapped
import AbapNaming.Proofs.Pipeline.References
import AbapNaming.Proofs.Pipeline.Sequence
import AbapNaming.Proofs.Pipeline.Stopped
import AbapNaming.Proofs.Pipeline.Told
import AbapNaming.Proofs.Remark.BlankEnd
import AbapNaming.Proofs.Remark.Fitting
import AbapNaming.Proofs.Remark.Sentences
import AbapNaming.Proofs.Report
import AbapNaming.Proofs.Text.Blank
import AbapNaming.Proofs.Text.Lowercase
import AbapNaming.Proofs.Text.Search
import AbapNaming.Proofs.TypeCodes.Requests
import AbapNaming.Proofs.TypeCodes.Run
import AbapNaming.Proofs.TypeCodes.Stream
import AbapNaming.Proofs.TypeCodes.Table
import AbapNaming.Proofs.TypeCodes.Uses
import AbapNaming.Remark
import AbapNaming.Report
import AbapNaming.Run
import AbapNaming.SchemaType
import AbapNaming.Text.Blank
import AbapNaming.Text.CaseTable
import AbapNaming.Text.Hidden
import AbapNaming.Text.Lowercase
import AbapNaming.Text.Quoted
import AbapNaming.Text.Search
import AbapNaming.Text.Utf8
import AbapNaming.Toml.Document
import AbapNaming.Toml.Literal
import AbapNaming.Toml.Moment
import AbapNaming.Toml.Scalar
import AbapNaming.Toml.Statement
import AbapNaming.TypeCodes
import AbapNaming.Word
