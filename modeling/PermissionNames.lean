import PermissionNames.Container
import PermissionNames.Text.Blank
import PermissionNames.Text.Hexadecimal
import PermissionNames.Text.Identifier.Table
import PermissionNames.Text.Identifier.Word
import PermissionNames.Text.Printable
import PermissionNames.Text.Quoted
import PermissionNames.Text.Utf8
import PermissionNames.Digest
import PermissionNames.Token
import PermissionNames.Batch
import PermissionNames.Marker
import PermissionNames.Decoration
import PermissionNames.FileTree
import PermissionNames.Ignore.Line
import PermissionNames.Ignore.Pattern
import PermissionNames.Ignore.Rules
import PermissionNames.Command.Arguments
import PermissionNames.ModuleName
import PermissionNames.Text.Compatibility.Composition
import PermissionNames.Text.Compatibility.Decomposition
import PermissionNames.Text.Compatibility
import PermissionNames.Source.Numeral
import PermissionNames.Source.Escape
import PermissionNames.Source.Quotation
import PermissionNames.Source.Layout
import PermissionNames.Decimal.Rounded
import PermissionNames.Decimal.Shortest
import PermissionNames.Decimal.Written
import PermissionNames.Source.Expression
import PermissionNames.Source.Written
import PermissionNames.Source.Grammar.Level
import PermissionNames.Source.Grammar.Target
import PermissionNames.Source.Grammar.Template
import PermissionNames.Source.Grammar.Operand
import PermissionNames.Source.Grammar.Operator
import PermissionNames.Source.Grammar.Compound
import PermissionNames.Source.Reading
import PermissionNames.Discovery.Basic
import PermissionNames.Discovery.Constants
import PermissionNames.Discovery.Declared
import PermissionNames.Discovery.Tree
import PermissionNames.Command.Report
import PermissionNames.Command.Run
import PermissionNames.Main
import PermissionNames.Proofs.Text.CodePointMap
import PermissionNames.Proofs.Text.Casing
import PermissionNames.Proofs.Text.Pieces
import PermissionNames.Proofs.Segment
import PermissionNames.Proofs.Transform
import PermissionNames.Proofs.PermissionName
import PermissionNames.Proofs.Batch
import PermissionNames.Proofs.BatchOutcome
import PermissionNames.Proofs.Text.Compatibility
import PermissionNames.Proofs.Text.Utf8
import PermissionNames.Proofs.FileTree
import PermissionNames.Proofs.Path
import PermissionNames.Proofs.GeneratedSource
import PermissionNames.Proofs.GeneratedSource.Body
import PermissionNames.Proofs.GeneratedSource.Unambiguous
import PermissionNames.Proofs.Command.Storing
import PermissionNames.Proofs.Discovery
import PermissionNames.Proofs.Command.Targets
import PermissionNames.Proofs.Command.Replacement
import PermissionNames.Proofs.Command.Selection
import PermissionNames.Proofs.Command.Rerun
import PermissionNames.Proofs.Command.StoredBytes
import PermissionNames.Proofs.Source.Piece
import PermissionNames.Proofs.Source.Line
import PermissionNames.Proofs.Source.Layout
import PermissionNames.Proofs.Source.Expression
import PermissionNames.Proofs.Source.Statement
import PermissionNames.Proofs.GeneratedSource.Written
import PermissionNames.Proofs.GeneratedSource.Entries
import PermissionNames.Proofs.GeneratedSource.Inert
import PermissionNames.Proofs.Discovery.Files
import PermissionNames.Proofs.Discovery.Classes
import PermissionNames.Proofs.Command.Locality
import PermissionNames.Proofs.Command.ExitCode
import PermissionNames.Proofs.Command.Idle
import PermissionNames.Proofs.Command.CutShort
import PermissionNames.Proofs.Command.Unselected
import PermissionNames.Proofs.Ignore.Confined
import PermissionNames.Proofs.Ignore.Kept
import PermissionNames.Proofs.Ignore.Nested
import PermissionNames.Proofs.Ignore.Precedence
import PermissionNames.Proofs.FileTree.Closed
import PermissionNames.Proofs.Command.Counters
import PermissionNames.Proofs.Text.Folding
import PermissionNames.Proofs.Text.Casing.Context
import PermissionNames.Text.Casing.Uppercase
import PermissionNames.Proofs.Segment.Scan
import PermissionNames.Proofs.Segment.Letters
import PermissionNames.Proofs.Segment.Settled
import PermissionNames.Proofs.Path.Lacks
import PermissionNames.Proofs.GeneratedSource.OutputPath
import PermissionNames.Proofs.BatchDialect
import PermissionNames.Proofs.Discovery.OutputPaths
import PermissionNames.Proofs.Discovery.Markers
import PermissionNames.Proofs.Discovery.Decoration
import PermissionNames.Execution.Program
import PermissionNames.Execution.ClassBody
import PermissionNames.Proofs.Transform.Frame
import PermissionNames.Proofs.Transform.Collisions
import PermissionNames.Proofs.FlatContainer
import PermissionNames.Proofs.Execution.Program
import PermissionNames.Proofs.Execution.ClassBody
import PermissionNames.Proofs.Execution.Exposure
import PermissionNames.Text.RegularLiteral
import PermissionNames.Proofs.Token
import PermissionNames.Proofs.Transform.Obfuscation
import PermissionNames.Proofs.Text.Casing.Capitals
import PermissionNames.Proofs.Transform.Capitals
import PermissionNames.Proofs.Source.Annotation
import PermissionNames.Proofs.Discovery.Literals
import PermissionNames.Proofs.Text.RegularLiteral
import PermissionNames.Proofs.GeneratedSource.PartialClass
import PermissionNames.Proofs.Command.Containment
import PermissionNames.Proofs.ModuleName
import PermissionNames.Proofs.Source.LongLiteral
import PermissionNames.Proofs.GeneratedSource.Header
import PermissionNames.Proofs.Source.Weight
import PermissionNames.Proofs.Source.ExpressionWeight
import PermissionNames.Proofs.Source.TextWeight
import PermissionNames.Proofs.Discovery.SlotType
import PermissionNames.Proofs.Discovery.Metadata
import PermissionNames.Proofs.Discovery.Slots
import PermissionNames.Proofs.Discovery.Prefixes
import PermissionNames.Proofs.Discovery.Failure
import PermissionNames.Proofs.Source.StatementWeight
import PermissionNames.Proofs.Source.DeclaredNames
