import RowPipeline.Aggregate
import RowPipeline.AggregateFunction
import RowPipeline.Batch
import RowPipeline.Check
import RowPipeline.ColumnType
import RowPipeline.CommandLine
import RowPipeline.Config
import RowPipeline.ConfigFile
import RowPipeline.Csv
import RowPipeline.Decimal.Arithmetic
import RowPipeline.Decimal.Basic
import RowPipeline.Decimal.Text
import RowPipeline.Expr.Basic
import RowPipeline.Expr.Climbing
import RowPipeline.Expr.Eval
import RowPipeline.Expr.EvalError
import RowPipeline.Expr.Operator
import RowPipeline.Expr.Parser
import RowPipeline.Expr.Token
import RowPipeline.Files
import RowPipeline.Json.Basic
import RowPipeline.Json.Decode
import RowPipeline.Json.Number
import RowPipeline.Json.Printer
import RowPipeline.Json.Reader
import RowPipeline.Json.Rows
import RowPipeline.Main
import RowPipeline.Name
import RowPipeline.OrderedMap
import RowPipeline.Pipeline.Basic
import RowPipeline.Pipeline.Json
import RowPipeline.Pipeline.Locate
import RowPipeline.Pipeline.Operation
import RowPipeline.Proofs.Acceptance
import RowPipeline.Proofs.ArrivalOrder
import RowPipeline.Proofs.Averages
import RowPipeline.Proofs.BlamedOperation
import RowPipeline.Proofs.BlockColumns
import RowPipeline.Proofs.BlockIsolation
import RowPipeline.Proofs.BlockOrder
import RowPipeline.Proofs.CanonicalNumbers
import RowPipeline.Proofs.Cells
import RowPipeline.Proofs.CheckSoundness
import RowPipeline.Proofs.CheckedOperations
import RowPipeline.Proofs.CheckedRuns
import RowPipeline.Proofs.Climbing
import RowPipeline.Proofs.Conditions
import RowPipeline.Proofs.Coverage
import RowPipeline.Proofs.CsvRoundTrip
import RowPipeline.Proofs.DecimalOrder
import RowPipeline.Proofs.DecimalText
import RowPipeline.Proofs.DecimalValue
import RowPipeline.Proofs.DeclaredTypes
import RowPipeline.Proofs.Failure
import RowPipeline.Proofs.FileRuns
import RowPipeline.Proofs.GroupBy
import RowPipeline.Proofs.GroupEquality
import RowPipeline.Proofs.GroupErrors
import RowPipeline.Proofs.GroupFold
import RowPipeline.Proofs.GroupParts
import RowPipeline.Proofs.JsonText
import RowPipeline.Proofs.KnownColumns
import RowPipeline.Proofs.Layout
import RowPipeline.Proofs.Lookahead
import RowPipeline.Proofs.LooserTypes
import RowPipeline.Proofs.NameAgreement
import RowPipeline.Proofs.NullPassing
import RowPipeline.Proofs.Outcome
import RowPipeline.Proofs.Padding
import RowPipeline.Proofs.Printing
import RowPipeline.Proofs.Qualification
import RowPipeline.Proofs.Registrations
import RowPipeline.Proofs.Renaming
import RowPipeline.Proofs.Resolution
import RowPipeline.Proofs.ResolutionOrder
import RowPipeline.Proofs.Respelling
import RowPipeline.Proofs.Rounding
import RowPipeline.Proofs.RowTrace
import RowPipeline.Proofs.Rows
import RowPipeline.Proofs.SavedDefinitions
import RowPipeline.Proofs.ScopeAsNames
import RowPipeline.Proofs.ShellSettings
import RowPipeline.Proofs.Spelling
import RowPipeline.Proofs.Stages
import RowPipeline.Proofs.Stream
import RowPipeline.Proofs.TableLayout
import RowPipeline.Proofs.TargetsOnly
import RowPipeline.Proofs.Tokens
import RowPipeline.Proofs.Totals
import RowPipeline.Proofs.ValueDependence
import RowPipeline.Proofs.WideShape
import RowPipeline.Proofs.WrittenColumns
import RowPipeline.Proofs.WrittenOutNames
import RowPipeline.Reduction
import RowPipeline.Registry
import RowPipeline.Row
import RowPipeline.RowOp
import RowPipeline.Run
import RowPipeline.Shell
import RowPipeline.Sink
import RowPipeline.Table
import RowPipeline.Text.Alphabetic
import RowPipeline.Text.Blank
import RowPipeline.Text.Case
import RowPipeline.Text.CharRanges
import RowPipeline.Text.Grapheme
import RowPipeline.Text.GraphemeClass
import RowPipeline.Text.Split
import RowPipeline.Value.Basic
import RowPipeline.Value.Conversion
