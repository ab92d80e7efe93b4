import SheetFormula.Text.CodeRanges
import SheetFormula.Text.Blank
import SheetFormula.Text.Alphanumeric
import SheetFormula.Text.Printable
import SheetFormula.Text.DecimalDigit
import SheetFormula.Text.Quoted
import SheetFormula.Decimal.Basic
import SheetFormula.Decimal.Notation
import SheetFormula.Decimal.Reading
import SheetFormula.Decimal.Binary
import SheetFormula.Decimal.Nearest
import SheetFormula.Decimal.Shortest
import SheetFormula.Token
import SheetFormula.Fault
import SheetFormula.Token.Fault
import SheetFormula.Token.Scan
import SheetFormula.Marker
import SheetFormula.Text.ColumnWidth
import SheetFormula.Text.Cluster
import SheetFormula.Text.Wrap
import SheetFormula.Text.Terminal
import SheetFormula.Report
import SheetFormula.Expr
import SheetFormula.Expr.Fault
import SheetFormula.Expr.Parse
import SheetFormula.Formula
import SheetFormula.Lookahead
import SheetFormula.Settings
import SheetFormula.Proofs.Traversal
import SheetFormula.Proofs.Grammar
import SheetFormula.Proofs.Lexemes
import SheetFormula.Proofs.Precedence
import SheetFormula.Proofs.References
import SheetFormula.Proofs.PendingStack
import SheetFormula.Proofs.Completeness
import SheetFormula.Proofs.Nesting
import SheetFormula.Proofs.Shapes
import SheetFormula.Proofs.Laziness
import SheetFormula.Proofs.ScanSpans
import SheetFormula.Proofs.FaultSpans
import SheetFormula.Proofs.Cursor
import SheetFormula.Proofs.Tiling
import SheetFormula.Proofs.Quoting
import SheetFormula.Proofs.Numerals
import SheetFormula.Proofs.Consumption
import SheetFormula.Proofs.SettingsSources
import SheetFormula.Proofs.ColumnNames
import SheetFormula.Proofs.Settling
import SheetFormula.Proofs.StopPoint
