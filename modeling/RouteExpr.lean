import RouteExpr.Message.Shown
import RouteExpr.Main
import RouteExpr.Proofs.Evaluation.Overflow
import RouteExpr.Proofs.Expr.Literals
import RouteExpr.Proofs.Expr.Template
import RouteExpr.Proofs.Predicate.Join
import RouteExpr.Proofs.Number.Numeral
import RouteExpr.Proofs.Predicate.Shape
import RouteExpr.Proofs.Token.Word
import RouteExpr.Proofs.Predicate.Operand
import RouteExpr.Proofs.Number.Double
import RouteExpr.Proofs.Number.Integer
import RouteExpr.Proofs.Number.Rational
import RouteExpr.Proofs.Number.OfDouble
import RouteExpr.Proofs.Value.Alike
import RouteExpr.Proofs.Value.Order
import RouteExpr.Proofs.Value.Number
import RouteExpr.Proofs.Value.Padded
import RouteExpr.Proofs.Evaluation.Alike
import RouteExpr.Proofs.Evaluation.Numeral
import RouteExpr.Proofs.Checked.Basic
import RouteExpr.Proofs.Checked.Cursor
import RouteExpr.Proofs.Checked.Scan
import RouteExpr.Proofs.Checked.Steps
import RouteExpr.Proofs.Checked.Expr
import RouteExpr.Proofs.Checked.Bytes
import RouteExpr.Proofs.Checked.Predicate
import RouteExpr.Proofs.Checked.Parse
import RouteExpr.Proofs.Token.Tiling
import RouteExpr.Proofs.Checked.Region
import RouteExpr.Proofs.Predicate.Misplaced
import RouteExpr.Proofs.Expr.Call
import RouteExpr.Proofs.Checked.Peek
import RouteExpr.Proofs.Message.Conversion
import RouteExpr.Proofs.Token.Layout
import RouteExpr.Proofs.Predicate.Layout
import RouteExpr.Proofs.Value.Sorted
import RouteExpr.Proofs.Message.Sorted
import RouteExpr.Proofs.Evaluation.Sorted
import RouteExpr.Proofs.Evaluation.Step
import RouteExpr.Proofs.Value.Integer
import RouteExpr.Proofs.Predicate.Negation
import RouteExpr.Proofs.Pattern.Whole
import RouteExpr.Proofs.Evaluation.Case
import RouteExpr.Proofs.Expr.Normal
import RouteExpr.Proofs.Expr.Accepted
import RouteExpr.Proofs.Predicate.Respelled
import RouteExpr.Proofs.Expr.Static
import RouteExpr.Proofs.Predicate.Range
import RouteExpr.Proofs.Evaluation.Range
import RouteExpr.Proofs.Evaluation.Pattern
import RouteExpr.Proofs.Message.Document
import RouteExpr.Proofs.Number.Grammar
import RouteExpr.Proofs.Message.Path
import RouteExpr.Proofs.Predicate.Number
import RouteExpr.Proofs.Token.Suffix
import RouteExpr.Proofs.Expr.Pieces
import RouteExpr.Proofs.Expr.Signs
import RouteExpr.Proofs.Token.Keyword
import RouteExpr.Proofs.Message.Header
import RouteExpr.Proofs.Message.ClassName
import RouteExpr.Proofs.Evaluation.Member
import RouteExpr.Proofs.Checked.Block
import RouteExpr.Proofs.Message.Substring
