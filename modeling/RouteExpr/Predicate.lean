/-
Predicates: conditions joined by connectives. There are no parentheses, and `&&` binds tighter than
`||`.
-/
import RouteExpr.Expr
import RouteExpr.Pattern
import RouteExpr.Value.Type

namespace RouteExpr

/-! ## Predicates -/

/-- The right side of a comparison. -/
inductive Operand where
  | value (e : Expr)
  | type (t : ValueType)
  | range (low high : Expr)
  | pattern (p : Pattern)

/-- A predicate. -/
inductive Predicate where
  | comparison (left : Expr) (op : Operator) (right : Operand)
  /-- A value standing alone as a condition. -/
  | truthy (e : Expr)
  | constant (b : Bool)
  /-- Conditions that all have to hold. -/
  | all (conditions : List Predicate)
  /-- Groups of which one has to hold. -/
  | any (groups : List Predicate)

namespace Predicate

/-- Predicates under a way to join them; a single one is itself. -/
def collapse (join : List Predicate → Predicate) : List Predicate → Predicate
  | [p] => p
  | ps => join ps

/-- Groups of conditions as one predicate. -/
def ofGroups (groups : List (List Predicate)) : Predicate :=
  collapse any (groups.map (collapse all))

/-! ## Equality -/

/-- Whether two operands are the same. Patterns are the same when their sources are. -/
def sameOperand : Operand → Operand → Bool
  | .value a, .value b => a.same b
  | .type s, .type t => s == t
  | .range a b, .range c d => a.same c && b.same d
  | .pattern p, .pattern q => p.source == q.source
  | _, _ => false

mutual

/-- Whether two predicates are the same tree. -/
def same : Predicate → Predicate → Bool
  | comparison a op l, comparison b op' r => a.same b && op == op' && sameOperand l r
  | truthy a, truthy b => a.same b
  | constant a, constant b => a == b
  | all ps, all qs => sameList ps qs
  | any ps, any qs => sameList ps qs
  | _, _ => false

/-- Whether two lists of predicates are the same trees in the same order. -/
def sameList : List Predicate → List Predicate → Bool
  | [], [] => true
  | p :: ps, q :: qs => same p q && sameList ps qs
  | _, _ => false

end

end Predicate

end RouteExpr
