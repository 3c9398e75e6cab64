/-
Evaluating expressions and predicates in a context.

Parts are evaluated from left to right, and the first error is the outcome. Of conditions only as
many are evaluated as decide the outcome.
-/
import RouteExpr.Evaluation.Compare
import RouteExpr.Evaluation.Step
import RouteExpr.Predicate

namespace RouteExpr

/-! ## Expressions -/

/-- Whether the name of a placeholder refers to a method of the host, which is called also without
arguments. -/
def isHostName (name : String) : Bool :=
  "bean:".toList.isPrefixOf name.toList

namespace Expr

mutual

/-- The value of an expression. -/
def evaluate (ctx : Context) : Expr → Outcome Value
  | literal text => .ok (.string text)
  | integer i => .ok (.integer i)
  | float x => .ok (.float x)
  | boolean b => .ok (.boolean b)
  | null => .ok .null
  | property name => do
    let name := Text.trimmed (← evaluate ctx name).text
    if isHostName name then ctx.invoke name [] else ctx.property name
  | call name args => do
    let name := Text.trimmed (← evaluate ctx name).text
    ctx.invoke name (← evaluateAll ctx args)
  | concat parts => do
    let values ← evaluateAll ctx parts
    return .string (String.join (values.map Value.text))
  | step s operand => do s.apply (← evaluate ctx operand)

/-- The values of expressions, in order. -/
def evaluateAll (ctx : Context) : List Expr → Outcome (List Value)
  | [] => .ok []
  | e :: es => do
    let v ← evaluate ctx e
    return v :: (← evaluateAll ctx es)

end

/-- The value of an expression, converted to a type. -/
def evaluateAs (ctx : Context) (t : ValueType) (e : Expr) : Outcome Value := do
  let v ← e.evaluate ctx
  match t.convert? v with
  | some w => return w
  | none => .error (.typeMismatch (.conversion v.kind v.text t))

end Expr

/-! ## Predicates -/

namespace Predicate

/-- Whether a comparison, not negated, holds of a value and an operand. -/
def compareWith (ctx : Context) (c : Comparison) (left : Value) : Operand → Outcome Bool
  | .type t => .ok (t.admits left)
  | .pattern p => .ok (left.fits p)
  | .range low high => do
    let low ← low.evaluate ctx
    left.inRange low (← high.evaluate ctx)
  | .value e => do c.holds left (← e.evaluate ctx)

mutual

/-- Whether a predicate holds. -/
def evaluate (ctx : Context) : Predicate → Outcome Bool
  | constant b => .ok b
  | truthy e => return (← e.evaluate ctx).isTruthy
  | comparison left op right => do
    let left ← left.evaluate ctx
    return (← compareWith ctx op.comparison left right) != op.negated
  | all ps => evaluateAll ctx ps
  | any ps => evaluateAny ctx ps

/-- Whether all predicates hold, up to the first that does not. -/
def evaluateAll (ctx : Context) : List Predicate → Outcome Bool
  | [] => .ok true
  | p :: ps => do if ← evaluate ctx p then evaluateAll ctx ps else return false

/-- Whether some predicate holds, up to the first that does. -/
def evaluateAny (ctx : Context) : List Predicate → Outcome Bool
  | [] => .ok false
  | p :: ps => do if ← evaluate ctx p then return true else evaluateAny ctx ps

end

end Predicate

end RouteExpr
