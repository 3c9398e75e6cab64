/-
Parsed texts: expressions and predicates together with the text that they were read from.

A parsed text does not depend on the class names it was read with, and can be evaluated in any
context, any number of times.
-/
import RouteExpr.Evaluation
import RouteExpr.Predicate.Reader

namespace RouteExpr

/-! ## Expressions -/

/-- An expression with its text. -/
structure Expression where
  text : String
  root : Expr

namespace Expression

/-- The expression that a text is. -/
def parse (text : String) : Except SyntaxError Expression :=
  match Expr.read text.toList with
  | .ok root => .ok ⟨text, root⟩
  | .error fault => .error ⟨fault, text⟩

/-- Whether two expressions have the same text and the same tree. -/
def same (a b : Expression) : Bool :=
  a.text == b.text && a.root.same b.root

/-- The value of an expression. -/
def evaluate (ctx : Context) (e : Expression) : Outcome Value :=
  e.root.evaluate ctx

/-- The value of an expression, converted to a type. -/
def evaluateAs (ctx : Context) (t : ValueType) (e : Expression) : Outcome Value :=
  e.root.evaluateAs ctx t

end Expression

/-! ## Predicates -/

/-- A predicate with its text. -/
structure Rule where
  text : String
  root : Predicate

namespace Rule

/-- The predicate that a text is, with the classes that `is` may name. -/
def parse (classes : ClassTable) (text : String) : Except SyntaxError Rule :=
  match Predicate.read classes text.toList with
  | .ok root => .ok ⟨text, root⟩
  | .error fault => .error ⟨fault, text⟩

/-- Whether two predicates have the same text and the same tree. -/
def same (a b : Rule) : Bool :=
  a.text == b.text && a.root.same b.root

/-- Whether a predicate holds. -/
def holds (ctx : Context) (r : Rule) : Outcome Bool :=
  r.root.evaluate ctx

end Rule

end RouteExpr
