/-
Expressions: text with placeholders in it, and the literal operands of predicates.
-/
import RouteExpr.Number.Double
import RouteExpr.Operator

namespace RouteExpr

/-! ## Expressions -/

/-- An expression. -/
inductive Expr where
  /-- Text that stands for itself. -/
  | literal (text : String)
  | integer (i : Int64)
  | float (x : Double)
  | boolean (b : Bool)
  | null
  /-- A placeholder with a name, which may be made of placeholders itself. -/
  | property (name : Expr)
  /-- A placeholder with a name and arguments. -/
  | call (name : Expr) (args : List Expr)
  /-- Parts whose texts are joined. -/
  | concat (parts : List Expr)
  /-- The value of an expression, stepped by one. -/
  | step (s : Step) (operand : Expr)
  deriving Inhabited

namespace Expr

/-- Parts as one expression: none is the empty text, and a single one is itself. -/
def join : List Expr → Expr
  | [] => literal ""
  | [part] => part
  | parts => concat parts

mutual

/-- Whether there is no placeholder in the expression. -/
def isStatic : Expr → Bool
  | property _ => false
  | call _ _ => false
  | step _ _ => false
  | concat parts => areStatic parts
  | _ => true

/-- Whether there is no placeholder in any of the expressions. -/
def areStatic : List Expr → Bool
  | [] => true
  | e :: es => isStatic e && areStatic es

end

/-- Parts with literal text in front, which joins a literal text that comes first. -/
def prependText (text : List Char) : List Expr → List Expr
  | literal s :: parts => literal (String.ofList text ++ s) :: parts
  | parts => literal (String.ofList text) :: parts

/-! ## Equality -/

mutual

/-- Whether two expressions are the same tree. -/
def same : Expr → Expr → Bool
  | literal s, literal t => s == t
  | integer i, integer j => i == j
  | float x, float y => x == y
  | boolean a, boolean b => a == b
  | null, null => true
  | property a, property b => same a b
  | call a as, call b bs => same a b && sameList as bs
  | concat as, concat bs => sameList as bs
  | step s a, step t b => s == t && same a b
  | _, _ => false

/-- Whether two lists of expressions are the same trees in the same order. -/
def sameList : List Expr → List Expr → Bool
  | [], [] => true
  | a :: as, b :: bs => same a b && sameList as bs
  | _, _ => false

end

end Expr

end RouteExpr
