/-
What evaluation needs and what can go wrong in it.

A context resolves placeholders: it knows the properties and the functions. All that the language
itself computes is in the modules that import this one.
-/
import RouteExpr.Operator
import RouteExpr.Value.Type

namespace RouteExpr

/-! ## Errors -/

/-- Why a value cannot take part in an operation. -/
inductive Mismatch where
  /-- A value has no conversion to a type. -/
  | conversion (kind text : String) (type : ValueType)
  /-- A value where the name of a class is needed. -/
  | noClassName (text : String)
  /-- A value where a range is needed. -/
  | noRange (text : String)
  | boundsNotNumbers (low high : String)
  /-- A value that cannot be stepped by one. -/
  | step (verb kind text : String)
  deriving DecidableEq, Repr

/-- The wording of a mismatch. -/
def Mismatch.message : Mismatch → String
  | conversion kind text type =>
    "cannot convert " ++ kind ++ " value '" ++ text ++ "' to " ++ type.name
  | noClassName text => "'" ++ text ++ "' is not a class name"
  | noRange text => "range '" ++ text ++ "' is not of the form from..to"
  | boundsNotNumbers low high => "range bounds '" ++ low ++ ".." ++ high ++ "' are not numbers"
  | step verb kind text => "cannot " ++ verb ++ " " ++ kind ++ " value '" ++ text ++ "'"

/-- Why the arguments of a function are refused. -/
inductive BadArguments where
  /-- Their number; the text says what is expected. -/
  | count (expected : String)
  | unknownType (name : String)
  deriving DecidableEq, Repr

/-- The wording of a refusal. -/
def BadArguments.message : BadArguments → String
  | count expected => "expected " ++ expected
  | unknownType name => "unknown type " ++ name

/-- Why an expression has no value. -/
inductive EvaluationError where
  | propertyNotFound (path : String)
  | unknownFunction (name : String)
  | invalidArguments (function : String) (why : BadArguments)
  | typeMismatch (why : Mismatch)
  | invalidPattern (source : String)
  /-- A function of the host failed. -/
  | invocation (name cause : String)
  /-- A step leaves the range of decimals. -/
  | decimalOverflow
  deriving DecidableEq, Repr

/-- The wording of an error. -/
def EvaluationError.message : EvaluationError → String
  | propertyNotFound path => "property not found: " ++ path
  | unknownFunction name => "unknown function: " ++ name
  | invalidArguments function why => "invalid arguments for " ++ function ++ ": " ++ why.message
  | typeMismatch why => "type mismatch: " ++ why.message
  | invalidPattern source => "invalid regular expression " ++ source
  | invocation name cause => "invocation of " ++ name ++ " failed: " ++ cause
  | decimalOverflow => "decimal overflow"

/-! ## Contexts -/

/-- A value, or why there is none. -/
abbrev Outcome (α : Type) := Except EvaluationError α

/-- What placeholders are resolved against. -/
structure Context where
  /-- The value of a property path. -/
  property : String → Outcome Value
  /-- The result of a function. -/
  invoke : String → List Value → Outcome Value

end RouteExpr
