/-
What can be wrong with the text of an expression or a predicate, and where.

A fault is found at an offset into the text, counted in characters. Its wording is given here and
nowhere else.
-/

namespace RouteExpr

/-! ## Causes -/

/-- A quote that delimits text. -/
inductive Quote where
  | single
  | double
  deriving DecidableEq, Repr

/-- The character of a quote. -/
def Quote.toChar : Quote → Char
  | .single => '\''
  | .double => '"'

/-- The word for a quote. -/
def Quote.word : Quote → String
  | .single => "single"
  | .double => "double"

/-- What is wrong with a text. -/
inductive Cause where
  /-- A placeholder without its closing brace. -/
  | unclosedPlaceholder
  /-- A quoted text without its second quote. -/
  | unclosedQuote (quote : Quote)
  /-- A placeholder with nothing between its braces. -/
  | namelessPlaceholder
  | unexpectedToken (token : String)
  /-- A connective at the end of the text. -/
  | connectiveAtEnd (connective : String)
  /-- A connective followed by a token that starts no condition. -/
  | connectiveBefore (connective token : String)
  /-- A connective where a condition should start. -/
  | connectiveAtStart (connective : String)
  /-- An operator where a condition should start. -/
  | operatorAtStart (operator : String)
  /-- An operator without an operand after it. -/
  | operatorAtEnd (operator : String)
  /-- An operator followed by a token that is no operand of it. -/
  | operatorBefore (operator token : String)
  | unknownClass (name : String)
  /-- The operand of `range` has no two dots. -/
  | noRange (operand : String)
  /-- A bound of a range begins or ends with a dot. -/
  | dottedBound (bound : String)
  | boundNotNumber (bound : String)
  | invalidPattern (source : String)
  | missingValue
  deriving DecidableEq, Repr

/-- The wording of a cause. -/
def Cause.message : Cause → String
  | unclosedPlaceholder => "expected symbol '\x7d' to close the placeholder but reached the end"
  | unclosedQuote quote => quote.word ++ " quote has no ending quote"
  | namelessPlaceholder => "placeholder has no function or property name"
  | unexpectedToken token => "Unexpected token " ++ token
  | connectiveAtEnd c => "Logical operator " ++ c ++ " has no right hand side token"
  | connectiveBefore c token => "Logical operator " ++ c ++ " does not support token " ++ token
  | connectiveAtStart c => "Logical operator " ++ c ++ " has no left hand side token"
  | operatorAtStart op => "Binary operator " ++ op ++ " has no left hand side token"
  | operatorAtEnd op => "Binary operator " ++ op ++ " has no right hand side token"
  | operatorBefore op token => "Binary operator " ++ op ++ " does not support token " ++ token
  | unknownClass name => "Class " ++ name ++ " not found"
  | noRange operand => "Range operator requires a from..to value, got " ++ operand
  | dottedBound bound => "Range bound " ++ bound ++ " has a malformed separator"
  | boundNotNumber bound => "Range bound " ++ bound ++ " is not a number"
  | invalidPattern source => "Invalid regular expression " ++ source
  | missingValue => "Expected a value but reached the end"

/-! ## Faults -/

/-- A cause at an offset. -/
structure Fault where
  offset : Nat
  cause : Cause
  deriving DecidableEq, Repr

/-- A fault with the whole text it was found in. -/
structure SyntaxError where
  fault : Fault
  text : String
  deriving DecidableEq, Repr

namespace SyntaxError

/-- The wording of the fault. -/
def message (e : SyntaxError) : String :=
  e.fault.cause.message

/-- The wording with the offset, the text, and a caret under the offset. -/
def shown (e : SyntaxError) : String :=
  e.message ++ " at location " ++ toString e.fault.offset ++ "\n" ++ e.text ++ "\n" ++
    String.ofList (List.replicate e.fault.offset ' ') ++ "^"

/-- Whether the fault is a pattern that does not compile. -/
def isPattern (e : SyntaxError) : Bool :=
  match e.fault.cause with
  | .invalidPattern _ => true
  | _ => false

end SyntaxError

end RouteExpr
