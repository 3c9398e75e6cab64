/-
The operators of the language and how they are spelled: comparisons with their negations, the
connectives between conditions, and the steps that follow a placeholder.
-/

namespace RouteExpr

/-! ## Comparisons -/

/-- A comparison between two operands. -/
inductive Comparison where
  | equal
  /-- Equal in lower case. -/
  | equalIgnoreCase
  | greater
  | greaterEqual
  | less
  | lessEqual
  /-- Part of a text, or item of a list. -/
  | contains
  | containsIgnoreCase
  /-- One of a list, or of the parts of a text between commas. -/
  | member
  /-- Matched in full by a regular expression. -/
  | regex
  /-- Instance of a type. -/
  | type
  /-- Between two numbers, both included. -/
  | range
  | startsWith
  | endsWith
  deriving DecidableEq, Repr

namespace Comparison

/-- The comparison that a single word stands for. -/
def ofKeyword? (word : String) : Option Comparison :=
  match word with
  | "contains" => some contains
  | "in" => some member
  | "regex" => some regex
  | "is" => some type
  | "range" => some range
  | "startsWith" => some startsWith
  | "endsWith" => some endsWith
  | _ => none

/-- The spelling of a comparison. -/
def spelling : Comparison → String
  | equal => "=="
  | equalIgnoreCase => "=~"
  | greater => ">"
  | greaterEqual => ">="
  | less => "<"
  | lessEqual => "<="
  | contains => "contains"
  | containsIgnoreCase => "~~"
  | member => "in"
  | regex => "regex"
  | type => "is"
  | range => "range"
  | startsWith => "starts with"
  | endsWith => "ends with"

/-- Whether a comparison is spelled in words. -/
def isWord : Comparison → Bool
  | contains | member | regex | type | range | startsWith | endsWith => true
  | _ => false

end Comparison

/-- A comparison or its negation. -/
structure Operator where
  comparison : Comparison
  negated : Bool
  deriving DecidableEq, Repr

namespace Operator

/-- The operator of a symbol. -/
def ofSymbol? (symbol : String) : Option Operator :=
  match symbol with
  | "==" => some ⟨.equal, false⟩
  | "!=" => some ⟨.equal, true⟩
  | "=~" => some ⟨.equalIgnoreCase, false⟩
  | "!=~" => some ⟨.equalIgnoreCase, true⟩
  | ">" => some ⟨.greater, false⟩
  | ">=" => some ⟨.greaterEqual, false⟩
  | "<" => some ⟨.less, false⟩
  | "<=" => some ⟨.lessEqual, false⟩
  | "~~" => some ⟨.containsIgnoreCase, false⟩
  | "!~~" => some ⟨.containsIgnoreCase, true⟩
  | _ => none

/-- The spelling of an operator: a negation is written `!=`, with `not` before words and with `!`
before other symbols. -/
def spelling (op : Operator) : String :=
  if !op.negated then op.comparison.spelling
  else if op.comparison = .equal then "!="
  else if op.comparison.isWord then "not " ++ op.comparison.spelling
  else "!" ++ op.comparison.spelling

end Operator

/-! ## Connectives -/

/-- What joins two conditions. -/
inductive Connective where
  | and
  | or
  deriving DecidableEq, Repr

/-- The symbol of a connective. -/
def Connective.spelling : Connective → String
  | .and => "&&"
  | .or => "||"

/-! ## Steps -/

/-- What a suffix does to the value of a placeholder. -/
inductive Step where
  | increment
  | decrement
  deriving DecidableEq, Repr

namespace Step

/-- The step of a suffix. -/
def ofSymbol? (symbol : String) : Option Step :=
  match symbol with
  | "++" => some increment
  | "--" => some decrement
  | _ => none

/-- The word for what a step does. -/
def verb : Step → String
  | increment => "increment"
  | decrement => "decrement"

end Step

end RouteExpr
