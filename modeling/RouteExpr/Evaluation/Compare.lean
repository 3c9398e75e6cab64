/-
What the comparisons of the language mean for values.

Null equals null alone; in any other comparison a null side makes it fail. The comparisons of text
take the text of whatever they are given.
-/
import RouteExpr.Evaluation.Basic
import RouteExpr.Pattern
import RouteExpr.Text.Case
import RouteExpr.Value.Order

namespace RouteExpr.Value

/-! ## Text -/

/-- Whether two values have equal text in lower case; null is like null alone. -/
def equalsIgnoreCase (a b : Value) : Bool :=
  match a, b with
  | .null, .null => true
  | .null, _ => false
  | _, .null => false
  | a, b => Text.lower a.text == Text.lower b.text

/-- Whether a list has an item, or a text another text in it, after `fold` is applied to texts. -/
def containsBy (fold : String → String) (a b : Value) : Bool :=
  match a with
  | .array items => items.any fun item => equals item b || fold item.text == fold b.text
  | a => Text.occurs (fold b.text).toList (fold a.text).toList

/-- Whether a value contains another. -/
def contains (fold : String → String) (a b : Value) : Bool :=
  !a.isNull && !b.isNull && containsBy fold a b

/-- Whether a value is one of a list, or one of the parts of a text between commas, blanks around
the parts aside. -/
def memberOf (a b : Value) : Bool :=
  !a.isNull &&
    match b with
    | .null => false
    | .array items => items.any fun item => item.text == a.text
    | b => (Text.splitOn ',' b.text.toList).any fun part => String.ofList (Text.trim part) == a.text

/-- Whether the text of a value begins with that of another. -/
def startsWith (a b : Value) : Bool :=
  !a.isNull && !b.isNull && b.text.toList.isPrefixOf a.text.toList

/-- Whether the text of a value ends with that of another. -/
def endsWith (a b : Value) : Bool :=
  !a.isNull && !b.isNull && b.text.toList.isSuffixOf a.text.toList

/-! ## Ranges -/

/-- Whether a value is between two bounds, both included. The bounds have to be numbers. -/
def inRange (v low high : Value) : Outcome Bool :=
  if low.toDouble?.isNone || high.toDouble?.isNone then
    .error (.typeMismatch (.boundsNotNumbers low.text high.text))
  else
    .ok ((numericOrder? v low).any (· != .lt) && (numericOrder? v high).any (· != .gt))

/-- Whether a value is within the range that a text gives around its first two dots. -/
def inRangeText (v : Value) (range : String) : Outcome Bool :=
  match Text.cut? ['.', '.'] range.toList with
  | none => .error (.typeMismatch (.noRange range))
  | some (low, high) =>
    inRange v (.string (String.ofList (Text.trim low))) (.string (String.ofList (Text.trim high)))

/-! ## Patterns -/

/-- Whether a pattern matches the text of a value; never that of null. -/
def fits (v : Value) (p : Pattern) : Bool :=
  !v.isNull && p.matches? v.text

/-- Whether the pattern that a value writes matches the text of another. -/
def fitsText (v source : Value) : Outcome Bool :=
  if v.isNull || source.isNull then .ok false
  else
    match Pattern.compile? source.text with
    | some p => .ok (v.fits p)
    | none => .error (.invalidPattern source.text)

end RouteExpr.Value

/-! ## Comparisons -/

namespace RouteExpr.Comparison

/-- Whether a comparison holds between two values. -/
def holds (c : Comparison) (a b : Value) : Outcome Bool :=
  match c with
  | equal => .ok (a.equals b)
  | equalIgnoreCase => .ok (a.equalsIgnoreCase b)
  | greater => .ok ((a.order? b).any (· == .gt))
  | greaterEqual => .ok ((a.order? b).any (· != .lt))
  | less => .ok ((a.order? b).any (· == .lt))
  | lessEqual => .ok ((a.order? b).any (· != .gt))
  | contains => .ok (a.contains id b)
  | containsIgnoreCase => .ok (a.contains Text.lower b)
  | member => .ok (a.memberOf b)
  | regex => a.fitsText b
  | type => .error (.typeMismatch (.noClassName b.text))
  | range => a.inRangeText b.text
  | startsWith => .ok (a.startsWith b)
  | endsWith => .ok (a.endsWith b)

end RouteExpr.Comparison
