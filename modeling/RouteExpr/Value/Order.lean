/-
Equality and order of values.

Null equals null alone and has no order. Two numbers, or texts that are numerals, compare as exact
decimals, or as doubles once one is out of the range of decimals; all else compares by text.
-/
import RouteExpr.Value

namespace RouteExpr.Value

/-! ## Order -/

/-- The order of two values as numbers, unless one of them is no number. -/
def numericOrder? (a b : Value) : Option Ordering :=
  match a.toDecimal?, b.toDecimal? with
  | some x, some y => some (x.order y)
  | _, _ =>
    match a.toDouble?, b.toDouble? with
    | some x, some y => x.compare? y
    | _, _ => none

/-- The order of two values, unless one of them is null. -/
def order? (a b : Value) : Option Ordering :=
  if a.isNull || b.isNull then none
  else
    match numericOrder? a b with
    | some o => some o
    | none => some (compare a.text b.text)

/-- Whether two values are equal. -/
def equals (a b : Value) : Bool :=
  match a, b with
  | .null, .null => true
  | .null, _ => false
  | _, .null => false
  | a, b =>
    match numericOrder? a b with
    | some o => o == .eq
    | none => a.text == b.text

end RouteExpr.Value
