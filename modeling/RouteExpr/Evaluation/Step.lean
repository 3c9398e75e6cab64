/-
Stepping a value by one.

The value keeps its form: integers and floats stay such, and a numeral stays text with its places.
-/
import RouteExpr.Evaluation.Basic

namespace RouteExpr

/-! ## Stepping -/

/-- The integer that a step adds. -/
def Step.delta : Step → Int
  | .increment => 1
  | .decrement => -1

/-- The refusal to step a value. -/
def Step.refuse {α : Type} (s : Step) (v : Value) : Outcome α :=
  .error (.typeMismatch (.step s.verb v.kind v.text))

/-- A value stepped by one. A text has to be a numeral, blanks around it aside: an integer of 64
bits that stays one, or a decimal. -/
def Step.apply (s : Step) (v : Value) : Outcome Value :=
  match v with
  | .integer i =>
    match int64? (i.toInt + s.delta) with
    | some j => .ok (.integer j)
    | none => s.refuse v
  | .float x => .ok (.float (x.addInt s.delta))
  | .string text =>
    let trimmed := Text.trim text.toList
    match readInt64? trimmed with
    | some i =>
      match int64? (i.toInt + s.delta) with
      | some j => .ok (.string (String.ofList (writeInt j.toInt)))
      | none => s.refuse v
    | none =>
      match Decimal.read? trimmed with
      | none => s.refuse v
      | some d =>
        match d.step? (s = .decrement) with
        | some e => .ok (.string (String.ofList e.text))
        | none => .error .decimalOverflow
  | _ => s.refuse v

end RouteExpr
