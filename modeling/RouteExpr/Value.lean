/-
Runtime values: what headers, bodies and results are made of, how they read as text, as numbers
and as conditions.

Integers and floats are kept apart. The fields of an object are keyed by name, each name once;
their order carries no meaning and shows in no text, since the text of an object lists its keys
sorted.
-/
import RouteExpr.Number.Decimal.OfDouble
import RouteExpr.Number.Double.Shortest
import RouteExpr.Text.Blank

namespace RouteExpr

/-! ## Values -/

/-- A runtime value. -/
inductive Value where
  /-- The absent value: a missing header, an empty body. -/
  | null
  | boolean (b : Bool)
  | integer (i : Int64)
  | float (x : Double)
  | string (s : String)
  | array (items : List Value)
  | object (fields : List (String × Value))
  deriving Inhabited

/-- Values keyed by name. -/
abbrev Fields := List (String × Value)

namespace Value

/-- Whether the value is the absent one. -/
def isNull : Value → Bool
  | null => true
  | _ => false

/-- The word for the kind of a value. -/
def kind : Value → String
  | null => "null"
  | boolean _ => "boolean"
  | integer _ => "integer"
  | float _ => "float"
  | string _ => "string"
  | array _ => "array"
  | object _ => "object"

/-- Whether a value standing alone as a condition holds: it is present, and neither `false`, nor
the text `false`, nor the empty text. -/
def isTruthy : Value → Bool
  | null => false
  | boolean b => b
  | string s => s != "" && s != "false"
  | _ => true

/-! ## Text -/

/-- Keyed texts in the order of their keys. -/
def sortByKey (entries : List (String × String)) : List (String × String) :=
  entries.mergeSort fun a b => a.1 ≤ b.1

mutual

/-- The text that shows a value, `null` included. -/
def shown : Value → String
  | null => "null"
  | boolean b => if b then "true" else "false"
  | integer i => String.ofList (writeInt i.toInt)
  | float x => String.ofList x.text
  | string s => s
  | array items => "[" ++ String.intercalate ", " (shownItems items) ++ "]"
  | object fields =>
    "\x7b" ++
      String.intercalate ", " ((sortByKey (shownFields fields)).map fun (k, v) => k ++ "=" ++ v) ++
      "\x7d"

/-- The texts that show the values of a list. -/
def shownItems : List Value → List String
  | [] => []
  | v :: vs => shown v :: shownItems vs

/-- The texts that show the values of an object, each with its key. -/
def shownFields : List (String × Value) → List (String × String)
  | [] => []
  | (k, v) :: rest => (k, shown v) :: shownFields rest

end

/-- The text that a value contributes to an expression: null contributes nothing. -/
def text : Value → String
  | null => ""
  | v => shown v

/-! ## Numbers -/

/-- The value as a double. A text must be a numeral, blanks around it aside, and a finite one. -/
def toDouble? : Value → Option Double
  | integer i => some (Double.ofInt i.toInt)
  | float x => some x
  | string s =>
    (Numeral.read? (Text.trim s.toList)).bind fun n =>
      let x := Double.ofNumeral n
      if x.isFinite then some x else none
  | _ => none

/-- The value as an integer: an integer, an integral float, or a text that writes an integer. -/
def toInt64? : Value → Option Int64
  | integer i => some i
  | float x => x.toInt64?
  | string s => readInt64? (Text.trim s.toList)
  | _ => none

/-- The value as a decimal, the view that comparisons take of it. -/
def toDecimal? : Value → Option Decimal
  | integer i => some (Decimal.ofInt64 i)
  | float x => Decimal.ofDouble? x
  | string s => Decimal.read? s.toList
  | _ => none

end Value

/-! ## Keyed values -/

namespace Fields

/-- The value under a name. -/
def get? (fields : Fields) (name : String) : Option Value :=
  (fields.find? fun field => field.1 == name).map Prod.snd

/-- The fields with a value put under a name, in place of what was there. -/
def put (fields : Fields) (name : String) (value : Value) : Fields :=
  match fields with
  | [] => [(name, value)]
  | (k, v) :: rest => if k = name then (k, value) :: rest else (k, v) :: put rest name value

/-- The fields without the one of this name. -/
def erase (fields : Fields) (name : String) : Fields :=
  fields.filter fun field => field.1 != name

/-- The fields of a list of names and values, where the last value of a name counts. -/
def ofList (entries : List (String × Value)) : Fields :=
  entries.foldl (fun fields (name, value) => put fields name value) []

end Fields

end RouteExpr
