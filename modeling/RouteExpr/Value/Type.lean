/-
The types that a value can be tested for and converted to, and the class names that stand for them.

A name resolves to the type it was registered with last. Blanks around a name are ignored when it
is looked up.
-/
import RouteExpr.Value

namespace RouteExpr

/-! ## Types -/

/-- A type of values. -/
inductive ValueType where
  | string
  | integer
  | float
  /-- Integers and floats. -/
  | number
  | boolean
  | list
  | map
  /-- Every value but null. -/
  | object
  deriving DecidableEq, Repr

namespace ValueType

/-- The name that a type goes by in messages. -/
def name : ValueType → String
  | string => "String"
  | integer => "Integer"
  | float => "Double"
  | number => "Number"
  | boolean => "Boolean"
  | list => "List"
  | map => "Map"
  | object => "Object"

/-- Whether a value is an instance of a type. Null is an instance of none. -/
def admits : ValueType → Value → Bool
  | _, .null => false
  | object, _ => true
  | string, .string _ => true
  | integer, .integer _ => true
  | float, .float _ => true
  | number, .integer _ => true
  | number, .float _ => true
  | boolean, .boolean _ => true
  | list, .array _ => true
  | map, .object _ => true
  | _, _ => false

/-- The boolean that a text names, whatever the case of its letters. -/
def readBoolean? (s : String) : Option Bool :=
  let lower := s.toList.map Char.toLower
  if lower = "true".toList then some true
  else if lower = "false".toList then some false
  else none

/-- The value converted to a type. Null stays null, and an instance stays as it is. -/
def convert? (t : ValueType) (v : Value) : Option Value :=
  if v.isNull then some .null
  else if t.admits v then some v
  else
    match t, v with
    | string, v => some (.string v.text)
    | integer, v => v.toInt64?.map .integer
    | float, v => v.toDouble?.map .float
    | number, v => (v.toInt64?.map .integer).or (v.toDouble?.map .float)
    | boolean, .string s => (readBoolean? s).map .boolean
    | boolean, _ => none
    | list, v => some (.array [v])
    | map, _ => none
    | object, _ => none

end ValueType

/-! ## Class names -/

/-- Class names with their types, the latest first. -/
structure ClassTable where
  entries : List (String × ValueType)
  deriving DecidableEq, Repr

namespace ClassTable

/-- The table without a name. -/
def empty : ClassTable := ⟨[]⟩

/-- The names known from the start. -/
def standard : ClassTable where
  entries := [
    ("String", .string), ("java.lang.String", .string), ("CharSequence", .string),
    ("Integer", .integer), ("java.lang.Integer", .integer), ("int", .integer),
    ("Long", .integer), ("java.lang.Long", .integer), ("long", .integer),
    ("Double", .float), ("java.lang.Double", .float), ("double", .float),
    ("Float", .float), ("java.lang.Float", .float),
    ("Number", .number), ("java.lang.Number", .number),
    ("Boolean", .boolean), ("java.lang.Boolean", .boolean), ("boolean", .boolean),
    ("List", .list), ("java.util.List", .list), ("Collection", .list),
    ("java.util.Collection", .list),
    ("Map", .map), ("java.util.Map", .map),
    ("Object", .object), ("java.lang.Object", .object)]

/-- The table in which a name stands for a type. -/
def register (table : ClassTable) (name : String) (t : ValueType) : ClassTable :=
  ⟨(name, t) :: table.entries⟩

/-- The type that a name stands for, blanks around it aside. -/
def resolve? (table : ClassTable) (name : String) : Option ValueType :=
  let key := Text.trimmed name
  (table.entries.find? fun entry => entry.1 == key).map Prod.snd

end ClassTable

end RouteExpr
