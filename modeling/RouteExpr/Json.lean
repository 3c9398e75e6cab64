/-
JSON documents, and how values become documents and documents values.

A number is an integer of 64 bits, with a sign or without one, or a double. A value has no integers
beyond those with a sign, so such a one is a float in a value. A float that is no number has no document
and becomes `null`; apart from that nothing is lost between values and documents.
-/
import RouteExpr.Value

namespace RouteExpr

/-! ## Documents -/

/-- A JSON document. -/
inductive Json where
  | null
  | boolean (b : Bool)
  | integer (i : Int64)
  /-- An integer written without a sign, which may be too large for one. -/
  | natural (n : UInt64)
  | float (x : Double)
  | string (s : String)
  | array (items : List Json)
  | object (members : List (String × Json))
  deriving Inhabited

namespace Json

/-- The member of an object under a name. -/
def member? (members : List (String × Json)) (name : String) : Option Json :=
  (members.find? fun entry => entry.1 == name).map Prod.snd

/-- The members with a document put under a name, in place of what was there. -/
def putMember (members : List (String × Json)) (name : String) (doc : Json) :
    List (String × Json) :=
  match members with
  | [] => [(name, doc)]
  | (k, d) :: rest => if k = name then (k, doc) :: rest else (k, d) :: putMember rest name doc

/-! ## Values of documents -/

/-- The integer of 64 bits with a sign that a natural number is, or else the nearest float. -/
def naturalValue (n : UInt64) : Value :=
  match int64? n.toNat with
  | some i => .integer i
  | none => .float (Double.ofInt n.toNat)

mutual

/-- The value that a document describes. -/
def toValue : Json → Value
  | null => .null
  | boolean b => .boolean b
  | integer i => .integer i
  | natural n => naturalValue n
  | float x => .float x
  | string s => .string s
  | array items => .array (toValues items)
  | object members => .object (toFields members)

/-- The values that the documents of a list describe. -/
def toValues : List Json → List Value
  | [] => []
  | d :: ds => toValue d :: toValues ds

/-- The fields that the members of an object describe. -/
def toFields : List (String × Json) → List (String × Value)
  | [] => []
  | (k, d) :: rest => (k, toValue d) :: toFields rest

end

mutual

/-- The document that describes a value. -/
def ofValue : Value → Json
  | .null => null
  | .boolean b => boolean b
  | .integer i => integer i
  | .float x => if x.isFinite then float x else null
  | .string s => string s
  | .array items => array (ofValues items)
  | .object fields => object (ofFields fields)

/-- The documents that describe the values of a list. -/
def ofValues : List Value → List Json
  | [] => []
  | v :: vs => ofValue v :: ofValues vs

/-- The members that describe fields. -/
def ofFields : List (String × Value) → List (String × Json)
  | [] => []
  | (k, v) :: rest => (k, ofValue v) :: ofFields rest

end

end Json

end RouteExpr
