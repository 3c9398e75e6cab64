/-
Messages: a body with headers, properties, variables and a history, and how JSON documents describe
them.
-/
import RouteExpr.Json

namespace RouteExpr

/-! ## Messages -/

/-- A message on its way. -/
structure Message where
  body : Value
  headers : Fields
  /-- Properties of the exchange that the message is part of. -/
  properties : Fields
  /-- The variables of the exchange. -/
  vars : Fields
  /-- The steps that the message went through, the oldest first. -/
  history : List String

namespace Message

/-- The message without anything. -/
def empty : Message := ⟨.null, [], [], [], []⟩

/-- The message with a body and nothing else. -/
def ofBody (body : Value) : Message :=
  { empty with body := body }

/-! ## Documents -/

/-- The names of the parts of a message. -/
def sections : List String := ["body", "headers", "properties", "variables", "history"]

/-- Whether members describe a message: at least one, and each a part of a message. -/
def describes (members : List (String × Json)) : Bool :=
  !members.isEmpty && members.all fun entry => sections.contains entry.1

/-- The fields that a member describes; without the member, or from anything but an object, none. -/
def fieldsOf (members : List (String × Json)) (name : String) : Fields :=
  match Json.member? members name with
  | some (.object inner) => Json.toFields inner
  | _ => []

/-- The steps that a member describes; without the member, or from anything but a list, none. -/
def stepsOf (members : List (String × Json)) (name : String) : List String :=
  match Json.member? members name with
  | some (.array items) => (Json.toValues items).map Value.text
  | _ => []

/-- The message that a document describes. A document that is no description is the body. -/
def ofJson (doc : Json) : Message :=
  let whole := ofBody doc.toValue
  match doc with
  | .object members =>
    if describes members then
      { body := ((Json.member? members "body").map Json.toValue).getD .null
        headers := fieldsOf members "headers"
        properties := fieldsOf members "properties"
        vars := fieldsOf members "variables"
        history := stepsOf members "history" }
    else whole
  | _ => whole

/-- The document that describes a message. -/
def toJson (m : Message) : Json :=
  .object [
    ("body", Json.ofValue m.body),
    ("headers", .object (Json.ofFields m.headers)),
    ("properties", .object (Json.ofFields m.properties)),
    ("variables", .object (Json.ofFields m.vars)),
    ("history", .array (m.history.map Json.string))]

end Message

end RouteExpr
