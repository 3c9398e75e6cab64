/-
Messages and the JSON documents that describe them.

A value becomes a document and the document the value again, but for floats that are no numbers: these have
no document and come back as null. So the document of a message is read as that message, in whatever order
its objects list their members. A document that does not describe a message is the body of one.
-/
import RouteExpr.Proofs.Message.Sorted

namespace RouteExpr

/-! ## Values that have a document -/

namespace Value

mutual

/-- The value with null in the place of each float, at every depth, that is no number. -/
def definite : Value → Value
  | null => null
  | boolean b => boolean b
  | integer i => integer i
  | float x => if x.isFinite then float x else null
  | string s => string s
  | array items => array (definiteItems items)
  | object fields => object (definiteFields fields)

/-- The values of a list, each with null in the place of floats that are no numbers. -/
def definiteItems : List Value → List Value
  | [] => []
  | v :: vs => definite v :: definiteItems vs

/-- The values of an object under their keys, each with null in the place of floats that are no numbers. -/
def definiteFields : List (String × Value) → List (String × Value)
  | [] => []
  | (k, v) :: fields => (k, definite v) :: definiteFields fields

end

end Value

/-- The message with null in the place of each float, at every depth, that is no number. -/
def Message.definite (m : Message) : Message where
  body := m.body.definite
  headers := Value.definiteFields m.headers
  properties := Value.definiteFields m.properties
  vars := Value.definiteFields m.vars
  history := m.history

namespace Json

open Value (definite definiteItems definiteFields)

/-! ## From values to documents and back -/

mutual

/-- The document of a value is read as that value. -/
theorem toValue_ofValue : ∀ v : Value, (ofValue v).toValue = v.definite
  | .null => rfl
  | .boolean b => rfl
  | .integer i => rfl
  | .float x => by
    rw [ofValue, definite]
    split <;> rfl
  | .string s => rfl
  | .array items => by rw [ofValue, toValue, definite, toValues_ofValues items]
  | .object fields => by rw [ofValue, toValue, definite, toFields_ofFields fields]

theorem toValues_ofValues : ∀ vs : List Value, toValues (ofValues vs) = definiteItems vs
  | [] => rfl
  | v :: vs => by rw [ofValues, toValues, definiteItems, toValue_ofValue v, toValues_ofValues vs]

theorem toFields_ofFields : ∀ fields : Fields, toFields (ofFields fields) = definiteFields fields
  | [] => rfl
  | (k, v) :: fields => by
    rw [ofFields, toFields, definiteFields, toValue_ofValue v, toFields_ofFields fields]

end

theorem toValues_strings (history : List String) :
    (toValues (history.map string)).map Value.text = history := by
  induction history with
  | nil => rfl
  | cons s history ih => rw [List.map_cons, toValues, List.map_cons, ih]; rfl

/-! ## Documents in another order -/

mutual

/-- The document with the members of its objects, at every depth, in the order of their names. -/
def sorted : Json → Json
  | array items => array (sortedItems items)
  | object members => object (byKey (sortedMembers members))
  | doc => doc

/-- The documents of a list, sorted. -/
def sortedItems : List Json → List Json
  | [] => []
  | doc :: docs => sorted doc :: sortedItems docs

/-- The members of an object, sorted, in the order in which the object lists them. -/
def sortedMembers : List (String × Json) → List (String × Json)
  | [] => []
  | (k, doc) :: members => (k, sorted doc) :: sortedMembers members

end

/-- The same document, but for the order in which objects list their members. -/
def Relisted (doc doc' : Json) : Prop :=
  doc.sorted = doc'.sorted

theorem sortedMembers_eq_map (members : List (String × Json)) :
    sortedMembers members = members.map fun entry => (entry.1, entry.2.sorted) := by
  induction members with
  | nil => rw [sortedMembers, List.map_nil]
  | cons entry members ih =>
    obtain ⟨k, doc⟩ := entry
    rw [sortedMembers, ih, List.map_cons]

theorem toFields_eq_map (members : List (String × Json)) :
    toFields members = members.map fun entry => (entry.1, entry.2.toValue) := by
  induction members with
  | nil => rw [toFields, List.map_nil]
  | cons entry members ih =>
    obtain ⟨k, doc⟩ := entry
    rw [toFields, ih, List.map_cons]

mutual

/-- The value of a sorted document is the sorted value. -/
theorem toValue_sorted : ∀ doc : Json, doc.sorted.toValue = doc.toValue.sorted
  | null => by simp [sorted, toValue]
  | boolean b => by simp [sorted, toValue]
  | integer i => by simp [sorted, toValue]
  | natural n => by
    rw [sorted, toValue, naturalValue]
    · split <;> simp
    all_goals simp
  | float x => by simp [sorted, toValue]
  | string s => by simp [sorted, toValue]
  | array items => by rw [sorted, toValue, toValue, Value.sorted, toValues_sortedItems items]
  | object members => by
    rw [sorted, toValue, toValue, Value.sorted, toFields_eq_map, ← byKey_map, ← toFields_eq_map,
      toFields_sortedMembers members]

theorem toValues_sortedItems : ∀ docs : List Json,
    toValues (sortedItems docs) = Value.sortedItems (toValues docs)
  | [] => rfl
  | doc :: docs => by
    rw [sortedItems, toValues, toValues, Value.sortedItems, toValue_sorted doc, toValues_sortedItems docs]

theorem toFields_sortedMembers : ∀ members : List (String × Json),
    toFields (sortedMembers members) = Value.sortedFields (toFields members)
  | [] => rfl
  | (k, doc) :: members => by
    rw [sortedMembers, toFields, toFields, Value.sortedFields, toValue_sorted doc,
      toFields_sortedMembers members]

end

/-- An object is the same document in whatever order it lists its members. -/
theorem relisted_object_of_perm {members members' : List (String × Json)}
    (hnames : (members.map Prod.fst).Nodup) (h : members.Perm members') :
    (object members).Relisted (object members') := by
  unfold Relisted
  rw [sorted, sorted, sortedMembers_eq_map, sortedMembers_eq_map]
  refine congrArg object (byKey_eq_of_perm ?_ (h.map _))
  rw [List.map_map]
  exact hnames

variable (members : List (String × Json))

/-- A name finds the same member in whatever order the members are listed. -/
theorem member?_sorted (name : String) :
    member? (byKey (sortedMembers members)) name = (member? members name).map sorted := by
  unfold member?
  rw [find?_byKey, sortedMembers_eq_map, List.find?_map]
  cases h : members.find? fun entry => entry.1 == name <;> simp [h]

end Json

namespace Message

open Json (member? sortedMembers)

/-! ## Messages in another order -/

section Members

variable (members : List (String × Json))

theorem describes_iff : describes members = true ↔ members ≠ [] ∧ ∀ entry ∈ members, entry.1 ∈ sections := by
  unfold describes
  simp

theorem describes_sorted : describes (byKey (sortedMembers members)) = describes members := by
  have hperm := byKey_perm (sortedMembers members)
  have hempty : (byKey (sortedMembers members)).isEmpty = members.isEmpty := by
    rw [Bool.eq_iff_iff, List.isEmpty_iff_length_eq_zero, hperm.length_eq, Json.sortedMembers_eq_map,
      List.length_map, ← List.isEmpty_iff_length_eq_zero]
  unfold describes
  rw [hempty, hperm.all_eq, Json.sortedMembers_eq_map, List.all_map]
  rfl

theorem fieldsOf_sorted (name : String) :
    (fieldsOf (byKey (sortedMembers members)) name).sorted = (fieldsOf members name).sorted := by
  unfold fieldsOf
  rw [Json.member?_sorted]
  rcases member? members name with _ | doc
  · rfl
  · cases doc with
    | object inner =>
      have hvalue := congrArg Value.sorted (Json.object inner).toValue_sorted
      rw [Value.sorted_sorted, Json.sorted, Json.toValue, Json.toValue, Fields.sorted_object,
        Fields.sorted_object] at hvalue
      simpa [Json.sorted] using hvalue
    | _ => simp [Json.sorted]

theorem stepsOf_sorted (name : String) :
    stepsOf (byKey (sortedMembers members)) name = stepsOf members name := by
  unfold stepsOf
  rw [Json.member?_sorted]
  rcases member? members name with _ | doc
  · rfl
  · cases doc with
    | array items =>
      simp [Json.sorted, Json.toValues_sortedItems, Value.sortedItems_eq_map, Function.comp_def]
    | _ => simp [Json.sorted]

end Members

/-- Documents that are the same but for the order of members describe messages that are the same but for the
order of fields. -/
theorem ofJson_sorted (doc : Json) : (ofJson doc.sorted).sorted = (ofJson doc).sorted := by
  have hbody : (ofBody doc.sorted.toValue).sorted = (ofBody doc.toValue).sorted := by
    unfold Message.sorted
    rw [Json.toValue_sorted]
    simp [ofBody]
  cases doc with
  | object members =>
    unfold ofJson
    rw [Json.sorted] at hbody ⊢
    dsimp only
    rw [describes_sorted]
    split
    · unfold Message.sorted
      dsimp only
      rw [fieldsOf_sorted, fieldsOf_sorted, fieldsOf_sorted, stepsOf_sorted, Json.member?_sorted]
      congr 1
      cases member? members "body" <;> simp [Json.toValue_sorted]
    · exact hbody
  | array items => rw [Json.sorted] at hbody ⊢; exact hbody
  | _ => simp only [Json.sorted, ofJson]

/-! ## From messages to documents and back -/

theorem ofJson_toJson (m : Message) : ofJson m.toJson = m.definite := by
  have hhistory : (Json.toValues (m.history.map Json.string)).map Value.text = m.history :=
    Json.toValues_strings m.history
  unfold toJson ofJson
  dsimp only
  rw [if_pos ((describes_iff _).2 (by simp [sections]))]
  simp [fieldsOf, stepsOf, member?, definite, Json.toValue_ofValue, Json.toFields_ofFields, hhistory]

/-- A document that is not a non-empty object of parts of a message is read as the body of one. -/
theorem ofJson_eq_ofBody (doc : Json)
    (hdoc : ∀ members, doc = .object members → members = [] ∨ ∃ entry ∈ members, entry.1 ∉ sections) :
    ofJson doc = ofBody doc.toValue := by
  cases doc with
  | object members =>
    have hnot : ¬ describes members = true := by
      rw [describes_iff]
      rintro ⟨hne, hall⟩
      rcases hdoc members rfl with hnil | ⟨entry, hmem, hentry⟩
      · exact hne hnil
      · exact hentry (hall entry hmem)
    unfold ofJson
    dsimp only
    rw [if_neg hnot]
  | _ => rfl

/-- The document of a message is read as the message, with null for floats that are no numbers, in whatever
order objects list their members. Any other document but a non-empty object of parts is read as a body. -/
theorem ofJson_described :
    (∀ m : Message, ofJson m.toJson = m.definite ∧
      ∀ doc : Json, doc.Relisted m.toJson → (ofJson doc).Relisted m.definite) ∧
    ∀ doc : Json,
      (∀ members, doc = .object members → members = [] ∨
        ∃ entry ∈ members, entry.1 ∉ ["body", "headers", "properties", "variables", "history"]) →
      ofJson doc = { body := doc.toValue, headers := [], properties := [], vars := [], history := [] } := by
  refine ⟨fun m => ⟨ofJson_toJson m, fun doc hdoc => ?_⟩, ofJson_eq_ofBody⟩
  unfold Message.Relisted
  rw [← ofJson_toJson, ← ofJson_sorted doc, hdoc, ofJson_sorted]

theorem ofJson_described_nested :
    (ofJson (.object [("history", .array [.string "a"]), ("variables", .object []), ("properties", .object []),
        ("headers", .object [("n", .float (Double.ofInt 2))]),
        ("body", .array [.null, .float (Double.zero true), .integer 3])])).Relisted
      { body := .array [.null, .float (Double.zero true), .integer 3]
        headers := [("n", .float (Double.ofInt 2))]
        properties := []
        vars := []
        history := ["a"] } ∧
    ofJson (.object [("body", .null), ("step", .natural 18446744073709551615)]) =
      { body := .object [("body", .null), ("step", .float (Double.ofInt 18446744073709551615))]
        headers := []
        properties := []
        vars := []
        history := [] } := by
  constructor
  · refine (ofJson_described.1 ⟨.array [.float (Double.infinity true), .float (Double.zero true), .integer 3],
      [("n", .float (Double.ofInt 2))], [], [], ["a"]⟩).2 _ ?_
    exact Json.relisted_object_of_perm (by decide) (.symm (List.reverse_perm _).symm)
  · refine ofJson_described.2 _ fun members hmembers => .inr ?_
    cases hmembers
    exact ⟨_, List.mem_cons_of_mem _ List.mem_cons_self, by decide⟩

end Message

end RouteExpr
