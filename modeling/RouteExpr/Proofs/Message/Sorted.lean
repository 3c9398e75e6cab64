/-
What a message gives when the fields of its objects are listed in another order.

Properties and functions find fields by their keys and show objects in the order of their keys, so they
give the same values. One lookup goes through fields in the order in which they are listed: that of a
header of another spelling. It gives the same value where all headers of such spellings have one value.
-/
import RouteExpr.Message.Host
import RouteExpr.Proofs.Result
import RouteExpr.Proofs.Value.Sorted

namespace RouteExpr

open Host (equalsIgnoringCase)

/-! ## Fields -/

namespace Fields

/-- The fields with their values sorted, in the order of their keys. -/
def sorted (fields : Fields) : Fields :=
  byKey (Value.sortedFields fields)

/-- The values of all headers that a name stands for are one value, unless it is a header exactly. -/
def Unambiguous (headers : Fields) : Prop :=
  ∀ name, headers.get? name = none → ∀ f ∈ headers, ∀ g ∈ headers,
    equalsIgnoringCase f.1 name = true → equalsIgnoringCase g.1 name = true → f.2.Relisted g.2

variable (fields : Fields)

theorem sorted_object : (Value.object fields).sorted = .object fields.sorted := by
  rw [Value.sorted]
  rfl

theorem get?_sorted (name : String) :
    fields.sorted.get? name = (fields.get? name).map Value.sorted := by
  unfold get? sorted
  rw [find?_byKey, Value.sortedFields_eq_map, List.find?_map]
  cases h : fields.find? fun field => field.1 == name <;> simp [h]

theorem mem_sorted {f : String × Value} :
    f ∈ fields.sorted ↔ ∃ g ∈ fields, (g.1, g.2.sorted) = f := by
  unfold sorted
  rw [(byKey_perm _).mem_iff, Value.sortedFields_eq_map, List.mem_map]

theorem length_sorted : fields.sorted.length = fields.length := by
  unfold sorted
  rw [(byKey_perm _).length_eq, Value.sortedFields_eq_map, List.length_map]

variable {fields} {fields' : Fields}

theorem get?_eq_none_of_sorted (h : fields.sorted = fields'.sorted) {name : String}
    (hname : fields'.get? name = none) : fields.get? name = none := by
  have hget := get?_sorted fields name
  rw [h, get?_sorted, hname] at hget
  simpa using hget.symm

/-- Fields with distinct keys are the same when sorted, in whatever order they are listed. -/
theorem sorted_eq_of_perm (hkeys : (fields.map Prod.fst).Nodup) (h : fields.Perm fields') :
    fields.sorted = fields'.sorted := by
  unfold sorted
  rw [Value.sortedFields_eq_map, Value.sortedFields_eq_map]
  refine byKey_eq_of_perm ?_ (h.map _)
  rw [List.map_map]
  exact hkeys

/-- Whether headers are unambiguous does not depend on how they are listed. -/
theorem Unambiguous.of_sorted (h : fields.sorted = fields'.sorted) (hu : fields.Unambiguous) :
    fields'.Unambiguous := by
  have hmem {f : String × Value} (hf : f ∈ fields') :
      ∃ g ∈ fields, g.1 = f.1 ∧ g.2.Relisted f.2 := by
    have hsorted := (mem_sorted fields').2 ⟨f, hf, rfl⟩
    rw [← h, mem_sorted] at hsorted
    obtain ⟨g, hg, heq⟩ := hsorted
    exact ⟨g, hg, Prod.mk.inj heq⟩
  intro name hname f' hf' g' hg' hfname hgname
  obtain ⟨f, hf, hfkey, hfvalue⟩ := hmem hf'
  obtain ⟨g, hg, hgkey, hgvalue⟩ := hmem hg'
  rw [← hfkey] at hfname
  rw [← hgkey] at hgname
  exact hfvalue.symm.trans
    ((hu name (get?_eq_none_of_sorted h hname) f hf g hg hfname hgname).trans hgvalue)

end Fields

namespace Value

/-- An object is the same value in whatever order it lists its fields. -/
theorem relisted_object_of_perm {fields fields' : Fields} (hkeys : (fields.map Prod.fst).Nodup)
    (h : fields.Perm fields') : (object fields).Relisted (object fields') := by
  unfold Relisted
  rw [Fields.sorted_object, Fields.sorted_object, Fields.sorted_eq_of_perm hkeys h]

/-- So is an object that lists other such values under its keys. -/
theorem relisted_object {fields fields' : Fields}
    (h : List.Forall₂ (fun f g => f.1 = g.1 ∧ f.2.Relisted g.2) fields fields') :
    (object fields).Relisted (object fields') := by
  have hfields : sortedFields fields = sortedFields fields' := by
    induction h with
    | nil => rfl
    | @cons f g fs gs hfg _ ih => rw [sortedFields, sortedFields, ih, hfg.1, hfg.2]
  unfold Relisted
  rw [sorted, sorted, hfields]

theorem relisted_array {items items' : List Value} (h : List.Forall₂ Relisted items items') :
    (array items).Relisted (array items') := by
  have hitems : sortedItems items = sortedItems items' := by
    induction h with
    | nil => rfl
    | cons hv _ ih => rw [sortedItems, sortedItems, ih, hv]
  unfold Relisted
  rw [sorted, sorted, hitems]

end Value

/-! ## Messages -/

/-- The message with the fields of its objects in the order of their keys. -/
def Message.sorted (m : Message) : Message where
  body := m.body.sorted
  headers := m.headers.sorted
  properties := m.properties.sorted
  vars := m.vars.sorted
  history := m.history

/-- The same message, but for the order in which its objects list their fields. -/
def Message.Relisted (m m' : Message) : Prop :=
  m.sorted = m'.sorted

theorem Message.relisted_of_headers {m : Message} {headers : Fields}
    (h : m.headers.sorted = headers.sorted) : m.Relisted { m with headers := headers } := by
  unfold Message.Relisted Message.sorted
  rw [h]

/-- A method that gives the same in whatever order its arguments list their fields. -/
def Method.Settled (method : Method) : Prop :=
  ∀ args args', args.map Value.sorted = args'.map Value.sorted →
    (method args).map Value.sorted = (method args').map Value.sorted

namespace Host

variable (h : Host)

/-- The host with another message. -/
def withMessage (m : Message) : Host :=
  { h with message := m }

/-- The host with its message sorted. -/
def sorted : Host :=
  h.withMessage h.message.sorted

/-! ## Headers -/

variable {h} in
theorem header_sorted (hu : h.message.headers.Unambiguous) (name : String) :
    h.sorted.header name = (h.header name).sorted := by
  unfold header
  rw [show h.sorted.message.headers = h.message.headers.sorted from rfl, Fields.get?_sorted]
  cases hexact : h.message.headers.get? name with
  | some v => rfl
  | none =>
    dsimp only [Option.map_none]
    cases hfind : h.message.headers.find? fun field => equalsIgnoringCase field.1 name with
    | none =>
      have hnone : (h.message.headers.sorted.find? fun field => equalsIgnoringCase field.1 name) =
          none := by
        rw [List.find?_eq_none] at hfind ⊢
        intro f hf
        obtain ⟨g, hg, rfl⟩ := (Fields.mem_sorted _).1 hf
        exact hfind g hg
      rw [hnone]
      exact Value.sorted_null.symm
    | some f =>
      have hf := List.mem_of_find?_eq_some hfind
      have hfname := List.find?_some hfind
      cases hfind' : h.message.headers.sorted.find? fun field => equalsIgnoringCase field.1 name with
      | none =>
        rw [List.find?_eq_none] at hfind'
        exact absurd hfname (hfind' (f.1, f.2.sorted) ((Fields.mem_sorted _).2 ⟨f, hf, rfl⟩))
      | some g' =>
        -- another header may come first, but its value is the same
        have hgname := List.find?_some hfind'
        obtain ⟨g, hg, rfl⟩ := (Fields.mem_sorted _).1 (List.mem_of_find?_eq_some hfind')
        exact hu name hexact g hg f hf hgname hfname

/-! ## Functions -/

theorem sizeOf_sorted (v : Value) : sizeOf v.sorted = sizeOf v := by
  have htext := v.text_sorted
  cases v with
  | array items => simp [Value.sorted, Host.sizeOf, Value.sortedItems_eq_map]
  | object fields => rw [Fields.sorted_object, Host.sizeOf, Fields.length_sorted, Host.sizeOf]
  | _ => simp_all [Host.sizeOf]

theorem mapText_sorted (f : String → String) (v : Value) : mapText f v.sorted = mapText f v := by
  simp [mapText]

theorem substring_sorted (before : Bool) (subject separator : Value) :
    substring before subject.sorted separator.sorted = substring before subject separator := by
  simp [substring]

theorem replace_sorted (old new subject : Value) :
    replace old.sorted new.sorted subject.sorted = replace old new subject := by
  simp [replace, mapText_sorted]

theorem convertTo_sorted (function : String) (v target : Value) :
    h.sorted.convertTo function v.sorted target.sorted =
      (h.convertTo function v target).map Value.sorted := by
  unfold convertTo
  rw [Value.text_sorted, show h.sorted.classes = h.classes from rfl]
  cases h.classes.resolve? target.text with
  | none => rfl
  | some type =>
    dsimp only
    rw [type.convert?_sorted]
    cases type.convert? v <;> simp [Except.map]

theorem convertTo_map_sorted (function : String) (v target : Value) :
    (h.sorted.convertTo function v.sorted target.sorted).map Value.sorted =
      (h.convertTo function v target).map Value.sorted := by
  rw [convertTo_sorted]
  cases h.convertTo function v target with
  | ok w => exact congrArg Except.ok w.sorted_sorted
  | error err => rfl

theorem ofSubject_sorted (name : String) (args : List Value) {f : Value → Value}
    (hf : ∀ v, (f v.sorted).sorted = (f v).sorted) :
    (h.sorted.ofSubject name (args.map Value.sorted) f).map Value.sorted =
      (h.ofSubject name args f).map Value.sorted := by
  rcases args with _ | ⟨v, _ | ⟨w, rest⟩⟩
  · exact congrArg Except.ok (hf h.message.body)
  · exact congrArg Except.ok (hf v)
  · rfl

variable {h} in
/-- A function gives the same of a sorted message and sorted arguments, but for the order of fields. -/
theorem builtin?_sorted (hu : h.message.headers.Unambiguous) (name : String) (args : List Value) :
    (h.sorted.builtin? name (args.map Value.sorted)).map (Except.map Value.sorted) =
      (h.builtin? name args).map (Except.map Value.sorted) := by
  have hbody : h.sorted.message.body = h.message.body.sorted := rfl
  unfold builtin?
  dsimp only
  rw [hbody]
  split
  · rfl
  · rcases args with _ | ⟨target, _ | ⟨w, rest⟩⟩
    · rfl
    · exact congrArg some (h.convertTo_map_sorted "bodyAs" _ target)
    · rfl
  · rcases args with _ | ⟨key, _ | ⟨target, _ | ⟨w, rest⟩⟩⟩
    · rfl
    · rfl
    · refine congrArg some ?_
      show (h.sorted.convertTo "headerAs" (h.sorted.header key.sorted.text) target.sorted).map
        Value.sorted = _
      rw [Value.text_sorted, header_sorted hu]
      exact h.convertTo_map_sorted "headerAs" _ target
    · rfl
  · exact congrArg some (h.ofSubject_sorted _ args fun v => by rw [mapText_sorted])
  · exact congrArg some (h.ofSubject_sorted _ args fun v => by rw [mapText_sorted])
  · exact congrArg some (h.ofSubject_sorted _ args fun v => by rw [mapText_sorted])
  · exact congrArg some (h.ofSubject_sorted _ args fun v => by rw [sizeOf_sorted])
  · exact congrArg some (h.ofSubject_sorted _ args fun v => by rw [sizeOf_sorted])
  · exact congrArg some (h.ofSubject_sorted _ args fun v => by rw [Value.isTruthy_sorted])
  · simp [Function.comp_def]
  · rcases args with _ | ⟨v, _ | ⟨w, _ | ⟨u, rest⟩⟩⟩
    · rfl
    · simp [substring_sorted]
    · simp [substring_sorted]
    · rfl
  · rcases args with _ | ⟨v, _ | ⟨w, _ | ⟨u, rest⟩⟩⟩
    · rfl
    · simp [substring_sorted]
    · simp [substring_sorted]
    · rfl
  · rcases args with _ | ⟨v, _ | ⟨w, _ | ⟨u, _ | ⟨t, rest⟩⟩⟩⟩
    · rfl
    · rfl
    · simp [replace_sorted]
    · simp [replace_sorted]
    · rfl
  · rfl

theorem callMethod_sorted (hm : ∀ entry ∈ h.methods, entry.2.Settled) (reference : String)
    (args : List Value) :
    (h.sorted.callMethod reference (args.map Value.sorted)).map Value.sorted =
      (h.callMethod reference args).map Value.sorted := by
  unfold callMethod
  rw [show h.sorted.methods = h.methods from rfl]
  dsimp only
  cases hfind : h.methods.find? fun entry => entry.1 == reference with
  | none => rfl
  | some entry =>
    have hargs : (args.map Value.sorted).map Value.sorted = args.map Value.sorted := by
      simp [Function.comp_def]
    have hmethod := hm entry (List.mem_of_find?_eq_some hfind) _ _ hargs
    dsimp only
    cases hout : entry.2 args with
    | ok v =>
      rw [hout] at hmethod
      obtain ⟨v', hv', heq⟩ := map_eq_ok hmethod
      rw [hv']
      exact congrArg Except.ok heq
    | error cause =>
      rw [hout] at hmethod
      cases hout' : entry.2 (args.map Value.sorted) with
      | ok v' => rw [hout'] at hmethod; cases hmethod
      | error cause' => rw [hout'] at hmethod; cases hmethod; rfl

variable {h} in
theorem call?_sorted (hu : h.message.headers.Unambiguous)
    (hm : ∀ entry ∈ h.methods, entry.2.Settled) (name : String) (args : List Value) :
    (h.sorted.call? name (args.map Value.sorted)).map (Except.map Value.sorted) =
      (h.call? name args).map (Except.map Value.sorted) := by
  unfold call?
  split
  · exact congrArg some (h.callMethod_sorted hm _ args)
  · exact builtin?_sorted hu name args

variable {h} in
theorem call?_getD_sorted (hu : h.message.headers.Unambiguous)
    (hm : ∀ entry ∈ h.methods, entry.2.Settled) (name : String) (args : List Value)
    (err : EvaluationError) :
    ((h.sorted.call? name (args.map Value.sorted)).getD (.error err)).map Value.sorted =
      ((h.call? name args).getD (.error err)).map Value.sorted := by
  have hcall := call?_sorted hu hm name args
  rw [← Option.getD_map (Except.map _), ← Option.getD_map (Except.map _), hcall]

variable {h} in
/-- What a name is called for is the same of a sorted message and sorted arguments, but for the order
of fields. -/
theorem invoke_sorted (hu : h.message.headers.Unambiguous)
    (hm : ∀ entry ∈ h.methods, entry.2.Settled) (name : String) (args : List Value) :
    (h.sorted.invoke name (args.map Value.sorted)).map Value.sorted =
      (h.invoke name args).map Value.sorted :=
  call?_getD_sorted hu hm name args _

/-! ## Paths -/

/-- A path leads to the same value, but for the order of fields. -/
theorem navigateKeys_sorted (keys : List (List Char)) (v : Value) :
    navigateKeys v.sorted keys = (navigateKeys v keys).map Value.sorted := by
  induction keys generalizing v with
  | nil => cases v <;> rfl
  | cons key keys ih =>
    cases v with
    | object fields =>
      rw [Fields.sorted_object, navigateKeys, navigateKeys, Fields.get?_sorted, ← ih]
      cases Fields.get? fields (String.ofList key) <;> simp
    | array items =>
      rw [Value.sorted, navigateKeys, navigateKeys, Value.sortedItems_eq_map]
      cases readIndex? key with
      | none => rfl
      | some i =>
        dsimp only
        rw [← ih, List.getElem?_map]
        cases items[i]? <;> simp
    | _ => simp [navigateKeys]

theorem fieldOrNull_sorted (fields : Fields) (key : List Char) :
    fieldOrNull fields.sorted key = (fieldOrNull fields key).sorted := by
  unfold fieldOrNull
  rw [Fields.get?_sorted]
  cases fields.get? (String.ofList key) <;> simp

variable {h} in
/-- What a path gives is the same of a sorted message, but for the order of fields. -/
theorem property_sorted (hu : h.message.headers.Unambiguous)
    (hm : ∀ entry ∈ h.methods, entry.2.Settled) (path : String) :
    (h.sorted.property path).map Value.sorted = (h.property path).map Value.sorted := by
  unfold property
  dsimp only
  generalize (Text.afterStart? "in.".toList path.toList).getD path.toList = path
  by_cases hbody : String.ofList path = "body"
  · rw [if_pos hbody, if_pos hbody]
    exact congrArg Except.ok h.message.body.sorted_sorted
  rw [if_neg hbody, if_neg hbody]
  cases Text.afterStart? "body.".toList path with
  | some rest =>
    dsimp only
    rw [show h.sorted.message.body = h.message.body.sorted from rfl, navigate, navigateKeys_sorted,
      ← navigate]
    cases navigate h.message.body rest with
    | none => rfl
    | some v => exact congrArg Except.ok v.sorted_sorted
  | none =>
    have hobject (fields : Fields) :
        (Value.object fields.sorted).sorted = (Value.object fields).sorted := by
      rw [← Fields.sorted_object, Value.sorted_sorted]
    have hfield (fields : Fields) (key : List Char) :
        (fieldOrNull fields.sorted key).sorted = (fieldOrNull fields key).sorted := by
      rw [fieldOrNull_sorted, Value.sorted_sorted]
    dsimp only
    split
    · exact congrArg Except.ok (hobject h.message.headers)
    · exact congrArg Except.ok (hobject h.message.properties)
    · exact congrArg Except.ok (hobject h.message.vars)
    · cases ["headers", "header"].findSome? (keyAfter? path) with
      | some key =>
        dsimp only
        rw [header_sorted hu]
        exact congrArg Except.ok (Value.sorted_sorted _)
      | none =>
        cases keyAfter? path "exchangeProperty" with
        | some key => exact congrArg Except.ok (hfield h.message.properties key)
        | none =>
          cases keyAfter? path "variable" with
          | some key => exact congrArg Except.ok (hfield h.message.vars key)
          | none =>
            cases ["sys", "sysenv", "env"].findSome? (keyAfter? path) with
            | some key => rfl
            | none => exact call?_getD_sorted hu hm _ [] _

end Host

end RouteExpr
