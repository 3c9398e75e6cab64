/-
What a class name stands for after any registrations, where a predicate names it and where a message is
converted to it.

Both look the name up without the blanks around it, and both find the type that was registered last under
exactly that. Registering keeps a name as it is. So the two agree on every name, and what they agree on is the
type of the name as it was registered unless blanks are around it.
-/
import RouteExpr.Proofs.Message.Conversion
import RouteExpr.Proofs.Predicate.Operand

namespace RouteExpr

/-! ## Registrations -/

namespace ClassTable

variable {table : ClassTable} {calls : List (String × ValueType)} {name : String} {t : ValueType}

/-- The table after more registrations, in their order. -/
def registerAll (table : ClassTable) (calls : List (String × ValueType)) : ClassTable :=
  calls.foldl (fun table call => table.register call.1 call.2) table

/-- The registrations behind a table, in their order. -/
def history (table : ClassTable) : List (String × ValueType) :=
  table.entries.reverse

/-- The type that a name was registered with last, a name being the same only with the same blanks. -/
def LastGiven (calls : List (String × ValueType)) (name : String) (t : ValueType) : Prop :=
  ∃ before after, calls = before ++ (name, t) :: after ∧ ∀ call ∈ after, call.1 ≠ name

/-- A registration is added to those before it. -/
theorem history_register : (table.register name t).history = table.history ++ [(name, t)] :=
  List.reverse_cons

theorem history_registerAll : (table.registerAll calls).history = table.history ++ calls := by
  induction calls generalizing table with
  | nil => exact (List.append_nil _).symm
  | cons call calls ih =>
    have hstep : (table.register call.1 call.2).history ++ calls = table.history ++ call :: calls := by
      rw [history_register, List.append_assoc]
      rfl
    rw [← hstep, ← ih]
    rfl

/-- The first entry of a name is its last registration. -/
theorem resolve?_iff : table.resolve? name = some t ↔ LastGiven table.history (Text.trimmed name) t := by
  rw [resolve?, Option.map_eq_some_iff]
  constructor
  · rintro ⟨⟨key, t⟩, hfind, rfl⟩
    obtain ⟨hkey, newer, older, hentries, hnewer⟩ := List.find?_eq_some_iff_append.1 hfind
    obtain rfl : key = Text.trimmed name := by simpa using hkey
    refine ⟨older.reverse, newer.reverse, ?_, fun call hcall => ?_⟩
    · simp [history, hentries]
    · simpa using hnewer call (List.mem_reverse.1 hcall)
  · rintro ⟨before, after, hcalls, hafter⟩
    have hentries : table.entries = after.reverse ++ (Text.trimmed name, t) :: before.reverse := by
      have := congrArg List.reverse hcalls
      simpa [history] using this
    refine ⟨(Text.trimmed name, t), List.find?_eq_some_iff_append.2 ?_, rfl⟩
    exact ⟨beq_self_eq_true _, after.reverse, before.reverse, hentries, fun call hcall => by
      simpa using hafter call (List.mem_reverse.1 hcall)⟩

/-- After registrations a name stands for the type that was given last to the name without the blanks around
it. -/
theorem resolve?_registerAll : (table.registerAll calls).resolve? name = some t ↔
    LastGiven (table.history ++ calls) (Text.trimmed name) t := by
  rw [resolve?_iff, history_registerAll]

end ClassTable

/-! ## Types told apart by their conversions -/

namespace ValueType

variable {t t' : ValueType} {v : Value}

theorem admits_iff_convert (hv : v ≠ .null) : t.admits v = true ↔ t.convert v = .ok v := by
  unfold convert
  constructor
  · intro h
    rw [convert?_of_admits h]
  · intro h
    cases hconvert : t.convert? v with
    | none =>
      rw [hconvert] at h
      cases h
    | some w =>
      rw [hconvert] at h
      cases h
      exact admits_of_convert? hv hconvert

/-- Types that convert all values alike are the same. -/
theorem eq_of_convert (h : ∀ v, t.convert v = t'.convert v) : t = t' := by
  have hadmits (v : Value) (hv : v ≠ .null) : t.admits v = true ↔ t'.admits v = true := by
    rw [admits_iff_convert hv, admits_iff_convert hv, h]
  -- one instance of each kind, none of which two types have in common with all others
  have hstring := hadmits (.string "") nofun
  have hinteger := hadmits (.integer 0) nofun
  have hfloat := hadmits (.float (.zero false)) nofun
  have hboolean := hadmits (.boolean true) nofun
  have hlist := hadmits (.array []) nofun
  have hmap := hadmits (.object []) nofun
  cases t <;> cases t' <;> first | rfl | simp [admits] at hstring hinteger hfloat hboolean hlist hmap

end ValueType

/-! ## Names in texts -/

section

variable {table : ClassTable} {name : String} {t : ValueType}

/-- A predicate that names a class tests for the type of the name, or is refused where the name begins. -/
theorem Rule.parse_is (table : ClassTable) (hname : IsPlainText name.toList) :
    Rule.parse table ("$\x7bbody\x7d is '" ++ name ++ "'") =
      match table.resolve? name with
      | some t => .ok ⟨"$\x7bbody\x7d is '" ++ name ++ "'",
          .comparison (.property (.literal "body")) ⟨.type, false⟩ (.type t)⟩
      | none => .error ⟨⟨11, .unknownClass name⟩, "$\x7bbody\x7d is '" ++ name ++ "'"⟩ := by
  have hbody : Predicate.read table "$\x7bbody\x7d".toList =
      .ok (.alone (.property (.literal "body"))) := by cbv
  have his : Operator.Spells ⟨.type, false⟩ "is".toList := .words (.keyword rfl)
  have hwritten : Predicate.Written name.toList ('\'' :: (name.toList ++ ['\''])) 1 :=
    .quoted (q := .single) (hname.not_mem (by simp [Quote.toChar]))
      (hasMarker_eq_false_of_not_mem (hname.not_mem (by simp)))
  have hread := Predicate.read_type_text hbody rfl his rfl hwritten
  have htext : Predicate.spaced "$\x7bbody\x7d".toList "is".toList ('\'' :: (name.toList ++ ['\''])) =
      ("$\x7bbody\x7d is '" ++ name ++ "'").toList := by
    simp [Predicate.spaced]
  rw [htext, String.ofList_toList] at hread
  rw [Rule.parse, hread]
  cases table.resolve? name <;> rfl

theorem Host.exists_classes (table : ClassTable) (v : Value) :
    ∃ h : Host, h.classes = table ∧ h.message.body = v :=
  ⟨⟨{ Message.empty with body := v }, [], table, []⟩, rfl, rfl⟩

/-- The hosts that have a copy of a table convert to a type exactly when the name stands for it. -/
theorem Host.convertTo_eq_convert (function : String) :
    (∀ h : Host, h.classes = table →
      h.convertTo function h.message.body (.string name) = t.convert h.message.body) ↔
    table.resolve? name = some t := by
  constructor
  · intro hall
    cases hresolve : table.resolve? name with
    | none =>
      obtain ⟨h, hclasses, hbody⟩ := exists_classes table .null
      have hnull := hall h hclasses
      rw [h.convertTo_string, hclasses, hresolve, hbody] at hnull
      cases hnull
    | some t' =>
      have hbody (v : Value) : t'.convert v = t.convert v := by
        obtain ⟨h, hclasses, rfl⟩ := exists_classes table v
        have hvalue := hall h hclasses
        rwa [h.convertTo_string, hclasses, hresolve] at hvalue
      rw [ValueType.eq_of_convert hbody]
  · intro hresolve h hclasses
    rw [h.convertTo_string, hclasses, hresolve]

/-- They refuse to convert exactly when the name stands for nothing. -/
theorem Host.convertTo_eq_error (function : String) :
    (∀ h : Host, h.classes = table → h.convertTo function h.message.body (.string name) =
      .error (.invalidArguments function (.unknownType name))) ↔
    table.resolve? name = none := by
  constructor
  · intro hall
    obtain ⟨h, hclasses, hbody⟩ := exists_classes table .null
    have hnull := hall h hclasses
    rw [h.convertTo_string, hclasses, hbody] at hnull
    cases hresolve : table.resolve? name with
    | none => rfl
    | some t =>
      rw [hresolve] at hnull
      cases hnull
  · intro hresolve h hclasses
    rw [h.convertTo_string, hclasses, hresolve]

/-- What the body as a type is in all hosts of a table is what the conversion to that name is. -/
theorem Expression.bodyAs_iff (hname : IsPlainText name.toList) (outcome : Host → Outcome Value) :
    (∃ e, Expression.parse ("$\x7bbodyAs('" ++ name ++ "')\x7d") = .ok e ∧
      ∀ h : Host, h.classes = table → e.evaluate h.context = outcome h) ↔
    ∀ h : Host, h.classes = table →
      h.convertTo "bodyAs" h.message.body (.string name) = outcome h := by
  obtain ⟨e, hparse, heval⟩ := Expression.parse_bodyAs hname
  constructor
  · rintro ⟨e', hparse', houtcome⟩ h hclasses
    rw [hparse] at hparse'
    cases hparse'
    rw [← heval, houtcome h hclasses]
  · intro houtcome
    exact ⟨e, hparse, fun h hclasses => by rw [heval, houtcome h hclasses]⟩

end

/-! ## Names after registrations -/

/-- After any registrations, a predicate tests for a type by a name exactly when every message is converted to
that type by it, and exactly when the type was given last to the name without the blanks around it. And the
one is refused exactly when the other is, which is when no type was. -/
theorem ClassTable.names_resolve_alike (table : ClassTable) (calls : List (String × ValueType))
    {name : String} (hname : IsPlainText name.toList) :
    (∀ t, List.TFAE [
      LastGiven (table.history ++ calls) (Text.trimmed name) t,
      Rule.parse (table.registerAll calls) ("$\x7bbody\x7d is '" ++ name ++ "'") =
        .ok ⟨"$\x7bbody\x7d is '" ++ name ++ "'",
          .comparison (.property (.literal "body")) ⟨.type, false⟩ (.type t)⟩,
      ∃ e, Expression.parse ("$\x7bbodyAs('" ++ name ++ "')\x7d") = .ok e ∧
        ∀ h : Host, h.classes = table.registerAll calls →
          e.evaluate h.context = t.convert h.message.body]) ∧
    List.TFAE [
      ∀ t, ¬ LastGiven (table.history ++ calls) (Text.trimmed name) t,
      Rule.parse (table.registerAll calls) ("$\x7bbody\x7d is '" ++ name ++ "'") =
        .error ⟨⟨11, .unknownClass name⟩, "$\x7bbody\x7d is '" ++ name ++ "'"⟩,
      ∃ e, Expression.parse ("$\x7bbodyAs('" ++ name ++ "')\x7d") = .ok e ∧
        ∀ h : Host, h.classes = table.registerAll calls →
          e.evaluate h.context = .error (.invalidArguments "bodyAs" (.unknownType name))] := by
  have hparse := Rule.parse_is (table.registerAll calls) hname
  -- all of them ask for what the name is resolved to
  refine ⟨fun t => ?_, ?_⟩
  · rw [Expression.bodyAs_iff hname, Host.convertTo_eq_convert, hparse, ← resolve?_registerAll]
    tfae_have 1 ↔ 3 := Iff.rfl
    tfae_have 1 ↔ 2 := by
      cases (table.registerAll calls).resolve? name <;> simp
    tfae_finish
  · rw [Expression.bodyAs_iff hname, Host.convertTo_eq_error, hparse]
    simp only [← resolve?_registerAll]
    rw [← Option.eq_none_iff_forall_ne_some]
    tfae_have 1 ↔ 3 := Iff.rfl
    tfae_have 1 ↔ 2 := by
      cases (table.registerAll calls).resolve? name <;> simp
    tfae_finish

/-- A name that is registered twice, between blanks. -/
theorem ClassTable.names_resolve_alike_order :
    let calls := [("Order", ValueType.map), ("Order", .integer)]
    IsPlainText " Order ".toList ∧
      LastGiven (standard.history ++ calls) (Text.trimmed " Order ") .integer ∧
      Rule.parse (standard.registerAll calls) "$\x7bbody\x7d is ' Order '" =
        .ok ⟨"$\x7bbody\x7d is ' Order '",
          .comparison (.property (.literal "body")) ⟨.type, false⟩ (.type .integer)⟩ ∧
      ∃ e, Expression.parse "$\x7bbodyAs(' Order ')\x7d" = .ok e ∧
        ∀ h : Host, h.classes = standard.registerAll calls →
          e.evaluate h.context = ValueType.integer.convert h.message.body := by
  intro calls
  have hname : IsPlainText " Order ".toList := by simp [IsPlainText]
  have hgiven : LastGiven (standard.history ++ calls) (Text.trimmed " Order ") .integer :=
    ⟨standard.history ++ [("Order", .map)], [], rfl, List.forall_mem_nil _⟩
  have halike := (names_resolve_alike standard calls hname).1 .integer
  exact ⟨hname, hgiven, (halike.out 0 1).1 hgiven, (halike.out 0 2).1 hgiven⟩

/-- A name that is registered with a blank in front of it stands for nothing. -/
theorem ClassTable.registered_after_blank :
    let calls := [(" Order", ValueType.map)]
    IsPlainText " Order".toList ∧ LastGiven (standard.history ++ calls) " Order" .map ∧
      Rule.parse (standard.registerAll calls) "$\x7bbody\x7d is ' Order'" =
        .error ⟨⟨11, .unknownClass " Order"⟩, "$\x7bbody\x7d is ' Order'"⟩ ∧
      ∃ e, Expression.parse "$\x7bbodyAs(' Order')\x7d" = .ok e ∧
        ∀ h : Host, h.classes = standard.registerAll calls →
          e.evaluate h.context = .error (.invalidArguments "bodyAs" (.unknownType " Order")) := by
  intro calls
  have hname : IsPlainText " Order".toList := by simp [IsPlainText]
  have hresolve : (standard.registerAll calls).resolve? " Order" = none := by decide
  refine ⟨hname, ⟨standard.history, [], rfl, List.forall_mem_nil _⟩, ?_, ?_⟩
  · have hparse := Rule.parse_is (standard.registerAll calls) hname
    rwa [hresolve] at hparse
  · exact (Expression.bodyAs_iff hname _).2 ((Host.convertTo_eq_error "bodyAs").2 hresolve)

end RouteExpr
