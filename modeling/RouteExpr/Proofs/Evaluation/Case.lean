/-
Tests that ignore case, beside those that do not.

A value that is equal to another by its text is so in lower case, and an item of a list is found as
well. A text that is found in another is found in it in lower case, unless it has a capital sigma whose
lower case depends on what is around it: alone it has one form, within a longer text another.
-/
import RouteExpr.Evaluation.Compare
import RouteExpr.Proofs.Text.Find
import RouteExpr.Proofs.Text.Lower

namespace RouteExpr

variable {a b : Value}

/-! ## Containment -/

namespace Value

theorem contains_iff {fold : String → String} : a.contains fold b = true ↔
    a ≠ .null ∧ b ≠ .null ∧ a.containsBy fold b = true := by
  cases a <;> cases b <;> simp [contains, isNull]

theorem containsBy_array {fold : String → String} {items : List Value} :
    (array items).containsBy fold b = true ↔
      ∃ item ∈ items, item.equals b = true ∨ fold item.text = fold b.text := by
  simp [containsBy]

theorem containsBy_text {fold : String → String} (ha : ∀ items, a ≠ .array items) :
    a.containsBy fold b = true ↔ (fold b.text).toList <:+: (fold a.text).toList := by
  rw [← Text.occurs_iff]
  cases a with
  | array items => exact absurd rfl (ha items)
  | _ => rfl

theorem string_contains_iff {fold : String → String} {s : String} (hb : b ≠ .null) :
    (string s).contains fold b = true ↔ (fold b.text).toList <:+: (fold s).toList := by
  rw [contains_iff, containsBy_text (by simp)]
  exact ⟨fun h => h.2.2, fun h => ⟨nofun, hb, h⟩⟩

/-- An item of a list is found whatever texts are taken to be the same. -/
theorem contains_fold_of_array {items : List Value} (fold : String → String)
    (h : (array items).contains id b = true) : (array items).contains fold b = true := by
  rw [contains_iff, containsBy_array] at h ⊢
  obtain ⟨ha, hb, item, hitem, hequal⟩ := h
  exact ⟨ha, hb, item, hitem, hequal.imp_right fun htext => congrArg fold htext⟩

/-- Without a loose sigma, what is contained is contained whatever the case. -/
theorem contains_lower_of_contains (hb : ¬ Text.HasLooseSigma b.text.toList)
    (h : a.contains id b = true) : a.contains Text.lower b = true := by
  by_cases ha : ∃ items, a = .array items
  · obtain ⟨items, rfl⟩ := ha
    exact contains_fold_of_array Text.lower h
  · rw [not_exists] at ha
    rw [contains_iff, containsBy_text ha] at h ⊢
    exact ⟨h.1, h.2.1, Text.lower_isInfix hb h.2.2⟩

/-- A loose sigma is contained in some text, but not whatever the case. -/
theorem exists_not_contains_lower (hnull : b ≠ .null) (hb : Text.HasLooseSigma b.text.toList) :
    ∃ s, (string s).contains id b = true ∧ (string s).contains Text.lower b = false := by
  obtain ⟨s, hoccurs, hlower⟩ := hb.exists_not_isInfix
  exact ⟨s, (string_contains_iff hnull).2 hoccurs,
    Bool.eq_false_iff.2 fun h => hlower ((string_contains_iff hnull).1 h)⟩

theorem equalsIgnoreCase_of_text (ha : a ≠ .null) (hb : b ≠ .null) (h : a.text = b.text) :
    a.equalsIgnoreCase b = true := by
  cases a <;> cases b <;> first | exact absurd rfl ha | exact absurd rfl hb | simp [equalsIgnoreCase, h]

end Value

/-! ## Both tests -/

namespace Comparison

/-- Whatever contains a value contains it whatever the case, exactly if the value is null, which
nothing contains, or its text has no loose sigma. Among the items of a list it is always found, and
values of one text are always equal whatever the case. -/
theorem holds_ignoring_case (b : Value) :
    ((∀ a, contains.holds a b = .ok true → containsIgnoreCase.holds a b = .ok true) ↔
      (b = .null ∨ ¬ Text.HasLooseSigma b.text.toList)) ∧
    (∀ items, contains.holds (.array items) b = .ok true →
      containsIgnoreCase.holds (.array items) b = .ok true) ∧
    ∀ a, a ≠ .null → b ≠ .null → a.text = b.text → equalIgnoreCase.holds a b = .ok true := by
  have holds_iff (a : Value) : (contains.holds a b = .ok true ↔ a.contains id b = true) ∧
      (containsIgnoreCase.holds a b = .ok true ↔ a.contains Text.lower b = true) :=
    ⟨⟨Except.ok.inj, congrArg Except.ok⟩, ⟨Except.ok.inj, congrArg Except.ok⟩⟩
  refine ⟨⟨fun h => ?_, fun h a => ?_⟩, fun items => ?_, fun a ha hb htext => ?_⟩
  · by_contra hboth
    rw [not_or, not_not] at hboth
    obtain ⟨s, hcontains, hlower⟩ := Value.exists_not_contains_lower hboth.1 hboth.2
    rw [(holds_iff _).2.1 (h _ ((holds_iff _).1.2 hcontains))] at hlower
    cases hlower
  · rw [(holds_iff a).1, (holds_iff a).2]
    rcases h with rfl | hb
    · exact fun h => absurd rfl (Value.contains_iff.1 h).2.1
    · exact Value.contains_lower_of_contains hb
  · rw [(holds_iff _).1, (holds_iff _).2]
    exact Value.contains_fold_of_array Text.lower
  · exact congrArg Except.ok (Value.equalsIgnoreCase_of_text ha hb htext)

/-- A capital sigma at the end of a word is found there, but not whatever the case: in lower case it
is a final one there, and none alone. -/
theorem contains_final_sigma : contains.holds (.string "AΣ") (.string "Σ") = .ok true ∧
    containsIgnoreCase.holds (.string "AΣ") (.string "Σ") = .ok false := by
  have hletter : Unicode.IsLatinCapital 'A' := ⟨by decide, by decide⟩
  have hcased : Text.startsCased ['A'] = true := by
    rw [Text.startsCased_cons_of_neg, Unicode.isCased_of_isLatinCapital hletter]
    rw [Unicode.isCaseIgnored_of_isLatinCapital hletter]
    exact Bool.false_ne_true
  have hword : (Text.lower "AΣ").toList = ['a', 'ς'] := by
    rw [Text.lower, String.toList_ofList]
    show Text.lowerAfter [] ['A', 'Σ'] = ['a', 'ς']
    rw [Text.lowerAfter, Text.lowerAfter, if_neg (by decide), if_pos rfl,
      Unicode.lowercase_of_isLatinCapital hletter, Text.lowerSigma, hcased]
    rfl
  have hsigma : (Text.lower "Σ").toList = ['σ'] := by
    rw [Text.lower, String.toList_ofList]
    rfl
  have hnull : Value.string "Σ" ≠ .null := by simp
  have hcontains : (Value.string "AΣ").contains id (.string "Σ") = true := by
    rw [Value.string_contains_iff hnull]
    show "Σ".toList <:+: "AΣ".toList
    decide
  refine ⟨congrArg Except.ok hcontains, congrArg Except.ok (Bool.eq_false_iff.2 fun h => ?_)⟩
  have hfound := (Value.string_contains_iff hnull).1 h
  rw [show (Value.string "Σ").text = "Σ" from rfl, hword, hsigma] at hfound
  revert hfound
  decide

end Comparison

end RouteExpr
