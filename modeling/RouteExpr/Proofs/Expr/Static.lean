/-
Expressions without a placeholder.

Such an expression has one value in all contexts. A text is read as one exactly when no marker stands in it,
and it is then that text whatever else stands in it: nothing but a marker has a meaning outside of
placeholders.
-/
import RouteExpr.Proofs.Evaluation.Alike
import RouteExpr.Proofs.Predicate.Shape

namespace RouteExpr

open Predicate

namespace Expr

/-! ## One value in all contexts -/

mutual

/-- Without a placeholder, an expression has the same value in all contexts. -/
theorem exists_value_of_isStatic : ∀ {e : Expr}, e.isStatic = true →
    ∃ v, ∀ ctx, e.evaluate ctx = .ok v
  | literal text, _ => ⟨_, fun ctx => by rw [evaluate]⟩
  | integer i, _ => ⟨_, fun ctx => by rw [evaluate]⟩
  | float x, _ => ⟨_, fun ctx => by rw [evaluate]⟩
  | boolean b, _ => ⟨_, fun ctx => by rw [evaluate]⟩
  | null, _ => ⟨_, fun ctx => by rw [evaluate]⟩
  | concat parts, h => by
    rw [isStatic] at h
    obtain ⟨vs, hvs⟩ := exists_values_of_areStatic h
    refine ⟨.string (String.join (vs.map Value.text)), fun ctx => ?_⟩
    rw [evaluate, hvs ctx]
    rfl
  | property _, h => by rw [isStatic] at h; cases h
  | call _ _, h => by rw [isStatic] at h; cases h
  | step _ _, h => by rw [isStatic] at h; cases h

theorem exists_values_of_areStatic : ∀ {es : List Expr}, areStatic es = true →
    ∃ vs, ∀ ctx, evaluateAll ctx es = .ok vs
  | [], _ => ⟨[], fun ctx => by rw [evaluateAll]⟩
  | e :: es, h => by
    rw [areStatic, Bool.and_eq_true] at h
    obtain ⟨v, hv⟩ := exists_value_of_isStatic h.1
    obtain ⟨vs, hvs⟩ := exists_values_of_areStatic h.2
    refine ⟨v :: vs, fun ctx => ?_⟩
    rw [evaluateAll, hv ctx, ok_bind, hvs ctx]
    rfl

end

/-! ## Texts without a marker -/

/-- A text without a marker is read as that text, also where it is empty. -/
theorem read_of_hasMarker_eq_false {cs : List Char} (h : hasMarker cs = false) :
    read cs = .ok (.literal (String.ofList cs)) := by
  by_cases hne : cs = []
  · subst hne
    rfl
  · exact read_of_no_marker hne h

/-- What a text is read as has no placeholder exactly when the text has no marker. -/
theorem isStatic_of_read {cs : List Char} {e : Expr} (h : read cs = .ok e) :
    e.isStatic = !hasMarker cs := by
  cases hm : hasMarker cs with
  | true => exact isStatic_of_hasPlaceholder (readRegion_hasPlaceholder hm h)
  | false =>
    cases h.symm.trans (read_of_hasMarker_eq_false hm)
    rfl

/-- An expression without a placeholder has one value, the same in all contexts. A text without a marker is
read. What a text is read as has no placeholder exactly when no marker stands in the text, and then it is that
text, in every context. -/
theorem static_is_constant :
    (∀ e : Expr, e.isStatic = true → ∃ v, ∀ ctx, e.evaluate ctx = .ok v) ∧
    ∀ cs : List Char,
      ((∀ m : Marker, ¬ m.chars <:+: cs) → ∃ e, read cs = .ok e) ∧
      ∀ e, read cs = .ok e →
        (e.isStatic = true ↔ ∀ m : Marker, ¬ m.chars <:+: cs) ∧
        (e.isStatic = true → e = .literal (String.ofList cs) ∧
          ∀ ctx, e.evaluate ctx = .ok (.string (String.ofList cs))) := by
  refine ⟨fun e => exists_value_of_isStatic, fun cs => ?_⟩
  have hmarker : hasMarker cs = false ↔ ∀ m : Marker, ¬ m.chars <:+: cs := by
    rw [← Bool.not_eq_true, hasMarker_iff_infix, not_exists]
  refine ⟨fun hm => ⟨_, read_of_hasMarker_eq_false (hmarker.2 hm)⟩, fun e h => ?_⟩
  have hstatic : e.isStatic = true ↔ hasMarker cs = false := by
    rw [isStatic_of_read h, Bool.not_eq_true']
  refine ⟨hstatic.trans hmarker, fun hs => ?_⟩
  cases h.symm.trans (read_of_hasMarker_eq_false (hstatic.1 hs))
  exact ⟨rfl, fun ctx => by rw [evaluate]⟩

/-- Parts without a placeholder; and a text of signs, quotes and braces, which have no meaning in it. -/
theorem static_is_constant_signs :
    (∃ v, ∀ ctx, (concat [literal "a", integer 1]).evaluate ctx = .ok v) ∧
      ∃ e, read "'+- \x7b--\"".toList = .ok e ∧ e.isStatic = true ∧
        ∀ ctx, e.evaluate ctx = .ok (.string "'+- \x7b--\"") := by
  obtain ⟨hconstant, hread⟩ := static_is_constant
  have htext : read "'+- \x7b--\"".toList = .ok (.literal "'+- \x7b--\"") :=
    read_of_hasMarker_eq_false (by decide)
  obtain ⟨-, hvalue⟩ := (hread _).2 _ htext
  exact ⟨hconstant _ rfl, _, htext, rfl, (hvalue rfl).2⟩

end Expr

end RouteExpr
