/-
Patterns that are written out, and patterns that are the text of a property.

The one is compiled when the predicate is read, the other when it is evaluated, behind the value that it has
to match. Main statement: it makes no difference where a pattern comes from, but that a source of no pattern is
refused at once where it is written out, and only against a value that is not null where it is computed.
-/
import RouteExpr.Proofs.Evaluation.Numeral
import RouteExpr.Proofs.Predicate.Negation

namespace RouteExpr

namespace Predicate

variable {classes : ClassTable} {cs o written p block : List Char} {left e name : Expr} {op : Operator}
  {lead : Nat}

/-! ## Reading patterns -/

/-- Behind `regex`, a text without a marker is read as the pattern that it writes, and refused where it starts
if it writes none. -/
theorem read_pattern_text (h : read classes cs = .ok (alone left)) (hb : Text.allBlank cs = false)
    (ho : op.Spells o) (hc : op.comparison = .regex) (hw : Written p written lead) :
    read classes (spaced cs o written) =
      match Pattern.compile? (String.ofList p) with
      | some pattern => .ok (.comparison left op (.pattern pattern))
      | none => .error ⟨(spaced cs o []).length + lead, .invalidPattern (String.ofList p)⟩ := by
  have hr : (op.comparison, readPattern) ∈ textReaders classes := by simp [textReaders, hc]
  obtain ⟨t, rfl, -, hstart, hread⟩ := read_text_operand h hb ho hr hw
  rw [hread, ← hstart]
  unfold readPattern
  dsimp only
  cases Pattern.compile? (String.ofList t.text) <;> rfl

/-! ## Evaluating patterns -/

variable {ctx : Context} {v : Value} {source : String}

/-- Whether a value fits a text, which is compiled unless the value is null. -/
theorem fitsText_string (v : Value) (source : String) : v.fitsText (.string source) =
    if v.isNull then .ok false
    else
      match Pattern.compile? source with
      | some pattern => .ok (v.fits pattern)
      | none => .error (.invalidPattern source) := by
  unfold Value.fitsText
  rw [show (Value.string source).isNull = false from rfl, Bool.or_false]
  rfl

/-- A value that matches a pattern is not null. -/
theorem fits_of_isNull (h : v.isNull = true) (pattern : Pattern) : v.fits pattern = false := by
  unfold Value.fits
  rw [h]
  rfl

/-- A pattern has the outcome that its source has as the text of an expression. -/
theorem evaluate_compiled {pattern : Pattern} (hcompile : Pattern.compile? source = some pattern)
    (hc : op.comparison = .regex) (he : e.evaluate ctx = .ok (.string source)) :
    (comparison left op (.pattern pattern)).evaluate ctx =
      (comparison left op (.value e)).evaluate ctx := by
  rw [evaluate, evaluate]
  refine bind_congr fun v => ?_
  rw [compareWith, compareWith, he, ok_bind, ok_bind, hc, Comparison.holds, fitsText_string, hcompile]
  cases hv : v.isNull with
  | true =>
    rw [fits_of_isNull hv]
    rfl
  | false => rfl

/-- A text that is the source of no pattern matches no null, and is an error against any other value. -/
theorem evaluate_uncompiled (hcompile : Pattern.compile? source = none) (hc : op.comparison = .regex)
    (he : e.evaluate ctx = .ok (.string source)) (hv : left.evaluate ctx = .ok v) :
    (comparison left op (.value e)).evaluate ctx =
      if v.isNull then .ok op.negated else .error (.invalidPattern source) := by
  rw [evaluate_value hv he, hc, Comparison.holds, fitsText_string, hcompile]
  cases v.isNull with
  | true => exact congrArg Except.ok (Bool.false_bne _)
  | false => rfl

/-! ## Written out and computed -/

/-- Behind a text that is a value alone and `regex` or its negation, a placeholder with the name of a property
is read. In a context where the property is a text without a marker, it has the outcome that this text has
where it is written out, if that is a pattern. If it is none, then written out it is refused where it starts;
and computed, an error of the value stands, a null matches nothing, and any other value fails with the text. -/
theorem read_pattern_computed (h : read classes cs = .ok (alone left)) (hb : Text.allBlank cs = false)
    (ho : op.Spells o) (hc : op.comparison = .regex) (hw : Written p written lead)
    (hblock : Expr.read block = .ok (.property name)) :
    ∃ computed, read classes (spaced cs o block) = .ok computed ∧
      ((∃ pattern, Pattern.compile? (String.ofList p) = some pattern) →
        ∃ fixed, read classes (spaced cs o written) = .ok fixed ∧
          ∀ ctx, (Expr.property name).evaluate ctx = .ok (.string (String.ofList p)) →
            fixed.evaluate ctx = computed.evaluate ctx) ∧
      (Pattern.compile? (String.ofList p) = none →
        read classes (spaced cs o written) =
          .error ⟨(spaced cs o []).length + lead, .invalidPattern (String.ofList p)⟩ ∧
        ∀ ctx, (Expr.property name).evaluate ctx = .ok (.string (String.ofList p)) →
          (∀ err, left.evaluate ctx = .error err → computed.evaluate ctx = .error err) ∧
          ∀ v, left.evaluate ctx = .ok v → computed.evaluate ctx =
            if v.isNull then .ok op.negated else .error (.invalidPattern (String.ofList p))) := by
  have hnottype : op.comparison ≠ .type := by simp [hc]
  have hread := read_pattern_text h hb ho hc hw
  refine ⟨_, read_block_operand h hb ho hnottype hblock rfl, ?_, ?_⟩
  · rintro ⟨pattern, hcompile⟩
    rw [hcompile] at hread
    exact ⟨_, hread, fun ctx hp => evaluate_compiled hcompile hc hp⟩
  · intro hcompile
    rw [hcompile] at hread
    refine ⟨hread, fun ctx hp => ⟨fun err herr => ?_, fun v hv => ?_⟩⟩
    · rw [evaluate, herr]
      rfl
    · exact evaluate_uncompiled hcompile hc hp hv

/-- A pattern of digits in quotes and in a property; and a bracket that is not closed, negated. -/
theorem read_pattern_computed_digits :
    (∃ fixed computed, read .empty "$\x7bx\x7d regex '[0-9]+'".toList = .ok fixed ∧
      read .empty "$\x7bx\x7d regex $\x7by\x7d".toList = .ok computed ∧
      fixed.evaluate (.constant (.string "[0-9]+")) = computed.evaluate (.constant (.string "[0-9]+"))) ∧
    read .empty "$\x7bx\x7d not regex '['".toList = .error ⟨16, .invalidPattern "["⟩ ∧
      ∃ computed, read .empty "$\x7bx\x7d not regex $\x7by\x7d".toList = .ok computed ∧
        computed.evaluate (.constant (.string "[")) = .error (.invalidPattern "[") := by
  have hregex : Comparison.regex.Words "regex".toList := .keyword rfl
  have hy : Expr.read "$\x7by\x7d".toList = .ok (.property (.literal "y")) := by cbv
  have hdigits : Written "[0-9]+".toList "'[0-9]+'".toList 1 :=
    .quoted (q := .single) (by decide) (by decide)
  have hbracket : Written "[".toList "'['".toList 1 := .quoted (q := .single) (by decide) (by decide)
  have hname : isHostName (Text.trimmed "y") = false := by cbv
  refine ⟨?_, ?_⟩
  · obtain ⟨computed, hcomputed, hsame, -⟩ :=
      read_pattern_computed read_subject rfl (.words hregex) rfl hdigits hy
    have hcompile : (Pattern.compile? "[0-9]+").isSome = true := by decide +kernel
    obtain ⟨fixed, hfixed, heq⟩ := hsame (Option.isSome_iff_exists.1 hcompile)
    exact ⟨fixed, computed, hfixed, hcomputed, heq _ (evaluate_constant hname _)⟩
  · obtain ⟨computed, hcomputed, -, hrefused⟩ :=
      read_pattern_computed read_subject rfl (spells_not hregex) rfl hbracket hy
    have hcompile : Pattern.compile? "[" = none := by decide +kernel
    obtain ⟨herror, hfails⟩ := hrefused hcompile
    exact ⟨herror, computed, hcomputed, (hfails _ (evaluate_constant hname _)).2 _ (evaluate_placeholder _)⟩

end Predicate

end RouteExpr
