/-
Whole texts read with each index checked.

A checked reading of a text gives what the plain one gives, be it of tokens, of an expression or of a
predicate, and so does a cursor over any region under any calls. All that can go wrong is the text
itself, and then the error carries that text and is found within it.
-/
import RouteExpr.Language
import RouteExpr.Proofs.Checked.Predicate

namespace RouteExpr

/-- An error is about a text and is found within it. -/
structure SyntaxError.Within (text : String) (e : SyntaxError) : Prop where
  text_eq : e.text = text
  offset_le : e.fault.offset ≤ text.length

namespace Checked

/-! ## Safe computations -/

/-- A computation over a text stops for nothing but an error within that text: nothing is out of
range in it. -/
def Safe {α : Type} (text : String) (x : Checked α) : Prop :=
  ∀ halt, x = .error halt → ∃ e : SyntaxError, halt = .fault e ∧ e.Within text

variable {α β : Type} {text : String} {f : β → α} {x : Checked α} {y : Except Fault β}

theorem safe_lifted (hy : ∀ fault, y = .error fault → fault.offset ≤ text.length) :
    Safe text (lifted text f y) := by
  rcases y with fault | b
  · rintro _ ⟨⟩
    exact ⟨⟨fault, text⟩, rfl, rfl, hy fault rfl⟩
  · rintro _ ⟨⟩

theorem Mirrors.safe {r : α → β → Prop} (h : Mirrors text r x y) : Safe text x := by
  cases h with
  | ok _ => rintro _ ⟨⟩
  | fault hf =>
    rintro _ ⟨⟩
    exact ⟨_, rfl, rfl, hf⟩

/-- Where a safe computation is what parsing does, the errors of parsing are within the text. -/
theorem Safe.within {parsed : Except SyntaxError β} {g : α → β} (h : Safe text x)
    (hx : x.map g = parsed.mapError .fault) {e : SyntaxError} (he : parsed = .error e) :
    e.Within text := by
  rw [he] at hx
  rcases x with halt | a
  · cases hx
    obtain ⟨_, ⟨⟩, hwithin⟩ := h _ rfl
    exact hwithin
  · cases hx

/-! ## Whole texts -/

theorem readExpression_eq_parse (text : String) :
    (readExpression text).map (Expression.mk text) = (Expression.parse text).mapError .fault := by
  rcases (readExpression_mirrors text).cases with ⟨e, _, hx, hy, rfl⟩ | ⟨fault, hx, hy, -⟩ <;>
    rw [Expression.parse, hx, hy] <;> rfl

theorem readPredicate_eq_parse (classes : ClassTable) (text : String) :
    (readPredicate classes text).map (Rule.mk text) = (Rule.parse classes text).mapError .fault := by
  rcases (readPredicate_mirrors classes text).cases with ⟨p, _, hx, hy, rfl⟩ | ⟨fault, hx, hy, -⟩ <;>
    rw [Rule.parse, hx, hy] <;> rfl

theorem answers_slice (mode : Mode) (text : String) (first stop : Nat) (calls : List Lexer.Call) :
    (Cursor.slice mode text first stop).answers calls =
        ((Lexer.slice mode text.toList first stop).answers calls).map (lifted text Cut.of) ∧
      ∀ answer ∈ (Cursor.slice mode text first stop).answers calls, Safe text answer := by
  obtain ⟨heq, hwithin⟩ :=
    Cursor.answers_eq calls (.inl (Cursor.at_slice mode text first stop))
  refine ⟨heq, fun answer hanswer => ?_⟩
  rw [heq] at hanswer
  obtain ⟨plain, hplain, rfl⟩ := List.mem_map.1 hanswer
  refine safe_lifted fun fault hfault => ?_
  rw [hfault] at hplain
  exact hwithin fault hplain

/-- Reading a text takes nothing that is not there. With each index checked, the tokens of the text,
its expression, its predicate and the answers of a lexer over any region of it under any calls are
what they are without the checks, and an error is always about that text and within it. -/
theorem reading_in_range (classes : ClassTable) (text : String) :
    (∀ mode, tokenize mode text = lifted text (List.map Cut.of) (RouteExpr.tokenize mode text.toList) ∧
      Safe text (tokenize mode text)) ∧
    ((readExpression text).map (Expression.mk text) = (Expression.parse text).mapError .fault ∧
      Safe text (readExpression text) ∧
      ∀ e, Expression.parse text = .error e → e.Within text) ∧
    ((readPredicate classes text).map (Rule.mk text) = (Rule.parse classes text).mapError .fault ∧
      Safe text (readPredicate classes text) ∧
      ∀ e, Rule.parse classes text = .error e → e.Within text) ∧
    ∀ mode first stop calls,
      (Cursor.slice mode text first stop).answers calls =
          ((Lexer.slice mode text.toList first stop).answers calls).map (lifted text Cut.of) ∧
        ∀ answer ∈ (Cursor.slice mode text first stop).answers calls, Safe text answer := by
  have hexpr := (readExpression_mirrors text).safe
  have hpred := (readPredicate_mirrors classes text).safe
  refine ⟨fun mode => ?_, ⟨readExpression_eq_parse text, hexpr, fun e he => ?_⟩,
    ⟨readPredicate_eq_parse classes text, hpred, fun e he => ?_⟩, fun mode => answers_slice mode text⟩
  · have hmirrors := tokenize_mirrors mode text
    exact ⟨hmirrors.eq_lifted, hmirrors.safe⟩
  · exact hexpr.within (readExpression_eq_parse text) he
  · exact hpred.within (readPredicate_eq_parse classes text) he

end Checked

end RouteExpr
