/-
Where evaluation leaves the range of decimals.

The one operation without an outcome in its range is a step of the text of an integer that no
decimal exceeds, away from zero: every other sum has a last place to give up, or fits. So an
evaluation overflows exactly where it comes to such a step.
-/
import RouteExpr.Evaluation
import RouteExpr.Expr.Reader
import RouteExpr.Proofs.Message.Host
import RouteExpr.Proofs.Number.Decimal
import RouteExpr.Proofs.Result
import Mathlib.Tactic

namespace RouteExpr

/-! ## Steps of values -/

/-- Whether a value is a text whose number, blanks around it aside, has no next decimal. -/
def Step.Exceeds (s : Step) (v : Value) : Prop :=
  ∃ text d, v = .string text ∧ Decimal.read? (Text.trim text.toList) = some d ∧
    d.IsLimit (s = .decrement)

/-- A step overflows for the texts of numbers without a next decimal, and for no other value. -/
theorem Step.apply_eq_overflow {s : Step} {v : Value} :
    s.apply v = .error .decimalOverflow ↔ s.Exceeds v := by
  have no_text (h : ∀ text, v ≠ .string text) : ¬ s.Exceeds v := by
    rintro ⟨text, -, rfl, -⟩
    exact h text rfl
  cases v with
  | string text =>
    have hread : s.Exceeds (.string text) ↔ ∃ d, Decimal.read? (Text.trim text.toList) = some d ∧
        d.IsLimit (s = .decrement) := by
      constructor
      · rintro ⟨_, d, ⟨⟩, h⟩; exact ⟨d, h⟩
      · rintro ⟨d, h⟩; exact ⟨text, d, rfl, h⟩
    rw [hread]
    unfold apply
    dsimp only
    split
    · -- an integer of 64 bits is stepped as such, and is no limit
      rename_i i hi
      have hd : Decimal.read? (Text.trim text.toList) = some (.ofInt64 i) := by
        unfold Decimal.read?; rw [hi]
      refine ⟨fun h => ?_, ?_⟩
      · split at h <;> cases h
      · rintro ⟨d, hd', hlimit⟩
        cases hd.symm.trans hd'
        exact absurd hlimit (Decimal.not_isLimit_ofInt64 i _)
    · split
      · rename_i hd
        refine ⟨nofun, ?_⟩
        rintro ⟨d, hd', -⟩
        cases hd.symm.trans hd'
      · -- a decimal has a next one unless it is the limit
        rename_i d hd
        rw [hd]
        split
        · rename_i hstep
          refine ⟨nofun, ?_⟩
          rintro ⟨_, ⟨⟩, hlimit⟩
          rw [Decimal.step?_eq_none.2 hlimit] at hstep
          cases hstep
        · rename_i hstep
          exact ⟨fun _ => ⟨d, rfl, Decimal.step?_eq_none.1 hstep⟩, fun _ => rfl⟩
  | integer i =>
    refine ⟨fun h => ?_, fun h => absurd h (no_text nofun)⟩
    unfold apply at h
    dsimp only at h
    split at h <;> cases h
  | _ => exact ⟨nofun, fun h => absurd h (no_text nofun)⟩

/-! ## Evaluation -/

namespace Expr

mutual

/-- Evaluating an expression comes to a step of a value. -/
inductive Steps (ctx : Context) : Expr → Step → Value → Prop
  | step {s : Step} {e : Expr} {v : Value} (h : e.evaluate ctx = .ok v) : Steps ctx (step s e) s v
  | operand {s s' : Step} {e : Expr} {v : Value} (h : Steps ctx e s v) : Steps ctx (step s' e) s v
  | property {s : Step} {name : Expr} {v : Value} (h : Steps ctx name s v) :
    Steps ctx (property name) s v
  | name {s : Step} {name : Expr} {args : List Expr} {v : Value} (h : Steps ctx name s v) :
    Steps ctx (call name args) s v
  | args {s : Step} {name : Expr} {args : List Expr} {v w : Value}
    (hname : name.evaluate ctx = .ok w) (h : StepsAmong ctx args s v) : Steps ctx (call name args) s v
  | parts {s : Step} {parts : List Expr} {v : Value} (h : StepsAmong ctx parts s v) :
    Steps ctx (concat parts) s v

/-- Evaluating expressions in order comes to a step of a value: one of them does, and those before
it have values. -/
inductive StepsAmong (ctx : Context) : List Expr → Step → Value → Prop
  | head {s : Step} {e : Expr} {es : List Expr} {v : Value} (h : Steps ctx e s v) :
    StepsAmong ctx (e :: es) s v
  | tail {s : Step} {e : Expr} {es : List Expr} {v w : Value} (he : e.evaluate ctx = .ok w)
    (h : StepsAmong ctx es s v) : StepsAmong ctx (e :: es) s v

end

/-- Evaluating an expression comes to a step without a next decimal. -/
def Overflows (ctx : Context) (e : Expr) : Prop :=
  ∃ s v, e.Steps ctx s v ∧ s.Exceeds v

/-- The same for expressions in order. -/
def OverflowsAmong (ctx : Context) (es : List Expr) : Prop :=
  ∃ s v, StepsAmong ctx es s v ∧ s.Exceeds v

variable {ctx : Context} {e name : Expr} {es args parts : List Expr} {s : Step}

theorem overflows_step :
    (step s e).Overflows ctx ↔ e.Overflows ctx ∨ ∃ v, e.evaluate ctx = .ok v ∧ s.Exceeds v := by
  constructor
  · rintro ⟨_, v, h, hv⟩
    cases h with
    | step h => exact .inr ⟨v, h, hv⟩
    | operand h => exact .inl ⟨_, v, h, hv⟩
  · rintro (⟨s', v, h, hv⟩ | ⟨v, h, hv⟩)
    · exact ⟨s', v, .operand h, hv⟩
    · exact ⟨s, v, .step h, hv⟩

theorem overflows_property : (property name).Overflows ctx ↔ name.Overflows ctx := by
  constructor
  · rintro ⟨s, v, h, hv⟩
    cases h with
    | property h => exact ⟨s, v, h, hv⟩
  · rintro ⟨s, v, h, hv⟩
    exact ⟨s, v, .property h, hv⟩

theorem overflows_call : (call name args).Overflows ctx ↔
    name.Overflows ctx ∨ ∃ w, name.evaluate ctx = .ok w ∧ OverflowsAmong ctx args := by
  constructor
  · rintro ⟨s, v, h, hv⟩
    cases h with
    | name h => exact .inl ⟨s, v, h, hv⟩
    | args hname h => exact .inr ⟨_, hname, s, v, h, hv⟩
  · rintro (⟨s, v, h, hv⟩ | ⟨w, hname, s, v, h, hv⟩)
    · exact ⟨s, v, .name h, hv⟩
    · exact ⟨s, v, .args hname h, hv⟩

theorem overflows_concat : (concat parts).Overflows ctx ↔ OverflowsAmong ctx parts := by
  constructor
  · rintro ⟨s, v, h, hv⟩
    cases h with
    | parts h => exact ⟨s, v, h, hv⟩
  · rintro ⟨s, v, h, hv⟩
    exact ⟨s, v, .parts h, hv⟩

theorem overflowsAmong_nil : ¬ OverflowsAmong ctx [] := by
  rintro ⟨s, v, h, -⟩; cases h

theorem overflowsAmong_cons : OverflowsAmong ctx (e :: es) ↔
    e.Overflows ctx ∨ ∃ w, e.evaluate ctx = .ok w ∧ OverflowsAmong ctx es := by
  constructor
  · rintro ⟨s, v, h, hv⟩
    cases h with
    | head h => exact .inl ⟨s, v, h, hv⟩
    | tail he h => exact .inr ⟨_, he, s, v, h, hv⟩
  · rintro (⟨s, v, h, hv⟩ | ⟨w, he, s, v, h, hv⟩)
    · exact ⟨s, v, .head h, hv⟩
    · exact ⟨s, v, .tail he h, hv⟩

theorem not_overflows_of_value (h : ∀ s v, ¬ e.Steps ctx s v) : ¬ e.Overflows ctx := by
  rintro ⟨s, v, hs, -⟩
  exact h s v hs

mutual

theorem evaluate_eq_overflow (hc : ctx.Returns) : ∀ e : Expr,
    e.evaluate ctx = .error .decimalOverflow ↔ e.Overflows ctx
  | literal _ => ⟨nofun, fun h => absurd h (not_overflows_of_value nofun)⟩
  | integer _ => ⟨nofun, fun h => absurd h (not_overflows_of_value nofun)⟩
  | float _ => ⟨nofun, fun h => absurd h (not_overflows_of_value nofun)⟩
  | boolean _ => ⟨nofun, fun h => absurd h (not_overflows_of_value nofun)⟩
  | null => ⟨nofun, fun h => absurd h (not_overflows_of_value nofun)⟩
  | property name => by
    rw [overflows_property, ← evaluate_eq_overflow hc name, evaluate]
    refine bind_eq_error_of_ne fun v => ?_
    -- the context is asked in one of two ways, and neither overflows
    dsimp only
    split
    · exact hc.invoke _ _
    · exact hc.property _
  | call name args => by
    rw [overflows_call, ← evaluate_eq_overflow hc name, ← evaluateAll_eq_overflow hc args, evaluate,
      bind_eq_error]
    exact or_congr_right (exists_congr fun v => and_congr_right fun _ =>
      bind_eq_error_of_ne fun values => hc.invoke _ values)
  | concat parts => by
    rw [overflows_concat, ← evaluateAll_eq_overflow hc parts, evaluate]
    exact bind_pure_eq_error
  | step s e => by
    rw [overflows_step, ← evaluate_eq_overflow hc e, evaluate, bind_eq_error]
    simp only [Step.apply_eq_overflow]

theorem evaluateAll_eq_overflow (hc : ctx.Returns) : ∀ es : List Expr,
    evaluateAll ctx es = .error .decimalOverflow ↔ OverflowsAmong ctx es
  | [] => ⟨nofun, fun h => absurd h overflowsAmong_nil⟩
  | e :: es => by
    rw [overflowsAmong_cons, ← evaluate_eq_overflow hc e, ← evaluateAll_eq_overflow hc es,
      evaluateAll, bind_eq_error]
    exact or_congr_right (exists_congr fun v => and_congr_right fun _ => bind_pure_eq_error)

end

end Expr

/-! ## Predicates -/

/-- Evaluating an operand comes to a step of a value. -/
inductive Operand.Steps (ctx : Context) : Operand → Step → Value → Prop
  | value {s : Step} {e : Expr} {v : Value} (h : e.Steps ctx s v) : Steps ctx (value e) s v
  | low {s : Step} {low high : Expr} {v : Value} (h : low.Steps ctx s v) :
    Steps ctx (range low high) s v
  | high {s : Step} {low high : Expr} {v w : Value} (hlow : low.evaluate ctx = .ok w)
    (h : high.Steps ctx s v) : Steps ctx (range low high) s v

/-- Evaluating an operand comes to a step without a next decimal. -/
def Operand.Overflows (ctx : Context) (o : Operand) : Prop :=
  ∃ s v, o.Steps ctx s v ∧ s.Exceeds v

theorem Operand.overflows_value {ctx : Context} {e : Expr} :
    (value e).Overflows ctx ↔ e.Overflows ctx := by
  constructor
  · rintro ⟨s, v, h, hv⟩
    cases h with
    | value h => exact ⟨s, v, h, hv⟩
  · rintro ⟨s, v, h, hv⟩
    exact ⟨s, v, .value h, hv⟩

theorem Operand.overflows_range {ctx : Context} {low high : Expr} : (range low high).Overflows ctx ↔
    low.Overflows ctx ∨ ∃ w, low.evaluate ctx = .ok w ∧ high.Overflows ctx := by
  constructor
  · rintro ⟨s, v, h, hv⟩
    cases h with
    | low h => exact .inl ⟨s, v, h, hv⟩
    | high hlow h => exact .inr ⟨_, hlow, s, v, h, hv⟩
  · rintro (⟨s, v, h, hv⟩ | ⟨w, hlow, s, v, h, hv⟩)
    · exact ⟨s, v, .low h, hv⟩
    · exact ⟨s, v, .high hlow h, hv⟩

namespace Predicate

mutual

/-- Evaluating a predicate comes to a step of a value. -/
inductive Steps (ctx : Context) : Predicate → Step → Value → Prop
  | truthy {s : Step} {e : Expr} {v : Value} (h : e.Steps ctx s v) : Steps ctx (truthy e) s v
  | left {s : Step} {left : Expr} {op : Operator} {right : Operand} {v : Value}
    (h : left.Steps ctx s v) : Steps ctx (comparison left op right) s v
  | right {s : Step} {left : Expr} {op : Operator} {right : Operand} {v w : Value}
    (hleft : left.evaluate ctx = .ok w) (h : right.Steps ctx s v) :
    Steps ctx (comparison left op right) s v
  | all {s : Step} {ps : List Predicate} {v : Value} (h : StepsUntil ctx false ps s v) :
    Steps ctx (all ps) s v
  | any {s : Step} {ps : List Predicate} {v : Value} (h : StepsUntil ctx true ps s v) :
    Steps ctx (any ps) s v

/-- Evaluating predicates in order, up to the first with an outcome, comes to a step of a value: one
of them does, and none before it has that outcome. -/
inductive StepsUntil (ctx : Context) : Bool → List Predicate → Step → Value → Prop
  | head {outcome : Bool} {s : Step} {p : Predicate} {ps : List Predicate} {v : Value}
    (h : Steps ctx p s v) : StepsUntil ctx outcome (p :: ps) s v
  | tail {outcome : Bool} {s : Step} {p : Predicate} {ps : List Predicate} {v : Value}
    (hp : p.evaluate ctx = .ok !outcome) (h : StepsUntil ctx outcome ps s v) :
    StepsUntil ctx outcome (p :: ps) s v

end

/-- Evaluating a predicate comes to a step without a next decimal. -/
def Overflows (ctx : Context) (p : Predicate) : Prop :=
  ∃ s v, p.Steps ctx s v ∧ s.Exceeds v

/-- The same for predicates in order, up to the first with an outcome. -/
def OverflowsUntil (ctx : Context) (outcome : Bool) (ps : List Predicate) : Prop :=
  ∃ s v, StepsUntil ctx outcome ps s v ∧ s.Exceeds v

variable {ctx : Context} {left : Expr} {op : Operator} {right : Operand} {p : Predicate}
  {ps : List Predicate} {outcome : Bool}

theorem overflows_truthy {e : Expr} : (truthy e).Overflows ctx ↔ e.Overflows ctx := by
  constructor
  · rintro ⟨s, v, h, hv⟩
    cases h with
    | truthy h => exact ⟨s, v, h, hv⟩
  · rintro ⟨s, v, h, hv⟩
    exact ⟨s, v, .truthy h, hv⟩

theorem overflows_comparison : (comparison left op right).Overflows ctx ↔
    left.Overflows ctx ∨ ∃ w, left.evaluate ctx = .ok w ∧ right.Overflows ctx := by
  constructor
  · rintro ⟨s, v, h, hv⟩
    cases h with
    | left h => exact .inl ⟨s, v, h, hv⟩
    | right hleft h => exact .inr ⟨_, hleft, s, v, h, hv⟩
  · rintro (⟨s, v, h, hv⟩ | ⟨w, hleft, s, v, h, hv⟩)
    · exact ⟨s, v, .left h, hv⟩
    · exact ⟨s, v, .right hleft h, hv⟩

theorem overflows_all : (all ps).Overflows ctx ↔ OverflowsUntil ctx false ps := by
  constructor
  · rintro ⟨s, v, h, hv⟩
    cases h with
    | all h => exact ⟨s, v, h, hv⟩
  · rintro ⟨s, v, h, hv⟩
    exact ⟨s, v, .all h, hv⟩

theorem overflows_any : (any ps).Overflows ctx ↔ OverflowsUntil ctx true ps := by
  constructor
  · rintro ⟨s, v, h, hv⟩
    cases h with
    | any h => exact ⟨s, v, h, hv⟩
  · rintro ⟨s, v, h, hv⟩
    exact ⟨s, v, .any h, hv⟩

theorem overflowsUntil_nil : ¬ OverflowsUntil ctx outcome [] := by
  rintro ⟨s, v, h, -⟩; cases h

theorem overflowsUntil_cons : OverflowsUntil ctx outcome (p :: ps) ↔
    p.Overflows ctx ∨ p.evaluate ctx = .ok (!outcome) ∧ OverflowsUntil ctx outcome ps := by
  constructor
  · rintro ⟨s, v, h, hv⟩
    cases h with
    | head h => exact .inl ⟨s, v, h, hv⟩
    | tail hp h => exact .inr ⟨hp, s, v, h, hv⟩
  · rintro (⟨s, v, h, hv⟩ | ⟨hp, s, v, h, hv⟩)
    · exact ⟨s, v, .head h, hv⟩
    · exact ⟨s, v, .tail hp h, hv⟩

/-! ## Comparisons -/

theorem inRange_ne_overflow (v low high : Value) :
    v.inRange low high ≠ .error .decimalOverflow := by
  unfold Value.inRange
  split <;> nofun

theorem inRangeText_ne_overflow (v : Value) (range : String) :
    v.inRangeText range ≠ .error .decimalOverflow := by
  unfold Value.inRangeText
  split
  · nofun
  · exact inRange_ne_overflow _ _ _

theorem fitsText_ne_overflow (v source : Value) :
    v.fitsText source ≠ .error .decimalOverflow := by
  unfold Value.fitsText
  split
  · nofun
  · split <;> nofun

/-- Comparing two values that are there never overflows. -/
theorem holds_ne_overflow (c : Comparison) (a b : Value) :
    c.holds a b ≠ .error .decimalOverflow := by
  cases c with
  | regex => exact fitsText_ne_overflow a b
  | range => exact inRangeText_ne_overflow a b.text
  | _ => nofun

/-- A comparison overflows where evaluating its right side does. -/
theorem compareWith_eq_overflow (hc : ctx.Returns) (c : Comparison) (v : Value) (o : Operand) :
    compareWith ctx c v o = .error .decimalOverflow ↔ o.Overflows ctx := by
  cases o with
  | type t => exact ⟨nofun, by rintro ⟨s, v, h, -⟩; cases h⟩
  | pattern p => exact ⟨nofun, by rintro ⟨s, v, h, -⟩; cases h⟩
  | value e =>
    rw [Operand.overflows_value, ← Expr.evaluate_eq_overflow hc, compareWith]
    exact bind_eq_error_of_ne (holds_ne_overflow c v)
  | range low high =>
    rw [Operand.overflows_range, ← Expr.evaluate_eq_overflow hc, ← Expr.evaluate_eq_overflow hc,
      compareWith, bind_eq_error]
    exact or_congr_right (exists_congr fun w => and_congr_right fun _ =>
      bind_eq_error_of_ne (inRange_ne_overflow v w))

/-! ## Predicates in contexts -/

mutual

theorem evaluate_eq_overflow (hc : ctx.Returns) : ∀ p : Predicate,
    p.evaluate ctx = .error .decimalOverflow ↔ p.Overflows ctx
  | constant _ => ⟨nofun, by rintro ⟨s, v, h, -⟩; cases h⟩
  | truthy e => by
    rw [overflows_truthy, ← Expr.evaluate_eq_overflow hc, evaluate]
    exact bind_pure_eq_error
  | comparison left op right => by
    rw [overflows_comparison, ← Expr.evaluate_eq_overflow hc, evaluate, bind_eq_error]
    refine or_congr_right (exists_congr fun v => and_congr_right fun _ => ?_)
    rw [← compareWith_eq_overflow hc op.comparison v]
    exact bind_pure_eq_error
  | all ps => by rw [overflows_all, ← evaluateAll_eq_overflow hc ps, evaluate]
  | any ps => by rw [overflows_any, ← evaluateAny_eq_overflow hc ps, evaluate]

theorem evaluateAll_eq_overflow (hc : ctx.Returns) : ∀ ps : List Predicate,
    evaluateAll ctx ps = .error .decimalOverflow ↔ OverflowsUntil ctx false ps
  | [] => ⟨nofun, fun h => absurd h overflowsUntil_nil⟩
  | p :: ps => by
    rw [overflowsUntil_cons, ← evaluate_eq_overflow hc p, ← evaluateAll_eq_overflow hc ps,
      evaluateAll, bind_eq_error]
    -- the others are reached only where the first holds
    refine or_congr_right ⟨?_, fun ⟨hp, h⟩ => ⟨true, hp, h⟩⟩
    rintro ⟨_ | _, hp, h⟩
    · cases h
    · exact ⟨hp, h⟩

theorem evaluateAny_eq_overflow (hc : ctx.Returns) : ∀ ps : List Predicate,
    evaluateAny ctx ps = .error .decimalOverflow ↔ OverflowsUntil ctx true ps
  | [] => ⟨nofun, fun h => absurd h overflowsUntil_nil⟩
  | p :: ps => by
    rw [overflowsUntil_cons, ← evaluate_eq_overflow hc p, ← evaluateAny_eq_overflow hc ps,
      evaluateAny, bind_eq_error]
    -- the others are reached only where the first does not hold
    refine or_congr_right ⟨?_, fun ⟨hp, h⟩ => ⟨false, hp, h⟩⟩
    rintro ⟨_ | _, hp, h⟩
    · exact ⟨hp, h⟩
    · cases h

end

end Predicate

/-! ## Evaluation as a whole -/

/-- In a context that never overflows itself, evaluation overflows where it comes to a step of the
text of the largest integer that is a decimal, or of its negation, away from zero, and nowhere
else. -/
theorem evaluate_overflows_iff {ctx : Context} (hc : ctx.Returns) :
    (∀ e : Expr, e.evaluate ctx = .error .decimalOverflow ↔
      ∃ s v, e.Steps ctx s v ∧ s.Exceeds v) ∧
    ∀ p : Predicate, p.evaluate ctx = .error .decimalOverflow ↔
      ∃ s v, p.Steps ctx s v ∧ s.Exceeds v :=
  ⟨Expr.evaluate_eq_overflow hc, Predicate.evaluate_eq_overflow hc⟩

/-- The largest integer that is a decimal is stepped to, as the text of a decimal, and not beyond. -/
theorem evaluate_overflows_iff_body :
    let e := Expr.step .increment (.property (.literal "body"))
    let below := (Host.ofMessage (.ofBody (.string "79228162514264337593543950334"))).context
    let largest := (Host.ofMessage (.ofBody (.string "79228162514264337593543950335"))).context
    below.Returns ∧ e.evaluate below = .ok (.string "79228162514264337593543950335") ∧
      (¬ ∃ s v, e.Steps below s v ∧ s.Exceeds v) ∧
      largest.Returns ∧ ∃ s v, e.Steps largest s v ∧ s.Exceeds v := by
  intro e below largest
  have hbelow : below.Returns := Host.context_returns _
  have hlargest : largest.Returns := Host.context_returns _
  have hstep : e.evaluate below = .ok (.string "79228162514264337593543950335") := by
    subst e below
    cbv
  have hover : e.evaluate largest = .error .decimalOverflow := by
    subst e largest
    cbv
  refine ⟨hbelow, hstep, fun h => ?_, hlargest, ((evaluate_overflows_iff hlargest).1 e).1 hover⟩
  cases hstep.symm.trans (((evaluate_overflows_iff hbelow).1 e).2 h)

/-- The largest integer that is a decimal, as a body that is stepped. -/
theorem increment_body_overflows :
    ∃ e, Expr.read ['$', '\x7b', 'b', 'o', 'd', 'y', '\x7d', '+', '+'] = .ok e ∧
      e.evaluate (Host.ofMessage (.ofBody (.string "79228162514264337593543950335"))).context =
        .error .decimalOverflow := by
  refine ⟨Expr.step .increment (.property (.literal "body")), by cbv, ?_⟩
  cbv

end RouteExpr
