/-
The order of values: any two that are not null are in order or equal, and swapped they have the reverse
order.

Three orders are tried in turn, that of decimals, that of doubles and that of texts. Which of them is taken
depends on both values alike, so it is the same for the swapped values, and each of the three is reversed
by swapping. Two values are equal when neither is before the other.
-/
import RouteExpr.Proofs.Number.Double
import RouteExpr.Proofs.Value.Alike

namespace RouteExpr

theorem Decimal.order_swap (a b : Decimal) : (a.order b).swap = b.order a :=
  Int.compare_swap _ _

theorem Decimal.order_self (a : Decimal) : a.order a = .eq :=
  compare_eq_iff_eq.2 rfl

namespace Value

variable {a b : Value} {o : Ordering}

/-! ## Orders of numbers -/

/-- The order of two values as decimals. -/
def decimalOrder? (a b : Value) : Option Ordering :=
  match a.toDecimal?, b.toDecimal? with
  | some x, some y => some (x.order y)
  | _, _ => none

/-- The order of two values as doubles. -/
def doubleOrder? (a b : Value) : Option Ordering :=
  match a.toDouble?, b.toDouble? with
  | some x, some y => x.compare? y
  | _, _ => none

theorem numericOrder?_eq (a b : Value) :
    numericOrder? a b = (decimalOrder? a b).or (doubleOrder? a b) := by
  unfold numericOrder? decimalOrder? doubleOrder?
  cases a.toDecimal? with
  | none => rfl
  | some x => cases b.toDecimal? <;> rfl

theorem decimalOrder?_swap (a b : Value) :
    (decimalOrder? a b).map Ordering.swap = decimalOrder? b a := by
  unfold decimalOrder?
  cases a.toDecimal? with
  | none => cases b.toDecimal? <;> rfl
  | some x =>
    cases b.toDecimal? with
    | none => rfl
    | some y => exact congrArg some (Decimal.order_swap x y)

theorem doubleOrder?_swap (a b : Value) :
    (doubleOrder? a b).map Ordering.swap = doubleOrder? b a := by
  unfold doubleOrder?
  cases a.toDouble? with
  | none => cases b.toDouble? <;> rfl
  | some x =>
    cases b.toDouble? with
    | none => rfl
    | some y => exact Double.compare?_swap x y

/-- Swapped numbers have the reverse order. -/
theorem numericOrder?_swap (a b : Value) :
    (numericOrder? a b).map Ordering.swap = numericOrder? b a := by
  rw [numericOrder?_eq, numericOrder?_eq, Option.map_or, decimalOrder?_swap, doubleOrder?_swap]

theorem decimalOrder?_self (h : decimalOrder? a a = some o) : o = .eq := by
  unfold decimalOrder? at h
  split at h
  · rename_i x y hx hy
    cases hx.symm.trans hy
    exact (Option.some.inj h).symm.trans (Decimal.order_self x)
  · cases h

theorem doubleOrder?_self (h : doubleOrder? a a = some o) : o = .eq := by
  unfold doubleOrder? at h
  split at h
  · rename_i x y hx hy
    cases hx.symm.trans hy
    exact Double.compare?_self h
  · cases h

/-- A number is equal to itself. -/
theorem numericOrder?_self (h : numericOrder? a a = some o) : o = .eq := by
  rw [numericOrder?_eq, Option.or_eq_some_iff] at h
  rcases h with h | ⟨-, h⟩
  · exact decimalOrder?_self h
  · exact doubleOrder?_self h

/-! ## The order of values -/

theorem order?_eq (a b : Value) : a.order? b =
    if a.isNull || b.isNull then none else (numericOrder? a b).or (some (compare a.text b.text)) := by
  unfold order?
  cases numericOrder? a b <;> rfl

/-- Values have an order unless one of them is null. -/
theorem order?_eq_none : a.order? b = none ↔ a.isNull = true ∨ b.isNull = true := by
  rw [order?_eq, ← Bool.or_eq_true]
  split
  · rename_i h
    exact ⟨fun _ => h, fun _ => rfl⟩
  · rename_i h
    exact ⟨fun hnone => by simp at hnone, fun hnull => absurd hnull h⟩

theorem exists_order? (ha : a.isNull = false) (hb : b.isNull = false) : ∃ o, a.order? b = some o := by
  refine Option.ne_none_iff_exists'.1 fun h => ?_
  rcases order?_eq_none.1 h with h | h
  · exact absurd h (by simp [ha])
  · exact absurd h (by simp [hb])

/-- Swapped values have the reverse order. -/
theorem order?_swap (a b : Value) : (a.order? b).map Ordering.swap = b.order? a := by
  rw [order?_eq, order?_eq, Bool.or_comm]
  split
  · rfl
  · rw [Option.map_or, numericOrder?_swap]
    exact congrArg _ (congrArg some Std.OrientedCmp.eq_swap.symm)

/-- A value is equal to itself. -/
theorem order?_self (h : a.order? a = some o) : o = .eq := by
  rw [order?_eq] at h
  split at h
  · cases h
  · rw [Option.or_eq_some_iff] at h
    rcases h with h | ⟨-, h⟩
    · exact numericOrder?_self h
    · exact (Option.some.inj h).symm.trans Std.ReflCmp.compare_self

/-- Values are equal when neither is before the other, or when both are null. -/
theorem equals_eq_order? (a b : Value) : a.equals b =
    match a.order? b with
    | some o => o == .eq
    | none => a.isNull && b.isNull := by
  have htext : (a.text == b.text) = (compare a.text b.text == .eq) := by
    rw [Bool.eq_iff_iff, beq_iff_eq, beq_iff_eq]
    exact Std.LawfulEqCmp.compare_eq_iff_eq.symm
  rw [equals_eq, order?_eq]
  split
  · rfl
  · cases numericOrder? a b with
    | some o => rfl
    | none => exact htext

theorem equals_self (a : Value) : a.equals a = true := by
  rw [equals_eq_order?]
  cases h : a.order? a with
  | some o => rw [order?_self h]; rfl
  | none => rw [order?_eq_none, or_self] at h; simp [h]

theorem equals_comm (a b : Value) : a.equals b = b.equals a := by
  rw [equals_eq_order?, equals_eq_order?, ← order?_swap a b]
  cases a.order? b with
  | some o => cases o <;> rfl
  | none => exact Bool.and_comm _ _

end Value

/-! ## Comparisons -/

namespace Comparison

/-- Equality and the orderings: the comparisons that ask for the order of their sides. -/
def ordered : List Comparison :=
  [equal, less, lessEqual, greater, greaterEqual]

/-- Whether such a comparison holds of sides that have an order. -/
def asks (c : Comparison) (o : Ordering) : Bool :=
  match c with
  | equal => o == .eq
  | less => o == .lt
  | lessEqual => o != .gt
  | greater => o == .gt
  | greaterEqual => o != .lt
  | _ => false

theorem holds_of_order? {c : Comparison} {a b : Value} {o : Ordering} (hc : c ∈ ordered)
    (h : a.order? b = some o) : c.holds a b = .ok (c.asks o) := by
  have hequals := a.equals_eq_order? b
  rw [h] at hequals
  simp only [ordered, List.mem_cons, List.not_mem_nil, or_false] at hc
  rcases hc with rfl | rfl | rfl | rfl | rfl
  · rw [holds, hequals, asks]
  all_goals rw [holds, h, Option.any_some, asks]

/-- Equality and the orderings together tell all orders apart. -/
theorem holds_eq_iff {a b a' b' : Value} {o o' : Ordering} (h : a.order? b = some o)
    (h' : a'.order? b' = some o') : (∀ c ∈ ordered, c.holds a b = c.holds a' b') ↔ o = o' := by
  constructor
  · intro hsame
    have hasks : ∀ c ∈ ordered, c.asks o = c.asks o' := fun c hc => by
      have hholds := hsame c hc
      rw [holds_of_order? hc h, holds_of_order? hc h'] at hholds
      exact Except.ok.inj hholds
    cases o <;> cases o' <;> first | rfl | exact absurd hasks (by decide)
  · rintro rfl c hc
    rw [holds_of_order? hc h, holds_of_order? hc h']

/-- An order is one of before, equal and after, and no two of them. -/
theorem existsUnique_asks (o : Ordering) : ∃! c, c ∈ [less, equal, greater] ∧ c.asks o = true := by
  have honly : ∀ c ∈ [less, equal, greater], ∀ d ∈ [less, equal, greater],
      c.asks o = true → d.asks o = true → d = c := by
    cases o <;> decide
  have hsome : ∃ c ∈ [less, equal, greater], c.asks o = true := by
    cases o <;> decide
  obtain ⟨c, hc, hasks⟩ := hsome
  exact ⟨c, ⟨hc, hasks⟩, fun d hd => honly c hc d hd.1 hasks hd.2⟩

/-- No ordering holds of a null. -/
theorem holds_of_isNull {c : Comparison} {a b : Value}
    (hc : c ∈ [less, lessEqual, greater, greaterEqual]) (h : a.isNull = true ∨ b.isNull = true) :
    c.holds a b = .ok false := by
  have hnone := Value.order?_eq_none.2 h
  simp only [List.mem_cons, List.not_mem_nil, or_false] at hc
  rcases hc with rfl | rfl | rfl | rfl
  all_goals rw [holds, hnone, Option.any_none]

end Comparison

namespace Value

/-- Of two values that are not null exactly one is before the other or they are equal, and swapped they
have the reverse order. A null is in no order, and equal to null alone. -/
theorem order?_trichotomy (a b : Value) :
    a.equals a = true ∧ a.equals b = b.equals a ∧
    (a.isNull = false → b.isNull = false →
      ∃ o, a.order? b = some o ∧ b.order? a = some o.swap ∧ (a.equals b = true ↔ o = .eq) ∧
        Comparison.less.holds a b = .ok (o == .lt) ∧
        Comparison.equal.holds a b = .ok (o == .eq) ∧
        Comparison.greater.holds a b = .ok (o == .gt) ∧
        Comparison.greaterEqual.holds a b = .ok (!(o == .lt)) ∧
        Comparison.lessEqual.holds a b = .ok (!(o == .gt)) ∧
        ∃! c, c ∈ [Comparison.less, .equal, .greater] ∧ c.holds a b = .ok true) ∧
    (a.isNull = true ∨ b.isNull = true →
      (∀ c ∈ [Comparison.less, .lessEqual, .greater, .greaterEqual], c.holds a b = .ok false) ∧
      (a.equals b = true ↔ a.isNull = true ∧ b.isNull = true)) := by
  refine ⟨equals_self a, equals_comm a b, fun ha hb => ?_, fun h => ⟨fun c hc => ?_, ?_⟩⟩
  · obtain ⟨o, ho⟩ := exists_order? ha hb
    have hswap := order?_swap a b
    rw [ho] at hswap
    have holds {c : Comparison} (hc : c ∈ Comparison.ordered) := Comparison.holds_of_order? hc ho
    refine ⟨o, ho, hswap.symm, ?_, holds (by decide), holds (by decide), holds (by decide),
      holds (by decide), holds (by decide), ?_⟩
    · rw [equals_eq_order?, ho, beq_iff_eq]
    · obtain ⟨c, hc, honly⟩ := Comparison.existsUnique_asks o
      have hstrict : [Comparison.less, .equal, .greater] ⊆ Comparison.ordered := by decide
      refine ⟨c, ⟨hc.1, (holds (hstrict hc.1)).trans (congrArg _ hc.2)⟩, fun d ⟨hd, hholds⟩ => ?_⟩
      exact honly d ⟨hd, Except.ok.inj ((holds (hstrict hd)).symm.trans hholds)⟩
  · exact Comparison.holds_of_isNull hc h
  · rw [equals_eq_order?, order?_eq_none.2 h, Bool.and_eq_true]

/-- A NaN and a list with an infinity in it, compared by their texts; and a null with itself. -/
theorem order?_trichotomy_nan :
    let nan : Value := .float ⟨0x7ff8000000000000⟩
    let list : Value := .array [.float (Double.infinity true), .null]
    nan.isNull = false ∧ list.isNull = false ∧
      (∃! c, c ∈ [Comparison.less, .equal, .greater] ∧ c.holds nan list = .ok true) ∧
      Comparison.lessEqual.holds .null nan = .ok false := by
  intro nan list
  obtain ⟨o, -, -, -, -, -, -, -, -, honly⟩ := (order?_trichotomy nan list).2.2.1 rfl rfl
  exact ⟨rfl, rfl, honly, ((order?_trichotomy .null nan).2.2.2 (.inl rfl)).1 _ (by decide)⟩

end Value

end RouteExpr
