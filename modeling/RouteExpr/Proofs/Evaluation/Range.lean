/-
A range as two orderings.

The bounds of a range are read and tested by themselves, and not as the operands of orderings are. Main
statement: against a number, and against null, a range of two numbers holds exactly when the value is not
below the one and not above the other, and the range and its negation fail exactly where the orderings fail.
-/
import RouteExpr.Proofs.Evaluation.Numeral
import RouteExpr.Proofs.Predicate.Range

namespace RouteExpr

open Lexer

/-! ## Orders of numbers -/

/-- Doubles have an order unless one of them is no number. -/
theorem Double.exists_compare? {x y : Double} (hx : x.view ≠ .nan) (hy : y.view ≠ .nan) :
    ∃ o, x.compare? y = some o := by
  unfold Double.compare?
  split
  · rename_i h
    exact absurd h hx
  · rename_i h _
    exact absurd h hy
  all_goals exact ⟨_, rfl⟩

/-- A finite double is a number. -/
theorem Double.view_ne_nan {x : Double} (h : x.isFinite = true) : x.view ≠ .nan := by
  obtain ⟨negative, m, e, hview⟩ := Double.isFinite_iff.1 h
  rw [hview]
  nofun

namespace Value

/-- A value that is null or reads as a double other than NaN. -/
def NullOrNumber (v : Value) : Prop :=
  v = null ∨ ∃ x, v.toDouble? = some x ∧ x.view ≠ .nan

variable {v low high : Value}

/-- The order of such a value to a finite number is that of numbers. -/
theorem NullOrNumber.order? (hv : v.NullOrNumber) (hlow : low.IsFinite) :
    v.order? low = numericOrder? v low := by
  obtain ⟨y, hy, hyfinite⟩ := hlow
  rcases hv with rfl | ⟨x, hx, hxnan⟩
  · rfl
  · obtain ⟨o, ho⟩ := Double.exists_compare? hxnan (Double.view_ne_nan hyfinite)
    have hdouble : doubleOrder? v low = some o := by
      unfold doubleOrder?
      rw [hx, hy]
      exact ho
    rw [order?_eq, isNull_of_toDouble? hx, isNull_of_toDouble? hy, numericOrder?_eq, hdouble]
    cases decimalOrder? v low <;> rfl

/-- Such a value is in a range of finite numbers when it is neither below the one nor above the other. -/
theorem NullOrNumber.inRange (hv : v.NullOrNumber) (hlow : low.IsFinite) (hhigh : high.IsFinite) :
    v.inRange low high = (do
      if ← Comparison.greaterEqual.holds v low then Comparison.lessEqual.holds v high else return false) := by
  have hbounds : (low.toDouble?.isNone || high.toDouble?.isNone) = false := by
    obtain ⟨x, hx, -⟩ := hlow
    obtain ⟨y, hy, -⟩ := hhigh
    rw [hx, hy]
    rfl
  unfold Value.inRange Comparison.holds
  rw [hbounds, hv.order? hlow, hv.order? hhigh]
  cases (numericOrder? v low).any (· != .lt) <;> rfl

end Value

namespace Predicate

open Value

variable {classes : ClassTable} {cs o o' s a b : List Char} {left x y : Expr}

/-! ## Two numbers -/

/-- A number has one value in all contexts, and that is finite. -/
theorem exists_value_of_readNumber? (h : readNumber? a = some x) :
    ∃ w : Value, w.IsFinite ∧ ∀ ctx, x.evaluate ctx = .ok w := by
  obtain ⟨⟨i, rfl⟩ | ⟨z, hz, rfl⟩, -⟩ := readNumber?_eq_some h
  · exact ⟨.integer i, isFinite_integer i, fun ctx => by rw [Expr.evaluate]⟩
  · exact ⟨.float z, ⟨z, rfl, hz⟩, fun ctx => by rw [Expr.evaluate]⟩

/-- A number that neither starts nor ends with a dot is a bound of a range. -/
theorem Undotted.boundText (h : Undotted a) (ha : readNumber? a = some x) :
    BoundText a ∧ Text.trim a = a := by
  obtain ⟨-, n, hn⟩ := readNumber?_eq_some ha
  have htrim := Numeral.trim_of_read? hn
  refine ⟨⟨?_, ?_⟩, htrim⟩
  · rw [htrim]
    exact exists_readNumber?_iff.1 ⟨x, ha⟩
  · rw [htrim]
    exact h

/-- Two numbers with two dots between them, of which the first does not end with a dot, are a word that is
plain text, and these are its first two dots. -/
theorem written_numbers (ha : readNumber? a = some x) (hb : readNumber? b = some y)
    (hlast : a.getLast? ≠ some '.') :
    Written (a ++ (['.', '.'] ++ b)) (a ++ (['.', '.'] ++ b)) 0 ∧
      Text.SplitsAt ['.', '.'] (a ++ (['.', '.'] ++ b)) a b := by
  obtain ⟨-, n, hn⟩ := readNumber?_eq_some ha
  obtain ⟨-, m, hm⟩ := readNumber?_eq_some hb
  have hmarks : ∀ d ∈ a ++ (['.', '.'] ++ b), Numeral.IsMark d := by
    intro d hd
    rcases List.mem_append.1 hd with hd | hd
    · exact Numeral.isMark_of_read? hn d hd
    rcases List.mem_append.1 hd with hd | hd
    · have hdot : d = '.' := by simpa using hd
      rw [hdot]
      decide
    · exact Numeral.isMark_of_read? hm d hd
  have htwice : ¬ ['.', '.'] <:+: a := fun hinfix => by
    have hcount := hinfix.sublist.count_le '.'
    have hle := Numeral.count_point_le hn
    simp at hcount
    omega
  refine ⟨.word ?_, .pair htwice hlast⟩
  have hlexed := Lexed.of_marks (by simp) hmarks 0
  rwa [Nat.zero_add] at hlexed

/-- Two numbers with two dots between them are read as a range of the numbers. -/
theorem read_bare_range {op : Operator} (h : read classes cs = .ok (alone left))
    (hb : Text.allBlank cs = false) (ho : op.Spells o) (hc : op.comparison = .range)
    (hx : readNumber? a = some x) (hy : readNumber? b = some y) (ha : Undotted a) (hb' : Undotted b) :
    read classes (spaced cs o (a ++ (['.', '.'] ++ b))) = .ok (.comparison left op (.range x y)) := by
  obtain ⟨hwritten, hs⟩ := written_numbers hx hy ha.last
  obtain ⟨hlow, halow⟩ := ha.boundText hx
  obtain ⟨hhigh, hbhigh⟩ := hb'.boundText hy
  obtain ⟨x', y', hx', hy', hread⟩ := read_numbers_range h hb ho hc hwritten hs hlow hhigh
  rw [halow, hx] at hx'
  rw [hbhigh, hy] at hy'
  cases hx'
  cases hy'
  exact hread

/-! ## Ranges and orderings -/

/-- Two orderings by the two numbers, joined, are read as the two comparisons joined. -/
theorem read_bare_orderings (h : read classes cs = .ok (alone left)) (hb : Text.allBlank cs = false)
    (hx : readNumber? a = some x) (hy : readNumber? b = some y) (hs : s ∈ Connective.and.between) :
    read classes (spaced cs ">=".toList a ++ s ++ spaced cs "<=".toList b) =
      .ok (joined .and (.comparison left ⟨.greaterEqual, false⟩ (.value x))
        (.comparison left ⟨.lessEqual, false⟩ (.value y))) := by
  have single {op : Operator} {o word : List Char} {e : Expr} (ho : op.Spells o)
      (hc : op.comparison ∉ [.type, .regex, .range]) (he : readNumber? word = some e) :
      read classes (spaced cs o word) = .ok (.comparison left op (.value e)) := by
    have hread := (read_number_operand h hb ho hc he .single).1
    simpa [spaced] using hread
  have hblank (o tail : List Char) : Text.allBlank (spaced cs o tail) = false := by
    unfold Text.allBlank at hb ⊢
    rw [spaced, List.all_append, hb]
    rfl
  have hge : Operator.Spells ⟨.greaterEqual, false⟩ ">=".toList := .symbol (by simp [symbols])
  have hle : Operator.Spells ⟨.lessEqual, false⟩ "<=".toList := .symbol (by simp [symbols])
  exact read_between_eq (single hge (by decide) hx) (single hle (by decide) hy) (hblank _ _)
    (hblank _ _) hs

theorem evaluate_range {op : Operator} {v low high : Value} {ctx : Context}
    (hleft : left.evaluate ctx = .ok v) (hx : x.evaluate ctx = .ok low) (hy : y.evaluate ctx = .ok high) :
    (comparison left op (.range x y)).evaluate ctx = (v.inRange low high).map (· != op.negated) := by
  rw [evaluate, hleft, ok_bind, compareWith, hx, ok_bind, hy, ok_bind]
  cases v.inRange low high <;> rfl

/-- A range of two numbers is the two orderings by them, in a context where its left side fails, or is null or
a number. -/
theorem evaluate_range_eq {ctx : Context} (hx : readNumber? a = some x) (hy : readNumber? b = some y)
    (hleft : ∀ v, left.evaluate ctx = .ok v → v.NullOrNumber) :
    (comparison left ⟨.range, false⟩ (.range x y)).evaluate ctx =
      (joined .and (.comparison left ⟨.greaterEqual, false⟩ (.value x))
        (.comparison left ⟨.lessEqual, false⟩ (.value y))).evaluate ctx := by
  obtain ⟨low, hlow, hxvalue⟩ := exists_value_of_readNumber? hx
  obtain ⟨high, hhigh, hyvalue⟩ := exists_value_of_readNumber? hy
  rw [evaluate_joined_and ctx rfl rfl]
  cases hv : left.evaluate ctx with
  | error err =>
    rw [evaluate, evaluate, hv]
    rfl
  | ok v =>
    rw [evaluate_range hv (hxvalue ctx) (hyvalue ctx), evaluate_value hv (hxvalue ctx),
      evaluate_value hv (hyvalue ctx), (hleft v hv).inRange hlow hhigh]
    unfold Comparison.holds
    cases (v.order? low).any (· != .lt) <;> cases (v.order? high).any (· != .gt) <;> rfl

/-- Behind a text that is a value alone, a range of two numbers that neither start nor end with a dot is read,
and its negation, and the two orderings by the numbers. In a context where the value fails, or is null or a
number, the range has the outcome of the orderings, and the negation the opposite outcome. -/
theorem read_range_orderings (h : read classes cs = .ok (alone left)) (hb : Text.allBlank cs = false)
    (ho : Operator.Spells ⟨.range, false⟩ o) (ho' : Operator.Spells ⟨.range, true⟩ o')
    (hx : readNumber? a = some x) (hy : readNumber? b = some y) (ha : Undotted a) (hb' : Undotted b)
    (hs : s ∈ Connective.and.between) :
    ∃ range notRange orderings,
      read classes (spaced cs o (a ++ (['.', '.'] ++ b))) = .ok range ∧
      read classes (spaced cs o' (a ++ (['.', '.'] ++ b))) = .ok notRange ∧
      read classes (spaced cs ">=".toList a ++ s ++ spaced cs "<=".toList b) = .ok orderings ∧
      ∀ ctx, (∀ v, left.evaluate ctx = .ok v → v.NullOrNumber) →
        range.evaluate ctx = orderings.evaluate ctx ∧
          notRange.evaluate ctx = (orderings.evaluate ctx).map (!·) := by
  refine ⟨_, _, _, read_bare_range h hb ho rfl hx hy ha hb', read_bare_range h hb ho' rfl hx hy ha hb',
    read_bare_orderings h hb hx hy hs, fun ctx hleft => ⟨evaluate_range_eq hx hy hleft, ?_⟩⟩
  rw [evaluate_negated, evaluate_range_eq hx hy hleft]

/-- From minus one to a half, where the value is a text that is a numeral. -/
theorem read_range_orderings_half :
    ∃ range notRange orderings,
      read .empty "$\x7bx\x7d range -1..0.5".toList = .ok range ∧
      read .empty "$\x7bx\x7d !range -1..0.5".toList = .ok notRange ∧
      read .empty "$\x7bx\x7d >= -1 and $\x7bx\x7d <= 0.5".toList = .ok orderings ∧
      range.evaluate (.constant (.string "0.25")) = orderings.evaluate (.constant (.string "0.25")) ∧
        notRange.evaluate (.constant (.string "0.25")) =
          (orderings.evaluate (.constant (.string "0.25"))).map (!·) := by
  have hx : readNumber? "-1".toList = some (.integer (-1)) := by cbv
  have hy : readNumber? "0.5".toList = some (.float (Double.ofNumeral ⟨none, ['0'], some ['5'], none⟩)) :=
    readNumber?_float (by decide +kernel) (by decide +kernel) (by decide +kernel)
  have hvalue : (Value.string "0.25").NullOrNumber :=
    .inr ⟨Double.ofNumeral ⟨none, ['0'], some ['2', '5'], none⟩, by decide +kernel,
      Double.view_ne_nan (by decide +kernel)⟩
  have hword : Comparison.ofKeyword? (String.ofList "range".toList) = some .range := rfl
  have hlow : Undotted "-1".toList := by decide
  have hhigh : Undotted "0.5".toList := by decide
  have hand : [' ', 'a', 'n', 'd', ' '] ∈ Connective.and.between := by decide
  obtain ⟨range, notRange, orderings, hrange, hnot, hboth, hsame⟩ := read_range_orderings read_subject rfl
    (.words (.keyword hword)) (.negatedKeyword hword) hx hy hlow hhigh hand
  refine ⟨range, notRange, orderings, hrange, hnot, hboth, hsame _ fun v hv => ?_⟩
  cases (evaluate_placeholder _).symm.trans hv
  exact hvalue

end Predicate

end RouteExpr
