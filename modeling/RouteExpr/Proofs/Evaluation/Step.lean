/-
Stepping the text of a number is exact, but for a hole at each end of the 64-bit integers.

A text that is such an integer is stepped as one, and another numeral as a decimal. Decimals go on beyond
the integers of 64 bits on either side; the text of the last integer before that is refused, while the
texts around it are stepped.
-/
import RouteExpr.Evaluation.Step
import RouteExpr.Proofs.Number.Step
import RouteExpr.Proofs.Number.Written

namespace RouteExpr.Step

variable {s : Step} {text : String} {d : Decimal}

/-- The integer of 64 bits from which a step leaves their range. -/
def edge : Step → Int64
  | .increment => Int64.maxValue
  | .decrement => Int64.minValue

theorem int64?_edge {i : Int64} : int64? (i.toInt + s.delta) = none ↔ i = s.edge := by
  have hlt := i.toInt_lt
  have hle := i.le_toInt
  rw [int64?_eq_none_iff, ← Int64.toInt_inj]
  cases s
  · show i.toInt + 1 < -2 ^ 63 ∨ 2 ^ 63 - 1 < i.toInt + 1 ↔ i.toInt = 2 ^ 63 - 1
    omega
  · show i.toInt + -1 < -2 ^ 63 ∨ 2 ^ 63 - 1 < i.toInt + -1 ↔ i.toInt = -2 ^ 63
    omega

theorem value_unit_delta (s : Step) : (Decimal.unit (s = .decrement)).value = s.delta := by
  rw [Decimal.value_unit]
  cases s <;> simp [delta]

/-! ## Integers -/

theorem apply_integer (s : Step) (i : Int64) : s.apply (.integer i) =
    match int64? (i.toInt + s.delta) with
    | some j => .ok (.integer j)
    | none => s.refuse (.integer i) :=
  rfl

/-- An integer steps to the one that is more or less by one. -/
theorem apply_integer_eq_ok {i j : Int64} :
    s.apply (.integer i) = .ok (.integer j) ↔ j.toInt = i.toInt + s.delta := by
  rw [apply_integer, ← int64?_eq_some_iff]
  cases int64? (i.toInt + s.delta) <;> simp [refuse]

/-- An integer is refused where that one is none of 64 bits. -/
theorem apply_integer_eq_refuse {i : Int64} : s.apply (.integer i) = s.refuse (.integer i) ↔
    i.toInt + s.delta < Int64.minValue.toInt ∨ Int64.maxValue.toInt < i.toInt + s.delta := by
  rw [apply_integer, ← int64?_eq_none_iff]
  cases int64? (i.toInt + s.delta) <;> simp [refuse]

/-! ## Texts -/

/-- The text of the last integer on a side is refused. -/
theorem apply_edge (h : readInt64? (Text.trim text.toList) = some s.edge) :
    s.apply (.string text) = s.refuse (.string text) := by
  unfold apply
  dsimp only
  rw [h]
  dsimp only
  rw [int64?_edge.2 rfl]

/-- The text of any other integer of 64 bits is stepped to the text of the next one. -/
theorem apply_integer_text {i : Int64} (h : readInt64? (Text.trim text.toList) = some i)
    (hi : i ≠ s.edge) :
    ∃ j : Int64, s.apply (.string text) = .ok (.string (String.ofList (writeInt j.toInt))) ∧
      j.toInt = i.toInt + s.delta := by
  obtain ⟨j, hj⟩ := Option.ne_none_iff_exists'.1 (mt int64?_edge.1 hi)
  refine ⟨j, ?_, int64?_eq_some hj⟩
  unfold apply
  dsimp only
  rw [h]
  dsimp only
  rw [hj]

/-- The text of any other numeral is stepped as its decimal is. -/
theorem apply_decimal_text {e : Decimal} (hi : readInt64? (Text.trim text.toList) = none)
    (hd : Decimal.read? (Text.trim text.toList) = some d) (he : d.step? (s = .decrement) = some e) :
    s.apply (.string text) = .ok (.string (String.ofList e.text)) := by
  unfold apply
  dsimp only
  rw [hi]
  dsimp only
  rw [hd]
  dsimp only
  rw [he]

/-- A text that is not that last integer is stepped to a text of the exact sum, if a decimal is it. -/
theorem exists_apply {r : Decimal} (hd : Decimal.read? (Text.trim text.toList) = some d)
    (hr : r.value = d.value + s.delta) (hedge : readInt64? (Text.trim text.toList) ≠ some s.edge) :
    ∃ w e, s.apply (.string text) = .ok (.string w) ∧ Decimal.read? w.toList = some e ∧
      e.value = d.value + s.delta := by
  cases hi : readInt64? (Text.trim text.toList) with
  | some i =>
    have hdi : d = .ofInt64 i := by
      unfold Decimal.read? at hd
      rw [hi] at hd
      exact (Option.some.inj hd).symm
    obtain ⟨j, hj, hvalue⟩ := apply_integer_text (s := s) hi fun h => hedge (hi.trans (h ▸ rfl))
    refine ⟨_, .ofInt64 j, hj, ?_, ?_⟩
    · unfold Decimal.read?
      rw [String.toList_ofList, readInt64?_writeInt]
    · rw [hdi, Decimal.value_ofInt64, Decimal.value_ofInt64, hvalue]
      push_cast
      rfl
  | none =>
    rw [← value_unit_delta] at hr ⊢
    obtain ⟨e, he, hvalue⟩ := Decimal.exists_step? hr
    obtain ⟨e', hread, hvalue'⟩ := Decimal.read?_text e
    refine ⟨_, e', apply_decimal_text hi hd he, ?_, hvalue'.trans hvalue⟩
    rw [String.toList_ofList, hread]

/-! ## Exact steps -/

/-- An integer steps to the next one, or is refused where none of 64 bits is. A numeral whose sum is a
decimal steps to a text that is read as that sum, exactly when it is not the last integer of 64 bits on the
side that the step goes to; that one is refused. -/
theorem apply_exact_iff (s : Step) :
    (∀ i j, s.apply (.integer i) = .ok (.integer j) ↔ j.toInt = i.toInt + s.delta) ∧
    (∀ i, s.apply (.integer i) = s.refuse (.integer i) ↔
      i.toInt + s.delta < Int64.minValue.toInt ∨ Int64.maxValue.toInt < i.toInt + s.delta) ∧
    ∀ (text : String) (d r : Decimal), Decimal.read? (Text.trim text.toList) = some d →
      r.value = d.value + s.delta →
      ((∃ w e, s.apply (.string text) = .ok (.string w) ∧ Decimal.read? w.toList = some e ∧
          e.value = d.value + s.delta) ↔ readInt64? (Text.trim text.toList) ≠ some s.edge) ∧
      (readInt64? (Text.trim text.toList) = some s.edge →
        s.apply (.string text) = s.refuse (.string text)) := by
  refine ⟨fun i j => apply_integer_eq_ok, fun i => apply_integer_eq_refuse, fun text d r hd hr =>
    ⟨⟨?_, exists_apply hd hr⟩, apply_edge⟩⟩
  rintro ⟨w, e, hw, -, -⟩ hedge
  rw [apply_edge hedge] at hw
  cases hw

/-- A sum that is too long for its places gives up a zero. -/
theorem apply_exact_iff_long :
    ∃ w e, increment.apply (.string " 7922816251426433759354395033.0") = .ok (.string w) ∧
      Decimal.read? w.toList = some e ∧ e.value = 7922816251426433759354395034 := by
  let d : Decimal := ⟨false, 79228162514264337593543950330, 1, by decide, by decide⟩
  let r : Decimal := ⟨false, 7922816251426433759354395034, 0, by decide, by decide⟩
  have hd : Decimal.read? (Text.trim " 7922816251426433759354395033.0".toList) = some d := by
    decide +kernel
  have hr : r.value = d.value + (increment.delta : Int) := by
    norm_num [r, d, Decimal.value, Decimal.signed, delta]
  obtain ⟨w, e, hw, he, hvalue⟩ :=
    ((apply_exact_iff increment).2.2 _ d r hd hr).1.2 (by decide +kernel)
  refine ⟨w, e, hw, he, hvalue.trans ?_⟩
  norm_num [d, Decimal.value, Decimal.signed, delta]

/-- The text of the largest integer of 64 bits has no next one, though a decimal is one more. -/
theorem increment_maxValue_text :
    ∃ d r : Decimal, Decimal.read? (Text.trim "9223372036854775807".toList) = some d ∧
      r.value = d.value + 1 ∧
      increment.apply (.string "9223372036854775807") =
        increment.refuse (.string "9223372036854775807") := by
  refine ⟨.ofInt64 Int64.maxValue, ⟨false, 9223372036854775808, 0, by decide, by decide⟩,
    by decide +kernel, ?_, apply_edge (by decide +kernel)⟩
  rw [Decimal.value_ofInt64, show Int64.maxValue.toInt = 9223372036854775807 from rfl]
  norm_num [Decimal.value, Decimal.signed]

end RouteExpr.Step
