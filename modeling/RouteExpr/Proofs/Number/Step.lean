/-
Stepping a decimal is exact wherever a decimal is the exact sum.

A sum that is too long for a decimal gives up its last place. If a decimal is that sum nevertheless, the
place is a zero, and nothing is lost with it.
-/
import RouteExpr.Proofs.Number.Decimal
import RouteExpr.Proofs.Number.Rational

namespace RouteExpr

/-- What divides without a rest is not rounded. -/
theorem roundHalfEven_of_dvd {num den : Nat} (hden : 0 < den) (h : den ∣ num) :
    roundHalfEven num den = num / den := by
  unfold roundHalfEven
  dsimp only
  rw [Nat.mod_eq_zero_of_dvd h, if_pos]
  simp [hden]

namespace Decimal

variable {d : Decimal} {down : Bool}

/-! ## Decimals of given parts -/

/-- An integer within the limit, over a power of ten, is a decimal. -/
theorem make?_natAbs {i : Int} {scale : Nat} (hi : i.natAbs < 0x1000000000000000000000000)
    (hscale : scale ≤ 28) :
    ∃ e, make? (i < 0) i.natAbs scale = some e ∧ e.value = i / 10 ^ scale := by
  refine ⟨⟨i < 0, i.natAbs, scale, hi, hscale⟩, dif_pos ⟨hi, hscale⟩, ?_⟩
  have hsigned : (if decide (i < 0) = true then -(i.natAbs : Int) else i.natAbs) = i := by
    split <;> rename_i hneg <;> simp only [decide_eq_true_eq] at hneg <;> omega
  unfold value signed
  rw [hsigned]

theorem value_unit (down : Bool) : (unit down).value = if down then -1 else 1 := by
  cases down <;> simp [unit, value, signed]

theorem value_of_mantissa_eq_zero (h : d.mantissa = 0) : d.value = 0 := by
  simp [value, signed, h]

/-! ## Sums that are too long -/

/-- The mantissa of the sum, with its sign, at the scale of the decimal that is stepped. -/
def sum (d : Decimal) (down : Bool) : Int :=
  if down then d.signed - (10 ^ d.scale : Nat) else d.signed + (10 ^ d.scale : Nat)

theorem natAbs_sum_le (d : Decimal) (down : Bool) : (d.sum down).natAbs ≤ d.mantissa + 10 ^ 28 := by
  have hpow : 10 ^ d.scale ≤ 10 ^ 28 := Nat.pow_le_pow_right (by decide) d.scale_le
  unfold sum signed
  generalize 10 ^ d.scale = one at hpow ⊢
  split <;> split <;> omega

theorem value_add_unit (d : Decimal) (down : Bool) :
    d.value + (unit down).value = d.sum down / 10 ^ d.scale := by
  have hpow : (10 : ℚ) ^ d.scale ≠ 0 := by positivity
  rw [value_unit]
  unfold value sum
  cases down
  · push_cast
    field_simp
  · push_cast
    field_simp
    simp [sub_eq_add_neg]

/-- A decimal that is a sum too long for its scale has a smaller one, so the last digit of the sum is a
zero. -/
theorem ten_dvd_sum {r : Decimal} (hr : r.value = d.value + (unit down).value)
    (hlong : 0x1000000000000000000000000 ≤ (d.sum down).natAbs) :
    0 < d.scale ∧ 10 ∣ (d.sum down).natAbs := by
  have hmantissa : r.signed.natAbs = r.mantissa := by
    unfold signed
    split <;> omega
  have hcross : r.mantissa * 10 ^ d.scale = (d.sum down).natAbs * 10 ^ r.scale := by
    rw [value_add_unit, value, div_eq_div_iff (by positivity) (by positivity)] at hr
    have hint : r.signed * (10 ^ d.scale : Nat) = d.sum down * (10 ^ r.scale : Nat) := by
      exact_mod_cast hr
    simpa only [Int.natAbs_mul, Int.natAbs_natCast, hmantissa] using congrArg Int.natAbs hint
  have hlt : r.scale < d.scale := by
    refine lt_of_not_ge fun hge => ?_
    have hpow : 10 ^ d.scale ≤ 10 ^ r.scale := Nat.pow_le_pow_right (by decide) hge
    have hroom := r.mantissa_lt
    have hpos : 0 < 10 ^ d.scale := by positivity
    have hbound : r.mantissa * 10 ^ d.scale < (d.sum down).natAbs * 10 ^ r.scale :=
      calc r.mantissa * 10 ^ d.scale < (d.sum down).natAbs * 10 ^ d.scale :=
            Nat.mul_lt_mul_of_pos_right (hroom.trans_le hlong) hpos
        _ ≤ (d.sum down).natAbs * 10 ^ r.scale := Nat.mul_le_mul_left _ hpow
    omega
  obtain ⟨k, hk⟩ := Nat.exists_eq_add_of_lt hlt
  have hsplit : 10 ^ d.scale = 10 ^ (k + 1) * 10 ^ r.scale := by
    rw [← pow_add, hk]
    congr 1
    omega
  rw [hsplit, ← mul_assoc] at hcross
  have hsum := Nat.eq_of_mul_eq_mul_right (by positivity : 0 < 10 ^ r.scale) hcross
  exact ⟨by omega, hsum ▸ Dvd.dvd.mul_left (dvd_pow_self 10 (Nat.succ_ne_zero k)) _⟩

/-! ## Exact steps -/

/-- Where a decimal is one more or less, the step is one of that number. -/
theorem exists_step? {r : Decimal} (hr : r.value = d.value + (unit down).value) :
    ∃ e, d.step? down = some e ∧ e.value = d.value + (unit down).value := by
  by_cases h0 : d.mantissa = 0
  · refine ⟨unit down, ?_, by rw [value_of_mantissa_eq_zero h0, zero_add]⟩
    unfold step?
    rw [if_pos h0]
  have hstep : d.step? down =
      if (d.sum down).natAbs < 0x1000000000000000000000000 then
        make? (d.sum down < 0) (d.sum down).natAbs d.scale
      else if d.scale = 0 then none
      else make? (d.sum down < 0) (roundHalfEven (d.sum down).natAbs 10) (d.scale - 1) := by
    unfold step?
    rw [if_neg h0]
    rfl
  rw [hstep, value_add_unit]
  split
  · rename_i hroom
    exact make?_natAbs hroom d.scale_le
  · rename_i hlong
    obtain ⟨hscale, q, hq⟩ := ten_dvd_sum hr (Nat.le_of_not_lt hlong)
    have hbound := natAbs_sum_le d down
    have hmantissa := d.mantissa_lt
    have hround : roundHalfEven (d.sum down).natAbs 10 = q := by
      rw [roundHalfEven_of_dvd (by decide) ⟨q, hq⟩, hq, Nat.mul_div_cancel_left _ (by decide)]
    rw [if_neg hscale.ne', hround]
    -- the sum without its zero, with its sign
    obtain ⟨i, hi⟩ : (10 : Int) ∣ d.sum down := Int.natCast_dvd.2 ⟨q, hq⟩
    have hiq : i.natAbs = q := by omega
    have hneg : (d.sum down < 0) = (i < 0) := by
      rw [hi, eq_iff_iff]
      omega
    have hroom : i.natAbs < 0x1000000000000000000000000 := by omega
    obtain ⟨e, he, hvalue⟩ := make?_natAbs hroom (le_trans (Nat.sub_le d.scale 1) d.scale_le)
    rw [hiq] at he
    simp only [hneg]
    refine ⟨e, he, ?_⟩
    rw [hvalue, hi, ← Nat.sub_add_cancel hscale, Nat.add_sub_cancel, pow_succ]
    push_cast
    field_simp

end Decimal

end RouteExpr
