/-
Steps of decimals: which decimal has no next one.

A sum with places has one to give up when it grows too long, so only a whole number at the end of
the range can leave it.
-/
import RouteExpr.Number.Decimal

namespace RouteExpr

/-! ## Rounding -/

theorem roundHalfEven_le (num den : Nat) : roundHalfEven num den ≤ num / den + 1 := by
  unfold roundHalfEven
  dsimp only
  split <;> omega

/-! ## Limits -/

namespace Decimal

/-- A decimal that is the largest integer, or its negation when `down` is set. -/
def IsLimit (down : Bool) (d : Decimal) : Prop :=
  d.mantissa = 0xFFFFFFFFFFFFFFFFFFFFFFFF ∧ d.scale = 0 ∧ d.negative = down

theorem make?_eq_none {negative : Bool} {mantissa scale : Nat} :
    make? negative mantissa scale = none ↔
      ¬ (mantissa < 0x1000000000000000000000000 ∧ scale ≤ 28) := by
  unfold make?
  split <;> simp_all

/-- Only the largest integer has no decimal after it, and only its negation none before it. -/
theorem step?_eq_none {d : Decimal} {down : Bool} : d.step? down = none ↔ d.IsLimit down := by
  obtain ⟨negative, mantissa, scale, hm, hs⟩ := d
  have hpow : Nat.pow 10 scale ≤ 10 ^ 28 := Nat.pow_le_pow_right (by decide) hs
  have hone : scale = 0 → Nat.pow 10 scale = 1 := by rintro rfl; rfl
  unfold step? IsLimit
  dsimp only [signed]
  -- one in units of the last place: never more than the mantissa has room for
  generalize Nat.pow 10 scale = one at hpow hone ⊢
  split
  · rename_i h0
    simp [h0]
  · generalize hsum : (if down = true then (if negative = true then _ else _) - (one : Int) else _) = sum
    have hbound : sum.natAbs ≤ mantissa + one := by
      rw [← hsum]; split <;> split <;> omega
    split
    · -- the sum fits
      rename_i hlt
      rw [make?_eq_none]
      refine ⟨fun h => absurd ⟨hlt, hs⟩ h, ?_⟩
      rintro ⟨rfl, rfl, rfl⟩
      rw [hone rfl] at hsum
      cases negative <;> simp at hsum <;> omega
    · rename_i hge
      split
      · -- the sum is too long and has no place to give up
        rename_i h0
        rw [hone h0] at hsum hbound
        refine ⟨fun _ => ⟨by omega, h0, ?_⟩, fun _ => rfl⟩
        cases negative <;> cases down <;> simp at hsum ⊢ <;> omega
      · -- the sum without its last place fits, also when it is rounded up
        rename_i h0
        rw [make?_eq_none]
        have hround := roundHalfEven_le sum.natAbs 10
        refine ⟨fun h => absurd ⟨by omega, by omega⟩ h, fun h => absurd h.2.1 h0⟩

/-- An integer of 64 bits is within the limits. -/
theorem not_isLimit_ofInt64 (i : Int64) (down : Bool) : ¬ (ofInt64 i).IsLimit down := by
  rintro ⟨h, -, -⟩
  have := i.toInt_lt
  have := i.le_toInt
  simp only [ofInt64] at h
  omega

end Decimal

end RouteExpr
