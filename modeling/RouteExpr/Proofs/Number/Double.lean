/-
Doubles: which ratios have a finite one, and how they are ordered.

A ratio below `2 ^ 200` is far from the largest double, so the double nearest to it is finite. Swapped
doubles have the reverse order, and a double is equal to itself; a NaN is in no order, not even with itself.
-/
import RouteExpr.Proofs.Number.Decimal
import RouteExpr.Number.Double
import Mathlib.Tactic

namespace RouteExpr.Double

/-! ## Finite doubles -/

/-- Bits below those of infinity are a finite number, whatever the sign. -/
theorem isFinite_ofMagnitudeBits (negative : Bool) {n : Nat} (h : n < infinityBits) :
    (ofMagnitudeBits negative n).isFinite = true := by
  have hbits : (ofMagnitudeBits negative n).bits.toNat =
      (if negative then 0x8000000000000000 else 0) + n := by
    unfold ofMagnitudeBits infinityBits at *
    rw [UInt64.toNat_ofNat']
    split <;> omega
  have hexponent : ((if negative = true then 0x8000000000000000 else 0) + n) / 0x10000000000000 % 2048 ≠
      2047 := by
    unfold infinityBits at h
    split <;> omega
  unfold isFinite view
  rw [hbits]
  dsimp only
  rw [if_neg hexponent]
  generalize (if negative = true then 0x8000000000000000 else 0) + n = m
  by_cases h0 : m / 0x10000000000000 % 2048 = 0
  · rw [if_pos h0]
  · rw [if_neg h0]

theorem isFinite_zero (negative : Bool) : (zero negative).isFinite = true :=
  isFinite_ofMagnitudeBits negative (by decide)

/-- A finite double is a significand times a power of two. -/
theorem isFinite_iff {x : Double} : x.isFinite = true ↔ ∃ negative m e, x.view = .finite negative m e := by
  unfold isFinite
  split
  · rename_i negative m e h
    exact ⟨fun _ => ⟨negative, m, e, h⟩, fun _ => rfl⟩
  · rename_i h
    exact ⟨nofun, fun ⟨negative, m, e, h'⟩ => absurd h' (h negative m e)⟩

/-- At the exponent of a ratio its significand has at most 54 bits. -/
theorem scaleDown_lt {num den : Nat} {e : Int} (hden : 0 < den)
    (he : (Nat.log2 num : Int) - Nat.log2 den - 53 ≤ e) :
    (scaleDown num den e).1 / (scaleDown num den e).2 < 2 ^ 54 := by
  have hnum : num < 2 ^ (Nat.log2 num + 1) := Nat.lt_log2_self
  have hlog : 2 ^ Nat.log2 den ≤ den := Nat.log2_self_le hden.ne'
  unfold scaleDown
  split
  · rename_i h0
    dsimp only
    have hpos : 0 < 2 ^ e.toNat := Nat.pow_pos (by decide)
    refine (Nat.div_lt_iff_lt_mul (Nat.mul_pos hden hpos)).2 ?_
    calc num < 2 ^ (Nat.log2 num + 1) := hnum
      _ ≤ 2 ^ (54 + (Nat.log2 den + e.toNat)) := Nat.pow_le_pow_right (by decide) (by omega)
      _ = 2 ^ 54 * (2 ^ Nat.log2 den * 2 ^ e.toNat) := by rw [pow_add, pow_add]
      _ ≤ 2 ^ 54 * (den * 2 ^ e.toNat) := by gcongr
  · rename_i h0
    dsimp only
    have hpos : 0 < 2 ^ (-e).toNat := Nat.pow_pos (by decide)
    refine (Nat.div_lt_iff_lt_mul hden).2 ?_
    calc num * 2 ^ (-e).toNat < 2 ^ (Nat.log2 num + 1) * 2 ^ (-e).toNat :=
          Nat.mul_lt_mul_of_pos_right hnum hpos
      _ = 2 ^ (Nat.log2 num + 1 + (-e).toNat) := (pow_add _ _ _).symm
      _ ≤ 2 ^ (54 + Nat.log2 den) := Nat.pow_le_pow_right (by decide) (by omega)
      _ = 2 ^ 54 * 2 ^ Nat.log2 den := pow_add _ _ _
      _ ≤ 2 ^ 54 * den := by gcongr

/-- The double nearest to a ratio below `2 ^ 200` is finite. -/
theorem isFinite_ofRatio (negative : Bool) {num den : Nat} (hden : 0 < den)
    (h : num < den * 2 ^ 200) : (ofRatio negative num den).isFinite = true := by
  unfold ofRatio
  split
  · exact isFinite_zero negative
  · rename_i hne
    have hlog : Nat.log2 num < Nat.log2 den + 201 := by
      refine (Nat.log2_lt hne).2 (h.trans ?_)
      calc den * 2 ^ 200 < 2 ^ (Nat.log2 den + 1) * 2 ^ 200 :=
            Nat.mul_lt_mul_of_pos_right Nat.lt_log2_self (Nat.pow_pos (by decide))
        _ = 2 ^ (Nat.log2 den + 201) := (pow_add _ _ _).symm
    have hexponent : (Nat.log2 num : Int) - Nat.log2 den - 53 ≤ exponentFor num den ∧
        exponentFor num den ≤ 149 := by
      unfold exponentFor
      dsimp only
      split <;> omega
    have hdigits := scaleDown_lt hden hexponent.1
    have hround := roundHalfEven_le (scaleDown num den (exponentFor num den)).1
      (scaleDown num den (exponentFor num den)).2
    dsimp only
    have hlt : (exponentFor num den + 1074).toNat * 0x10000000000000 +
        roundHalfEven (scaleDown num den (exponentFor num den)).1
          (scaleDown num den (exponentFor num den)).2 < infinityBits := by
      unfold infinityBits
      omega
    rw [if_neg (by omega)]
    exact isFinite_ofMagnitudeBits _ hlt

/-- The double nearest to an integer of 64 bits is finite. -/
theorem isFinite_ofInt {i : Int} (h : i.natAbs ≤ 2 ^ 63) : (ofInt i).isFinite = true :=
  isFinite_ofRatio _ (by decide) (lt_of_le_of_lt h (by decide))

/-! ## Order -/

theorem compareScaled_swap (a i b j : Int) : (compareScaled a i b j).swap = compareScaled b j a i := by
  unfold compareScaled
  rw [Int.compare_swap, min_comm]

theorem compareScaled_self (a i : Int) : compareScaled a i a i = .eq :=
  compare_eq_iff_eq.2 rfl

/-- Swapped doubles have the reverse order. -/
theorem compare?_swap (x y : Double) : (x.compare? y).map Ordering.swap = y.compare? x := by
  unfold compare?
  cases x.view with
  | nan => cases y.view <;> rfl
  | infinite a =>
    cases y.view with
    | nan => rfl
    | infinite b => exact congrArg some (Nat.compare_swap _ _)
    | finite b n j => cases a <;> rfl
  | finite a m i =>
    cases y.view with
    | nan => rfl
    | infinite b => cases b <;> rfl
    | finite b n j => exact congrArg some (compareScaled_swap _ _ _ _)

/-- A double is equal to itself, or it is a NaN. -/
theorem compare?_self {x : Double} {o : Ordering} (h : x.compare? x = some o) : o = .eq := by
  unfold compare? at h
  cases hx : x.view with
  | nan => rw [hx] at h; cases h
  | infinite a =>
    rw [hx] at h
    exact (Option.some.inj h).symm.trans Std.ReflCmp.compare_self
  | finite a m i =>
    rw [hx] at h
    exact (Option.some.inj h).symm.trans (compareScaled_self _ _)

end RouteExpr.Double
