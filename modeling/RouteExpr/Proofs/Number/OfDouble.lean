/-
The decimals of doubles: which finite double has none.

Finite doubles are ordered as the rational numbers that they are. Exchanging twos for fives, and rounding off
places, keeps the mantissa within 96 bits and ends with at most 28 places; so only a double that is too large
as it stands has no decimal. The integers at the edge of the decimals, whose doubles are all too large, tell
every decimal from such a double.
-/
import RouteExpr.Proofs.Number.Rational

namespace RouteExpr

/-! ## Values of doubles -/

namespace Double

/-- The rational number that a finite double is. -/
def value (x : Double) : ℚ :=
  match x.view with
  | .finite negative m e => signed negative m * 2 ^ e
  | _ => 0

theorem compareScaled_eq_compare (a i b j : Int) :
    compareScaled a i b j = compare ((a : ℚ) * 2 ^ i) (b * 2 ^ j) := by
  have hscale (a i : Int) {least : Int} (h : least ≤ i) :
      (a : ℚ) * 2 ^ i = ((a * Nat.pow 2 (i - least).toNat : Int) : ℚ) * 2 ^ least := by
    have hsplit : (2 : ℚ) ^ i = 2 ^ (i - least).toNat * 2 ^ least := by
      rw [← zpow_natCast, Int.toNat_of_nonneg (by omega), ← zpow_add₀ (by norm_num), sub_add_cancel]
    show _ = ((a * ((2 ^ (i - least).toNat : Nat) : Int) : Int) : ℚ) * 2 ^ least
    rw [hsplit]
    push_cast
    ring
  have hpos : (0 : ℚ) < 2 ^ min i j := by positivity
  rw [hscale a i (min_le_left i j), hscale b j (min_le_right i j)]
  refine compare_congr_rat ?_ ?_
  · rw [mul_lt_mul_iff_left₀ hpos, Int.cast_lt]
  · rw [mul_lt_mul_iff_left₀ hpos, Int.cast_lt]

/-- Finite doubles are ordered as the numbers that they are. -/
theorem compare?_eq {x y : Double} (hx : x.isFinite = true) (hy : y.isFinite = true) :
    x.compare? y = some (compare x.value y.value) := by
  obtain ⟨a, m, i, hx⟩ := isFinite_iff.1 hx
  obtain ⟨b, n, j, hy⟩ := isFinite_iff.1 hy
  unfold compare? value
  rw [hx, hy]
  exact congrArg some (compareScaled_eq_compare _ _ _ _)

theorem value_zero (negative : Bool) : (zero negative).value = 0 := by
  have hview : (zero negative).view = .finite negative 0 (-1074) := by
    cases negative <;> decide +kernel
  unfold value
  rw [hview]
  cases negative <;> simp [signed]

/-- The double of a numeral that is an integer is the number that the double of the integer is. -/
theorem value_ofNumeral {n : Numeral} {i : Int} (h : n.integer? = some i) :
    (ofNumeral n).value = (ofInt i).value := by
  rw [ofNumeral_of_integer? h]
  split
  · rename_i h0
    rw [value_zero, h0]
    exact (value_zero false).symm
  · rfl

/-- The significand of a double has at most 53 bits. -/
theorem significand_lt {x : Double} {negative : Bool} {m : Nat} {e : Int}
    (h : x.view = .finite negative m e) : m < 2 ^ 53 := by
  unfold view at h
  dsimp only at h
  split at h
  · split at h <;> cases h
  · split at h
    · cases h
      omega
    · cases h
      omega

end Double

/-! ## Doubles without a decimal -/

namespace Decimal

/-- A mantissa of 96 bits with at most 28 places. -/
def Scaled.Fits (x : Scaled) : Prop :=
  x.mantissa < 0x1000000000000000000000000 ∧ -28 ≤ x.power

theorem Scaled.timesFives_lt {x : Scaled} (n : Nat) (h : x.mantissa < 0x1000000000000000000000000) :
    (timesFives n x).mantissa < 0x1000000000000000000000000 := by
  induction n generalizing x with
  | zero => exact h
  | succ n ih =>
    unfold timesFives
    split
    · exact ih (by dsimp only; omega)
    · split
      · rename_i hroom
        exact ih hroom
      · exact ih (by dsimp only; omega)

theorem Scaled.shorten_lt {x : Scaled} (h : x.mantissa < 0x1000000000000000000000000) :
    x.shorten.mantissa < 0x1000000000000000000000000 := by
  unfold shorten
  dsimp only
  split <;> omega

/-- Enough digits dropped leave few enough places. -/
theorem Scaled.raise_fits {x : Scaled} {n : Nat} (h : x.mantissa < 0x1000000000000000000000000)
    (hpower : -28 ≤ x.power + n) : (raise n x).Fits := by
  induction n generalizing x with
  | zero => exact ⟨h, by rw [raise]; omega⟩
  | succ n ih =>
    unfold raise
    split
    · exact ⟨by decide, by decide⟩
    · refine ih (shorten_lt h) ?_
      unfold shorten
      push_cast at hpower ⊢
      omega

theorem Scaled.Fits.limit {x : Scaled} (h : x.Fits) (n : Nat) : (Scaled.limit n x).Fits := by
  induction n generalizing x with
  | zero => exact h
  | succ n ih =>
    unfold Scaled.limit
    split
    · refine ih ⟨shorten_lt h.1, ?_⟩
      unfold shorten
      have hpower := h.2
      dsimp only
      omega
    · exact h

theorem Scaled.Fits.strip {x : Scaled} (h : x.Fits) (n : Nat) : (Scaled.strip n x).Fits := by
  induction n generalizing x with
  | zero => exact h
  | succ n ih =>
    unfold Scaled.strip
    split
    · have hmantissa := h.1
      have hpower := h.2
      exact ih ⟨by dsimp only; omega, by dsimp only; omega⟩
    · exact h

/-- A finite double without a decimal is beyond the largest one. -/
theorem le_abs_of_ofDouble?_eq_none {x : Double} (hx : x.isFinite = true) (h : ofDouble? x = none) :
    2 ^ 96 ≤ |x.value| := by
  obtain ⟨negative, m, e, hview⟩ := Double.isFinite_iff.1 hx
  have hm := Double.significand_lt hview
  unfold ofDouble? at h
  rw [hview] at h
  dsimp only at h
  split at h
  · rw [make?_eq_none] at h
    exact absurd ⟨by decide, by decide⟩ h
  · split at h
    · rename_i h0 he
      have hle : 2 ^ 96 ≤ m * 2 ^ e.toNat := by
        have hroom := make?_eq_none.1 h
        by_contra hlt
        exact hroom ⟨not_le.1 hlt, by decide⟩
      have hpow : (2 : ℚ) ^ e = 2 ^ e.toNat := by
        rw [← zpow_natCast, Int.toNat_of_nonneg he.le]
      have hsigned : |(Double.signed negative m : ℚ)| = m := by
        unfold Double.signed
        split <;> simp
      unfold Double.value
      rw [hview]
      dsimp only
      rw [abs_mul, hsigned, hpow, abs_of_pos (by positivity)]
      exact_mod_cast hle
    · have hfits := (((Scaled.raise_fits (n := (-28 - (Scaled.timesFives (-e).toNat ⟨m, e⟩).power).toNat)
        (Scaled.timesFives_lt (-e).toNat (x := ⟨m, e⟩) (by dsimp only; omega)) (by omega)).limit 28).strip 28)
      refine absurd ⟨hfits.1, ?_⟩ (make?_eq_none.1 h)
      have hpower := hfits.2
      omega

end Decimal

/-! ## The edge of the decimals -/

/-- The largest integers that are decimals, and those next to them. -/
def Decimal.edge : List Int :=
  [2 ^ 96 - 1, 2 ^ 96 - 2, -(2 ^ 96 - 1), -(2 ^ 96 - 2)]

/-- The doubles of the integers at the edge are beyond it. -/
theorem Double.view_edge : ∀ i ∈ Decimal.edge,
    (Double.ofInt i).view = .finite (decide (i < 0)) (2 ^ 52) 44 := by
  decide +kernel

theorem Double.value_edge {i : Int} (h : i ∈ Decimal.edge) :
    (Double.ofInt i).isFinite = true ∧ (Double.ofInt i).value = if i < 0 then -2 ^ 96 else 2 ^ 96 := by
  have hview := view_edge i h
  refine ⟨isFinite_iff.2 ⟨_, _, _, hview⟩, ?_⟩
  unfold value
  rw [hview]
  by_cases hneg : i < 0 <;> norm_num [signed, hneg]

/-- A decimal, and a double beyond the decimals, do not both have the places against the integers at the
edge that these integers and their doubles have. -/
theorem Decimal.exists_edge {x y : ℚ} (hx : |x| ≤ 2 ^ 96 - 1) (hy : 2 ^ 96 ≤ |y|) :
    ∃ i ∈ edge, compare (i : ℚ) x ≠ compare (Double.ofInt i).value y := by
  by_contra! hsame
  obtain ⟨hlow, hhigh⟩ := abs_le.1 hx
  rcases le_abs.1 hy with hy | hy
  · have hlast := hsame (2 ^ 96 - 1) (by simp [edge])
    have hnext := hsame (2 ^ 96 - 2) (by simp [edge])
    rw [(Double.value_edge (by simp [edge])).2, if_neg (by decide)] at hlast hnext
    push_cast at hlast hnext
    -- the decimal is not below the last integer, so it is that one and above the next
    have hnot : compare ((2 : ℚ) ^ 96) y ≠ .gt := compare_le_iff_le.2 hy
    have hle := compare_le_iff_le.1 (hlast ▸ hnot)
    have hlt := compare_lt_iff_lt.1 (hlast.trans (hnext.symm.trans (compare_lt_iff_lt.2 (by linarith))))
    linarith
  · have hlast := hsame (-(2 ^ 96 - 1)) (by simp [edge])
    have hnext := hsame (-(2 ^ 96 - 2)) (by simp [edge])
    rw [(Double.value_edge (by simp [edge])).2, if_pos (by decide)] at hlast hnext
    push_cast at hlast hnext
    have hnot : compare (-(2 : ℚ) ^ 96) y ≠ .lt := compare_ge_iff_ge.2 (by linarith)
    have hge := compare_ge_iff_ge.1 (hlast ▸ hnot)
    have hgt := compare_gt_iff_gt.1 (hlast.trans (hnext.symm.trans (compare_gt_iff_gt.2 (by linarith))))
    linarith

end RouteExpr
