/-
Which integer a value is converted to: the number that it is, but for doubles beyond 64 bits.

An integer and the numeral of one are converted to themselves, and so is a double that is an integer of 64
bits. One that is an integer beyond them is not refused but moved to the end of the range.
-/
import RouteExpr.Proofs.Number.OfDouble
import RouteExpr.Value.Type
import Mathlib.Data.List.TFAE
import Mathlib.Tactic.TFAE

namespace RouteExpr

/-! ## Doubles that are integers -/

namespace Double

variable {x : Double} {i : Int}

/-- Where the exponent is negative, a double is an integer if its significand is a multiple of the unit. -/
theorem signed_mul_zpow_eq {negative : Bool} {m : Nat} {e : Int} (he : e < 0) :
    (signed negative m : ℚ) * 2 ^ e = i ↔ signed negative m = i * (2 ^ (-e).toNat : Nat) := by
  have hpow : (2 : ℚ) ^ e = ((2 ^ (-e).toNat : Nat) : ℚ)⁻¹ := by
    push_cast
    rw [← zpow_natCast, Int.toNat_of_nonneg (by omega), zpow_neg, inv_inv]
  have hne : ((2 ^ (-e).toNat : Nat) : ℚ) ≠ 0 := by positivity
  rw [hpow, ← div_eq_mul_inv, div_eq_iff hne]
  exact_mod_cast Iff.rfl

theorem signed_mul (negative : Bool) (m k : Nat) :
    signed negative (m * k) = signed negative m * k := by
  cases negative <;> simp [signed]

/-- A double is read as the integer that it is. -/
theorem integer?_eq_some_iff : x.integer? = some i ↔ x.isFinite = true ∧ x.value = i := by
  rw [isFinite_iff]
  unfold integer? value
  cases hview : x.view with
  | nan => simp
  | infinite negative => simp
  | finite negative m e =>
    have hfinite : ∃ n k j, View.finite negative m e = .finite n k j := ⟨_, _, _, rfl⟩
    simp only [hfinite, true_and]
    split
    · rename_i he
      have hpow : (2 : ℚ) ^ e = ((2 ^ e.toNat : Nat) : ℚ) := by
        push_cast
        rw [← zpow_natCast, Int.toNat_of_nonneg he]
      have hsigned : signed negative (m * Nat.pow 2 e.toNat) = signed negative m * (2 ^ e.toNat : Nat) :=
        signed_mul negative m _
      rw [hpow, Option.some.injEq, hsigned]
      exact_mod_cast Iff.rfl
    · rename_i he
      rw [signed_mul_zpow_eq (by omega)]
      change (if m % 2 ^ (-e).toNat = 0 then some (signed negative (m / 2 ^ (-e).toNat)) else none) =
        some i ↔ _
      have hpos : 0 < 2 ^ (-e).toNat := by positivity
      generalize 2 ^ (-e).toNat = unit at hpos ⊢
      split
      · rename_i hm
        obtain ⟨q, rfl⟩ := Nat.dvd_of_mod_eq_zero hm
        rw [Nat.mul_div_cancel_left q hpos, Option.some.injEq, Nat.mul_comm, signed_mul,
          mul_left_inj' (by exact_mod_cast hpos.ne')]
      · rename_i hm
        refine ⟨nofun, fun h => absurd ?_ hm⟩
        have hmagnitude : m = i.natAbs * unit := by
          have hnatAbs : (signed negative m).natAbs = m := by
            cases negative <;> simp [signed]
          rw [← hnatAbs, h, Int.natAbs_mul, Int.natAbs_natCast]
        rw [hmagnitude, Nat.mul_mod_left]

end Double

namespace Value

variable {v : Value} {x : Double} {q : ℚ}

/-! ## The number that a value is -/

/-- The number that an integer, a finite double or the text of a numeral is, blanks around it aside. -/
inductive IsNumber : Value → ℚ → Prop
  | integer (i : Int64) : IsNumber (integer i) i.toInt
  | float {x : Double} (h : x.isFinite = true) : IsNumber (float x) x.value
  | numeral {s : String} {n : Numeral} (h : Numeral.read? (Text.trim s.toList) = some n) :
    IsNumber (string s) n.value

theorem isNumber_float : (float x).IsNumber q ↔ x.isFinite = true ∧ x.value = q := by
  constructor
  · rintro ⟨⟩
    exact ⟨by assumption, rfl⟩
  · rintro ⟨h, rfl⟩
    exact .float h

/-- A double is the number that its bits stand for. -/
theorem isNumber_of_view {negative : Bool} {m : Nat} {e : Int} (h : x.view = .finite negative m e) :
    (float x).IsNumber (Double.signed negative m * 2 ^ e) := by
  refine isNumber_float.2 ⟨Double.isFinite_iff.2 ⟨_, _, _, h⟩, ?_⟩
  unfold Double.value
  rw [h]

/-! ## Conversions -/

/-- The integer of 64 bits that is nearest. -/
def nearest (i : Int) : Int64 :=
  Int64.ofInt (max Int64.minValue.toInt (min Int64.maxValue.toInt i))

theorem toInt_nearest (i : Int) :
    (nearest i).toInt = max Int64.minValue.toInt (min Int64.maxValue.toInt i) := by
  have hbounds : Int64.minValue.toInt ≤ Int64.maxValue.toInt := by decide
  have hlimit : Int64.maxValue.toInt < 2 ^ 63 := by decide
  exact Int64.toInt_ofInt_of_le (le_max_left _ _) (by omega)

theorem toInt_nearest_eq_iff {i : Int} :
    (nearest i).toInt = i ↔ Int64.minValue.toInt ≤ i ∧ i ≤ Int64.maxValue.toInt := by
  have hbounds : Int64.minValue.toInt ≤ Int64.maxValue.toInt := by decide
  rw [toInt_nearest]
  omega

theorem nearest_toInt (i : Int64) : nearest i.toInt = i := by
  have hlt := i.toInt_lt
  have hle := i.le_toInt
  refine Int64.toInt_inj.1 (toInt_nearest_eq_iff.2 ⟨hle, Int.lt_add_one_iff.1 hlt⟩)

/-- A value that is no integer yet is converted by what it reads as. -/
theorem convert?_integer_eq {i : Int64} :
    ValueType.integer.convert? v = some (.integer i) ↔ v.toInt64? = some i := by
  cases v <;> simp [ValueType.convert?, ValueType.admits, isNull, toInt64?]

theorem convert?_integer_float (x : Double) : ValueType.integer.convert? (float x) =
    x.integer?.map fun i => .integer (nearest i) := by
  show x.toInt64?.map Value.integer = _
  unfold Double.toInt64?
  rw [Option.map_map]
  rfl

/-- A double that is an integer is converted to the nearest one of 64 bits. -/
theorem convert?_integral {i : Int} (h : (float x).IsNumber i) :
    ValueType.integer.convert? (float x) = some (.integer (nearest i)) := by
  rw [convert?_integer_float, Double.integer?_eq_some_iff.2 (isNumber_float.1 h)]
  rfl

/-- A double that is no integer is not converted. -/
theorem convert?_fractional (h : ∀ i : Int, ¬ (float x).IsNumber i) :
    ValueType.integer.convert? (float x) = none := by
  have hnone : x.integer? = none := Option.eq_none_iff_forall_ne_some.2 fun i hi =>
    h i (isNumber_float.2 (Double.integer?_eq_some_iff.1 hi))
  rw [convert?_integer_float, hnone]
  rfl

/-- Integers and texts are converted to the number that they are. -/
theorem isNumber_of_convert? {i : Int64} (hv : ∀ x, v ≠ float x)
    (h : ValueType.integer.convert? v = some (.integer i)) : v.IsNumber i.toInt := by
  rw [convert?_integer_eq] at h
  cases v with
  | integer j =>
    cases h
    exact .integer i
  | string s =>
    obtain ⟨n, hn, hinteger⟩ := readInt64?_eq_some h
    exact Numeral.value_of_integer? hinteger ▸ .numeral hn
  | float x => exact absurd rfl (hv x)
  | _ => cases h

/-- A value is converted to no other integer than the number that it is, and a double only if it is an integer
of 64 bits, exactly when it is no double that is an integer beyond them. A double that is an integer is
converted to the nearest one of 64 bits, and one that is none is not converted. -/
theorem convert?_integer_tfae (v : Value) :
    List.TFAE [
      ∀ i : Int64, ValueType.integer.convert? v = some (.integer i) → v.IsNumber i.toInt,
      ∀ x, v = float x → (∀ i : Int64, ¬ v.IsNumber i.toInt) → ValueType.integer.convert? v = none,
      ∀ x (i : Int), v = float x → v.IsNumber i →
        Int64.minValue.toInt ≤ i ∧ i ≤ Int64.maxValue.toInt] ∧
    ∀ x : Double,
      (∀ i : Int, (float x).IsNumber i →
        ValueType.integer.convert? (float x) = some (.integer (nearest i))) ∧
      ((∀ i : Int, ¬ (float x).IsNumber i) → ValueType.integer.convert? (float x) = none) := by
  refine ⟨?_, fun x => ⟨fun i hi => convert?_integral hi, convert?_fractional⟩⟩
  tfae_have 1 → 3 := by
    rintro h x i rfl hi
    -- the integer it is converted to is the number that it is, so that one is its own nearest
    obtain ⟨-, hvalue⟩ := isNumber_float.1 (h _ (convert?_integral hi))
    obtain ⟨-, hvalue'⟩ := isNumber_float.1 hi
    exact toInt_nearest_eq_iff.1 (by exact_mod_cast hvalue.symm.trans hvalue')
  tfae_have 3 → 2 := by
    rintro h x rfl hnone
    refine convert?_fractional fun i hi => hnone (nearest i) ?_
    rwa [toInt_nearest_eq_iff.2 (h x i rfl hi)]
  tfae_have 2 → 1 := by
    intro h i hi
    by_contra hne
    have hfloat : ∃ x, v = float x := by
      by_contra hv
      exact hne (isNumber_of_convert? (fun x hx => hv ⟨x, hx⟩) hi)
    obtain ⟨x, rfl⟩ := hfloat
    have hnone : ∀ j : Int64, ¬ (float x).IsNumber j.toInt := by
      intro j hj
      rw [convert?_integral hj, nearest_toInt] at hi
      cases hi
      exact hne hj
    cases (h x rfl hnone).symm.trans hi
  tfae_finish

/-- The double of minus three is converted to that integer. -/
theorem convert?_integer_tfae_three :
    ValueType.integer.convert? (float ⟨0xc008000000000000⟩) = some (.integer (-3)) := by
  have hview : (⟨0xc008000000000000⟩ : Double).view = .finite true 6755399441055744 (-51) := by
    decide +kernel
  have hnumber : (float ⟨0xc008000000000000⟩).IsNumber ((-3 : Int) : ℚ) := by
    convert isNumber_of_view hview using 1
    norm_num [Double.signed]
  exact ((convert?_integer_tfae (float ⟨0xc008000000000000⟩)).2 _).1 _ hnumber

/-- The double of `2 ^ 63` is converted to the integer below it. -/
theorem convert?_integer_beyond :
    (float ⟨0x43e0000000000000⟩).IsNumber (2 ^ 63) ∧
      ValueType.integer.convert? (float ⟨0x43e0000000000000⟩) = some (.integer Int64.maxValue) ∧
      ¬ (float ⟨0x43e0000000000000⟩).IsNumber Int64.maxValue.toInt := by
  have hview : (⟨0x43e0000000000000⟩ : Double).view = .finite false 4503599627370496 11 := by
    decide +kernel
  have hnumber : (float ⟨0x43e0000000000000⟩).IsNumber (2 ^ 63) := by
    convert isNumber_of_view hview using 1
    norm_num [Double.signed]
  refine ⟨hnumber, ?_, fun h => ?_⟩
  · have hint : (float ⟨0x43e0000000000000⟩).IsNumber ((2 ^ 63 : Int) : ℚ) := by exact_mod_cast hnumber
    rw [convert?_integral hint]
    rfl
  · have hvalue := (isNumber_float.1 hnumber).2.symm.trans (isNumber_float.1 h).2
    rw [show Int64.maxValue.toInt = 9223372036854775807 from rfl] at hvalue
    norm_num at hvalue

end Value

end RouteExpr
