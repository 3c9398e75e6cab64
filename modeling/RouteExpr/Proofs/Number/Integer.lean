/-
An integer of 64 bits and its decimal digits are one number to every reader: as an integer, as a
double and as a decimal.
-/
import RouteExpr.Proofs.Number.Double
import RouteExpr.Proofs.Number.Numeral
import RouteExpr.Value
import Mathlib.Tactic

namespace RouteExpr

/-! ## Written integers -/

/-- The numeral that an integer is written as. -/
def Numeral.ofInt (i : Int) : Numeral where
  sign := if i < 0 then some .minus else none
  whole := Nat.toDigits 10 i.natAbs
  fraction := none
  exponent := none

theorem isDigit_toDigits {n : Nat} {c : Char} (h : c ∈ Nat.toDigits 10 n) : c.isDigit = true :=
  Nat.isDigit_of_mem_toDigits (by decide) (by decide) h

/-- The text of an integer is a numeral. -/
theorem read?_writeInt (i : Int) : Numeral.read? (writeInt i) = some (Numeral.ofInt i) := by
  have htake : (Nat.toDigits 10 i.natAbs).takeWhile Char.isDigit = Nat.toDigits 10 i.natAbs :=
    List.takeWhile_eq_self_iff.2 fun c hc => isDigit_toDigits hc
  have hdrop : (Nat.toDigits 10 i.natAbs).dropWhile Char.isDigit = [] :=
    List.dropWhile_eq_nil_iff.2 fun c hc => isDigit_toDigits hc
  have hne : (Nat.toDigits 10 i.natAbs).isEmpty = false := by
    simp
  have hsign : Numeral.takeSign (writeInt i) =
      ((if i < 0 then some .minus else none), Nat.toDigits 10 i.natAbs) := by
    unfold writeInt
    split
    · rfl
    · obtain ⟨c, cs, hcs⟩ := List.exists_cons_of_ne_nil (Nat.toDigits_ne_nil (n := i.natAbs) (b := 10))
      have hc : c.isDigit = true := isDigit_toDigits (hcs ▸ List.mem_cons_self)
      rw [hcs]
      unfold Numeral.takeSign
      split
      · rename_i heq
        cases heq
        cases hc
      · rename_i heq
        cases heq
        cases hc
      · rfl
  unfold Numeral.read?
  rw [hsign]
  dsimp only
  rw [htake, hdrop]
  simp [Numeral.takeFraction, hne, Numeral.readTail?, Numeral.ofInt]

theorem digitsToNat_toDigits (n : Nat) : Numeral.digitsToNat (Nat.toDigits 10 n) = n :=
  Nat.ofDigitChars_toDigits (by decide) (by decide)

theorem int64?_toInt (i : Int64) : int64? i.toInt = some i := by
  have h1 := i.toInt_lt
  have h2 := i.le_toInt
  unfold int64?
  rw [if_pos, Int64.ofInt_toInt]
  exact ⟨h2, Int.lt_add_one_iff.1 h1⟩

theorem int64?_eq_some {j : Int} {i : Int64} (h : int64? j = some i) : i.toInt = j := by
  unfold int64? at h
  split at h
  · rename_i hrange
    cases h
    exact Int64.toInt_ofInt_of_le hrange.1 (Int.lt_add_one_of_le hrange.2)
  · cases h

theorem int64?_eq_some_iff {j : Int} {i : Int64} : int64? j = some i ↔ i.toInt = j := by
  constructor
  · exact int64?_eq_some
  · rintro rfl
    exact int64?_toInt i

/-- Only an integer outside the range has none of 64 bits. -/
theorem int64?_eq_none_iff {j : Int} :
    int64? j = none ↔ j < Int64.minValue.toInt ∨ Int64.maxValue.toInt < j := by
  unfold int64?
  split
  · rename_i hrange
    exact ⟨nofun, by omega⟩
  · rename_i hrange
    exact ⟨fun _ => by omega, fun _ => rfl⟩

/-- What is read as an integer is a numeral that denotes it. -/
theorem readInt64?_eq_some {cs : List Char} {i : Int64} (h : readInt64? cs = some i) :
    ∃ n, Numeral.read? cs = some n ∧ n.integer? = some i.toInt := by
  obtain ⟨n, hn, h⟩ := Option.bind_eq_some_iff.1 h
  obtain ⟨j, hj, h⟩ := Option.bind_eq_some_iff.1 h
  exact ⟨n, hn, (int64?_eq_some h).symm ▸ hj⟩

/-- A numeral that is an integer has neither point nor exponent, and the digits of its magnitude. -/
theorem Numeral.integer?_eq_some {n : Numeral} {i : Int} (h : n.integer? = some i) :
    n.fraction = none ∧ n.exponent = none ∧
      i = if n.negative then -(digitsToNat n.whole : Int) else digitsToNat n.whole := by
  unfold integer? at h
  split at h
  · cases h
  · rename_i hnone
    simp only [Bool.or_eq_true, Option.isSome_iff_ne_none, not_or, not_not] at hnone
    exact ⟨hnone.1, hnone.2, (Option.some.inj h).symm⟩

theorem Numeral.integer?_ofInt (i : Int) : (Numeral.ofInt i).integer? = some i := by
  unfold integer? Numeral.ofInt negative
  simp only [Option.isSome_none, Bool.or_self, Bool.false_eq_true, if_false, digitsToNat_toDigits]
  by_cases hneg : i < 0 <;> simp [hneg, -Nat.cast_natAbs] <;> omega

/-- An integer is read back from its text. -/
theorem readInt64?_writeInt (i : Int64) : readInt64? (writeInt i.toInt) = some i := by
  unfold readInt64?
  rw [read?_writeInt, Option.bind_some, Numeral.integer?_ofInt, Option.bind_some, int64?_toInt]

/-- The double of a numeral that is an integer is that of the integer, up to the sign of a zero. -/
theorem ofNumeral_of_integer? {n : Numeral} {i : Int} (h : n.integer? = some i) :
    Double.ofNumeral n = if i = 0 then Double.zero n.negative else Double.ofInt i := by
  obtain ⟨hfraction, hexponent, hi⟩ := Numeral.integer?_eq_some h
  have hpower : n.power = 0 := by simp [Numeral.power, Numeral.stated, hfraction, hexponent]
  have hsignificand : n.significand = i.natAbs := by
    have hdigits : n.significand = Numeral.digitsToNat n.whole := by
      simp [Numeral.significand, hfraction]
    rw [hdigits, hi]
    split <;> omega
  unfold Double.ofNumeral Double.ofScientific
  rw [hpower, hsignificand]
  by_cases h0 : i = 0
  · rw [if_pos (Int.natAbs_eq_zero.2 h0), if_pos h0]
  · have hne : i.natAbs ≠ 0 := Int.natAbs_ne_zero.2 h0
    have hnegative : n.negative = decide (i < 0) := by
      cases hn : n.negative <;> rw [hn] at hi <;> simp at hi <;> simp <;> omega
    rw [if_neg hne, if_neg (by decide), if_neg (by omega), if_pos (by decide), if_neg h0, Double.ofInt,
      hnegative]
    simp

/-- The double of a written integer is that of the integer. -/
theorem ofNumeral_ofInt (i : Int) : Double.ofNumeral (Numeral.ofInt i) = Double.ofInt i := by
  rw [ofNumeral_of_integer? (Numeral.integer?_ofInt i)]
  split
  · rename_i h0
    rw [h0]
    rfl
  · rfl

/-- The text of an integer has no blank to trim. -/
theorem trim_writeInt (i : Int) : Text.trim (writeInt i) = writeInt i := by
  have hblank : Text.allBlank [] = true := rfl
  simpa using Numeral.trim_read? (read?_writeInt i) hblank hblank

end RouteExpr
