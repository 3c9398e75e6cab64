/-
The text of a decimal is read back as the number that it is.

The text shows every place, zeros at the end included, so its digits are those of the mantissa and its
places are those of the scale.
-/
import RouteExpr.Proofs.Number.Rational

namespace RouteExpr.Decimal

variable {d : Decimal}

/-! ## The numeral that a decimal is written as -/

/-- The digits of the mantissa, with zeros in front until there is one before the point. -/
def digits (d : Decimal) : List Char :=
  List.replicate (d.scale + 1 - (Nat.toDigits 10 d.mantissa).length) '0' ++ Nat.toDigits 10 d.mantissa

/-- The numeral that a decimal is written as. -/
def written (d : Decimal) : Numeral where
  sign := if d.negative then some .minus else none
  whole := d.digits.take (d.digits.length - d.scale)
  fraction := if d.scale = 0 then none else some (d.digits.drop (d.digits.length - d.scale))
  exponent := none

theorem length_digits (d : Decimal) : d.scale + 1 ≤ d.digits.length := by
  unfold digits
  rw [List.length_append, List.length_replicate]
  omega

theorem isDigit_digits {c : Char} (h : c ∈ d.digits) : c.isDigit = true := by
  rcases List.mem_append.1 h with hzero | hdigit
  · rw [List.eq_of_mem_replicate hzero]
    rfl
  · exact isDigit_toDigits hdigit

/-- Zeros in front do not change what digits denote. -/
theorem digitsToNat_digits (d : Decimal) : Numeral.digitsToNat d.digits = d.mantissa := by
  unfold digits Numeral.digitsToNat
  rw [Nat.ofDigitChars_append, Nat.ofDigitChars_replicate_zero, Nat.mul_zero]
  exact digitsToNat_toDigits d.mantissa

theorem write_written (d : Decimal) : d.written.write = d.text := by
  have hsign : Numeral.writeSign d.written.sign = if d.negative then ['-'] else [] := by
    unfold written
    cases d.negative <;> rfl
  unfold text writePlaces
  rw [Numeral.write_eq, hsign]
  unfold written
  dsimp only [Numeral.writeTail]
  rw [List.append_nil, List.append_assoc]
  congr 1
  by_cases h0 : d.scale = 0
  · -- without places no zero is needed in front
    have hlength : 0 < (Nat.toDigits 10 d.mantissa).length := Nat.length_toDigits_pos
    have hdigits : d.digits = Nat.toDigits 10 d.mantissa := by
      unfold digits
      rw [h0, Nat.sub_eq_zero_of_le (by omega)]
      rfl
    rw [if_pos h0, if_pos h0, h0, Nat.sub_zero, List.take_length, hdigits]
    exact List.append_nil _
  · rw [if_neg h0, if_neg h0]
    rfl

theorem wellFormed_written (d : Decimal) : d.written.WellFormed where
  whole _ hc := isDigit_digits (List.mem_of_mem_take hc)
  fraction digits hd := by
    unfold written at hd
    dsimp only at hd
    split at hd
    · cases hd
    · cases hd
      exact fun c hc => isDigit_digits (List.mem_of_mem_drop hc)
  exponent := nofun
  digits_ne := by
    have hlength := length_digits d
    have hwhole : d.written.whole ≠ [] := by
      refine List.ne_nil_of_length_pos ?_
      show 0 < (d.digits.take _).length
      rw [List.length_take]
      omega
    exact fun h => hwhole (List.append_eq_nil_iff.1 h).1
  exponent_ne := nofun

theorem fraction_written (d : Decimal) :
    d.written.fraction.getD [] = d.digits.drop (d.digits.length - d.scale) := by
  show (if d.scale = 0 then none else some _).getD [] = _
  split
  · rename_i h0
    rw [h0, Nat.sub_zero, List.drop_length]
    rfl
  · rfl

theorem length_fraction_written (d : Decimal) : (d.written.fraction.getD []).length = d.scale := by
  have hlength := length_digits d
  rw [fraction_written, List.length_drop]
  omega

theorem significand_written (d : Decimal) : d.written.significand = d.mantissa := by
  unfold Numeral.significand
  rw [fraction_written]
  show Numeral.digitsToNat (d.digits.take _ ++ _) = _
  rw [List.take_append_drop, digitsToNat_digits]

theorem value_written (d : Decimal) : d.written.value = d.value := by
  have hpower : d.written.power = -(d.scale : Int) := by
    unfold Numeral.power
    rw [length_fraction_written]
    exact Int.zero_sub _
  have hnegative : d.written.negative = d.negative := by
    unfold Numeral.negative written
    cases d.negative <;> rfl
  unfold Numeral.value value signed
  rw [hpower, significand_written, hnegative, zpow_neg, zpow_natCast, div_eq_mul_inv]
  cases d.negative <;> simp

/-! ## Reading it back -/

/-- The text of a decimal is read as a decimal of the same number. -/
theorem read?_text (d : Decimal) : ∃ e, read? d.text = some e ∧ e.value = d.value := by
  have hread := Numeral.read?_write (wellFormed_written d)
  rw [write_written] at hread
  have hplaces : (d.written.fraction.getD []).length ≤ 28 :=
    (length_fraction_written d).symm ▸ d.scale_le
  have hroom : d.written.significand < 0x1000000000000000000000000 :=
    (significand_written d).symm ▸ d.mantissa_lt
  obtain ⟨e, he, hvalue⟩ := read?_exact hread rfl hplaces hroom
  exact ⟨e, he, hvalue.trans (value_written d)⟩

/-- Places are kept, zeros at the end included. -/
example : (Decimal.mk true 250 4 (by decide) (by decide)).text = ['-', '0', '.', '0', '2', '5', '0'] := by
  decide +kernel

end RouteExpr.Decimal
