/-
The rational numbers that numerals and decimals denote.

Decimals are ordered as their rational numbers are. An integer of 64 bits, and a numeral whose digits all
fit, is read as the decimal of the very number that it denotes. Whatever is read as a decimal is small
enough to have a finite double.
-/
import RouteExpr.Number.Decimal.OfDouble
import RouteExpr.Proofs.Number.Integer

namespace RouteExpr

/-- Integers are ordered as the rational numbers are that they stand for. -/
theorem compare_congr_rat {a b : Int} {x y : ℚ} (h : a < b ↔ x < y) (h' : b < a ↔ y < x) :
    compare a b = compare x y := by
  rcases lt_trichotomy x y with hxy | hxy | hxy
  · rw [compare_lt_iff_lt.2 hxy, compare_lt_iff_lt.2 (h.2 hxy)]
  · have hle : b ≤ a := not_lt.1 fun hlt => (h.1 hlt).ne hxy
    have hge : a ≤ b := not_lt.1 fun hlt => (h'.1 hlt).ne hxy.symm
    rw [compare_eq_iff_eq.2 hxy, compare_eq_iff_eq.2 (le_antisymm hge hle)]
  · rw [compare_gt_iff_gt.2 hxy, compare_gt_iff_gt.2 (h'.2 hxy)]

/-! ## Decimals -/

namespace Decimal

/-- The rational number that a decimal is. -/
def value (d : Decimal) : ℚ :=
  d.signed / 10 ^ d.scale

/-- Decimals are ordered as the numbers that they are. -/
theorem order_eq_compare (a b : Decimal) : a.order b = compare a.value b.value := by
  have hlt (a b : Decimal) :
      a.signed * Nat.pow 10 b.scale < b.signed * Nat.pow 10 a.scale ↔ a.value < b.value := by
    unfold value
    rw [div_lt_div_iff₀ (by positivity) (by positivity)]
    show a.signed * ((10 ^ b.scale : Nat) : Int) < b.signed * ((10 ^ a.scale : Nat) : Int) ↔ _
    exact_mod_cast Iff.rfl
  exact compare_congr_rat (hlt a b) (hlt b a)

/-- Decimals are below `2 ^ 96`. -/
theorem abs_value_le (d : Decimal) : |d.value| ≤ 2 ^ 96 - 1 := by
  have hmantissa : (d.mantissa : ℚ) ≤ 2 ^ 96 - 1 := by
    have hlt := d.mantissa_lt
    have hle : d.mantissa + 1 ≤ 2 ^ 96 := hlt
    have hcast : ((d.mantissa + 1 : Nat) : ℚ) ≤ ((2 ^ 96 : Nat) : ℚ) := Nat.cast_le.2 hle
    push_cast at hcast
    linarith
  have hsigned : |(d.signed : ℚ)| = d.mantissa := by
    unfold signed
    split <;> simp
  have hscale : (1 : ℚ) ≤ 10 ^ d.scale := one_le_pow₀ (by norm_num)
  unfold value
  rw [abs_div, hsigned, abs_of_pos (by positivity : (0 : ℚ) < 10 ^ d.scale)]
  calc (d.mantissa : ℚ) / 10 ^ d.scale ≤ d.mantissa := div_le_self (Nat.cast_nonneg _) hscale
    _ ≤ 2 ^ 96 - 1 := hmantissa

theorem value_ofInt64 (i : Int64) : (ofInt64 i).value = i.toInt := by
  have hsigned : (ofInt64 i).signed = i.toInt := by
    have hneg : i < 0 ↔ i.toInt < 0 := Int64.lt_iff_toInt_lt
    unfold signed ofInt64
    simp only [decide_eq_true_eq, hneg]
    split <;> omega
  unfold value
  rw [hsigned]
  simp [ofInt64]

end Decimal

/-! ## Numerals -/

namespace Numeral

variable {n : Numeral}

/-- The rational number that a numeral denotes. -/
def value (n : Numeral) : ℚ :=
  (if n.negative then -1 else 1) * n.significand * 10 ^ n.power

theorem value_of_integer? {i : Int} (h : n.integer? = some i) : n.value = i := by
  obtain ⟨hfraction, hexponent, rfl⟩ := integer?_eq_some h
  have hpower : n.power = 0 := by simp [power, stated, hfraction, hexponent]
  have hsignificand : n.significand = digitsToNat n.whole := by simp [significand, hfraction]
  unfold value
  rw [hpower, hsignificand]
  split <;> simp

/-- Digits denote less than the next power of ten. -/
theorem digitsToNat_lt {digits : List Char} (h : ∀ c ∈ digits, c.isDigit = true) :
    digitsToNat digits < 10 ^ digits.length := by
  unfold digitsToNat
  induction digits with
  | nil => decide
  | cons c cs ih =>
    have hc : c.toNat - '0'.toNat ≤ 9 := by
      have hdigit := h c List.mem_cons_self
      have hrange : 48 ≤ c.toNat ∧ c.toNat ≤ 57 := by
        simpa [Char.isDigit, UInt32.le_iff_toNat_le] using hdigit
      show c.toNat - 48 ≤ 9
      omega
    have hrest := ih fun c hc => h c (List.mem_cons_of_mem _ hc)
    rw [Nat.ofDigitChars_cons, Nat.ofDigitChars_eq_ofDigitChars_zero, List.length_cons, pow_succ]
    nlinarith

end Numeral

/-! ## Reading numerals as decimals -/

namespace Decimal

variable {n : Numeral} {d : Decimal}

/-- More digits never make a number smaller. -/
theorem le_ofDigitChars (digits : List Char) (mantissa : Nat) :
    mantissa ≤ Nat.ofDigitChars 10 digits mantissa := by
  rw [Nat.ofDigitChars_eq_ofDigitChars_zero]
  nlinarith [Nat.one_le_pow digits.length 10 (by decide)]

/-- Places that all have room are all taken. -/
theorem takePlaces_eq {digits : List Char} {mantissa scale : Nat}
    (hscale : scale + digits.length ≤ 28)
    (hroom : Nat.ofDigitChars 10 digits mantissa < 0x1000000000000000000000000) :
    takePlaces digits mantissa scale =
      some (Nat.ofDigitChars 10 digits mantissa, scale + digits.length) := by
  induction digits generalizing mantissa scale with
  | nil => rfl
  | cons c cs ih =>
    rw [Nat.ofDigitChars_cons] at hroom ⊢
    rw [List.length_cons] at hscale ⊢
    have hlonger := (le_ofDigitChars cs _).trans_lt hroom
    unfold takePlaces
    rw [if_pos ⟨by omega, hlonger⟩, ih (by omega) hroom]
    congr 2
    omega

/-- A numeral without exponent whose digits fit is read as the number that it denotes. -/
theorem ofNumeral?_exact (hexponent : n.exponent = none) (hplaces : (n.fraction.getD []).length ≤ 28)
    (hroom : n.significand < 0x1000000000000000000000000) :
    ∃ d, ofNumeral? n = some d ∧ d.value = n.value := by
  have hstated : n.stated = 0 := by simp [Numeral.stated, hexponent]
  have hdigits : Nat.ofDigitChars 10 (n.fraction.getD []) (Numeral.digitsToNat n.whole) =
      n.significand := by
    unfold Numeral.significand Numeral.digitsToNat
    rw [Nat.ofDigitChars_append]
  have hread : ofDigits? n.whole (n.fraction.getD []) =
      some (n.significand, (n.fraction.getD []).length) := by
    unfold ofDigits?
    dsimp only
    rw [if_pos ((le_ofDigitChars (n.fraction.getD []) _).trans_lt (hdigits ▸ hroom)),
      takePlaces_eq (by omega) (hdigits ▸ hroom), hdigits, Nat.zero_add]
  refine ⟨⟨n.negative && n.significand != 0, n.significand, (n.fraction.getD []).length, hroom, hplaces⟩,
    ?_, ?_⟩
  · unfold ofNumeral?
    rw [hread, hstated, Option.bind_some]
    show (scaleBy? _ _ (Int.ofNat 0)).bind _ = _
    unfold scaleBy?
    dsimp only
    rw [if_pos (Nat.zero_le _), Option.bind_some, make?, Nat.sub_zero, dif_pos ⟨hroom, hplaces⟩]
  · have hpower : n.power = -((n.fraction.getD []).length : Int) := by simp [Numeral.power, hstated]
    unfold value signed Numeral.value
    rw [hpower, zpow_neg, zpow_natCast, div_eq_mul_inv]
    congr 1
    by_cases h0 : n.significand = 0 <;> cases n.negative <;> simp [h0]

/-- The text of such a numeral is read as the number that it denotes, also where that is an integer of 64
bits. -/
theorem read?_exact {cs : List Char} (hn : Numeral.read? cs = some n) (hexponent : n.exponent = none)
    (hplaces : (n.fraction.getD []).length ≤ 28) (hroom : n.significand < 0x1000000000000000000000000) :
    ∃ d, read? cs = some d ∧ d.value = n.value := by
  unfold read?
  split
  · rename_i i hi
    obtain ⟨m, hm, hinteger⟩ := readInt64?_eq_some hi
    cases hn.symm.trans hm
    exact ⟨_, rfl, (value_ofInt64 i).trans (Numeral.value_of_integer? hinteger).symm⟩
  · obtain ⟨d, hd, hvalue⟩ := ofNumeral?_exact hexponent hplaces hroom
    refine ⟨d, ?_, hvalue⟩
    rw [hn, Option.bind_some, hd]

/-- The text of an integer below `2 ^ 96` is read as that integer. -/
theorem read?_writeInt {i : Int} (h : i.natAbs < 0x1000000000000000000000000) :
    ∃ d, read? (writeInt i) = some d ∧ d.value = i := by
  have hsignificand : (Numeral.ofInt i).significand = i.natAbs := by
    simp [Numeral.significand, Numeral.ofInt, digitsToNat_toDigits]
  obtain ⟨d, hd, hvalue⟩ := read?_exact (RouteExpr.read?_writeInt i) rfl (Nat.zero_le _)
    (hsignificand.symm ▸ h)
  exact ⟨d, hd, hvalue.trans (Numeral.value_of_integer? (Numeral.integer?_ofInt i))⟩

/-- Rounding leaves no more places than there are. -/
theorem roundBy_scale_le {mantissa scale digit m k : Nat} (h : roundBy mantissa scale digit = some (m, k)) :
    k ≤ scale := by
  unfold roundBy at h
  split at h
  · cases h; exact le_rfl
  · split at h
    · cases h; exact le_rfl
    · split at h
      · cases h
      · cases h; exact Nat.sub_le scale 1

theorem takePlaces_scale_le {digits : List Char} {mantissa scale m k : Nat}
    (h : takePlaces digits mantissa scale = some (m, k)) (hscale : scale ≤ 28) : k ≤ 28 := by
  induction digits generalizing mantissa scale with
  | nil => cases h; exact hscale
  | cons c cs ih =>
    unfold takePlaces at h
    dsimp only at h
    split at h
    · rename_i hroom
      exact ih h (by omega)
    · exact (roundBy_scale_le h).trans hscale

theorem power_le_of_scaleBy? {mantissa scale : Nat} {power : Int} {r : Nat × Nat}
    (h : scaleBy? mantissa scale power = some r) (hscale : scale ≤ 28) : power ≤ 28 := by
  unfold scaleBy? at h
  split at h
  · omega
  · rename_i n
    show (n : Int) ≤ 28
    split at h
    · omega
    · split at h
      · omega
      · cases h

/-- A numeral that is read has a whole part that fits, and states no power of ten beyond `28`. -/
theorem bounds_of_ofNumeral? (h : ofNumeral? n = some d) :
    Numeral.digitsToNat n.whole < 0x1000000000000000000000000 ∧ n.stated ≤ 28 := by
  obtain ⟨⟨m, k⟩, hdigits, h⟩ := Option.bind_eq_some_iff.1 h
  obtain ⟨r, hscaled, -⟩ := Option.bind_eq_some_iff.1 h
  unfold ofDigits? at hdigits
  dsimp only at hdigits
  split at hdigits
  · rename_i hwhole
    exact ⟨hwhole, power_le_of_scaleBy? hscaled (takePlaces_scale_le hdigits (Nat.zero_le _))⟩
  · cases hdigits

end Decimal

/-! ## Reading numerals as doubles -/

namespace Numeral

variable {n : Numeral}

/-- A numeral of at most `2 ^ 96` times a power of ten up to `28` is a finite double. -/
theorem isFinite_of_bounds (hplain : n.Plain)
    (hwhole : digitsToNat n.whole < 0x1000000000000000000000000) (hstated : n.stated ≤ 28) :
    (Double.ofNumeral n).isFinite = true := by
  have hfraction : ∀ c ∈ n.fraction.getD [], c.isDigit = true := by
    cases hf : n.fraction with
    | none => nofun
    | some digits => exact hplain.fraction digits hf
  have hpower : n.power = n.stated - (n.fraction.getD []).length := rfl
  have hsignificand : n.significand < 10 ^ (n.fraction.getD []).length * 2 ^ 96 := by
    have hlt := digitsToNat_lt hfraction
    unfold significand
    unfold digitsToNat at hlt hwhole ⊢
    rw [Nat.ofDigitChars_append, Nat.ofDigitChars_eq_ofDigitChars_zero]
    nlinarith
  generalize (n.fraction.getD []).length = places at hpower hsignificand
  unfold Double.ofNumeral Double.ofScientific
  split
  · exact Double.isFinite_zero _
  · rw [if_neg (by omega)]
    split
    · exact Double.isFinite_zero _
    · split
      · -- the power of ten makes up for the places and is at most `28` beyond them
        refine Double.isFinite_ofRatio _ (by decide) ?_
        calc n.significand * Nat.pow 10 n.power.toNat
            < 10 ^ places * 2 ^ 96 * Nat.pow 10 n.power.toNat :=
              Nat.mul_lt_mul_of_pos_right hsignificand (Nat.pow_pos (by decide))
          _ = 10 ^ (places + n.power.toNat) * 2 ^ 96 := by
              show 10 ^ places * 2 ^ 96 * 10 ^ n.power.toNat = _
              ring
          _ ≤ 10 ^ 28 * 2 ^ 96 := by gcongr <;> omega
          _ ≤ 1 * 2 ^ 200 := by norm_num
      · refine Double.isFinite_ofRatio _ (Nat.pow_pos (by decide)) ?_
        calc n.significand < 10 ^ places * 2 ^ 96 := hsignificand
          _ ≤ 10 ^ (28 + (-n.power).toNat) * 2 ^ 96 := by gcongr <;> omega
          _ = Nat.pow 10 (-n.power).toNat * (10 ^ 28 * 2 ^ 96) := by
              show _ = 10 ^ (-n.power).toNat * (10 ^ 28 * 2 ^ 96)
              ring
          _ ≤ Nat.pow 10 (-n.power).toNat * 2 ^ 200 := Nat.mul_le_mul_left _ (by norm_num)

end Numeral

/-! ## Texts that are read as decimals -/

namespace Decimal

theorem isFinite_of_ofDouble? {x : Double} {d : Decimal} (h : ofDouble? x = some d) :
    x.isFinite = true := by
  unfold ofDouble? at h
  split at h
  · rename_i hx
    exact Double.isFinite_iff.2 ⟨_, _, _, hx⟩
  · cases h

/-- What is read as a decimal is a numeral with a finite double. -/
theorem isFinite_of_read? {cs : List Char} {d : Decimal} (h : read? cs = some d) :
    ∃ n, Numeral.read? cs = some n ∧ (Double.ofNumeral n).isFinite = true := by
  unfold read? at h
  split at h
  · rename_i i hi
    obtain ⟨n, hn, hinteger⟩ := readInt64?_eq_some hi
    obtain ⟨-, hexponent, hdigits⟩ := Numeral.integer?_eq_some hinteger
    have hlt := i.toInt_lt
    have hle := i.le_toInt
    refine ⟨n, hn, Numeral.isFinite_of_bounds (Numeral.read?_eq_some hn).2 ?_ ?_⟩
    · split at hdigits <;> omega
    · simp [Numeral.stated, hexponent]
  · obtain ⟨n, hn, h⟩ := Option.bind_eq_some_iff.1 h
    refine ⟨n, hn, ?_⟩
    split at h
    · rename_i hd
      obtain ⟨hwhole, hstated⟩ := bounds_of_ofNumeral? hd
      exact Numeral.isFinite_of_bounds (Numeral.read?_eq_some hn).2 hwhole hstated
    · exact isFinite_of_ofDouble? h

end Decimal

/-- An integer of 64 bits is a numeral with a finite double. -/
theorem isFinite_of_readInt64? {cs : List Char} {i : Int64} (h : readInt64? cs = some i) :
    ∃ n, Numeral.read? cs = some n ∧ (Double.ofNumeral n).isFinite = true := by
  have hdecimal : Decimal.read? cs = some (.ofInt64 i) := by
    unfold Decimal.read?
    rw [h]
  exact Decimal.isFinite_of_read? hdecimal

end RouteExpr
