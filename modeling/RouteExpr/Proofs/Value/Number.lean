/-
Values that are numbers: what they read as, and their order as the rational numbers that they denote.

A value that reads as a decimal also reads as a finite double, so whatever compares by decimals could be
compared by doubles too. An integer, and a text of at most 28 digits with at most a point among them, reads
as the decimal of the very number that it denotes; so comparing such values is comparing numbers.
-/
import RouteExpr.Proofs.Number.OfDouble
import RouteExpr.Proofs.Value.Order

namespace RouteExpr

/-! ## Plain decimals -/

namespace Numeral

/-- A numeral of digits alone, or of digits on both sides of a point, that has at most 28 of them. -/
structure Positional (n : Numeral) : Prop extends n.Plain where
  exponent_eq : n.exponent = none
  whole_ne : n.whole ≠ []
  fraction_ne : n.fraction ≠ some []
  length_le : (n.whole ++ n.fraction.getD []).length ≤ 28

theorem Positional.wellFormed {n : Numeral} (h : n.Positional) : n.WellFormed where
  toPlain := h.toPlain
  digits_ne := by simp [h.whole_ne]
  exponent_ne := by simp [h.exponent_eq]

/-- Such a numeral is read as the decimal of the number that it denotes. -/
theorem Positional.read? {n : Numeral} (h : n.Positional) :
    ∃ d, Decimal.read? n.write = some d ∧ d.value = n.value := by
  have hlength := h.length_le
  rw [List.length_append] at hlength
  have hdigits : ∀ c ∈ n.whole ++ n.fraction.getD [], c.isDigit = true := by
    intro c hc
    rcases List.mem_append.1 hc with hc | hc
    · exact h.whole c hc
    · cases hf : n.fraction with
      | none => rw [hf] at hc; cases hc
      | some digits => rw [hf] at hc; exact h.fraction digits hf c hc
  refine Decimal.read?_exact (read?_write h.wellFormed) h.exponent_eq (by omega) ?_
  calc n.significand < 10 ^ (n.whole ++ n.fraction.getD []).length := digitsToNat_lt hdigits
    _ ≤ 10 ^ 28 := Nat.pow_le_pow_right (by decide) h.length_le
    _ < 0x1000000000000000000000000 := by decide

end Numeral

namespace Value

variable {v : Value} {x y z : ℚ}

/-! ## Readings -/

/-- A text as a value. -/
def plain (cs : List Char) : Value :=
  string (String.ofList cs)

/-- A value that reads as a finite double. -/
def IsFinite (v : Value) : Prop :=
  ∃ x, v.toDouble? = some x ∧ x.isFinite = true

/-- A numeral between blanks reads as its double, if that is finite. -/
theorem toDouble?_numeral {cs front back : List Char} {n : Numeral} (hn : Numeral.read? cs = some n)
    (hfront : Text.allBlank front = true) (hback : Text.allBlank back = true) :
    (plain (front ++ cs ++ back)).toDouble? =
      if (Double.ofNumeral n).isFinite then some (Double.ofNumeral n) else none := by
  unfold toDouble? plain
  dsimp only
  rw [String.toList_ofList, Numeral.trim_read? hn hfront hback, hn, Option.bind_some]

theorem toDouble?_plain {cs : List Char} {n : Numeral} (hn : Numeral.read? cs = some n) :
    (plain cs).toDouble? =
      if (Double.ofNumeral n).isFinite then some (Double.ofNumeral n) else none := by
  have hblank : Text.allBlank [] = true := rfl
  have h := toDouble?_numeral hn hblank hblank
  rwa [List.nil_append, List.append_nil] at h

theorem toDecimal?_plain (cs : List Char) : (plain cs).toDecimal? = Decimal.read? cs := by
  unfold toDecimal? plain
  dsimp only
  rw [String.toList_ofList]

/-- What reads as a double is not null. -/
theorem isNull_of_toDouble? {x : Double} (h : v.toDouble? = some x) : v.isNull = false := by
  cases v <;> first | rfl | cases h

theorem isFinite_integer (i : Int64) : (integer i).IsFinite := by
  have hlt := i.toInt_lt
  have hle := i.le_toInt
  exact ⟨_, rfl, Double.isFinite_ofInt (by omega)⟩

/-- What reads as a decimal reads as a finite double. -/
theorem isFinite_of_toDecimal? {d : Decimal} (h : v.toDecimal? = some d) : v.IsFinite := by
  cases v with
  | integer i => exact isFinite_integer i
  | float x => exact ⟨x, rfl, Decimal.isFinite_of_ofDouble? h⟩
  | string s =>
    obtain ⟨n, hn, hfinite⟩ := Decimal.isFinite_of_read? h
    have hdouble := toDouble?_plain hn
    rw [plain, String.ofList_toList, if_pos hfinite] at hdouble
    exact ⟨_, hdouble, hfinite⟩
  | null | boolean b | array items | object fields => cases h

/-! ## The order of numbers -/

/-- The number that a value is as a decimal. -/
def decimalValue? (v : Value) : Option ℚ :=
  v.toDecimal?.map Decimal.value

/-- Values are ordered as decimals by the numbers that they are as decimals. -/
theorem decimalOrder?_eq (a b : Value) : decimalOrder? a b =
    a.decimalValue?.bind fun x => b.decimalValue?.map fun y => compare x y := by
  unfold decimalOrder? decimalValue?
  cases a.toDecimal? with
  | none => rfl
  | some d =>
    cases b.toDecimal? with
    | none => rfl
    | some e => exact congrArg some (d.order_eq_compare e)

theorem numericOrder?_of_decimalValue? {a b : Value} (ha : a.decimalValue? = some x)
    (hb : b.decimalValue? = some y) : numericOrder? a b = some (compare x y) := by
  rw [numericOrder?_eq, decimalOrder?_eq, ha, hb]
  rfl

theorem doubleOrder?_eq {a b : Value} {x y : Double} (ha : a.toDouble? = some x)
    (hb : b.toDouble? = some y) (hx : x.isFinite = true) (hy : y.isFinite = true) :
    doubleOrder? a b = some (compare x.value y.value) := by
  unfold doubleOrder?
  rw [ha, hb]
  exact Double.compare?_eq hx hy

/-- Finite numbers are ordered as numbers, not as texts. -/
theorem IsFinite.exists_order? {a b : Value} (ha : a.IsFinite) (hb : b.IsFinite) :
    ∃ o, a.order? b = some o ∧ numericOrder? a b = some o := by
  obtain ⟨x, hx, hxfinite⟩ := ha
  obtain ⟨y, hy, hyfinite⟩ := hb
  have hdouble := doubleOrder?_eq hx hy hxfinite hyfinite
  have hnumeric : ∃ o, numericOrder? a b = some o := by
    rw [numericOrder?_eq, hdouble]
    cases decimalOrder? a b with
    | none => exact ⟨_, rfl⟩
    | some o => exact ⟨o, rfl⟩
  obtain ⟨o, ho⟩ := hnumeric
  refine ⟨o, ?_, ho⟩
  rw [order?_eq, isNull_of_toDouble? hx, isNull_of_toDouble? hy, ho]
  rfl

/-- The rational number that a value denotes: an integer, or a text that is a plain decimal. -/
inductive Denotes : Value → ℚ → Prop
  | integer (i : Int64) : Denotes (integer i) i.toInt
  | decimal {n : Numeral} (h : n.Positional) : Denotes (string (String.ofList n.write)) n.value

theorem Denotes.decimalValue? (h : v.Denotes x) : v.decimalValue? = some x := by
  cases h with
  | integer i => exact congrArg some (Decimal.value_ofInt64 i)
  | @decimal n h =>
    obtain ⟨d, hd, hvalue⟩ := h.read?
    unfold Value.decimalValue?
    rw [← plain, toDecimal?_plain, hd, Option.map_some, hvalue]

theorem Denotes.order? {a b : Value} (ha : a.Denotes x) (hb : b.Denotes y) :
    a.order? b = some (compare x y) := by
  have hnull {v : Value} {x : ℚ} (h : v.Denotes x) : v.isNull = false := by cases h <;> rfl
  rw [order?_eq, hnull ha, hnull hb, numericOrder?_of_decimalValue? ha.decimalValue? hb.decimalValue?]
  rfl

/-- Integers and plain decimals are ordered as the numbers that they denote, whatever zeros and signs they
are written with; they are equal when they denote one number, and in a range when the number is. -/
theorem order?_denotes {a b c : Value} (ha : a.Denotes x) (hb : b.Denotes y) (hc : c.Denotes z) :
    a.order? b = some (compare x y) ∧ (a.equals b = true ↔ x = y) ∧
      c.inRange a b = .ok (decide (x ≤ z ∧ z ≤ y)) := by
  have hbound {v : Value} {x : ℚ} (h : v.Denotes x) : v.toDouble?.isNone = false := by
    obtain ⟨d, hd, -⟩ := Option.map_eq_some_iff.1 h.decimalValue?
    obtain ⟨x, hx, -⟩ := isFinite_of_toDecimal? hd
    rw [hx]
    rfl
  refine ⟨ha.order? hb, ?_, ?_⟩
  · rw [equals_eq_order?, ha.order? hb, beq_iff_eq, compare_eq_iff_eq]
  · unfold inRange
    rw [hbound ha, hbound hb, numericOrder?_of_decimalValue? hc.decimalValue? ha.decimalValue?,
      numericOrder?_of_decimalValue? hc.decimalValue? hb.decimalValue?]
    have hlow : (compare z x != .lt) = decide (x ≤ z) := by
      rw [Bool.eq_iff_iff, bne_iff_ne, decide_eq_true_iff, compare_ge_iff_ge]
    have hhigh : (compare z y != .gt) = decide (z ≤ y) := by
      rw [Bool.eq_iff_iff, bne_iff_ne, decide_eq_true_iff, compare_le_iff_le]
    simp [hlow, hhigh]

/-- The integer three between two plain decimals with signs and zeros that do not count. -/
theorem order?_denotes_signed :
    Denotes (string "-0.50") (-1 / 2) ∧ Denotes (string "+007") 7 ∧ Denotes (integer 3) 3 ∧
      (string "-0.50").order? (string "+007") = some .lt ∧
      (string "-0.50").equals (string "+007") = false ∧
      (integer 3).inRange (string "-0.50") (string "+007") = .ok true := by
  have hlow : Denotes (string "-0.50") (-1 / 2) := by
    have h : Numeral.Positional ⟨some .minus, ['0'], some ['5', '0'], none⟩ := by
      refine ⟨⟨List.all_eq_true.1 rfl, ?_, nofun⟩, rfl, by decide, by decide, by decide⟩
      rintro _ ⟨⟩
      exact List.all_eq_true.1 rfl
    have hvalue : Numeral.value ⟨some .minus, ['0'], some ['5', '0'], none⟩ = -1 / 2 := by
      have hnegative : Numeral.negative ⟨some .minus, ['0'], some ['5', '0'], none⟩ = true := rfl
      have hsignificand : Numeral.significand ⟨some .minus, ['0'], some ['5', '0'], none⟩ = 50 := rfl
      have hpower : Numeral.power ⟨some .minus, ['0'], some ['5', '0'], none⟩ = -2 := rfl
      unfold Numeral.value
      rw [hnegative, hsignificand, hpower]
      norm_num
    exact hvalue ▸ .decimal h
  have hhigh : Denotes (string "+007") 7 := by
    have h : Numeral.Positional ⟨some .plus, ['0', '0', '7'], none, none⟩ :=
      ⟨⟨List.all_eq_true.1 rfl, nofun, nofun⟩, rfl, by decide, by decide, by decide⟩
    have hvalue : Numeral.value ⟨some .plus, ['0', '0', '7'], none, none⟩ = 7 :=
      Numeral.value_of_integer? (i := 7) rfl
    exact hvalue ▸ .decimal h
  have hthree : Denotes (integer 3) 3 := .integer 3
  obtain ⟨horder, hequals, hrange⟩ := order?_denotes hlow hhigh hthree
  refine ⟨hlow, hhigh, hthree, ?_, ?_, ?_⟩
  · rw [horder, compare_lt_iff_lt.2 (by norm_num)]
  · rw [Bool.eq_false_iff, ne_eq, hequals]
    norm_num
  · rw [hrange]
    norm_num

end Value

end RouteExpr
