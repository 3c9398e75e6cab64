/-
Blanks around a numeral.

A text with blanks around a numeral still reads as its double, but no longer as a decimal. So it compares by
doubles where the numeral alone compares by decimals, and by a text with the blanks in it where the numeral
is out of the range of doubles. Main statement: which comparisons the blanks leave as they are.
-/
import RouteExpr.Proofs.Value.Number
import Mathlib.Data.List.TFAE
import Mathlib.Tactic.TFAE

namespace RouteExpr

namespace Value

/-- A numeral with blanks before and behind it. -/
def padded (front cs back : List Char) : Value :=
  plain (front ++ cs ++ back)

/-- Blanks around a numeral leave its place against a value as it is: where both are numbers, their order
as doubles is the one that they have; else the blanks do not move the text. -/
def Unmoved (v : Value) (front cs back : List Char) : Prop :=
  match numericOrder? v (plain cs) with
  | some o => doubleOrder? v (plain cs) = some o
  | none =>
    compare v.text (String.ofList (front ++ cs ++ back)) = compare v.text (String.ofList cs)

/-! ## Readings -/

section

variable {v : Value} {front cs back : List Char} (hcs : isNumeral cs = true)
  (hfront : Text.allBlank front = true) (hback : Text.allBlank back = true)
include hcs hfront hback

/-- Blanks do not change the double that a numeral reads as. -/
theorem toDouble?_padded : (padded front cs back).toDouble? = (plain cs).toDouble? := by
  obtain ⟨n, hn⟩ := Option.isSome_iff_exists.1 hcs
  exact (toDouble?_numeral hn hfront hback).trans (toDouble?_plain hn).symm

omit hcs in
/-- A text with blanks around it reads as no decimal. -/
theorem toDecimal?_padded (hne : front ++ back ≠ []) : (padded front cs back).toDecimal? = none := by
  have hblank : ∃ c ∈ front ++ cs ++ back, Text.isBlank c = true := by
    obtain ⟨c, rest, h⟩ := List.exists_cons_of_ne_nil hne
    have hc : c ∈ front ++ back := h ▸ List.mem_cons_self
    rcases List.mem_append.1 hc with hc | hc
    · exact ⟨c, by simp [hc], List.all_eq_true.1 hfront c hc⟩
    · exact ⟨c, by simp [hc], List.all_eq_true.1 hback c hc⟩
  obtain ⟨c, hc, hblank⟩ := hblank
  have hread := Numeral.read?_eq_none_of_blank hc hblank
  rw [padded, toDecimal?_plain, Decimal.read?, readInt64?, hread]
  rfl

/-- A numeral between blanks is compared by doubles. -/
theorem numericOrder?_padded (hne : front ++ back ≠ []) :
    numericOrder? v (padded front cs back) = doubleOrder? v (plain cs) := by
  have hdecimal : decimalOrder? v (padded front cs back) = none := by
    unfold decimalOrder?
    rw [toDecimal?_padded hfront hback hne]
    cases v.toDecimal? <;> rfl
  rw [numericOrder?_eq, hdecimal, Option.none_or]
  unfold doubleOrder?
  rw [toDouble?_padded hcs hfront hback]

end

/-- Values with an order as numbers have one as doubles. -/
theorem exists_doubleOrder? {a b : Value} {o : Ordering} (h : numericOrder? a b = some o) :
    ∃ o', doubleOrder? a b = some o' := by
  rw [numericOrder?_eq, Option.or_eq_some_iff] at h
  rcases h with h | ⟨-, h⟩
  · unfold decimalOrder? at h
    split at h
    · rename_i d e hd he
      obtain ⟨x, hx, hxfinite⟩ := isFinite_of_toDecimal? hd
      obtain ⟨y, hy, hyfinite⟩ := isFinite_of_toDecimal? he
      exact ⟨_, doubleOrder?_eq hx hy hxfinite hyfinite⟩
    · cases h
  · exact ⟨o, h⟩

/-! ## What blanks change -/

section

variable {v : Value} {front cs back : List Char} (hcs : isNumeral cs = true)
  (hfront : Text.allBlank front = true) (hback : Text.allBlank back = true) (hne : front ++ back ≠ [])
include hcs hfront hback hne

/-- Where blanks leave a numeral in its place, its order as a number stays. -/
theorem Unmoved.numericOrder? (h : v.Unmoved front cs back) :
    Value.numericOrder? v (padded front cs back) = Value.numericOrder? v (plain cs) := by
  rw [numericOrder?_padded hcs hfront hback hne]
  unfold Unmoved at h
  cases ho : Value.numericOrder? v (plain cs) with
  | some o => rwa [ho] at h
  | none =>
    rw [numericOrder?_eq, Option.or_eq_none_iff] at ho
    exact ho.2

/-- The order against a numeral stays exactly where the numeral stays in its place. -/
theorem order?_padded_iff (hv : v.isNull = false) :
    v.order? (padded front cs back) = v.order? (plain cs) ↔ v.Unmoved front cs back := by
  have htext (s : String) : v.order? (string s) =
      (Value.numericOrder? v (string s)).or (some (compare v.text s)) := by
    rw [order?_eq, hv]
    rfl
  have hpadded := htext (String.ofList (front ++ cs ++ back))
  have hplain := htext (String.ofList cs)
  rw [← plain, ← padded, numericOrder?_padded hcs hfront hback hne] at hpadded
  rw [← plain] at hplain
  rw [hpadded, hplain, Unmoved]
  cases ho : Value.numericOrder? v (plain cs) with
  | some o =>
    obtain ⟨o', ho'⟩ := exists_doubleOrder? ho
    rw [ho']
    rfl
  | none =>
    rw [numericOrder?_eq, Option.or_eq_none_iff] at ho
    rw [ho.2, Option.none_or, Option.none_or, Option.some.injEq]

/-- Blanks around a numeral leave its order to a value, in either direction, and with it equality and the
orderings as they are exactly where they leave it in its place: where its order as a double is the one that
it has. Then they change no range either. -/
theorem padded_tfae (hv : v.isNull = false) :
    List.TFAE [
      v.Unmoved front cs back,
      v.order? (padded front cs back) = v.order? (plain cs),
      (padded front cs back).order? v = (plain cs).order? v,
      ∀ c ∈ Comparison.ordered, c.holds v (padded front cs back) = c.holds v (plain cs),
      ∀ c ∈ Comparison.ordered, c.holds (padded front cs back) v = c.holds (plain cs) v] ∧
    (v.Unmoved front cs back → (plain cs).toDouble?.isSome = true →
      ∀ u : Value, u.toDouble?.isSome = true →
        v.inRange (padded front cs back) u = v.inRange (plain cs) u ∧
          v.inRange u (padded front cs back) = v.inRange u (plain cs)) ∧
    ∀ u : Value, v.Unmoved front cs back → u.Unmoved front cs back →
      (padded front cs back).inRange v u = (plain cs).inRange v u := by
  obtain ⟨o, ho⟩ := exists_order? hv (b := padded front cs back) rfl
  obtain ⟨o', ho'⟩ := exists_order? hv (b := plain cs) rfl
  have hswap := order?_swap v (padded front cs back)
  have hswap' := order?_swap v (plain cs)
  rw [ho] at hswap
  rw [ho'] at hswap'
  refine ⟨?_, fun h hfinite u hu => ?_, fun u hlow hhigh => ?_⟩
  · tfae_have 1 ↔ 2 := (order?_padded_iff hcs hfront hback hne hv).symm
    tfae_have 2 ↔ 3 := by
      rw [ho, ho', ← hswap, ← hswap']
      cases o <;> cases o' <;> decide
    tfae_have 4 ↔ 2 := by
      rw [Comparison.holds_eq_iff ho ho', ho, ho', Option.some.injEq]
    tfae_have 5 ↔ 3 := by
      rw [Comparison.holds_eq_iff hswap.symm hswap'.symm, ← hswap, ← hswap', Option.map_some,
        Option.map_some, Option.some.injEq]
    tfae_finish
  · have hnumeric := h.numericOrder? hcs hfront hback hne
    have hdouble := toDouble?_padded hcs hfront hback
    obtain ⟨x, hx⟩ := Option.isSome_iff_exists.1 hfinite
    obtain ⟨y, hy⟩ := Option.isSome_iff_exists.1 hu
    unfold inRange
    rw [hdouble, hx, hy, hnumeric]
    exact ⟨rfl, rfl⟩
  · have hreverse {u : Value} (h : u.Unmoved front cs back) :
        Value.numericOrder? (padded front cs back) u = Value.numericOrder? (plain cs) u := by
      rw [← numericOrder?_swap, h.numericOrder? hcs hfront hback hne, numericOrder?_swap]
    unfold inRange
    rw [hreverse hlow, hreverse hhigh]

end

/-- A numeral with a blank on either side, as far from an integer as a double as it is as a decimal. -/
theorem padded_tfae_half :
    isNumeral ['4', '.', '5'] = true ∧ Text.allBlank [' '] = true ∧ Text.allBlank ['\t'] = true ∧
      [' '] ++ ['\t'] ≠ [] ∧ (integer 5).isNull = false ∧
      (integer 5).Unmoved [' '] ['4', '.', '5'] ['\t'] ∧
      (padded [' '] ['4', '.', '5'] ['\t']).order? (integer 5) =
        (plain ['4', '.', '5']).order? (integer 5) := by
  have hcs : isNumeral ['4', '.', '5'] = true := by decide
  have hunmoved : (integer 5).Unmoved [' '] ['4', '.', '5'] ['\t'] := by
    have hnumeric : Value.numericOrder? (integer 5) (plain ['4', '.', '5']) = some .gt := by
      decide +kernel
    unfold Unmoved
    rw [hnumeric]
    decide +kernel
  have hfront : Text.allBlank [' '] = true := rfl
  have hback : Text.allBlank ['\t'] = true := rfl
  exact ⟨hcs, hfront, hback, nofun, rfl, hunmoved,
    ((padded_tfae hcs hfront hback nofun rfl).1.out 0 2).1 hunmoved⟩

/-- A blank before a numeral makes it equal to an integer that is less. -/
theorem order?_padded_moved :
    (integer 9007199254740992).order? (string " 9007199254740993") = some .eq ∧
      (integer 9007199254740992).equals (string " 9007199254740993") = true ∧
      (integer 9007199254740992).order? (string "9007199254740993") = some .lt ∧
      (integer 9007199254740992).equals (string "9007199254740993") = false := by
  decide +kernel

end Value

end RouteExpr
