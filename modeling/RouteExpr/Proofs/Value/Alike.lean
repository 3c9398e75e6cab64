/-
An integer and the text of its digits are alike: they have one text, are one number, and hold alike as
conditions. So no comparison of values tells them apart, and steps of them are alike again. Only their
kinds differ, which show in the wording of errors, and for which `is` asks.
-/
import RouteExpr.Evaluation
import RouteExpr.Proofs.Number.Integer

namespace RouteExpr

/-! ## Values that are alike -/

namespace Value

/-- An integer as a text. -/
def digits (i : Int64) : Value :=
  .string (String.ofList (writeInt i.toInt))

/-- Two values that are the same, or an integer and its digits. -/
inductive Alike : Value → Value → Prop
  | refl (v : Value) : Alike v v
  | digits (i : Int64) : Alike (.integer i) (digits i)
  | integer (i : Int64) : Alike (Value.digits i) (.integer i)

variable {a a' b b' v v' : Value}

/-- What does not tell an integer from its digits tells no two values that are alike from each other. -/
theorem Alike.congr {α : Type} {f : Value → α} (hf : ∀ i, f (.integer i) = f (.digits i))
    (h : a.Alike b) : f a = f b := by
  cases h with
  | refl => rfl
  | digits i => exact hf i
  | integer i => exact (hf i).symm

/-! ## Readings -/

theorem Alike.text (h : a.Alike b) : a.text = b.text :=
  h.congr fun i => by simp [Value.text, Value.digits, shown]

theorem Alike.isNull (h : a.Alike b) : a.isNull = b.isNull :=
  h.congr fun _ => rfl

theorem Alike.toDouble? (h : a.Alike b) : a.toDouble? = b.toDouble? := by
  refine h.congr fun i => ?_
  have hfinite : (Double.ofInt i.toInt).isFinite = true := by
    have h1 := i.toInt_lt
    have h2 := i.le_toInt
    exact Double.isFinite_ofInt (by omega)
  unfold Value.toDouble? Value.digits
  dsimp only
  rw [String.toList_ofList, trim_writeInt, read?_writeInt, Option.bind_some, ofNumeral_ofInt,
    if_pos hfinite]

theorem Alike.toDecimal? (h : a.Alike b) : a.toDecimal? = b.toDecimal? := by
  refine h.congr fun i => ?_
  unfold Value.toDecimal? Value.digits Decimal.read?
  dsimp only
  rw [String.toList_ofList, readInt64?_writeInt]

/-- The digits of an integer are neither empty nor the word `false`. -/
theorem isTruthy_digits (i : Int64) : (Value.digits i).isTruthy = true := by
  have hne : String.ofList (writeInt i.toInt) ≠ "" := by
    intro h
    have hread := read?_writeInt i.toInt
    rw [← String.toList_ofList (l := writeInt i.toInt), h] at hread
    cases hread
  have hfalse : String.ofList (writeInt i.toInt) ≠ "false" := by
    intro h
    have hread := read?_writeInt i.toInt
    rw [← String.toList_ofList (l := writeInt i.toInt), h] at hread
    cases hread
  unfold isTruthy Value.digits
  simp [hne, hfalse]

theorem Alike.isTruthy (h : a.Alike b) : a.isTruthy = b.isTruthy :=
  h.congr fun i => (isTruthy_digits i).symm

/-! ## Comparisons -/

theorem numericOrder?_congr (ha : a.Alike a') (hb : b.Alike b') :
    numericOrder? a b = numericOrder? a' b' := by
  unfold numericOrder?
  rw [ha.toDecimal?, hb.toDecimal?, ha.toDouble?, hb.toDouble?]

theorem order?_congr (ha : a.Alike a') (hb : b.Alike b') : order? a b = order? a' b' := by
  unfold order?
  rw [ha.isNull, hb.isNull, ha.text, hb.text, numericOrder?_congr ha hb]

/-- Null is equal to null alone, and other values by their numbers or texts. -/
theorem equals_eq (a b : Value) : a.equals b =
    if a.isNull || b.isNull then a.isNull && b.isNull
    else
      match numericOrder? a b with
      | some o => o == .eq
      | none => a.text == b.text := by
  cases a <;> cases b <;> rfl

theorem equals_congr (ha : a.Alike a') (hb : b.Alike b') : equals a b = equals a' b' := by
  rw [equals_eq, equals_eq, ha.isNull, hb.isNull, ha.text, hb.text, numericOrder?_congr ha hb]

theorem equalsIgnoreCase_eq (a b : Value) : a.equalsIgnoreCase b =
    if a.isNull || b.isNull then a.isNull && b.isNull
    else Text.lower a.text == Text.lower b.text := by
  cases a <;> cases b <;> rfl

theorem equalsIgnoreCase_congr (ha : a.Alike a') (hb : b.Alike b') :
    equalsIgnoreCase a b = equalsIgnoreCase a' b' := by
  rw [equalsIgnoreCase_eq, equalsIgnoreCase_eq, ha.isNull, hb.isNull, ha.text, hb.text]

theorem containsBy_congr (fold : String → String) (ha : a.Alike a') (hb : b.Alike b') :
    containsBy fold a b = containsBy fold a' b' := by
  -- the items of a list are compared with what is sought
  have hitem (item : Value) : equals item b = equals item b' := equals_congr (.refl item) hb
  have htext := ha.text
  cases ha with
  | refl => cases a <;> simp only [containsBy, hitem, hb.text]
  | digits i => simp only [containsBy, Value.digits, hb.text] at htext ⊢; rw [htext]
  | integer i => simp only [containsBy, Value.digits, hb.text] at htext ⊢; rw [htext]

theorem contains_congr (fold : String → String) (ha : a.Alike a') (hb : b.Alike b') :
    contains fold a b = contains fold a' b' := by
  unfold contains
  rw [ha.isNull, hb.isNull, containsBy_congr fold ha hb]

theorem memberOf_congr (ha : a.Alike a') (hb : b.Alike b') : memberOf a b = memberOf a' b' := by
  have htext := hb.text
  unfold memberOf
  rw [ha.isNull, ha.text]
  cases hb with
  | refl => rfl
  | digits i => simp only [Value.digits] at htext ⊢; rw [htext]
  | integer i => simp only [Value.digits] at htext ⊢; rw [htext]

theorem inRange_congr {low low' high high' : Value} (hv : v.Alike v') (hlow : low.Alike low')
    (hhigh : high.Alike high') : inRange v low high = inRange v' low' high' := by
  unfold inRange
  rw [hlow.toDouble?, hhigh.toDouble?, hlow.text, hhigh.text, numericOrder?_congr hv hlow,
    numericOrder?_congr hv hhigh]

theorem fits_congr (hv : v.Alike v') (p : Pattern) : v.fits p = v'.fits p := by
  unfold fits
  rw [hv.isNull, hv.text]

theorem inRangeText_congr (hv : v.Alike v') (range : String) :
    inRangeText v range = inRangeText v' range := by
  unfold inRangeText
  split
  · rfl
  · exact inRange_congr hv (.refl _) (.refl _)

theorem fitsText_congr (ha : a.Alike a') (hb : b.Alike b') : fitsText a b = fitsText a' b' := by
  have hfits (p : Pattern) : a.fits p = a'.fits p := fits_congr ha p
  unfold fitsText
  simp only [ha.isNull, hb.isNull, hb.text, hfits]

end Value

/-- No comparison tells values that are alike from each other, nor does its error. -/
theorem Comparison.holds_congr (c : Comparison) {a a' b b' : Value} (ha : a.Alike a')
    (hb : b.Alike b') : c.holds a b = c.holds a' b' := by
  cases c with
  | equal => rw [holds, holds, Value.equals_congr ha hb]
  | equalIgnoreCase => rw [holds, holds, Value.equalsIgnoreCase_congr ha hb]
  | greater => rw [holds, holds, Value.order?_congr ha hb]
  | greaterEqual => rw [holds, holds, Value.order?_congr ha hb]
  | less => rw [holds, holds, Value.order?_congr ha hb]
  | lessEqual => rw [holds, holds, Value.order?_congr ha hb]
  | contains => rw [holds, holds, Value.contains_congr id ha hb]
  | containsIgnoreCase => rw [holds, holds, Value.contains_congr Text.lower ha hb]
  | member => rw [holds, holds, Value.memberOf_congr ha hb]
  | regex => rw [holds, holds, Value.fitsText_congr ha hb]
  | type => rw [holds, holds, hb.text]
  | range => rw [holds, holds, hb.text, Value.inRangeText_congr ha]
  | startsWith => rw [holds, holds, Value.startsWith, Value.startsWith, ha.isNull, hb.isNull, ha.text,
      hb.text]
  | endsWith => rw [holds, holds, Value.endsWith, Value.endsWith, ha.isNull, hb.isNull, ha.text,
      hb.text]

end RouteExpr
