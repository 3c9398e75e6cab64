/-
The decimal of a double, and of a text that may need one.

A double is `m * 2 ^ e`. Where `e` is positive it is an integer. Else it is `m * 5 ^ -e * 10 ^ e`:
its fives are multiplied into the mantissa as far as 96 bits allow; then the mantissa is rounded,
half away from zero, until it is below `2 ^ 52`, since a double holds no more, and trailing zeros
after the point are dropped. So `0.1` and its double are one decimal.
-/
import RouteExpr.Number.Decimal
import RouteExpr.Number.Double

namespace RouteExpr.Decimal

/-! ## Exchanging twos for fives -/

/-- A mantissa times a power of ten. -/
structure Scaled where
  mantissa : Nat
  power : Int
  deriving DecidableEq, Repr

/-- Multiplies by five so many times: ten times the half of an even mantissa, else five times it
while that fits. Where it does not, the lowest bit is lost. -/
def Scaled.timesFives : Nat → Scaled → Scaled
  | 0, x => x
  | n + 1, x =>
    if x.mantissa % 2 = 0 then timesFives n ⟨x.mantissa / 2, x.power + 1⟩
    else if x.mantissa * 5 < 0x1000000000000000000000000 then timesFives n ⟨x.mantissa * 5, x.power⟩
    else timesFives n ⟨x.mantissa / 2, x.power + 1⟩

/-! ## Fitting the scale -/

/-- Drops the last digit, rounding half away from zero. -/
def Scaled.shorten (x : Scaled) : Scaled :=
  ⟨x.mantissa / 10 + (if x.mantissa % 10 < 5 then 0 else 1), x.power + 1⟩

/-- Drops so many digits, rounding at each. A single digit left to drop makes zero. -/
def Scaled.raise : Nat → Scaled → Scaled
  | 0, x => x
  | n + 1, x => if x.mantissa < 10 then ⟨0, 0⟩ else raise n x.shorten

/-- Rounds off places, one at a time, until the mantissa is below `2 ^ 52`. -/
def Scaled.limit : Nat → Scaled → Scaled
  | 0, x => x
  | n + 1, x => if x.power < 0 ∧ 0x10000000000000 ≤ x.mantissa then limit n x.shorten else x

/-- Drops zeros at the end of the places. -/
def Scaled.strip : Nat → Scaled → Scaled
  | 0, x => x
  | n + 1, x =>
    if x.power < 0 ∧ x.mantissa % 10 = 0 then strip n ⟨x.mantissa / 10, x.power + 1⟩ else x

/-! ## Decimals of doubles -/

/-- The decimal of a double, to the digits that a double guarantees; none for what is no number
or out of range. A negative double gives a negative decimal, also when it is zero or rounds to
zero. -/
def ofDouble? (x : Double) : Option Decimal :=
  match x.view with
  | .finite negative m e =>
    if m = 0 then make? negative 0 0
    else if 0 < e then make? negative (m * Nat.pow 2 e.toNat) 0
    else
      let scaled := Scaled.timesFives (-e).toNat ⟨m, e⟩
      let fitted := ((scaled.raise (-28 - scaled.power).toNat).limit 28).strip 28
      make? negative fitted.mantissa (-fitted.power).toNat
  | _ => none

/-! ## Decimals of texts -/

/-- The decimal that a text writes. An integer of 64 bits is read first, then a numeral within the
limits of a decimal; what exceeds those is read as a double. -/
def read? (text : List Char) : Option Decimal :=
  match readInt64? text with
  | some i => some (ofInt64 i)
  | none =>
    (Numeral.read? text).bind fun n =>
      match ofNumeral? n with
      | some d => some d
      | none => ofDouble? (Double.ofNumeral n)

end RouteExpr.Decimal
