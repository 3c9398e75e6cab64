/-
Decimal numbers of 96 bits: an integer below `2 ^ 96` divided by a power of ten of at most 28.

A decimal keeps the number of places it was written with, so `2.50` and `2.5` are different
decimals of one value; they compare as equal. Stepping by one is exact wherever the sum fits.
-/
import RouteExpr.Number.Numeral
import RouteExpr.Number.Rounding

namespace RouteExpr

/-! ## Decimals -/

/-- The number `mantissa / 10 ^ scale`, negated when `negative` is set. -/
structure Decimal where
  negative : Bool
  mantissa : Nat
  scale : Nat
  mantissa_lt : mantissa < 0x1000000000000000000000000
  scale_le : scale ≤ 28
  deriving DecidableEq, Repr

namespace Decimal

/-- The decimal with these parts, when they are within its limits. -/
def make? (negative : Bool) (mantissa scale : Nat) : Option Decimal :=
  if h : mantissa < 0x1000000000000000000000000 ∧ scale ≤ 28 then
    some ⟨negative, mantissa, scale, h.1, h.2⟩
  else none

/-- A 64-bit integer as a decimal without places. -/
def ofInt64 (i : Int64) : Decimal where
  negative := i < 0
  mantissa := i.toInt.natAbs
  scale := 0
  mantissa_lt := by have := i.toInt_lt; have := i.le_toInt; omega
  scale_le := by decide

/-- One, or its negation. -/
def unit (negative : Bool) : Decimal :=
  ⟨negative, 1, 0, by decide, by decide⟩

/-! ## Order -/

/-- The mantissa with its sign. -/
def signed (d : Decimal) : Int :=
  if d.negative then -(d.mantissa : Int) else d.mantissa

/-- The order of two decimals by value. -/
def order (a b : Decimal) : Ordering :=
  compare (a.signed * Nat.pow 10 b.scale) (b.signed * Nat.pow 10 a.scale)

/-! ## Text -/

/-- The digits of `mantissa / 10 ^ scale` with exactly `scale` of them after the point. -/
def writePlaces (mantissa scale : Nat) : List Char :=
  let digits := Nat.toDigits 10 mantissa
  if scale = 0 then digits
  else
    let padded := List.replicate (scale + 1 - digits.length) '0' ++ digits
    padded.take (padded.length - scale) ++ '.' :: padded.drop (padded.length - scale)

/-- The text of a decimal, all its places written. -/
def text (d : Decimal) : List Char :=
  (if d.negative then ['-'] else []) ++ writePlaces d.mantissa d.scale

/-! ## Stepping by one -/

/-- The decimal less or more by one. A sum beyond the limit gives up its last place, rounded to
the nearest with ties to even; without a place to give up there is none. Zero steps to plain one. -/
def step? (d : Decimal) (down : Bool) : Option Decimal :=
  if d.mantissa = 0 then some (unit down)
  else
    let one : Int := Nat.pow 10 d.scale
    let sum := if down then d.signed - one else d.signed + one
    if sum.natAbs < 0x1000000000000000000000000 then make? (sum < 0) sum.natAbs d.scale
    else if d.scale = 0 then none
    else make? (sum < 0) (roundHalfEven sum.natAbs 10) (d.scale - 1)

/-! ## Reading numerals -/

/-- A mantissa and its scale, rounded by the next digit. One too large for the limit gives up its
last place. -/
def roundBy (mantissa scale digit : Nat) : Option (Nat × Nat) :=
  if digit < 5 then some (mantissa, scale)
  else if mantissa + 1 < 0x1000000000000000000000000 then some (mantissa + 1, scale)
  else if scale = 0 then none
  else some ((mantissa + 5) / 10, scale - 1)

/-- Digits after the point, taken up one by one. The first that has no room any more rounds what
is there, and the rest is left out. -/
def takePlaces : List Char → Nat → Nat → Option (Nat × Nat)
  | [], mantissa, scale => some (mantissa, scale)
  | c :: cs, mantissa, scale =>
    let digit := c.toNat - '0'.toNat
    let longer := 10 * mantissa + digit
    if scale < 28 ∧ longer < 0x1000000000000000000000000 then takePlaces cs longer (scale + 1)
    else roundBy mantissa scale digit

/-- The mantissa and scale of digits around a point; none when the whole part is too large. -/
def ofDigits? (whole fraction : List Char) : Option (Nat × Nat) :=
  let mantissa := Numeral.digitsToNat whole
  if mantissa < 0x1000000000000000000000000 then takePlaces fraction mantissa 0 else none

/-- The mantissa and scale of a number multiplied by a power of ten. A power that the scale
absorbs only moves the point; above that, up to 28, the result has no places. -/
def scaleBy? (mantissa scale : Nat) (power : Int) : Option (Nat × Nat) :=
  match power with
  | .negSucc n => some (mantissa, scale + n + 1)
  | .ofNat n =>
    if n ≤ scale then some (mantissa, scale - n)
    else if n ≤ 28 then some (mantissa * Nat.pow 10 (n - scale), 0)
    else none

/-- The decimal that a numeral denotes, rounded to the places that fit; none outside the limits.
Zero is never negative. -/
def ofNumeral? (n : Numeral) : Option Decimal :=
  (ofDigits? n.whole (n.fraction.getD [])).bind fun (mantissa, scale) =>
    (scaleBy? mantissa scale n.stated).bind fun (mantissa, scale) =>
      make? (n.negative && mantissa != 0) mantissa scale

end Decimal

end RouteExpr
