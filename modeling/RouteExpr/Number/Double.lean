/-
Binary floating point of 64 bits, computed exactly.

A double is its bits. `view` reads them as a signed significand times a power of two, and `ofRatio`
is the nearest double to a ratio of naturals, a tie going to the even significand. Everything else
is exact integer arithmetic between the two, so comparison and addition need no rounding but the
last one.
-/
import RouteExpr.Number.Numeral
import RouteExpr.Number.Rounding

namespace RouteExpr

/-! ## Bits and their meaning -/

/-- A binary floating point number of 64 bits. -/
structure Double where
  bits : UInt64
  deriving DecidableEq, Repr

namespace Double

/-- What the bits of a double stand for. -/
inductive View where
  | nan
  | infinite (negative : Bool)
  /-- The number `significand * 2 ^ exponent`, negated when `negative` is set. -/
  | finite (negative : Bool) (significand : Nat) (exponent : Int)
  deriving DecidableEq, Repr

/-- The meaning of a double: a sign bit, eleven bits of exponent and 52 bits of fraction. -/
def view (x : Double) : View :=
  let n := x.bits.toNat
  let negative := decide (0x8000000000000000 ≤ n)
  let exponent : Nat := n / 0x10000000000000 % 2048
  let fraction : Nat := n % 0x10000000000000
  if exponent = 2047 then if fraction = 0 then .infinite negative else .nan
  else if exponent = 0 then .finite negative fraction (-1074)
  else .finite negative (0x10000000000000 + fraction) ((exponent : Int) - 1075)

/-- The double with this sign whose other 63 bits are given. -/
def ofMagnitudeBits (negative : Bool) (n : Nat) : Double :=
  ⟨UInt64.ofNat ((if negative then 0x8000000000000000 else 0) + n)⟩

/-- The bits of infinity. -/
def infinityBits : Nat := 0x7ff0000000000000

/-- Infinity with a sign. -/
def infinity (negative : Bool) : Double :=
  ofMagnitudeBits negative infinityBits

/-- Zero with a sign. -/
def zero (negative : Bool) : Double :=
  ofMagnitudeBits negative 0

/-- Whether the double is a number: neither an infinity nor a NaN. -/
def isFinite (x : Double) : Bool :=
  match x.view with
  | .finite .. => true
  | _ => false

/-! ## Rounding -/

/-- `num / den` divided by `2 ^ exponent`, as a ratio. -/
def scaleDown (num den : Nat) (exponent : Int) : Nat × Nat :=
  if 0 ≤ exponent then (num, den * Nat.pow 2 exponent.toNat)
  else (num * Nat.pow 2 (-exponent).toNat, den)

/-- The exponent at which `num / den` has a significand of 53 bits, or the least exponent. -/
def exponentFor (num den : Nat) : Int :=
  let guess := (Nat.log2 num : Int) - (Nat.log2 den : Int) - 53
  let (n, d) := scaleDown num den guess
  max (-1074) (if n / d < 0x20000000000000 then guess else guess + 1)

/-- The double nearest to `num / den` for a positive `den`, a tie going to the even significand.
From the middle between the largest double and the next power of two on, it is infinite. -/
def ofRatio (negative : Bool) (num den : Nat) : Double :=
  if num = 0 then zero negative
  else
    let exponent := exponentFor num den
    let (n, d) := scaleDown num den exponent
    let magnitude := (exponent + 1074).toNat * 0x10000000000000 + roundHalfEven n d
    if infinityBits ≤ magnitude then infinity negative else ofMagnitudeBits negative magnitude

/-! ## From integers and numerals -/

/-- The double nearest to an integer. -/
def ofInt (i : Int) : Double :=
  ofRatio (i < 0) i.natAbs 1

/-- The double nearest to `significand * 10 ^ power`. -/
def ofScientific (negative : Bool) (significand : Nat) (power : Int) : Double :=
  if significand = 0 then zero negative
  else if 400 < power then infinity negative
  else if (Nat.log2 significand : Int) + 3 * power < -1100 then zero negative
  else if 0 ≤ power then ofRatio negative (significand * Nat.pow 10 power.toNat) 1
  else ofRatio negative significand (Nat.pow 10 (-power).toNat)

/-- The double nearest to what a numeral denotes. -/
def ofNumeral (n : Numeral) : Double :=
  ofScientific n.negative n.significand n.power

/-! ## Order -/

/-- A significand with its sign. -/
def signed (negative : Bool) (significand : Nat) : Int :=
  if negative then -(significand : Int) else significand

/-- The order of `a * 2 ^ i` and `b * 2 ^ j`. -/
def compareScaled (a : Int) (i : Int) (b : Int) (j : Int) : Ordering :=
  let least := min i j
  compare (a * Nat.pow 2 (i - least).toNat) (b * Nat.pow 2 (j - least).toNat)

/-- The order of two doubles; a NaN has none. The two zeros are equal. -/
def compare? (x y : Double) : Option Ordering :=
  match x.view, y.view with
  | .nan, _ => none
  | _, .nan => none
  | .infinite a, .infinite b => some (compare b.toNat a.toNat)
  | .infinite a, .finite .. => some (if a then .lt else .gt)
  | .finite .., .infinite b => some (if b then .gt else .lt)
  | .finite a m i, .finite b n j => some (compareScaled (signed a m) i (signed b n) j)

/-! ## Arithmetic -/

/-- The double nearest to `value * 2 ^ exponent`; an exact zero is positive. -/
def ofScaled (value : Int) (exponent : Int) : Double :=
  if 0 ≤ exponent then ofRatio (value < 0) (value.natAbs * Nat.pow 2 exponent.toNat) 1
  else ofRatio (value < 0) value.natAbs (Nat.pow 2 (-exponent).toNat)

/-- The double nearest to the sum of a double and a nonzero integer. -/
def addInt (x : Double) (i : Int) : Double :=
  match x.view with
  | .finite negative m e =>
    let least := min e 0
    ofScaled
      (signed negative m * Nat.pow 2 (e - least).toNat + i * Nat.pow 2 (-least).toNat) least
  | _ => x

/-- The double nearest to the product of the magnitudes of two finite doubles. -/
def timesMagnitude (x y : Double) : Double :=
  match x.view, y.view with
  | .finite _ m i, .finite _ n j => ofScaled (m * n) (i + j)
  | _, _ => infinity false

/-- The double nearest to the quotient of the magnitudes of two finite doubles. -/
def overMagnitude (x y : Double) : Double :=
  match x.view, y.view with
  | .finite _ m i, .finite _ n j =>
    let (num, den) := scaleDown m n (j - i)
    ofRatio false num den
  | _, _ => infinity false

/-- The double with its sign reversed. -/
def negate (x : Double) : Double :=
  ⟨x.bits ^^^ 0x8000000000000000⟩

/-! ## Integral values -/

/-- The integer that a double is, when it is one. -/
def integer? (x : Double) : Option Int :=
  match x.view with
  | .finite negative m e =>
    if 0 ≤ e then some (signed negative (m * Nat.pow 2 e.toNat))
    else
      let unit := Nat.pow 2 (-e).toNat
      if m % unit = 0 then some (signed negative (m / unit)) else none
  | _ => none

/-- The 64-bit integer nearest to an integral double, the ends of the range included. -/
def toInt64? (x : Double) : Option Int64 :=
  x.integer?.map fun i => Int64.ofInt (max Int64.minValue.toInt (min Int64.maxValue.toInt i))

end Double

end RouteExpr
