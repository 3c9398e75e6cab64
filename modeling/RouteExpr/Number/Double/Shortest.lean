/-
The shortest decimal digits that read back as a given double.

All reals nearer to a double than to any other form an interval, its ends included exactly when
the significand is even. Among the decimals in it the grid of the largest power of ten that has
one wins, and on that grid the point nearest to the double; where two are equally near, the caller
says which.
-/
import RouteExpr.Number.Double

namespace RouteExpr.Double

/-! ## Decimals -/

/-- The number `significand * 10 ^ power`. -/
structure Decimals where
  significand : Nat
  power : Int
  deriving DecidableEq, Repr

/-- Which of two equally near decimals is taken. -/
inductive Tie where
  | up
  | even
  deriving DecidableEq, Repr

/-! ## The interval of a double -/

/-- The reals that round to `m * 2 ^ e`, in quarters of `2 ^ e`. -/
structure Interval where
  low : Nat
  mid : Nat
  high : Nat
  /-- The power of two of a quarter. -/
  unit : Int
  /-- Whether the ends belong to the interval. -/
  closed : Bool
  deriving DecidableEq, Repr

/-- The interval of `m * 2 ^ e`. Below a power of two the doubles are twice as dense. -/
def intervalOf (m : Nat) (e : Int) : Interval where
  low := if m = 0x10000000000000 && -1074 < e then 4 * m - 1 else 4 * m - 2
  mid := 4 * m
  high := 4 * m + 2
  unit := e - 2
  closed := m % 2 = 0

/-! ## Grids -/

/-- Factors `a`, `b` with `x * 2 ^ unit ≤ c * 10 ^ power` just when `x * a ≤ c * b`. -/
def commonScale (unit power : Int) : Nat × Nat :=
  (Nat.pow 2 unit.toNat * Nat.pow 10 (-power).toNat,
    Nat.pow 10 power.toNat * Nat.pow 2 (-unit).toNat)

/-- Whether `c * 10 ^ power` lies in the interval. -/
def Interval.has (i : Interval) (c : Nat) (power : Int) : Bool :=
  let (a, b) := commonScale i.unit power
  if i.closed then i.low * a ≤ c * b && c * b ≤ i.high * a
  else i.low * a < c * b && c * b < i.high * a

/-- The point of the grid `10 ^ power` nearest to the double, if its interval has a point of it. -/
def Interval.nearest? (i : Interval) (tie : Tie) (power : Int) : Option Nat :=
  let (a, b) := commonScale i.unit power
  let below := i.mid * a / b
  let rest := 2 * (i.mid * a % b)
  let preferBelow := rest < b || (rest = b && tie = .even && below % 2 = 0)
  match i.has below power, i.has (below + 1) power with
  | true, true => some (if preferBelow then below else below + 1)
  | true, false => some below
  | false, true => some (below + 1)
  | false, false => none

/-- The first of the grids `power`, `power - 1`, … with a point in the interval. -/
def Interval.search (i : Interval) (tie : Tie) : Nat → Int → Decimals
  | 0, power => ⟨(i.nearest? tie power).getD 0, power⟩
  | tries + 1, power =>
    match i.nearest? tie power with
    | some c => ⟨c, power⟩
    | none => i.search tie tries (power - 1)

/-- The fewest digits that read back as `m * 2 ^ e`, for a significand `m` of a positive double.
The first grid tried is coarser than the double; seventeen digits always suffice. -/
def shortest (tie : Tie) (m : Nat) (e : Int) : Decimals :=
  let magnitude := (((Nat.log2 m : Int) + 1 + e) * 30103).fdiv 100000
  (intervalOf m e).search tie 24 (magnitude + 2)

/-! ## Layouts -/

/-- The digits of a decimal written out in full, without a point where none is needed. -/
def Decimals.positional (d : Decimals) : List Char :=
  let digits := Nat.toDigits 10 d.significand
  if 0 ≤ d.power then digits ++ List.replicate d.power.toNat '0'
  else
    let places := (-d.power).toNat
    if places < digits.length then
      digits.take (digits.length - places) ++ '.' :: digits.drop (digits.length - places)
    else '0' :: '.' :: (List.replicate (places - digits.length) '0' ++ digits)

/-- The digits of a decimal with a point after the first one and a power of ten, which shows its
sign when it is negative or `plus` is set. -/
def Decimals.scientific (plus : Bool) (d : Decimals) : List Char :=
  let digits := Nat.toDigits 10 d.significand
  let lead := digits.take 1
  let rest := digits.drop 1
  let power := d.power + rest.length
  let sign := if power < 0 then ['-'] else if plus then ['+'] else []
  lead ++ (if rest.isEmpty then [] else '.' :: rest) ++
    'e' :: (sign ++ Nat.toDigits 10 power.natAbs)

/-- The power of ten of the leading digit. -/
def Decimals.leading (d : Decimals) : Int :=
  d.power + (Nat.toDigits 10 d.significand).length - 1

/-- The digits of a decimal written out in full with at least one place. -/
def Decimals.pointed (d : Decimals) : List Char :=
  d.positional ++ if 0 ≤ d.power then ".0".toList else []

/-! ## Plain text -/

/-- The text of a double: the shortest digits, never an exponent, a point only before a nonzero
fraction, and `NaN`, `inf` and `-inf` for what is no number. Of two equally near decimals the
upper one is written. -/
def text (x : Double) : List Char :=
  match x.view with
  | .nan => "NaN".toList
  | .infinite negative => if negative then "-inf".toList else "inf".toList
  | .finite negative m e =>
    (if negative then ['-'] else []) ++
      (if m = 0 then ['0'] else (shortest .up m e).positional)

end RouteExpr.Double
