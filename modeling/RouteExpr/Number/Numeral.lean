/-
Numerals: decimal or exponent notation with an optional sign, such as `-12`, `0.5`, `.5`, `1.`,
`1.5E3`.

A numeral is a sign, then digits with at most one point among them and at least one digit, then
optionally `e` or `E` with an optional sign and at least one digit. `read?` accepts a text exactly
when it is the written form of a numeral; words such as `inf`, `NaN` or `1_000` are none.
-/

namespace RouteExpr

/-! ## Numerals and their written form -/

/-- A written sign. -/
inductive Sign where
  | plus
  | minus
  deriving DecidableEq, Repr

/-- The character of a sign. -/
def Sign.toChar : Sign → Char
  | .plus => '+'
  | .minus => '-'

/-- The power of ten of a numeral in exponent notation. -/
structure Exponent where
  /-- Whether the letter is `E` rather than `e`. -/
  upper : Bool
  sign : Option Sign
  digits : List Char
  deriving DecidableEq, Repr

/-- A numeral, with each of its parts as written. -/
structure Numeral where
  sign : Option Sign
  /-- The digits before the point. -/
  whole : List Char
  /-- The digits after the point, when a point is written. -/
  fraction : Option (List Char)
  exponent : Option Exponent
  deriving DecidableEq, Repr

namespace Numeral

/-- An optional sign as text. -/
def writeSign : Option Sign → List Char
  | none => []
  | some s => [s.toChar]

/-- The exponent as text. -/
def writeExponent (e : Exponent) : List Char :=
  (if e.upper then 'E' else 'e') :: (writeSign e.sign ++ e.digits)

/-- The text of a numeral. -/
def write (n : Numeral) : List Char :=
  writeSign n.sign ++ n.whole ++
    (match n.fraction with
      | none => []
      | some digits => '.' :: digits) ++
    (match n.exponent with
      | none => []
      | some e => writeExponent e)

/-! ## Reading -/

/-- The sign at the start of a text, and the text after it. -/
def takeSign : List Char → Option Sign × List Char
  | '+' :: cs => (some .plus, cs)
  | '-' :: cs => (some .minus, cs)
  | cs => (none, cs)

/-- The digits of an exponent: at least one, and nothing else. -/
def readExponent? (upper : Bool) (cs : List Char) : Option Exponent :=
  let (sign, digits) := takeSign cs
  if digits.isEmpty || !digits.all Char.isDigit then none else some ⟨upper, sign, digits⟩

/-- The exponent that ends a numeral; `some none` when the numeral ends without one. -/
def readTail? : List Char → Option (Option Exponent)
  | [] => some none
  | 'e' :: cs => (readExponent? false cs).map some
  | 'E' :: cs => (readExponent? true cs).map some
  | _ => none

/-- The point and the digits after it, and the text that follows them. -/
def takeFraction : List Char → Option (List Char) × List Char
  | '.' :: cs => (some (cs.takeWhile Char.isDigit), cs.dropWhile Char.isDigit)
  | cs => (none, cs)

/-- The numeral that is written as the whole of a text. -/
def read? (cs : List Char) : Option Numeral :=
  let (sign, cs) := takeSign cs
  let whole := cs.takeWhile Char.isDigit
  let (fraction, rest) := takeFraction (cs.dropWhile Char.isDigit)
  if whole.isEmpty && (fraction.getD []).isEmpty then none
  else (readTail? rest).map fun exponent => ⟨sign, whole, fraction, exponent⟩

/-! ## What a numeral denotes -/

/-- Whether the numeral is written with a minus. -/
def negative (n : Numeral) : Bool :=
  n.sign = some .minus

/-- The natural number of a run of decimal digits. -/
def digitsToNat (digits : List Char) : Nat :=
  Nat.ofDigitChars 10 digits 0

/-- The digits before and after the point, read as one number. -/
def significand (n : Numeral) : Nat :=
  digitsToNat (n.whole ++ n.fraction.getD [])

/-- The power of ten that the exponent states, 0 without one. -/
def stated (n : Numeral) : Int :=
  match n.exponent with
  | none => 0
  | some e => if e.sign = some .minus then -(digitsToNat e.digits : Int) else digitsToNat e.digits

/-- The power of ten that the significand is multiplied by. -/
def power (n : Numeral) : Int :=
  n.stated - (n.fraction.getD []).length

/-- The integer of a numeral written with neither point nor exponent. -/
def integer? (n : Numeral) : Option Int :=
  if n.fraction.isSome || n.exponent.isSome then none
  else
    let magnitude : Int := digitsToNat n.whole
    some (if n.negative then -magnitude else magnitude)

end Numeral

/-! ## Numerals in texts -/

/-- Whether a text is a numeral. -/
def isNumeral (text : List Char) : Bool :=
  (Numeral.read? text).isSome

/-- The 64-bit integer that has this value. -/
def int64? (i : Int) : Option Int64 :=
  if Int64.minValue.toInt ≤ i ∧ i ≤ Int64.maxValue.toInt then some (Int64.ofInt i) else none

/-- The 64-bit integer that a text writes: an optional sign and digits, within the range. -/
def readInt64? (text : List Char) : Option Int64 :=
  (Numeral.read? text).bind fun n => n.integer?.bind int64?

/-- The text of an integer: its decimal digits, after a minus when it is negative. -/
def writeInt (i : Int) : List Char :=
  if i < 0 then '-' :: Nat.toDigits 10 i.natAbs else Nat.toDigits 10 i.natAbs

/-- The natural number below `2 ^ 64` that a text writes: digits, after at most a plus. -/
def readIndex? (text : List Char) : Option Nat :=
  (Numeral.read? text).bind fun n =>
    match n.integer? with
    | some (.ofNat i) => if n.sign = some .minus || 0x10000000000000000 ≤ i then none else some i
    | _ => none

end RouteExpr
