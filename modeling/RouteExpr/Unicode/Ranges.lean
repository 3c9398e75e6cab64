/-
Ranges of characters with the operations on the sets that they list, and compact tables of
characters: ranges, shifts and expansions, each written as a text of hexadecimal numbers and read
once.

A text of ranges gives for each range the gap after the one before it and, past a hyphen, how far
the range goes on after its first character. A text of shifts gives the first character, past `*`
how many there are, past `/` the distance between them, and past a sign what is added to each.
-/
import RouteExpr.Text.Find

namespace RouteExpr.Unicode

/-! ## Hexadecimal numbers -/

/-- The value of a lower case hexadecimal digit. -/
def hexValue (c : Char) : Nat :=
  if c.isDigit then c.toNat - '0'.toNat else c.toNat - 'a'.toNat + 10

/-- The number that hexadecimal digits write. -/
def hexNumber (digits : List Char) : Nat :=
  digits.foldl (fun n c => 16 * n + hexValue c) 0

/-- The words of a text between single spaces. -/
def words (text : String) : List (List Char) :=
  (Text.splitOn ' ' text.toList).filter fun word => !word.isEmpty

/-- The number before a mark and the one after it, which is `missing` without the mark. -/
def splitNumbers (mark : Char) (missing : Nat) (word : List Char) : Nat × Nat :=
  let digits := word.takeWhile (· != mark)
  match word.dropWhile (· != mark) with
  | [] => (hexNumber digits, missing)
  | _ :: rest => (hexNumber digits, hexNumber rest)

/-! ## Ranges -/

/-- Ranges of numbers, both ends included, in ascending order. -/
abbrev Ranges := List (Nat × Nat)

/-- The ranges that words describe, of which the first counts its gap from `next`. -/
def Ranges.decodeFrom (next : Nat) : List (List Char) → Ranges
  | [] => []
  | word :: rest =>
    let (gap, more) := splitNumbers '-' 0 word
    (next + gap, next + gap + more) :: decodeFrom (next + gap + more + 1) rest

/-- The ranges that a text describes. -/
def Ranges.decode (text : String) : Ranges :=
  Ranges.decodeFrom 0 (words text)

/-- Whether a number is in one of the ranges. -/
def Ranges.has : Ranges → Nat → Bool
  | [], _ => false
  | (low, high) :: rest, n => low ≤ n && (n ≤ high || has rest n)

/-! ## Sets of characters as ranges -/

/-- A range and those after it in ascending order, with those that touch each other made one. -/
def Ranges.joinedFrom (low high : Nat) : Ranges → Ranges
  | [] => [(low, high)]
  | (a, b) :: rest =>
    if a ≤ high + 1 then joinedFrom low (max high b) rest else (low, high) :: joinedFrom a b rest

/-- Ranges in ascending order, with those that touch each other made one. -/
def Ranges.joined : Ranges → Ranges
  | [] => []
  | (a, b) :: rest => joinedFrom a b rest

/-- Two ascending lists of ranges as one. The first argument bounds the number of steps. -/
def Ranges.merge : Nat → Ranges → Ranges → Ranges
  | n + 1, x :: r, y :: s =>
    if x.1 ≤ y.1 then x :: merge n r (y :: s) else y :: merge n (x :: r) s
  | _, r, s => r ++ s

/-- The numbers in either of two ascending lists of ranges. -/
def Ranges.union (r s : Ranges) : Ranges :=
  joined (merge (r.length + s.length) r s)

/-- The numbers in any of the ranges, in ascending order. The first argument bounds the number of
steps. -/
def Ranges.sortedUpTo : Nat → Ranges → Ranges
  | 0, r => r
  | n + 1, r =>
    if r.length ≤ 1 then r
    else
      let half := r.length / 2
      (sortedUpTo n (r.take half)).union (sortedUpTo n (r.drop half))

/-- The numbers in any of the ranges, in ascending order. -/
def Ranges.sorted (r : Ranges) : Ranges :=
  sortedUpTo r.length r

/-- Ranges without the numbers of surrogates, which are no characters. -/
def Ranges.ofChars (r : Ranges) : Ranges :=
  r.flatMap fun (a, b) =>
    if b < 0xD800 ∨ 0xDFFF < a then [(a, b)]
    else (if a < 0xD800 then [(a, 0xD7FF)] else []) ++ if 0xDFFF < b then [(0xE000, b)] else []

/-- The numbers from `next` up to the greatest character that are in none of the ranges. -/
def Ranges.gapsFrom (next : Nat) : Ranges → Ranges
  | [] => if next < 0x110000 then [(next, 0x10FFFF)] else []
  | (a, b) :: rest =>
    if next < a then (next, a - 1) :: gapsFrom (b + 1) rest else gapsFrom (max next (b + 1)) rest

/-- The characters in none of the ranges. -/
def Ranges.compl (r : Ranges) : Ranges :=
  (gapsFrom 0 r).ofChars

/-- The characters in both of two ascending lists of ranges. -/
def Ranges.inter (r s : Ranges) : Ranges :=
  (r.compl.union s.compl).compl

/-- The characters in the first list of ranges and not in the second. -/
def Ranges.diff (r s : Ranges) : Ranges :=
  r.inter s.compl

/-! ## Shifts -/

/-- Characters at equal distances that all go to the character `delta` further on. -/
structure Shift where
  first : Nat
  count : Nat
  step : Nat
  delta : Int
  deriving DecidableEq, Repr

/-- The shift that a word describes. -/
def Shift.ofWord (word : List Char) : Shift :=
  let head := word.takeWhile fun c => c != '+' && c != '-'
  let tail := word.dropWhile fun c => c != '+' && c != '-'
  let size : Int := hexNumber (tail.drop 1)
  let start := head.takeWhile (· != '*')
  let (count, step) := splitNumbers '/' 1 ((head.dropWhile (· != '*')).drop 1)
  ⟨hexNumber start, max 1 count, step, if tail.head? = some '-' then -size else size⟩

/-- The shifts that a text describes. -/
def Shift.decode (text : String) : List Shift :=
  (words text).map Shift.ofWord

/-- Whether a number is one of those that a shift moves. -/
def Shift.moves (s : Shift) (n : Nat) : Bool :=
  s.first ≤ n && n ≤ s.first + s.step * (s.count - 1) && (n - s.first) % s.step == 0

/-- Where a character goes, if one of the shifts moves it. -/
def Shift.target? (shifts : List Shift) (c : Char) : Option Char :=
  (shifts.find? fun s => s.moves c.toNat).map fun s => Char.ofNat ((c.toNat : Int) + s.delta).toNat

/-- Where a character goes; where no shift moves it, it stays. -/
def Shift.move (shifts : List Shift) (c : Char) : Char :=
  (Shift.target? shifts c).getD c

/-- Where a character comes from, if one of the shifts goes there. -/
def Shift.source? (shifts : List Shift) (c : Char) : Option Char :=
  let source (s : Shift) : Int := (c.toNat : Int) - s.delta
  (shifts.find? fun s => 0 ≤ source s && s.moves (source s).toNat).map fun s =>
    Char.ofNat (source s).toNat

/-! ## Expansions -/

/-- The numbers that a text describes, in groups of a first one and the others. -/
def Expansion.decode (text : String) : List (Nat × List Nat) :=
  (words text).filterMap fun word =>
    match (Text.splitOn ',' word).map hexNumber with
    | [] => none
    | first :: others => some (first, others)

end RouteExpr.Unicode
