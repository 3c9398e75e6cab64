/-
Sets of characters, as the operations that build them.
-/
import RouteExpr.Unicode.Folding
import RouteExpr.Unicode.Ranges

namespace RouteExpr.Pattern

/-! ## Sets -/

/-- A set of characters. -/
inductive CharSet where
  | ranges (r : Unicode.Ranges)
  | union (a b : CharSet)
  | inter (a b : CharSet)
  | diff (a b : CharSet)
  /-- What is in exactly one of two sets. -/
  | symmDiff (a b : CharSet)
  | compl (a : CharSet)
  /-- The set with all characters that differ from one of its own in case alone. -/
  | fold (a : CharSet)
  /-- The same among the characters of ASCII. -/
  | foldAscii (a : CharSet)
  deriving DecidableEq, Repr, Inhabited

namespace CharSet

/-! ## Members -/

/-- Whether a character is in the set. -/
def has : CharSet → Char → Bool
  | ranges r, c => r.has c.toNat
  | union a b, c => a.has c || b.has c
  | inter a b, c => a.has c && b.has c
  | diff a b, c => a.has c && !b.has c
  | symmDiff a b, c => a.has c != b.has c
  | compl a, c => !a.has c
  | fold a, c => a.has c || (Unicode.caseVariants c).any a.has
  | foldAscii a, c => a.has c || (Unicode.asciiCaseVariants c).any a.has

/-- The members of a set. -/
def toRanges : CharSet → Unicode.Ranges
  | ranges r => r.ofChars
  | union a b => a.toRanges.union b.toRanges
  | inter a b => a.toRanges.inter b.toRanges
  | diff a b => a.toRanges.diff b.toRanges
  | symmDiff a b => (a.toRanges.diff b.toRanges).union (b.toRanges.diff a.toRanges)
  | compl a => a.toRanges.compl
  | fold a => Unicode.foldRanges a.toRanges
  | foldAscii a => Unicode.foldRangesAscii a.toRanges

/-! ## Simple sets -/

/-- The set without a character. -/
def none : CharSet := ranges []

/-- The set of one character. -/
def single (c : Char) : CharSet := ranges [(c.toNat, c.toNat)]

/-- The characters from one to another, both included. -/
def between (a b : Char) : CharSet := ranges [(a.toNat, b.toNat)]

/-- The union of sets. -/
def unions (sets : List CharSet) : CharSet :=
  sets.foldr union none

end CharSet

end RouteExpr.Pattern
