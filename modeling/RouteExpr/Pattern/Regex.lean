/-
Regular expressions over characters, with assertions about positions, and what they match.

A run takes the positions of a text where a match may begin, as marks, to the positions where one
may end. It works on all positions at once, so its cost does not depend on how many ways there are
to match: repetition adds positions until none is new.
-/
import RouteExpr.Pattern.CharSet
import RouteExpr.Unicode.Category
import RouteExpr.Unicode.Property

namespace RouteExpr.Pattern

/-! ## Positions -/

/-- What a word is made of. -/
inductive WordKind where
  /-- Letters, marks, decimal digits, connectors and joiners of Unicode. -/
  | unicode
  /-- Letters, digits and underscores of ASCII. -/
  | ascii
  deriving DecidableEq, Repr

/-- Whether a character belongs to words. -/
def WordKind.has : WordKind → Char → Bool
  | .ascii, c => c.isAlphanum || c == '_'
  | .unicode, c =>
    if c.toNat < 0x80 then c.isAlphanum || c == '_'
    else
      let n := c.toNat
      Unicode.alphabeticTable.has n || Unicode.spacingMarkTable.has n ||
        Unicode.nonspacingMarkTable.has n || Unicode.enclosingMarkTable.has n ||
        Unicode.decimalNumberTable.has n || Unicode.connectorPunctuationTable.has n ||
        Unicode.joinControlTable.has n

/-- An assertion about a position between two characters. -/
inductive Look where
  | textStart
  | textEnd
  | lineStart
  | lineEnd
  /-- At the start of a line, where a carriage return with a line feed ends lines too. -/
  | crlfLineStart
  | crlfLineEnd
  | wordBoundary (kind : WordKind)
  | noWordBoundary (kind : WordKind)
  | wordStart (kind : WordKind)
  | wordEnd (kind : WordKind)
  /-- Not after a word. -/
  | halfStart (kind : WordKind)
  /-- Not before a word. -/
  | halfEnd (kind : WordKind)
  deriving DecidableEq, Repr

/-- Whether an assertion holds between these two characters, none at the ends of the text. -/
def Look.holds (look : Look) (before after : Option Char) : Bool :=
  let inWord (kind : WordKind) (c : Option Char) := c.any kind.has
  match look with
  | textStart => before.isNone
  | textEnd => after.isNone
  | lineStart => before.isNone || before = some '\n'
  | lineEnd => after.isNone || after = some '\n'
  | crlfLineStart =>
    before.isNone || before = some '\n' || (before = some '\r' && after ≠ some '\n')
  | crlfLineEnd => after.isNone || after = some '\r' || (after = some '\n' && before ≠ some '\r')
  | wordBoundary kind => inWord kind before != inWord kind after
  | noWordBoundary kind => inWord kind before == inWord kind after
  | wordStart kind => !inWord kind before && inWord kind after
  | wordEnd kind => inWord kind before && !inWord kind after
  | halfStart kind => !inWord kind before
  | halfEnd kind => !inWord kind after

/-! ## Expressions -/

/-- A regular expression. -/
inductive Regex where
  /-- Matches the empty text. -/
  | empty
  /-- Matches one character of the set. -/
  | one (set : CharSet)
  /-- Matches the empty text at the positions where the assertion holds. -/
  | look (assertion : Look)
  /-- A part in parentheses, which may remember what it matches. -/
  | group (remembers : Bool) (body : Regex)
  | seq (first second : Regex)
  | alt (left right : Regex)
  /-- Matches from `least` to `most` times in a row, without a limit if there is no `most`. -/
  | times (body : Regex) (least : Nat) (most : Option Nat)
  deriving DecidableEq, Repr, Inhabited

namespace Regex

/-- Expressions one after another. -/
def seqs : List Regex → Regex
  | [] => empty
  | [r] => r
  | r :: rest => seq r (seqs rest)

/-- Expressions of which any may match. -/
def alts : List Regex → Regex
  | [] => empty
  | [r] => r
  | r :: rest => alt r (alts rest)

/-! ## Marks -/

/-- A mark for each position of a text, from its start to its end. -/
abbrev Marks := List Bool

/-- The marks of either. -/
def Marks.or (a b : Marks) : Marks :=
  List.zipWith (· || ·) a b

/-- The positions after a character of the set that follows a marked position. -/
def advance (set : CharSet) (text : List Char) (marks : Marks) : Marks :=
  false :: List.zipWith (fun c mark => mark && set.has c) text marks

/-- The marked positions where an assertion holds. -/
def filterLook (look : Look) (before : Option Char) : List Char → Marks → Marks
  | _, [] => []
  | [], mark :: _ => [mark && look.holds before none]
  | c :: cs, mark :: marks =>
    (mark && look.holds before (some c)) :: filterLook look (some c) cs marks

/-- Takes a step so many times, or until it changes nothing. -/
def exactly (step : Marks → Marks) : Nat → Marks → Marks
  | 0, marks => marks
  | n + 1, marks =>
    let next := step marks
    if next = marks then marks else exactly step n next

/-- Adds what a step reaches, so many times or until nothing is new. -/
def upTo (step : Marks → Marks) : Nat → Marks → Marks
  | 0, marks => marks
  | n + 1, marks =>
    let next := marks.or (step marks)
    if next = marks then marks else upTo step n next

/-! ## Matching -/

/-- The positions where a match that begins at a marked position may end. -/
def run (text : List Char) : Regex → Marks → Marks
  | empty, marks => marks
  | one set, marks => advance set text marks
  | look l, marks => filterLook l none text marks
  | group _ r, marks => run text r marks
  | seq a b, marks => run text b (run text a marks)
  | alt a b, marks => (run text a marks).or (run text b marks)
  | times r least most, marks =>
    let rounds :=
      match most with
      | none => text.length + 1
      | some n => n - least
    upTo (run text r) rounds (exactly (run text r) least marks)

/-- Whether the expression matches some part of a text. -/
def occursIn (r : Regex) (text : List Char) : Bool :=
  (run text r (List.replicate (text.length + 1) true)).any id

end Regex

end RouteExpr.Pattern
