/-
The form in which a regular expression becomes a machine.

Characters one after another are one text, and groups that remember nothing are gone. Alternatives
that are all one character, or all sets of characters, are one set; parts that all alternatives
begin with stand once, before them. What matches nothing but the empty text is repeated once at
most.
-/
import RouteExpr.Pattern.Regex

namespace RouteExpr.Pattern

/-! ## Forms -/

/-- An expression from which a machine is built. -/
inductive Form where
  | empty
  /-- Characters one after another. -/
  | text (chars : List Char)
  /-- One character of the ranges, which have none or several. -/
  | set (ranges : Unicode.Ranges)
  | look (assertion : Look)
  /-- A group that remembers what it matches. -/
  | group (body : Form)
  /-- A part, which is no sequence, and the parts after it. -/
  | seq (first rest : Form)
  /-- An alternative, which has no alternatives, and the ones after it. -/
  | alt (first rest : Form)
  | times (body : Form) (least : Nat) (most : Option Nat)
  deriving DecidableEq, Repr, Inhabited

namespace Form

/-- One character of the ranges. -/
def ofRanges : Unicode.Ranges → Form
  | [(a, b)] => if a = b then text [Char.ofNat a] else set [(a, b)]
  | r => set r

/-! ## Sequences -/

/-- The parts that stand one after another. -/
def parts : Form → List Form
  | empty => []
  | seq first rest => first :: rest.parts
  | f => [f]

/-- Parts one after another. -/
def ofParts : List Form → Form
  | [] => empty
  | [f] => f
  | f :: rest => seq f (ofParts rest)

/-- A part before others; two texts become one. -/
def glue : Form → List Form → List Form
  | text a, text b :: rest => text (a ++ b) :: rest
  | f, rest => f :: rest

/-! ## Alternatives -/

/-- The alternatives of a form. -/
def branches : Form → List Form
  | alt first rest => first :: rest.branches
  | f => [f]

/-- Alternatives as a form. -/
def ofBranches : List Form → Form
  | [] => set []
  | [f] => f
  | f :: rest => alt f (ofBranches rest)

/-- Whether a group of the form remembers what it matches. -/
def remembers : Form → Bool
  | group _ => true
  | seq a b => a.remembers || b.remembers
  | alt a b => a.remembers || b.remembers
  | times f _ _ => f.remembers
  | _ => false

/-- The range of a text of one character. -/
def char? : Form → Option (Nat × Nat)
  | text [c] => some (c.toNat, c.toNat)
  | _ => none

/-- The ranges of a set. -/
def set? : Form → Option Unicode.Ranges
  | set r => some r
  | _ => none

/-- Alternatives that are all single characters, or all sets, as one set; others as they are. -/
def join (alternatives : List Form) : Form :=
  match alternatives.mapM char?, alternatives.mapM set? with
  | some chars, _ => ofRanges (Unicode.Ranges.sorted chars)
  | none, some sets => ofRanges (sets.foldl Unicode.Ranges.union [])
  | none, none => ofBranches alternatives

/-- The parts with which two sequences begin alike. Two groups that remember are never alike. -/
def sharedStart : List Form → List Form → List Form
  | a :: as, b :: bs => if a = b ∧ !a.remembers then a :: sharedStart as bs else []
  | _, _ => []

/-- The parts with which all alternatives begin, if each is a sequence. -/
def commonStart (alternatives : List Form) : List Form :=
  if alternatives.all fun f => 2 ≤ f.parts.length then
    match alternatives.map parts with
    | first :: others => others.foldl sharedStart first
    | [] => []
  else []

/-- The parts of a choice between sequences of parts. -/
def choice : List (List Form) → List Form
  | [parts] => parts
  | alternatives =>
    let all := alternatives.flatMap fun parts => (ofParts parts).branches
    match commonStart all with
    | [] => [join all]
    | start =>
      let ends := all.flatMap fun f => (ofParts (f.parts.drop start.length)).branches
      start ++ [join ends]

/-! ## Repetitions -/

/-- Whether a form matches nothing but the empty text. -/
def isVoid : Form → Bool
  | empty => true
  | text chars => chars.isEmpty
  | set _ => false
  | look _ => true
  | group f => f.isVoid
  | seq a b => a.isVoid && b.isVoid
  | alt a b => a.isVoid && b.isVoid
  | times f _ _ => f.isVoid

/-- How many characters a match has at least, if there can be one. -/
def minLength : Form → Option Nat
  | empty => some 0
  | text chars => some chars.length
  | set r => if r.isEmpty then none else some 1
  | look _ => some 0
  | group f => f.minLength
  | seq a b => do return (← a.minLength) + (← b.minLength)
  | alt a b => do return min (← a.minLength) (← b.minLength)
  | times f least _ => f.minLength.map (least * ·)

/-- A form repeated from `least` to `most` times. -/
def repeated (f : Form) (least : Nat) (most : Option Nat) : Form :=
  let least := if f.isVoid then min least 1 else least
  let most := if f.isVoid then some (min (most.getD 1) 1) else most
  if most = some 0 then empty
  else if least = 1 ∧ most = some 1 then f
  else times f least most

end Form

/-! ## Expressions as forms -/

namespace Regex

/-- The alternatives of an expression, each as the parts that stand one after another in it. -/
def alternatives : Regex → List (List Form)
  | empty => [[]]
  | one set => [[.ofRanges set.toRanges]]
  | look l => [[.look l]]
  | group remembers r =>
    let parts := Form.choice r.alternatives
    [if remembers then [.group (.ofParts parts)] else parts]
  | seq a b => [(Form.choice a.alternatives).foldr Form.glue (Form.choice b.alternatives)]
  | alt a b => Form.choice a.alternatives :: b.alternatives
  | times r least most => [((Form.ofParts (Form.choice r.alternatives)).repeated least most).parts]

/-- The form of an expression. -/
def form (r : Regex) : Form :=
  .ofParts (Form.choice r.alternatives)

end Regex

end RouteExpr.Pattern
