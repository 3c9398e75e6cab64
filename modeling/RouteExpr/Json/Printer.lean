/-
Writing JSON text: compact, or spread over lines with an indent of two spaces.

The members of an object come in the order of their names. A string escapes quotes, backslashes
and control characters only. A double always shows a point or an exponent, so that it is read back
as a double.
-/
import RouteExpr.Json

namespace RouteExpr.Json

/-! ## Strings -/

/-- A hexadecimal digit, lower case. -/
def hexChar (n : Nat) : Char :=
  if n < 10 then Char.ofNat ('0'.toNat + n) else Char.ofNat ('a'.toNat + (n - 10))

/-- A character of a string as it is written. -/
def writeChar (c : Char) : List Char :=
  match c with
  | '"' => ['\\', '"']
  | '\\' => ['\\', '\\']
  | '\x08' => ['\\', 'b']
  | '\x0c' => ['\\', 'f']
  | '\n' => ['\\', 'n']
  | '\r' => ['\\', 'r']
  | '\t' => ['\\', 't']
  | c =>
    if c.toNat < 0x20 then ['\\', 'u', '0', '0', hexChar (c.toNat / 16), hexChar (c.toNat % 16)]
    else [c]

/-- A string with its quotes. -/
def writeString (s : String) : List Char :=
  '"' :: (s.toList.flatMap writeChar ++ ['"'])

/-! ## Numbers -/

/-- A double: positional from `10 ^ -5` to below `10 ^ 16`, with at least one place; else with an
exponent. Of two equally near decimals the even one is written. What is no number is `null`. -/
def writeDouble (x : Double) : List Char :=
  match x.view with
  | .finite negative m e =>
    let body :=
      if m = 0 then "0.0".toList
      else
        let d := Double.shortest .even m e
        if d.leading < -5 || 15 < d.leading then d.scientific true else d.pointed
    (if negative then ['-'] else []) ++ body
  | _ => "null".toList

/-! ## Documents -/

/-- Where the parts of a container are put. -/
inductive Layout where
  | compact
  /-- Each part on a line of its own, indented by two spaces a level. -/
  | lines
  deriving DecidableEq, Repr

/-- A new line at a level of indentation, where the layout has lines. -/
def breakLine (layout : Layout) (level : Nat) : List Char :=
  match layout with
  | .compact => []
  | .lines => '\n' :: List.replicate (2 * level) ' '

/-- The parts of a container between its brackets. -/
def writeContainer (layout : Layout) (level : Nat) (opening closing : Char)
    (parts : List (List Char)) :
    List Char :=
  if parts.isEmpty then [opening, closing]
  else
    let indent := breakLine layout (level + 1)
    let separated := (parts.map (indent ++ ·)).intersperse [',']
    opening :: (separated.flatten ++ breakLine layout level ++ [closing])

/-- The members of an object as written, in the order of their names. -/
def writeMembers (layout : Layout) (entries : List (String × List Char)) : List (List Char) :=
  let colon := if layout = .lines then [':', ' '] else [':']
  (entries.mergeSort fun a b => a.1 ≤ b.1).map fun (k, text) => writeString k ++ colon ++ text

mutual

/-- The text of a document at a level of indentation. -/
def writeAt (layout : Layout) (level : Nat) : Json → List Char
  | null => "null".toList
  | boolean b => if b then "true".toList else "false".toList
  | integer i => writeInt i.toInt
  | natural n => writeInt n.toNat
  | float x => writeDouble x
  | string s => writeString s
  | array items => writeContainer layout level '[' ']' (writeItems layout (level + 1) items)
  | object members =>
    writeContainer layout level '\x7b' '\x7d'
      (writeMembers layout (writeEntries layout (level + 1) members))

/-- The texts of the items of an array. -/
def writeItems (layout : Layout) (level : Nat) : List Json → List (List Char)
  | [] => []
  | d :: ds => writeAt layout level d :: writeItems layout level ds

/-- The texts of the members of an object, each with its name. -/
def writeEntries (layout : Layout) (level : Nat) : List (String × Json) → List (String × List Char)
  | [] => []
  | (k, d) :: rest => (k, writeAt layout level d) :: writeEntries layout level rest

end

/-- The text of a document. -/
def write (layout : Layout) (doc : Json) : String :=
  String.ofList (writeAt layout 0 doc)

end RouteExpr.Json
