/-
The sets of characters that patterns name: properties of Unicode, classes of ASCII, and the classes
with a letter of their own.
-/
import RouteExpr.Pattern.CharSet
import RouteExpr.Unicode.Age
import RouteExpr.Unicode.Category
import RouteExpr.Unicode.Property
import RouteExpr.Unicode.Script
import RouteExpr.Unicode.Segmentation

namespace RouteExpr.Pattern

/-! ## Loose names -/

/-- Letters, digits and signs of ASCII in lower case; spaces, underscores, hyphens and everything
beyond ASCII are dropped. -/
def squeeze (cs : List Char) : List Char :=
  (cs.filter fun c => c != ' ' && c != '_' && c != '-' && c.toNat < 0x80).map Char.toLower

/-- The form of a name in which names of properties are compared. A leading `is` is dropped, but
`isc` is a name of its own. -/
def looseName (cs : List Char) : String :=
  match cs with
  | a :: b :: rest =>
    if a.toLower = 'i' ∧ b.toLower = 's' then
      let name := squeeze rest
      String.ofList (if name = ['c'] then "isc".toList else name)
    else String.ofList (squeeze cs)
  | _ => String.ofList (squeeze cs)

/-- The entry that has a name among its names. -/
def lookup? {α : Type} (table : List (List String × α)) (name : String) : Option α :=
  (table.find? fun entry => entry.1.contains name).map Prod.snd

/-! ## Properties -/

/-- All characters that some category lists. -/
def assigned : CharSet :=
  .unions (Unicode.categories.map fun entry => .ranges entry.2)

/-- The characters of a general category or a group of categories. -/
def category? (name : String) : Option CharSet :=
  let leaf (n : String) : Option CharSet := (lookup? Unicode.categories n).map .ranges
  if name = "any" then some (.compl .none)
  else if name = "ascii" then some (.ranges [(0, 0x7F)])
  else if name = "assigned" then some assigned
  else if name = "cn" || name = "unassigned" then some (.compl assigned)
  else if name = "c" || name = "other" then
    some (.unions (.compl assigned :: ["cc", "cf", "co"].filterMap leaf))
  else
    match lookup? Unicode.categoryGroups name with
    | some members => some (.unions (members.filterMap leaf))
    | none => leaf name

/-- A script by one of its names. -/
def script? (name : String) : Option Unicode.Script :=
  Unicode.scripts.find? fun s => s.names.contains name

/-- The characters that a script is written with, those shared with other scripts included. -/
def extended (s : Unicode.Script) : CharSet :=
  .union (.diff (.ranges s.members) (.ranges s.lent)) (.ranges s.shared)

/-- The characters of a property named alone: a binary property, a category or a script. -/
def property? (name : List Char) : Option CharSet :=
  let key := looseName name
  let binary :=
    if key = "cf" || key = "sc" || key = "lc" then none
    else (lookup? Unicode.binaryProperties key).map CharSet.ranges
  (binary.or (category? key)).or ((script? key).map fun s => .ranges s.members)

/-- The characters that a version of Unicode knows: what it and the versions before it added. -/
def knownIn? (version : String) : List (List String × Unicode.Ranges) → Option CharSet
  | [] => none
  | (names, added) :: later =>
    if names.contains version then some (.ranges added)
    else (knownIn? version later).map (.union (.ranges added))

/-- The characters for which a property has a value. -/
def propertyValue? (name value : List Char) : Option CharSet :=
  let value := looseName value
  let leaf (table : List (List String × Unicode.Ranges)) : Option CharSet :=
    (lookup? table value).map .ranges
  match looseName name with
  | "gc" | "generalcategory" => category? value
  | "sc" | "script" => (script? value).map fun s => .ranges s.members
  | "scx" | "scriptextensions" => (script? value).map extended
  | "age" => knownIn? value Unicode.versions
  | "gcb" | "graphemeclusterbreak" => leaf Unicode.graphemeBreaks
  | "wb" | "wordbreak" => leaf Unicode.wordBreaks
  | "sb" | "sentencebreak" => leaf Unicode.sentenceBreaks
  | _ => none

/-! ## Classes of ASCII -/

/-- The ranges between pairs of characters. -/
def pairs (bounds : List (Char × Char)) : CharSet :=
  .ranges (bounds.map fun (a, b) => (a.toNat, b.toNat))

/-- The class of ASCII characters with a name. -/
def asciiClass? : List Char → Option CharSet
  | name =>
    match String.ofList name with
    | "alnum" => some (pairs [('0', '9'), ('A', 'Z'), ('a', 'z')])
    | "alpha" => some (pairs [('A', 'Z'), ('a', 'z')])
    | "ascii" => some (pairs [('\x00', '\x7f')])
    | "blank" => some (pairs [('\t', '\t'), (' ', ' ')])
    | "cntrl" => some (pairs [('\x00', '\x1f'), ('\x7f', '\x7f')])
    | "digit" => some (pairs [('0', '9')])
    | "graph" => some (pairs [('!', '~')])
    | "lower" => some (pairs [('a', 'z')])
    | "print" => some (pairs [(' ', '~')])
    | "punct" => some (pairs [('!', '/'), (':', '@'), ('[', '\x60'), ('\x7b', '~')])
    | "space" => some (pairs [('\t', '\r'), (' ', ' ')])
    | "upper" => some (pairs [('A', 'Z')])
    | "word" => some (pairs [('0', '9'), ('A', 'Z'), ('_', '_'), ('a', 'z')])
    | "xdigit" => some (pairs [('0', '9'), ('A', 'F'), ('a', 'f')])
    | _ => none

/-! ## Classes with a letter -/

/-- The digits, blanks or word characters, of Unicode or of ASCII. -/
def letterClass? (unicode : Bool) : Char → Option CharSet
  | 'd' =>
    if unicode then some (.ranges Unicode.decimalNumberTable) else asciiClass? "digit".toList
  | 's' => if unicode then some (.ranges Unicode.whiteSpaceTable) else asciiClass? "space".toList
  | 'w' =>
    if unicode then
      some (.unions [.ranges Unicode.alphabeticTable, .ranges Unicode.spacingMarkTable,
        .ranges Unicode.nonspacingMarkTable, .ranges Unicode.enclosingMarkTable,
        .ranges Unicode.decimalNumberTable, .ranges Unicode.connectorPunctuationTable,
        .ranges Unicode.joinControlTable])
    else asciiClass? "word".toList
  | _ => none

end RouteExpr.Pattern
