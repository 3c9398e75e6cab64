/-
Reading regular expressions.

The notation has no references back and no looking around. Flags hold from where they are set to
the end of the group they stand in. Without the flag for Unicode nothing may match beyond ASCII
except a character that is written out. What nests too deep or repeats too much is refused.
-/
import RouteExpr.Number.Numeral
import RouteExpr.Pattern.Machine
import RouteExpr.Pattern.Property
import RouteExpr.Text.Blank
import RouteExpr.Unicode.Letter

namespace RouteExpr.Pattern

/-! ## Flags -/

/-- What the letters of flags switch on and off. -/
structure Flags where
  /-- Letters match in either case. -/
  caseless : Bool
  /-- The anchors of the text hold at lines. -/
  multiline : Bool
  /-- The dot matches line ends. -/
  dotAll : Bool
  unicode : Bool
  /-- A carriage return ends lines too. -/
  crlf : Bool
  /-- Blanks and comments in the source are skipped. -/
  spaced : Bool
  deriving DecidableEq, Repr

/-- The flags at the start of a pattern. -/
def Flags.initial : Flags := ⟨false, false, false, true, false, false⟩

/-- The flags after one letter is switched on or off. -/
def Flags.set? (flags : Flags) (letter : Char) (on : Bool) : Option Flags :=
  match letter with
  | 'i' => some { flags with caseless := on }
  | 'm' => some { flags with multiline := on }
  | 's' => some { flags with dotAll := on }
  | 'u' => some { flags with unicode := on }
  | 'R' => some { flags with crlf := on }
  | 'x' => some { flags with spaced := on }
  | 'U' => some flags
  | _ => none

/-! ## Blanks and comments -/

/-- A text without the blanks and comments at its start. -/
def skipComments : Bool → List Char → List Char
  | _, [] => []
  | true, c :: cs => skipComments (c != '\n') cs
  | false, c :: cs =>
    if Text.isBlank c then skipComments false cs
    else if c = '#' then skipComments true cs
    else c :: cs

/-- A text without what the flags let be skipped at its start. -/
def Flags.skip (flags : Flags) (cs : List Char) : List Char :=
  if flags.spaced then skipComments false cs else cs

/-! ## Sets under flags -/

/-- The set with the letters of either case, where the flags ask for it. -/
def Flags.folded (flags : Flags) (set : CharSet) : CharSet :=
  if !flags.caseless then set else if flags.unicode then .fold set else .foldAscii set

/-- A set, folded and then negated. Without Unicode no set can be negated. -/
def Flags.finish? (flags : Flags) (negated : Bool) (set : CharSet) : Option CharSet :=
  if !negated then some (flags.folded set)
  else if flags.unicode then some (.compl (flags.folded set))
  else none

/-! ## Numbers in escapes -/

/-- Whether a character is a hexadecimal digit. -/
def isHex (c : Char) : Bool :=
  c.isDigit || ('a' ≤ c && c ≤ 'f') || ('A' ≤ c && c ≤ 'F')

/-- The character with a number in hexadecimal digits. -/
def charOfHex? (digits : List Char) : Option Char :=
  let n := Unicode.hexNumber (digits.map Char.toLower)
  if n < 0xD800 ∨ (0xE000 ≤ n ∧ n < 0x110000) then some (Char.ofNat n) else none

/-- So many hexadecimal digits. -/
def takeHex (flags : Flags) : Nat → List Char → Option (List Char × List Char)
  | 0, cs => some ([], cs)
  | _ + 1, [] => none
  | n + 1, c :: cs =>
    if isHex c then (takeHex flags n (flags.skip cs)).map fun (ds, r) => (c :: ds, r) else none

/-- The characters up to a closing brace. The first argument bounds their number. -/
def takeBraced (flags : Flags) : Nat → List Char → Option (List Char × List Char)
  | 0, _ => none
  | _ + 1, [] => none
  | n + 1, c :: cs =>
    if c = '\x7d' then some ([], cs)
    else (takeBraced flags n (flags.skip cs)).map fun (ds, r) => (c :: ds, r)

/-- The character of an escape by number: its digits, `count` of them or any number in braces. -/
def readHex (flags : Flags) (count : Nat) (cs : List Char) : Option (Char × List Char) :=
  match flags.skip cs with
  | '\x7b' :: r => do
    let (digits, rest) ← takeBraced flags r.length (flags.skip r)
    if digits.isEmpty || !digits.all isHex then none
    else return (← charOfHex? digits, flags.skip rest)
  | r => do
    let (digits, rest) ← takeHex flags count r
    return (← charOfHex? digits, rest)

/-! ## Atoms -/

/-- The smallest parts of a pattern. -/
inductive Atom where
  /-- A character; `byte` when it is written as two hexadecimal digits. -/
  | char (c : Char) (byte : Bool)
  | set (s : CharSet)
  | look (l : Look)

/-- The word of a special assertion, letters and hyphens before a closing brace. The first argument
bounds their number. -/
def takeWord (flags : Flags) : Nat → List Char → Option (List Char × List Char)
  | 0, _ => none
  | _ + 1, [] => none
  | n + 1, c :: cs =>
    if c = '\x7d' then some ([], cs)
    else if c.isAlpha || c = '-' then
      (takeWord flags n (flags.skip cs)).map fun (ds, r) => (c :: ds, r)
    else none

/-- The assertion after the letter `b`: one with a word in braces, or a boundary of words. A brace
that no word follows belongs to a repetition. -/
def readBoundary (flags : Flags) (cs : List Char) : Option (Look × List Char) :=
  let kind := if flags.unicode then WordKind.unicode else .ascii
  match cs with
  | '\x7b' :: r =>
    match flags.skip r with
    | [] => none
    | c :: cs' =>
      if c.isAlpha || c = '-' then do
        let (word, rest) ← takeWord flags r.length (c :: cs')
        match String.ofList word with
        | "start" => return (.wordStart kind, rest)
        | "end" => return (.wordEnd kind, rest)
        | "start-half" => return (.halfStart kind, rest)
        | "end-half" => return (.halfEnd kind, rest)
        | _ => none
      else some (.wordBoundary kind, cs)
  | _ => some (.wordBoundary kind, cs)

/-- A property as it is written between braces. -/
structure PropertyText where
  name : List Char
  /-- The value, if one is asked for. -/
  value : Option (List Char)
  /-- Whether every value but this one is asked for. -/
  isNot : Bool

/-- A property's name, alone or with a value after `!=`, or else after `:`, or else after `=`. -/
def PropertyText.ofText (text : List Char) : PropertyText :=
  match Text.cut? ['!', '='] text with
  | some (name, value) => ⟨name, some value, true⟩
  | none =>
    match (Text.cut? [':'] text).or (Text.cut? ['='] text) with
    | some (name, value) => ⟨name, some value, false⟩
    | none => ⟨text, none, false⟩

/-- The characters of a property before any negation. -/
def PropertyText.set? (p : PropertyText) : Option CharSet :=
  match p.value with
  | some value => propertyValue? p.name value
  | none => property? p.name

/-- The set of a property, after its letter: one more letter, or a name in braces, alone or with a
value. -/
def readProperty (flags : Flags) (negated : Bool) (cs : List Char) : Option (CharSet × List Char) :=
  if !flags.unicode then none
  else
    match flags.skip cs with
    | [] => none
    | '\x7b' :: r => do
      let (text, rest) ← takeBraced flags r.length (flags.skip r)
      let property := PropertyText.ofText text
      return (← flags.finish? (negated != property.isNot) (← property.set?), rest)
    | c :: r => do
      if c = '\\' then none
      else return (← flags.finish? negated (← property? [c]), flags.skip r)

/-- The class of a letter, negated when it is a capital. -/
def readLetterClass (flags : Flags) (letter : Char) : Option CharSet :=
  (letterClass? flags.unicode letter.toLower).bind fun set =>
    if letter.isLower then some set else if flags.unicode then some (.compl set) else none

/-- The control character that a letter stands for. -/
def controlOf? : Char → Option Char
  | 'a' => some '\x07'
  | 'f' => some '\x0c'
  | 't' => some '\t'
  | 'n' => some '\n'
  | 'r' => some '\r'
  | 'v' => some '\x0b'
  | _ => none

/-- What follows a backslash. -/
def readEscape (flags : Flags) : List Char → Option (Atom × List Char)
  | [] => none
  | c :: cs =>
    let kind := if flags.unicode then WordKind.unicode else .ascii
    match c with
    | 'x' =>
      let braced := (flags.skip cs).head? = some '\x7b'
      (readHex flags 2 cs).map fun (x, rest) => (.char x !braced, rest)
    | 'u' => (readHex flags 4 cs).map fun (x, rest) => (.char x false, rest)
    | 'U' => (readHex flags 8 cs).map fun (x, rest) => (.char x false, rest)
    | 'p' => (readProperty flags false cs).map fun (s, rest) => (.set s, rest)
    | 'P' => (readProperty flags true cs).map fun (s, rest) => (.set s, rest)
    | 'A' => some (.look .textStart, cs)
    | 'z' => some (.look .textEnd, cs)
    | 'B' => some (.look (.noWordBoundary kind), cs)
    | '<' => some (.look (.wordStart kind), cs)
    | '>' => some (.look (.wordEnd kind), cs)
    | 'b' => (readBoundary flags cs).map fun (l, rest) => (.look l, rest)
    | c =>
      if c ∈ ['d', 's', 'w', 'D', 'S', 'W'] then (readLetterClass flags c).map fun s => (.set s, cs)
      else if c.isAlphanum then (controlOf? c).map fun x => (.char x false, cs)
      else if c.toNat < 0x80 then some (.char c false, cs)
      else none

/-! ## Classes in brackets -/

/-- A set and how deep its notation nests. -/
structure SetPart where
  set : CharSet
  height : Nat

/-- Parts standing side by side in brackets. -/
structure Gathered where
  set : CharSet
  count : Nat
  /-- The greatest height among the parts. -/
  height : Nat

/-- No part yet. -/
def Gathered.empty : Gathered := ⟨.none, 0, 0⟩

/-- One part more. -/
def Gathered.add (g : Gathered) (part : SetPart) : Gathered :=
  ⟨if g.count = 0 then part.set else .union g.set part.set, g.count + 1, max g.height part.height⟩

/-- The parts as one; two or more nest one level deeper. -/
def Gathered.join (g : Gathered) : SetPart :=
  ⟨g.set, if g.count ≤ 1 then g.height else g.height + 1⟩

/-- The operations between sets. -/
inductive SetOp where
  | inter
  | diff
  | symmDiff
  deriving DecidableEq, Repr

/-- The set that an operation makes of two. -/
def SetOp.apply : SetOp → CharSet → CharSet → CharSet
  | .inter, a, b => .inter a b
  | .diff, a, b => .diff a b
  | .symmDiff, a, b => .symmDiff a b

/-- An open bracket: whether it is negated, the operation that waits for its right side, and the
parts since. -/
structure Bracket where
  negated : Bool
  waiting : Option (SetOp × SetPart)
  parts : Gathered

/-- What a bracket holds once the waiting operation is carried out. -/
def Bracket.settle (flags : Flags) (b : Bracket) : SetPart :=
  let right := b.parts.join
  match b.waiting with
  | none => right
  | some (op, left) =>
    ⟨op.apply (flags.folded left.set) (flags.folded right.set), max left.height right.height + 1⟩

/-- A character as a part of a class. Without Unicode it has to be one of ASCII. -/
def charInClass? (flags : Flags) (c : Char) : Option Char :=
  if flags.unicode || c.toNat < 0x80 then some c else none

/-- One item of a class: an escape, or a character that stands for itself. -/
def readClassAtom (flags : Flags) : List Char → Option (Atom × List Char)
  | [] => none
  | '\\' :: cs => readEscape flags cs
  | c :: cs => some (.char c false, cs)

/-- The first character after the blanks, if any are skipped, after a hyphen. A comment does not
hide the first character that is no blank after its mark. -/
def peekAfterHyphen (flags : Flags) (cs : List Char) : Option Char :=
  if !flags.spaced then cs.head?
  else
    match cs.dropWhile Text.isBlank with
    | '#' :: r => ((r.dropWhile Text.isBlank).head?).or cs.head?
    | c :: _ => some c
    | [] => cs.head?

/-- An item of a class, or a range between two. -/
def readClassItem (flags : Flags) (cs : List Char) : Option (SetPart × List Char) := do
  let (first, rest) ← readClassAtom flags cs
  let rest := flags.skip rest
  let alone : Option (SetPart × List Char) :=
    match first with
    | .char c _ => (charInClass? flags c).map fun c => (⟨.single c, 0⟩, rest)
    | .set s => some (⟨s, 0⟩, rest)
    | .look _ => none
  match rest with
  | [] => none
  | '-' :: r =>
    let next := peekAfterHyphen flags r
    if next = some ']' || next = some '-' then alone
    else
      match flags.skip r with
      | [] => none
      | r => do
        let (second, rest) ← readClassAtom flags r
        match first, second with
        | .char a _, .char b _ =>
          if a ≤ b then
            return (⟨.between (← charInClass? flags a) (← charInClass? flags b), 0⟩, rest)
          else none
        | _, _ => none
  | _ => alone

/-- A class of ASCII in its own brackets and colons, after the first bracket. -/
def readAsciiClass (cs : List Char) : Option ((Bool × CharSet) × List Char) :=
  match cs with
  | ':' :: r =>
    let (negated, r) :=
      match r with
      | '^' :: r => (true, r)
      | r => (false, r)
    let name := r.takeWhile (· != ':')
    match r.dropWhile (· != ':') with
    | ':' :: ']' :: rest => (asciiClass? name).map fun set => ((negated, set), rest)
    | _ => none
  | _ => none

/-- Hyphens at the start of a class, which stand for themselves. The first argument bounds their
number. -/
def takeHyphens (flags : Flags) : Nat → Gathered → List Char → Gathered × List Char
  | n + 1, g, '-' :: cs => takeHyphens flags n (g.add ⟨.single '-', 0⟩) (flags.skip cs)
  | _, g, cs => (g, cs)

/-- A bracket from the text after it: its negation, and hyphens or a closing bracket that come first
and stand for themselves. -/
def openBracket (flags : Flags) (cs : List Char) : Option (Bracket × List Char) :=
  let cs := flags.skip cs
  let (negated, cs) :=
    match cs with
    | '^' :: r => (true, flags.skip r)
    | r => (false, r)
  let (parts, rest) := takeHyphens flags cs.length .empty cs
  match rest with
  | [] => none
  | ']' :: r =>
    if parts.count = 0 then
      match flags.skip r with
      | [] => none
      | r => some (⟨negated, none, parts.add ⟨.single ']', 0⟩⟩, r)
    else some (⟨negated, none, parts⟩, rest)
  | _ => some (⟨negated, none, parts⟩, rest)

/-- The rest of a class: the innermost open bracket, those around it, and the text that follows.
The first argument bounds the number of steps. -/
def readClassRest (flags : Flags) :
    Nat → Bracket → List Bracket → List Char → Option (SetPart × List Char)
  | 0, _, _, _ => none
  | n + 1, bracket, outer, cs =>
    let operation (op : SetOp) (r : List Char) : Option (SetPart × List Char) :=
      readClassRest flags n ⟨bracket.negated, some (op, bracket.settle flags), .empty⟩ outer r
    let nested (r : List Char) : Option (SetPart × List Char) := do
      let (inner, rest) ← openBracket flags r
      readClassRest flags n inner (bracket :: outer) rest
    match flags.skip cs with
    | [] => none
    | '[' :: r =>
      match readAsciiClass r with
      | some ((negated, set), rest) => do
        let set ← flags.finish? negated set
        readClassRest flags n { bracket with parts := bracket.parts.add ⟨set, 0⟩ } outer rest
      | none => nested r
    | ']' :: r => do
      let inside := bracket.settle flags
      let part : SetPart := ⟨← flags.finish? bracket.negated inside.set, inside.height + 1⟩
      match outer with
      | [] => return (part, r)
      | b :: bs => readClassRest flags n { b with parts := b.parts.add part } bs r
    | '&' :: '&' :: r => operation .inter r
    | '-' :: '-' :: r => operation .diff r
    | '~' :: '~' :: r => operation .symmDiff r
    | cs => do
      let (part, rest) ← readClassItem flags cs
      readClassRest flags n { bracket with parts := bracket.parts.add part } outer rest

/-- A class, after its first bracket. -/
def readClass (flags : Flags) (cs : List Char) : Option (SetPart × List Char) := do
  let (bracket, rest) ← openBracket flags cs
  readClassRest flags (rest.length + 1) bracket [] rest

/-! ## Repetitions -/

/-- A number in a repetition, blanks around it aside. -/
def readCount (flags : Flags) (cs : List Char) : Option (Nat × List Char) :=
  let rec digits : Nat → List Char → List Char × List Char
    | n + 1, c :: cs =>
      if c.isDigit then
        let (ds, r) := digits n (flags.skip cs)
        (c :: ds, r)
      else ([], c :: cs)
    | _, cs => ([], cs)
  let (ds, rest) := digits cs.length (cs.dropWhile Text.isBlank)
  let n := Numeral.digitsToNat ds
  if ds.isEmpty || 0x100000000 ≤ n then none
  else some (n, flags.skip (rest.dropWhile Text.isBlank))

/-- The least and the greatest number of a repetition, after its opening brace. -/
def readCounts (flags : Flags) (cs : List Char) : Option ((Nat × Option Nat) × List Char) := do
  let (least, rest) ← readCount flags (flags.skip cs)
  match rest with
  | '\x7d' :: r => return ((least, some least), r)
  | ',' :: r =>
    match flags.skip r with
    | '\x7d' :: r => return ((least, none), r)
    | r => do
      let (most, rest) ← readCount flags r
      match rest with
      | '\x7d' :: r => if least ≤ most then return ((least, some most), r) else none
      | _ => none
  | _ => none

/-! ## Groups -/

/-- A part of a pattern. -/
structure Item where
  regex : Regex
  /-- Whether it may be repeated; a setting of flags may not. -/
  repeatable : Bool
  /-- How deep its notation nests. -/
  height : Nat

/-- What is read of a group: the alternatives that are complete and the items of the one that is
not, the latest first. -/
structure Level where
  alternatives : List Item
  items : List Item

/-- A group of which nothing is read. -/
def Level.empty : Level := ⟨[], []⟩

/-- Items as one, by a way to join them; two or more nest one level deeper. -/
def joinItems (join : List Regex → Regex) : List Item → Item
  | [] => ⟨.empty, true, 0⟩
  | [item] => item
  | items =>
    ⟨join (items.map Item.regex), true, (items.foldl (fun h item => max h item.height) 0) + 1⟩

/-- The group with its last alternative complete. -/
def Level.close (level : Level) : Item :=
  let last := joinItems .seqs level.items.reverse
  joinItems .alts (last :: level.alternatives).reverse

/-- A group in which another one is open. -/
structure Outer where
  level : Level
  /-- The flags that hold again after the inner group. -/
  flags : Flags
  /-- Whether the inner group remembers what it matches. -/
  remembers : Bool

/-- A pattern that is being read. -/
structure Progress where
  rest : List Char
  flags : Flags
  level : Level
  /-- The groups around, the innermost first. -/
  outer : List Outer
  /-- The names of groups so far. -/
  names : List (List Char)

/-- One item more in the innermost group. -/
def Progress.push (p : Progress) (item : Item) (rest : List Char) : Progress :=
  { p with rest := rest, level := { p.level with items := item :: p.level.items } }

/-- Whether a character may stand in the name of a group. -/
def isNameChar (first : Bool) (c : Char) : Bool :=
  c = '_' || Unicode.isLetter c ||
    (!first && (c = '.' || c = '[' || c = ']' || Unicode.isNumber c))

/-- The name of a group, up to its closing angle. -/
def readName (cs : List Char) : Option (List Char × List Char) :=
  let name := cs.takeWhile (· != '>')
  match name, cs.dropWhile (· != '>') with
  | c :: more, _ :: rest =>
    if isNameChar true c && more.all (isNameChar false) then some (name, rest) else none
  | _, _ => none

/-- The letters of flags up to the colon or parenthesis after them: the flags they make, whether
there was one, and whether a parenthesis ended them. -/
def readFlags (flags : Flags) (on : Bool) (seen : List Char) :
    List Char → Option ((Flags × Bool × Bool) × List Char)
  | [] => none
  | c :: cs =>
    if c = ':' || c = ')' then
      if seen.head? = some '-' then none else some ((flags, !seen.isEmpty, c = ')'), cs)
    else if seen.contains c then none
    else if c = '-' then readFlags flags false (c :: seen) cs
    else (flags.set? c on).bind fun flags => readFlags flags on (c :: seen) cs

/-- Enters a group under flags. -/
def Progress.enter (p : Progress) (remembers : Bool) (flags : Flags) (rest : List Char) :
    Progress :=
  { p with
    rest := rest
    flags := flags
    level := .empty
    outer := ⟨p.level, p.flags, remembers⟩ :: p.outer }

/-- Enters a group with a name that is not taken yet. -/
def Progress.enterNamed (p : Progress) (cs : List Char) : Option Progress := do
  let (name, rest) ← readName cs
  if p.names.contains name then none
  else return { p.enter true p.flags rest with names := name :: p.names }

/-- What follows an opening parenthesis: a group, or a setting of flags. -/
def Progress.open? (p : Progress) (cs : List Char) : Option Progress :=
  match p.flags.skip cs with
  | '?' :: '=' :: _ => none
  | '?' :: '!' :: _ => none
  | '?' :: '<' :: '=' :: _ => none
  | '?' :: '<' :: '!' :: _ => none
  | '?' :: 'P' :: '<' :: r => p.enterNamed r
  | '?' :: '<' :: r => p.enterNamed r
  | '?' :: r => do
    let ((flags, any, closed), rest) ← readFlags p.flags true [] r
    if !closed then return p.enter false flags rest
    else if !any then none
    else return { p.push ⟨.empty, false, 0⟩ rest with flags := flags }
  | r => some (p.enter true p.flags r)

/-- Leaves the innermost group. -/
def Progress.leave? (p : Progress) (rest : List Char) : Option Progress :=
  match p.outer with
  | [] => none
  | ⟨level, flags, remembers⟩ :: outer =>
    let inside := p.level.close
    let p := { p with level := level, flags := flags, outer := outer }
    some (p.push ⟨.group remembers inside.regex, true, inside.height + 1⟩ rest)

/-- Repeats the last item. A question mark after the operator asks for short matches, which makes
no difference here. -/
def Progress.repeat? (p : Progress) (least : Nat) (most : Option Nat) (rest : List Char) :
    Option Progress :=
  match p.level.items with
  | [] => none
  | item :: items =>
    if !item.repeatable then none
    else
      let rest :=
        match rest with
        | '?' :: r => r
        | r => r
      let repeated : Item := ⟨.times item.regex least most, true, item.height + 1⟩
      some ({ p with level := { p.level with items := items } }.push repeated rest)

/-! ## Patterns -/

/-- The assertion of an anchor under flags. -/
def anchor (flags : Flags) (start : Bool) : Look :=
  match flags.multiline, flags.crlf, start with
  | false, _, true => .textStart
  | false, _, false => .textEnd
  | true, false, true => .lineStart
  | true, false, false => .lineEnd
  | true, true, true => .crlfLineStart
  | true, true, false => .crlfLineEnd

/-- What the dot matches under flags. -/
def dot? (flags : Flags) : Option CharSet :=
  if !flags.unicode then none
  else if flags.dotAll then some (.compl .none)
  else if flags.crlf then some (.compl (.union (.single '\n') (.single '\r')))
  else some (.compl (.single '\n'))

/-- An atom as an expression. -/
def Atom.regex? (flags : Flags) : Atom → Option Regex
  | .char c byte =>
    if byte && !flags.unicode && 0x80 ≤ c.toNat then none
    else some (.one (flags.folded (.single c)))
  | .set s => some (.one s)
  | .look l => some (.look l)

/-- Reads the next part of a pattern, of which some is left. -/
def Progress.step? (p : Progress) : Option Progress :=
  let atom (a : Atom) (rest : List Char) : Option Progress :=
    (a.regex? p.flags).map fun r => p.push ⟨r, true, 0⟩ rest
  match p.rest with
  | [] => some p
  | '(' :: r => p.open? r
  | ')' :: r => p.leave? r
  | '|' :: r =>
    let done := joinItems .seqs p.level.items.reverse
    some { p with rest := r, level := ⟨done :: p.level.alternatives, []⟩ }
  | '[' :: r =>
    (readClass p.flags r).map fun (part, rest) => p.push ⟨.one part.set, true, part.height⟩ rest
  | '?' :: r => p.repeat? 0 (some 1) r
  | '*' :: r => p.repeat? 0 none r
  | '+' :: r => p.repeat? 1 none r
  | '\x7b' :: r =>
    (readCounts p.flags r).bind fun ((least, most), rest) =>
      p.repeat? least most (p.flags.skip rest)
  | '\\' :: r => (readEscape p.flags r).bind fun (a, rest) => atom a rest
  | '.' :: r => (dot? p.flags).bind fun s => atom (.set s) r
  | '^' :: r => atom (.look (anchor p.flags true)) r
  | '$' :: r => atom (.look (anchor p.flags false)) r
  | c :: r => atom (.char c false) r

/-- Reads a pattern to its end; every step takes a character at least. -/
def Progress.finish? : Nat → Progress → Option Item
  | bound, p =>
    let p := { p with rest := p.flags.skip p.rest }
    if p.rest.isEmpty then if p.outer.isEmpty then some p.level.close else none
    else
      match bound with
      | 0 => none
      | n + 1 => p.step?.bind (finish? n)

/-- How deep the notation of a pattern may nest. -/
def maxHeight : Nat := 250

/-- The regular expression that a source writes. -/
def Regex.read? (source : List Char) : Option Regex :=
  (Progress.finish? source.length ⟨source, .initial, .empty, [], []⟩).bind fun item =>
    if item.height ≤ maxHeight ∧ item.regex.fits then some item.regex else none

end RouteExpr.Pattern
