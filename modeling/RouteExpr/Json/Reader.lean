/-
Reading JSON text.

The grammar is that of the standard, without any extension. Numbers without point and exponent
that fit 64 bits, with a sign or without one, are integers, `-0` apart; all others are doubles, and
one too large for a double is an error. So are a surrogate without its partner, a raw control
character in a string, and nesting deeper than 127. Of members with one name the last counts.
-/
import RouteExpr.Json
import RouteExpr.Text.Find

namespace RouteExpr.Json

/-! ## Blanks -/

/-- The four characters that may stand between tokens. -/
def isSpace (c : Char) : Bool :=
  c = ' ' || c = '\t' || c = '\n' || c = '\r'

/-- The text without spaces at its start. -/
def skipSpaces (cs : List Char) : List Char :=
  cs.dropWhile isSpace

/-! ## Numbers -/

/-- A number and the text after it, or none where there is no number. -/
abbrev Read (α : Type) := Option (α × List Char)

/-- Digits as far as they fit 64 bits, their number, how many there were, and the rest. A digit
that does not fit ends the significand; it and all later ones are only counted. -/
def takeDigits : List Char → Nat → Nat → Bool → Nat × Nat × Nat × List Char
  | [], significand, kept, _ => (significand, kept, 0, [])
  | c :: cs, significand, kept, full =>
    if c.isDigit then
      let longer := 10 * significand + (c.toNat - '0'.toNat)
      if full || 0x10000000000000000 ≤ longer then
        let (s, k, dropped, rest) := takeDigits cs significand kept true
        (s, k, dropped + 1, rest)
      else takeDigits cs longer (kept + 1) false
    else (significand, kept, 0, c :: cs)

/-- The double of a significand and a power of ten, in double arithmetic: the rounded significand
times or divided by the rounded power. Below `10 ^ -308` it is divided in two steps or more. -/
def scaleByTen (significand : Nat) (power : Int) : Option Double :=
  let start := Double.ofInt significand
  match power with
  | .ofNat n =>
    if n ≤ 308 then
      let x := start.timesMagnitude (Double.ofScientific false 1 n)
      if x.isFinite then some x else none
    else if significand = 0 then some start
    else none
  | .negSucc n =>
    if significand = 0 then some start
    else
      let step := Double.ofScientific false 1 308
      let whole := n / 308
      let rounds := min whole 3
      let shrunk := (List.replicate rounds step).foldl Double.overMagnitude start
      some (shrunk.overMagnitude (Double.ofScientific false 1 (n + 1 - 308 * whole)))

/-- An optional sign and digits, as the exponent after the letter. -/
def readPower (cs : List Char) : Read Int :=
  let (negative, cs) :=
    match cs with
    | '+' :: r => (false, r)
    | '-' :: r => (true, r)
    | r => (false, r)
  let digits := cs.takeWhile Char.isDigit
  if digits.isEmpty then none
  else
    let n : Int := Numeral.digitsToNat digits
    some (if negative then -n else n, cs.dropWhile Char.isDigit)

/-- The double that a significand with a point or an exponent is, its sign applied. -/
def readScaled (negative : Bool) (significand : Nat) (power : Int) (cs : List Char) : Read Json :=
  let finish (power : Int) (rest : List Char) : Read Json :=
    (scaleByTen significand power).map fun x => (float (if negative then x.negate else x), rest)
  match cs with
  | 'e' :: r => (readPower r).bind fun (p, rest) => finish (power + p) rest
  | 'E' :: r => (readPower r).bind fun (p, rest) => finish (power + p) rest
  | _ => finish power cs

/-- The number after its sign. -/
def readUnsigned (negative : Bool) (cs : List Char) : Read Json :=
  let digits := cs.takeWhile Char.isDigit
  if digits.isEmpty || (digits.head? = some '0' && 1 < digits.length) then none
  else
    let (significand, _, dropped, rest) := takeDigits cs 0 0 false
    match rest with
    | '.' :: r =>
      if (r.takeWhile Char.isDigit).isEmpty then none
      else
        let (significand, places, _, rest) := takeDigits r significand 0 false
        readScaled negative significand ((dropped : Int) - places) rest
    | _ =>
      if rest.head? = some 'e' || rest.head? = some 'E' || dropped ≠ 0 then
        readScaled negative significand dropped rest
      else
        let i : Int := if negative then -(significand : Int) else significand
        match int64? i with
        | some word =>
          if negative && significand = 0 then some (float (Double.zero true), rest)
          else some (integer word, rest)
        | none =>
          if negative then some (float (Double.ofInt i), rest)
          else some (natural (UInt64.ofNat significand), rest)

/-- A number. -/
def readNumber : List Char → Read Json
  | '-' :: cs => readUnsigned true cs
  | cs => readUnsigned false cs

/-! ## Strings -/

/-- The value of a hexadecimal digit. -/
def hexDigit? (c : Char) : Option Nat :=
  if c.isDigit then some (c.toNat - '0'.toNat)
  else if 'a' ≤ c ∧ c ≤ 'f' then some (c.toNat - 'a'.toNat + 10)
  else if 'A' ≤ c ∧ c ≤ 'F' then some (c.toNat - 'A'.toNat + 10)
  else none

/-- The number that four hexadecimal digits write. -/
def hexQuad? (a b c d : Char) : Option Nat := do
  return (((← hexDigit? a) * 16 + (← hexDigit? b)) * 16 + (← hexDigit? c)) * 16 + (← hexDigit? d)

/-- The character that a backslash and this letter stand for. -/
def simpleEscape? : Char → Option Char
  | '"' => some '"'
  | '\\' => some '\\'
  | '/' => some '/'
  | 'b' => some '\x08'
  | 'f' => some '\x0c'
  | 'n' => some '\n'
  | 'r' => some '\r'
  | 't' => some '\t'
  | _ => none

/-- The character of a surrogate pair. -/
def pairChar? (high low : Nat) : Option Char :=
  if 0xD800 ≤ high ∧ high < 0xDC00 ∧ 0xDC00 ≤ low ∧ low < 0xE000 then
    some (Char.ofNat (0x10000 + (high - 0xD800) * 0x400 + (low - 0xDC00)))
  else none

/-- The character that the text after a backslash begins with: a letter, or `u` with four digits,
for a surrogate followed by the escape of its partner. -/
def readEscape : List Char → Read Char
  | 'u' :: a :: b :: c :: d :: rest =>
    (hexQuad? a b c d).bind fun n =>
      if n < 0xD800 ∨ 0xE000 ≤ n then some (Char.ofNat n, rest)
      else
        match rest with
        | '\\' :: 'u' :: e :: f :: g :: h :: rest =>
          (hexQuad? e f g h).bind fun low => (pairChar? n low).map fun x => (x, rest)
        | _ => none
  | c :: rest => (simpleEscape? c).map fun x => (x, rest)
  | [] => none

theorem readEscape_shorter {cs rest : List Char} {x : Char} (h : readEscape cs = some (x, rest)) :
    rest.length < cs.length := by
  unfold readEscape at h
  split at h
  · rw [Option.bind_eq_some_iff] at h
    obtain ⟨n, -, h⟩ := h
    split at h
    · simp only [Option.some.injEq, Prod.mk.injEq] at h
      simp [← h.2]; omega
    · split at h
      · rw [Option.bind_eq_some_iff] at h
        obtain ⟨low, -, h⟩ := h
        simp only [Option.map_eq_some_iff, Prod.mk.injEq] at h
        obtain ⟨_, -, -, rfl⟩ := h
        simp only [List.length_cons]; omega
      · simp at h
  · simp only [Option.map_eq_some_iff, Prod.mk.injEq] at h
    obtain ⟨_, -, -, rfl⟩ := h
    simp
  · simp at h

/-- The characters of a string up to its closing quote. -/
def readChars : List Char → Read (List Char)
  | [] => none
  | c :: cs =>
    if c = '"' then some ([], cs)
    else if c = '\\' then
      match h : readEscape cs with
      | none => none
      | some (x, rest) =>
        have : rest.length ≤ cs.length := Nat.le_of_lt (readEscape_shorter h)
        (readChars rest).map fun (xs, rest) => (x :: xs, rest)
    else if c.toNat < 0x20 then none
    else (readChars cs).map fun (xs, rest) => (c :: xs, rest)
termination_by cs => cs.length

/-! ## Documents -/

/-- The items of an array after its bracket, each read by `item`. The first argument bounds their
number. -/
def readItems (item : List Char → Read Json) : Nat → List Char → Read (List Json)
  | 0, _ => none
  | bound + 1, cs =>
    (item (skipSpaces cs)).bind fun (doc, rest) =>
      match skipSpaces rest with
      | ',' :: r => (readItems item bound r).map fun (docs, r) => (doc :: docs, r)
      | ']' :: r => some ([doc], r)
      | _ => none

/-- The members of an object after its brace, each document read by `item`. The first argument
bounds their number. -/
def readMembers (item : List Char → Read Json) : Nat → List Char → Read (List (String × Json))
  | 0, _ => none
  | bound + 1, cs =>
    match skipSpaces cs with
    | '"' :: r =>
      (readChars r).bind fun (key, r) =>
        match skipSpaces r with
        | ':' :: r =>
          (item (skipSpaces r)).bind fun (doc, r) =>
            match skipSpaces r with
            | ',' :: r =>
              (readMembers item bound r).map fun (more, r) => ((String.ofList key, doc) :: more, r)
            | '}' :: r => some ([(String.ofList key, doc)], r)
            | _ => none
        | _ => none
    | _ => none

/-- A word and the document it stands for. -/
def readWord (word : String) (doc : Json) (cs : List Char) : Read Json :=
  (Text.afterStart? word.toList cs).map fun rest => (doc, rest)

/-- A document whose containers nest at most so deep. -/
def readDocument : Nat → List Char → Read Json
  | depth, cs =>
    match cs with
    | 'n' :: _ => readWord "null" null cs
    | 't' :: _ => readWord "true" (boolean true) cs
    | 'f' :: _ => readWord "false" (boolean false) cs
    | '"' :: r => (readChars r).map fun (s, rest) => (string (String.ofList s), rest)
    | '[' :: r =>
      match depth with
      | 0 => none
      | inner + 1 =>
        match skipSpaces r with
        | ']' :: rest => some (array [], rest)
        | _ =>
          (readItems (readDocument inner) r.length r).map fun (docs, rest) => (array docs, rest)
    | '\x7b' :: r =>
      match depth with
      | 0 => none
      | inner + 1 =>
        match skipSpaces r with
        | '\x7d' :: rest => some (object [], rest)
        | _ =>
          (readMembers (readDocument inner) r.length r).map fun (entries, rest) =>
            (object (entries.foldl (fun ms (k, d) => putMember ms k d) []), rest)
    | _ => readNumber cs

/-- The deepest nesting that is read. -/
def maxDepth : Nat := 127

/-- The document that a text is, spaces around it aside. -/
def parse? (cs : List Char) : Option Json :=
  (readDocument maxDepth (skipSpaces cs)).bind fun (doc, rest) =>
    if (skipSpaces rest).isEmpty then some doc else none

end RouteExpr.Json
