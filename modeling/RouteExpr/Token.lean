/-
Tokens: the pieces that a text is cut into.

A token keeps its meaningful text, the characters around it that delimit it are known from its kind,
and both together are the characters it was cut from. So the tokens of a text, one after another,
are the text.
-/
import RouteExpr.Fault
import RouteExpr.Operator

namespace RouteExpr

/-! ## Markers -/

/-- What opens a placeholder. -/
inductive Marker where
  | short
  | long
  deriving DecidableEq, Repr

/-- The characters of a marker. -/
def Marker.chars : Marker → List Char
  | .short => ['$', '\x7b']
  | .long => ['$', 's', 'i', 'm', 'p', 'l', 'e', '\x7b']

/-! ## Tokens -/

/-- The kinds of tokens. -/
inductive Token.Kind where
  /-- Plain text, or a bare word of a predicate. -/
  | literal
  /-- A placeholder with everything up to its closing brace. -/
  | placeholder (marker : Marker)
  /-- A closing brace that closes nothing. -/
  | closingBrace
  | quoted (quote : Quote)
  | operator (op : Operator)
  | connective (c : Connective)
  /-- A suffix right after a placeholder. -/
  | suffix (step : Step)
  | blank
  | openParen
  | closeParen
  | comma
  | eof
  deriving DecidableEq, Repr

namespace Token.Kind

/-- The characters that delimit the text of a token at its start. -/
def opening : Token.Kind → List Char
  | placeholder marker => marker.chars
  | quoted quote => [quote.toChar]
  | _ => []

/-- The characters that delimit the text of a token at its end. -/
def closing : Token.Kind → List Char
  | placeholder _ => ['\x7d']
  | quoted quote => [quote.toChar]
  | _ => []

/-- Whether a token of this kind is a placeholder. -/
def isPlaceholder : Token.Kind → Bool
  | placeholder _ => true
  | _ => false

/-- Whether a token of this kind is text: a bare word or a quoted text. -/
def isText : Token.Kind → Bool
  | literal => true
  | quoted _ => true
  | _ => false

end Token.Kind

/-- A token at an offset into the source. -/
structure Token where
  kind : Token.Kind
  /-- The text between the delimiters. -/
  text : List Char
  /-- The offset of the first character. -/
  start : Nat
  deriving DecidableEq, Repr

namespace Token

/-- The characters that the token was cut from. -/
def raw (t : Token) : List Char :=
  t.kind.opening ++ t.text ++ t.kind.closing

/-- How many characters the token was cut from. -/
def length (t : Token) : Nat :=
  t.raw.length

/-- The offset after the last character. -/
def stop (t : Token) : Nat :=
  t.start + t.length

/-- The offset of the text between the delimiters. -/
def textStart (t : Token) : Nat :=
  t.start + t.kind.opening.length

/-- Where a fault that this token causes is reported: past its first character if it is plain text,
else past the whole token. -/
def faultOffset (t : Token) : Nat :=
  if t.kind = .literal ∧ 0 < t.length then t.start + 1 else t.stop

/-- Whether the token is a run of blanks. -/
def isBlank (t : Token) : Bool :=
  t.kind = .blank

end Token

end RouteExpr
