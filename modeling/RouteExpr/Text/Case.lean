/-
Texts in lower and upper case, by the full case mapping of Unicode.

Each character is mapped for itself, with one exception: a capital sigma becomes a final sigma at
the end of a word, that is after a letter with case and not before one, whatever is between that
takes no part in case.
-/
import RouteExpr.Unicode.Case

namespace RouteExpr.Text

/-! ## Final sigma -/

/-- Whether the first character of a text that takes part in case has case. -/
def startsCased (cs : List Char) : Bool :=
  match cs.dropWhile Unicode.isCaseIgnored with
  | c :: _ => Unicode.isCased c
  | [] => false

/-- The lower case of a capital sigma between the text before it, read backwards, and the text
after it. -/
def lowerSigma (before after : List Char) : Char :=
  if startsCased before && !startsCased after then 'ς' else 'σ'

/-! ## Mapping texts -/

/-- The lower case of a text that follows `before`, read backwards. -/
def lowerAfter (before : List Char) : List Char → List Char
  | [] => []
  | c :: cs =>
    (if c = 'Σ' then [lowerSigma before cs] else Unicode.lowercase c) ++ lowerAfter (c :: before) cs

/-- A text in lower case. -/
def lower (s : String) : String :=
  String.ofList (lowerAfter [] s.toList)

/-- A text in upper case. -/
def upper (s : String) : String :=
  String.ofList (s.toList.flatMap Unicode.uppercase)

end RouteExpr.Text
