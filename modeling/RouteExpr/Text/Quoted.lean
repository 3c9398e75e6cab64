/-
Texts in double quotes, in which every character shows.

Quotes and backslashes stand after a backslash, so do the letters for the common control characters;
all else that does not print, or would attach itself to the character before it, is written by its
number in braces.
-/
import RouteExpr.Unicode.Printable

namespace RouteExpr.Text

/-! ## Quoting -/

/-- A number in lower case hexadecimal digits. -/
def hexDigits (n : Nat) : List Char :=
  Nat.toDigits 16 n

/-- A character as it stands between quotes. -/
def quoteChar (c : Char) : List Char :=
  match c with
  | '\x00' => ['\\', '0']
  | '\t' => ['\\', 't']
  | '\r' => ['\\', 'r']
  | '\n' => ['\\', 'n']
  | '\\' => ['\\', '\\']
  | '"' => ['\\', '"']
  | c =>
    if Unicode.isPrintable c then [c] else ['\\', 'u', '\x7b'] ++ hexDigits c.toNat ++ ['\x7d']

/-- A text in quotes. -/
def quoted (s : String) : String :=
  String.ofList ('"' :: (s.toList.flatMap quoteChar ++ ['"']))

end RouteExpr.Text
