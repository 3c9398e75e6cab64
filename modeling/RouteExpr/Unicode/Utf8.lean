/-
The bytes by which UTF-8 writes characters, and those that write ranges of characters.

A range of characters is cut into ranges so that in each, the characters are those whose first byte
is in one range of bytes, whose second byte is in another, and so on.
-/
import RouteExpr.Unicode.Ranges

namespace RouteExpr.Unicode

/-! ## Characters -/

/-- The bytes of the character with a number. -/
def utf8 (n : Nat) : List Nat :=
  if n < 0x80 then [n]
  else if n < 0x800 then [0xC0 + n / 0x40, 0x80 + n % 0x40]
  else if n < 0x10000 then [0xE0 + n / 0x1000, 0x80 + n / 0x40 % 0x40, 0x80 + n % 0x40]
  else
    [0xF0 + n / 0x40000, 0x80 + n / 0x1000 % 0x40, 0x80 + n / 0x40 % 0x40, 0x80 + n % 0x40]

/-! ## Ranges of characters -/

/-- A range of numbers, cut so that each part stays in one block of `size` numbers or is made of
whole blocks, and the latter again for blocks of 64 times the size, so many times. -/
def blocks : Nat → Nat → Nat → Nat → Ranges
  | 0, _, low, high => [(low, high)]
  | n + 1, size, low, high =>
    if low / size = high / size then [(low, high)]
    else
      let start := (low + size - 1) / size * size
      let stop := (high + 1) / size * size
      (if low < start then [(low, start - 1)] else []) ++
        (if start < stop then blocks n (0x40 * size) start (stop - 1) else []) ++
        (if stop ≤ high then [(stop, high)] else [])

/-- The least and the greatest character with so many bytes after the first. -/
def utf8Lengths : List (Nat × Nat × Nat) :=
  [(0, 0x7F, 0), (0x80, 0x7FF, 1), (0x800, 0xFFFF, 2), (0x10000, 0x10FFFF, 3)]

/-- The ranges of bytes, one after another, that write the characters of ranges. -/
def utf8Sequences (r : Ranges) : List (List (Nat × Nat)) :=
  r.flatMap fun (low, high) =>
    utf8Lengths.flatMap fun (least, greatest, more) =>
      let first := max low least
      let last := min high greatest
      if first ≤ last then
        (blocks more 0x40 first last).map fun (a, b) => (utf8 a).zip (utf8 b)
      else []

end RouteExpr.Unicode
