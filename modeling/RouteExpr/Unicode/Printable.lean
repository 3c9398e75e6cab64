/-
The characters that show by themselves, for Unicode version 17.0.

These are the letters, digits, punctuation marks and symbols, the marks that do not extend the
character before them, and the space. Control and format characters, private use, what is not
assigned, and separators other than the space are left out.
-/
import RouteExpr.Unicode.Ranges

namespace RouteExpr.Unicode

/-! ## Table -/

/-- The characters that show by themselves. -/
def printableCharacters : Ranges := Ranges.decode <|
  "20-5e 22-b 1-251 70-7 2-5 4-6 1 1-13 1-df 7-a5 1-25 2-31 2-2 2e 1 2 2 9-1a 4-5 11-9 b 1-2d " ++
  "15-f 1-64 8 6-1 2 4-1f 2 1-1d 1d-58 b e-2a 9-6 3-17 4 9 3 7-e 1-18 5 1-a 5-1f 10-29 39-36 " ++
  "1 1-3 8-3 1-2 7-9 2-1c 1-1 1-7 2-1 2-15 1-6 1 3-3 3 1-1 6-1 2-1 1 d-1 1-2 4-17 5 1-5 4-1 " ++
  "2-15 1-6 1-1 1-1 1-1 4-2 18-3 1 7-9 2-2 1 c 1-8 1-2 1-15 1-6 1-1 1-4 3-3 8 1-1 3 f-1 4-b 7 " ++
  "8-1 1-7 2-1 2-15 1-6 1-1 1-4 3 2 6-1 2-1 f-1 1-2 4-11 b 1-5 3-2 1-3 3-1 1 1-1 3-1 3-2 3-b " ++
  "5 1-1 3-2 1-2 3 15-14 6-2 1-7 1-2 1-16 1-f 3 3-3 13-2 1-1 2-1 4-9 7-9 1-a 1-2 1-16 1-9 1-4 " ++
  "3-1 2 1-1 17-2 1-1 4-9 1-2 e-a 1-2 1-28 2 1-1 5-2 1-2 1-1 4-2 1-9 4-19 2-1 1-11 3-17 1-8 1 " ++
  "2-6 9-1 6-6 7-9 2-2 c-2f 1-1 b-7 8-c 25-1 1 1-4 1-17 1 1-9 1-1 9 2-4 1 9-9 2-3 20-17 2-1a " ++
  "1 1 1-d 1-23 12 5 2-4 31-7 1-5 1-c 25-2c 4 6 2-1 2-18 2-3 3-f 4-c 1-1 2-5 1-e 1-27 1 5 " ++
  "2-178 1-3 2-6 1 1-3 2-28 1-3 2-20 1-3 2-6 1 1-3 2-e 1-38 1-3 2-42 5-1c 3-19 6-55 2-5 2-27f " ++
  "1-1b 3-58 7-11 d-12 3-1 9-11 e-c 1-2 f-33 2 7-7 1-1 b-8 3-9 6-9 6-a 5-9 6-58 7-4 2-21 1 " ++
  "5-45 a-1e 4-3 2-2 4-1 1-5 7 3-29 2-4 b-2b 4-19 6-a 3-38 2-1 3-37 1 9 1-1 8-5 d-9 6-9 6-d " ++
  "56-2f a-3 3-7 1-1c 9-b 2-1f 4-1 6-37 1 2-2 1 d-2f 8-1 5-e 3-3d 5-2a 2-a b d 7-3 1-5 1-2 2 " ++
  "5-bf 40-115 2-5 2-25 2-5 2-7 1 1 1 1-1e 2-34 1-e 1-d 2-5 1-12 2-2 1-8 11-17 8-2e 11-1 2-1a " ++
  "1-c 3-21 3e-8b 4-299 16-a 15-713 2-178 3-1 5-2c 1 5 2-37 7-1 f-16 9-6 1-6 1-6 1-6 1-6 1-6 " ++
  "1-6 1-6 21-5d 22-19 1-58 c-d5 1a-f 1-28 6-f 1-55 4-64 5-2a 1-5d 1-55 9-2f 1-726c 3-36 " ++
  "9-15b 14-2e 4 a-1f 2-4f 2-5 8-dc 14-10 1-2 1-3 1-18 2-4 4-9 6-37 8-43 a-b 18-c 1-25 8-18 b " ++
  "c-1d 6-2f 1-1 4-1 2-1 1-c 1-a 4-6 1-18 1-28 6-1 2-1 b-2 1-7 1 2-9 2-1f 1-32 1 3-1 2-4 2 1 " ++
  "18-10 2-7 b-5 2-5 2-5 9-6 1-6 1-3b 4-74 1-1 1-3 3-9 6-2ba3 c-16 4-30 2104-16d 2-69 26-6 " ++
  "c-4 5 1-17 1-4 1 1-1 1-1 1-289 20-f 10-9 16-22 1-12 1-3 4-4 1-86 4-9c 2-1e 3-5 2-5 2-5 2-2 " ++
  "3-6 1-6 d-1 2-b 1-19 1-12 1-1 1-e 2-d 22-7a 5-2 4-2c 3-57 1-c 3 2f-2c 83-1c 3-30 10-1a " ++
  "4-23 9-1d 5-25 a-1d 1-24 4-d 2a-9d 2-9 6-23 4-23 4-27 8-33 b-b 1-e 1-6 1-1 1-a 1-e 1-6 1-1 " ++
  "3-33 c-136 9-15 a-7 18-5 1-29 1-8 45-5 2 1-2b 1-1 3 2-16 1-47 8-8 30-12 1-1 5-20 3-1a 5-1a " ++
  "26-37 4-13 2-2e f-3 1-2 1-1c a-8 7-8 7-3f 20-24 6-b 9-35 3-1c 2-1a 5-19 7-3 c-6 50-48 " ++
  "37-32 d-32 7-29 c-9 6-25 8-17 8-1 d0-1e 1-29 3 2-1 10-5 8-8 27-27 8-15 b-8 16-11 4-3 26-1b " ++
  "14-16 9 1-35 f-6 4-1d 1-1 2 c-30 4-1 2-1 1-3 e-18 7-9 9-23 5 9-11 8-22 1-2 b-33 9 1-7 4-1 " ++
  "1-f 1-13 b-11 1-1b 3-1 4-5 1-1 3f-6 1 1-3 1-e 1-a 6-2e 1-2 d-9 8-1 1-7 2-1 2-15 1-6 1-1 " ++
  "1-4 3 1 1-3 2-1 2-1 3 c-6 1c-9 1 2 1-25 1 1-1 f 1-1 3 1-2 1-1 27-37 8-1 3 1-14 1 1-2 1e-2f " ++
  "1-1 6 1-1 1 2 2-3 8-9 a6-2e 1-1 6-3 2 2-1a 24-32 8-1 1 2-3 b-9 6-c 13-2a 1 1-1 8-1 6-9 " ++
  "6-13 1c-1a 3 1-1 4 9-16 b9-2e 9 2 64-52 c-7 2 2-7 1-1 1-17 1-4 1-1 6-3 1-2 9-9 46-7 2-29 " ++
  "8-3 1-3 1b a-27 6-1 4-7 9 6-1 3-2d d 2-8 d-48 7-9 57 3 1 58-21 e-9 6-8 1-25 e 1-5 a-1c " ++
  "3-1f 19 7 2 4b-6 1-1 1-25 15 9-9 6-5 1-1 1-24 4-1 1 1 7-9 6-2b 4-9 f6-12 2-3 9-e 1-23 8-1 " ++
  "3-16 56 f-31 d-39a 66-6e 1-4 b-c3 a4c-62 d-42f 11-5 19-f9a 5-246 1ab9-1d c-2 3-9 6c6-238 " ++
  "7-1e 1-9 4-50 1-9 6-1d 7 a-2f 7-e a-9 1-6 1-14 5-12 1b0-39 c6-5a 5-18 2-18 2c-4a 5-37 b-c " ++
  "40-3 e-4 9-1cd5 29-1f 61-72 21fd-3 1-6 1-1 1-122 f 1d-2 2 e-3 8-18b 904-6a 5-c 3-8 7-9 2 2 " ++
  "f60-fc 3-1b3 6-16 f-10 5f-73 3c-f5 a-26 2-3b 5-2 16-1 7-1d 4-3c 15-41 3 7a-13 c-13 c-56 " ++
  "9-18 87-54 1-46 1-1 2 2-1 2-3 1-b 1 1-6 1-40 1-3 2-7 1-6 1-1b 1-3 1-4 1 3-6 1-153 2-123 " ++
  "2-231 37-3 32-7 1-d 1-6 474-1e 6-5 105-3d 92-2c a-6 2-9 4-1 140-1d 12-2b 4-9 5 1d0-1b 4-9 " ++
  "d6-1d 2-a 4 c0-1e 1-2 1-1 1-6 2-4 9-1 e0-6 1-3 1-1 1-e 1-c4 2-8 30-43 7 4-9 4-1 311-43 " ++
  "4c-3c c2-3 1-1a 1-1 1 2 1-9 1-3 1 1 6 4 1 1 1-2 1-1 1 2 1 1 1 1 1-1 1 2-3 1-6 1-3 1-3 1 " ++
  "1-9 1-10 5-2 1-4 1-10 34-1 10e-2b 4-63 c-e 2-e 1-e 1-24 a-ad 38-1c d-2b 4-8 7-1 e-5 9a-3d8 " ++
  "3-10 3-c 3-d9 6-b 4 f-b 4-37 8-9 6-27 8-1d 2-b 4-1 e-8 27-157 8-d 2-c 3-a 3-38 1 4-f 2-b " ++
  "4-9 7-92 1-66 405-a6df 20-111d 2-168d 2-1d30 f-26d 9a2-21d 5e2-134a 5-2129"

/-! ## Printing -/

/-- Whether a character shows by itself. -/
def isPrintable (c : Char) : Bool := printableCharacters.has c.toNat

end RouteExpr.Unicode
