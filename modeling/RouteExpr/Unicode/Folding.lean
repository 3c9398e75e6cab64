/-
Simple case folding of Unicode characters, version 16.0: which characters differ in case alone.

Most such groups are pairs; the others are listed one by one. A group lists all its members, so
being equal but for case is an equivalence.
-/
import RouteExpr.Unicode.Ranges

namespace RouteExpr.Unicode

/-! ## Tables -/

/-- The pairs of characters that differ in case alone, from the lower to the higher. -/
def foldingPairs : List Shift := Shift.decode <|
  "41*a+20 4c*7+20 54*7+20 c0*5+20 c6*11+20 d8*7+20 df+1dbf ff+79 100*18/2+1 132*3/2+1 " ++
  "139*8/2+1 14a*17/2+1 179*3/2+1 180+c3 181+d2 182*2/2+1 186+ce 187+1 189*2+cd 18b+1 18e+4f " ++
  "18f+ca 190+cb 191+1 193+cd 194+cf 195+61 196+d3 197+d1 198+1 19a+a3 19b+a641 19c+d3 19d+d5 " ++
  "19e+82 19f+d6 1a0*3/2+1 1a6+da 1a7+1 1a9+da 1ac+1 1ae+da 1af+1 1b1*2+d9 1b3*2/2+1 1b7+db " ++
  "1b8+1 1bc+1 1bf+38 1cd*8/2+1 1de*9/2+1 1f4+1 1f8*14/2+1 222*9/2+1 23a+2a2b 23b+1 23e+2a28 " ++
  "23f*2+2a3f 241+1 244+45 245+47 246*5/2+1 250+2a1f 251+2a1c 252+2a1e 25c+a54f 261+a54b " ++
  "264+a567 265+a528 266+a544 26a+a544 26b+29f7 26c+a541 271+29fd 27d+29e7 282+a543 287+a52a " ++
  "29d+a515 29e+a512 370*2/2+1 376+1 37b*3+82 37f+74 386+26 388*3+25 38c+40 38e*2+3f 390+1c43 " ++
  "391*2/2+20 394*2/2+20 397+20 39b*2/2+20 39e*2+20 3a4*2+20 3a7*2+20 3aa*2+20 3b0+1c33 3cf+8 " ++
  "3d8*c/2+1 3f2+7 3f7+1 3fa+1 400*10+50 410*2+20 413*2/2+20 416*8+20 41f*2+20 423*7+20 " ++
  "42b*5+20 460+1 464*f/2+1 48a*1b/2+1 4c0+f 4c1*7/2+1 4d0*30/2+1 531*26+30 10a0*26+1c60 " ++
  "10c7+1c60 10cd+1c60 10d0*2b+bc0 10fd*3+bc0 13a0*50+97d0 13f0*6+8 1c89+1 1d79+8a04 1d7d+ee6 " ++
  "1d8e+8a38 1e00*30/2+1 1e62*1a/2+1 1ea0*30/2+1 1f00*8+8 1f10*6+8 1f20*8+8 1f30*8+8 1f40*6+8 " ++
  "1f51*4/2+8 1f60*8+8 1f70*2+4a 1f72*4+56 1f76*2+64 1f78*2+80 1f7a*2+70 1f7c*2+7e 1f80*8+8 " ++
  "1f90*8+8 1fa0*8+8 1fb0*2+8 1fb3+9 1fc3+9 1fd0*2+8 1fe0*2+8 1fe5+7 1ff3+9 2132+1c " ++
  "2160*10+10 2183+1 24b6*1a+1a 2c00*30+30 2c60+1 2c67*3/2+1 2c72+1 2c75+1 2c80*32/2+1 " ++
  "2ceb*2/2+1 2cf2+1 a640*5/2+1 a64c*11/2+1 a680*e/2+1 a722*7/2+1 a732*1f/2+1 a779*2/2+1 " ++
  "a77e*5/2+1 a78b+1 a790*2/2+1 a794+30 a796*a/2+1 a7b3+3a0 a7b4*8/2+1 a7c7*2/2+1 a7cc+1 " ++
  "a7d0+1 a7d6*3/2+1 a7f5+1 fb05+1 ff21*1a+20 10400*28+28 104b0*24+28 10570*b+27 1057c*f+27 " ++
  "1058c*7+27 10594*2+27 10c80*33+40 10d50*16+20 118a0*20+20 16e40*20+20 1e900*22+22"

/-- The groups of three or more characters that differ in case alone. -/
def foldingGroups : List (Nat × List Nat) := Expansion.decode <|
  "4b,6b,212a 53,73,17f b5,39c,3bc c5,e5,212b 1c4,1c5,1c6 1c7,1c8,1c9 1ca,1cb,1cc 1f1,1f2,1f3 " ++
  "345,399,3b9,1fbe 392,3b2,3d0 395,3b5,3f5 398,3b8,3d1,3f4 39a,3ba,3f0 3a0,3c0,3d6 " ++
  "3a1,3c1,3f1 3a3,3c2,3c3 3a6,3c6,3d5 3a9,3c9,2126 412,432,1c80 414,434,1c81 41e,43e,1c82 " ++
  "421,441,1c83 422,442,1c84,1c85 42a,44a,1c86 462,463,1c87 1c88,a64a,a64b 1e60,1e61,1e9b"

/-! ## Characters equal but for case -/

/-- The characters that a character equals but for case, itself left out. -/
def caseVariants (c : Char) : List Char :=
  match foldingGroups.find? fun group => group.1 == c.toNat || group.2.contains c.toNat with
  | some (first, others) => ((first :: others).filter (· != c.toNat)).map Char.ofNat
  | none =>
    match Shift.target? foldingPairs c, Shift.source? foldingPairs c with
    | some d, _ => [d]
    | none, some d => [d]
    | none, none => []

/-- The same among the characters of ASCII alone. -/
def asciiCaseVariants (c : Char) : List Char :=
  if c.isUpper then [c.toLower] else if c.isLower then [c.toUpper] else []

/-! ## Ranges with the characters equal but for case -/

/-- Where a shift takes the numbers of a range. -/
def Shift.images (s : Shift) (low high : Nat) : List Nat :=
  let skipped := (low - s.first + s.step - 1) / s.step
  let last := s.first + s.step * (s.count - 1)
  if last < low ∨ high < s.first then []
  else
    (List.range ((min high last - s.first) / s.step + 1 - skipped)).map fun i =>
      ((s.first + s.step * (skipped + i) : Nat) + s.delta).toNat

/-- The shift that goes the other way. -/
def Shift.inverse (s : Shift) : Shift :=
  ⟨(s.first + s.delta).toNat, s.count, s.step, -s.delta⟩

/-- The characters of ranges with all that equal one of them but for case. -/
def foldRanges (r : Ranges) : Ranges :=
  let both := foldingPairs ++ foldingPairs.map Shift.inverse
  let moved := r.flatMap fun (a, b) => both.flatMap fun s => s.images a b
  let grouped := foldingGroups.flatMap fun (first, others) =>
    if (first :: others).any r.has then first :: others else []
  r.union (Ranges.sorted ((moved ++ grouped).map fun n => (n, n)))

/-- The same among the characters of ASCII alone. -/
def foldRangesAscii (r : Ranges) : Ranges :=
  let capitals : Shift := ⟨0x41, 26, 1, 0x20⟩
  let moved := r.flatMap fun (a, b) => capitals.images a b ++ capitals.inverse.images a b
  r.union (Ranges.sorted (moved.map fun n => (n, n)))

end RouteExpr.Unicode
