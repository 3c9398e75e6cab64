/-
Upper and lower case of Unicode characters, version 17.0.

A character has at most one lower case, except one that has two characters; some have an upper case
of two or three characters. Whether a capital sigma becomes a final one depends on its neighbours
and is decided where texts are mapped.
-/
import RouteExpr.Unicode.Ranges

namespace RouteExpr.Unicode

/-! ## Tables -/

/-- The characters whose lower case is one other character. -/
def lowercaseShifts : List Shift := Shift.decode <|
  "41*1a+20 c0*17+20 d8*7+20 100*18/2+1 132*3/2+1 139*8/2+1 14a*17/2+1 178-79 179*3/2+1 " ++
  "181+d2 182*2/2+1 186+ce 187+1 189*2+cd 18b+1 18e+4f 18f+ca 190+cb 191+1 193+cd 194+cf " ++
  "196+d3 197+d1 198+1 19c+d3 19d+d5 19f+d6 1a0*3/2+1 1a6+da 1a7+1 1a9+da 1ac+1 1ae+da 1af+1 " ++
  "1b1*2+d9 1b3*2/2+1 1b7+db 1b8+1 1bc+1 1c4+2 1c5+1 1c7+2 1c8+1 1ca+2 1cb*9/2+1 1de*9/2+1 " ++
  "1f1+2 1f2*2/2+1 1f6-61 1f7-38 1f8*14/2+1 220-82 222*9/2+1 23a+2a2b 23b+1 23d-a3 23e+2a28 " ++
  "241+1 243-c3 244+45 245+47 246*5/2+1 370*2/2+1 376+1 37f+74 386+26 388*3+25 38c+40 " ++
  "38e*2+3f 391*11+20 3a3*9+20 3cf+8 3d8*c/2+1 3f4-3c 3f7+1 3f9-7 3fa+1 3fd*3-82 400*10+50 " ++
  "410*20+20 460*11/2+1 48a*1b/2+1 4c0+f 4c1*7/2+1 4d0*30/2+1 531*26+30 10a0*26+1c60 " ++
  "10c7+1c60 10cd+1c60 13a0*50+97d0 13f0*6+8 1c89+1 1c90*2b-bc0 1cbd*3-bc0 1e00*4b/2+1 " ++
  "1e9e-1dbf 1ea0*30/2+1 1f08*8-8 1f18*6-8 1f28*8-8 1f38*8-8 1f48*6-8 1f59*4/2-8 1f68*8-8 " ++
  "1f88*8-8 1f98*8-8 1fa8*8-8 1fb8*2-8 1fba*2-4a 1fbc-9 1fc8*4-56 1fcc-9 1fd8*2-8 1fda*2-64 " ++
  "1fe8*2-8 1fea*2-70 1fec-7 1ff8*2-80 1ffa*2-7e 1ffc-9 2126-1d5d 212a-20bf 212b-2046 2132+1c " ++
  "2160*10+10 2183+1 24b6*1a+1a 2c00*30+30 2c60+1 2c62-29f7 2c63-ee6 2c64-29e7 2c67*3/2+1 " ++
  "2c6d-2a1c 2c6e-29fd 2c6f-2a1f 2c70-2a1e 2c72+1 2c75+1 2c7e*2-2a3f 2c80*32/2+1 2ceb*2/2+1 " ++
  "2cf2+1 a640*17/2+1 a680*e/2+1 a722*7/2+1 a732*1f/2+1 a779*2/2+1 a77d-8a04 a77e*5/2+1 " ++
  "a78b+1 a78d-a528 a790*2/2+1 a796*a/2+1 a7aa-a544 a7ab-a54f a7ac-a54b a7ad-a541 a7ae-a544 " ++
  "a7b0-a512 a7b1-a52a a7b2-a515 a7b3+3a0 a7b4*8/2+1 a7c4-30 a7c5-a543 a7c6-8a38 a7c7*2/2+1 " ++
  "a7cb-a567 a7cc*8/2+1 a7dc-a641 a7f5+1 ff21*1a+20 10400*28+28 104b0*24+28 10570*b+27 " ++
  "1057c*f+27 1058c*7+27 10594*2+27 10c80*33+40 10d50*16+20 118a0*20+20 16e40*20+20 " ++
  "16ea0*19+1b 1e900*22+22"

/-- The characters whose upper case is one other character. -/
def uppercaseShifts : List Shift := Shift.decode <|
  "61*1a-20 b5+2e7 e0*17-20 f8*7-20 ff+79 101*18/2-1 131-e8 133*3/2-1 13a*8/2-1 14b*17/2-1 " ++
  "17a*3/2-1 17f-12c 180+c3 183*2/2-1 188-1 18c-1 192-1 195+61 199-1 19a+a3 19b+a641 19e+82 " ++
  "1a1*3/2-1 1a8-1 1ad-1 1b0-1 1b4*2/2-1 1b9-1 1bd-1 1bf+38 1c5-1 1c6-2 1c8-1 1c9-2 1cb-1 " ++
  "1cc-2 1ce*8/2-1 1dd-4f 1df*9/2-1 1f2-1 1f3-2 1f5-1 1f9*14/2-1 223*9/2-1 23c-1 23f*2+2a3f " ++
  "242-1 247*5/2-1 250+2a1f 251+2a1c 252+2a1e 253-d2 254-ce 256*2-cd 259-ca 25b-cb 25c+a54f " ++
  "260-cd 261+a54b 263-cf 264+a567 265+a528 266+a544 268-d1 269-d3 26a+a544 26b+29f7 26c+a541 " ++
  "26f-d3 271+29fd 272-d5 275-d6 27d+29e7 280-da 282+a543 283-da 287+a52a 288-da 289-45 " ++
  "28a*2-d9 28c-47 292-db 29d+a515 29e+a512 345+54 371*2/2-1 377-1 37b*3+82 3ac-26 3ad*3-25 " ++
  "3b1*11-20 3c2-1f 3c3*9-20 3cc-40 3cd*2-3f 3d0-3e 3d1-39 3d5-2f 3d6-36 3d7-8 3d9*c/2-1 " ++
  "3f0-56 3f1-50 3f2+7 3f3-74 3f5-60 3f8-1 3fb-1 430*20-20 450*10-50 461*11/2-1 48b*1b/2-1 " ++
  "4c2*7/2-1 4cf-f 4d1*30/2-1 561*26-30 10d0*2b+bc0 10fd*3+bc0 13f8*6-8 1c80-186e 1c81-186d " ++
  "1c82-1864 1c83*2-1862 1c85-1863 1c86-185c 1c87-1825 1c88+89c2 1c8a-1 1d79+8a04 1d7d+ee6 " ++
  "1d8e+8a38 1e01*4b/2-1 1e9b-3b 1ea1*30/2-1 1f00*8+8 1f10*6+8 1f20*8+8 1f30*8+8 1f40*6+8 " ++
  "1f51*4/2+8 1f60*8+8 1f70*2+4a 1f72*4+56 1f76*2+64 1f78*2+80 1f7a*2+70 1f7c*2+7e 1fb0*2+8 " ++
  "1fbe-1c25 1fd0*2+8 1fe0*2+8 1fe5+7 214e-1c 2170*10-10 2184-1 24d0*1a-1a 2c30*30-30 2c61-1 " ++
  "2c65-2a2b 2c66-2a28 2c68*3/2-1 2c73-1 2c76-1 2c81*32/2-1 2cec*2/2-1 2cf3-1 2d00*26-1c60 " ++
  "2d27-1c60 2d2d-1c60 a641*17/2-1 a681*e/2-1 a723*7/2-1 a733*1f/2-1 a77a*2/2-1 a77f*5/2-1 " ++
  "a78c-1 a791*2/2-1 a794+30 a797*a/2-1 a7b5*8/2-1 a7c8*2/2-1 a7cd*8/2-1 a7f6-1 ab53-3a0 " ++
  "ab70*50-97d0 ff41*1a-20 10428*28-28 104d8*24-28 10597*b-27 105a3*f-27 105b3*7-27 " ++
  "105bb*2-27 10cc0*33-40 10d70*16-20 118c0*20-20 16e60*20-20 16ebb*19-1b 1e922*22-22"

/-- The characters whose upper case is more than one character, with that upper case. -/
def uppercaseExpansions : List (Nat × List Nat) := Expansion.decode <|
  "df,53,53 149,2bc,4e 1f0,4a,30c 390,399,308,301 3b0,3a5,308,301 587,535,552 1e96,48,331 " ++
  "1e97,54,308 1e98,57,30a 1e99,59,30a 1e9a,41,2be 1f50,3a5,313 1f52,3a5,313,300 " ++
  "1f54,3a5,313,301 1f56,3a5,313,342 1f80,1f08,399 1f81,1f09,399 1f82,1f0a,399 1f83,1f0b,399 " ++
  "1f84,1f0c,399 1f85,1f0d,399 1f86,1f0e,399 1f87,1f0f,399 1f88,1f08,399 1f89,1f09,399 " ++
  "1f8a,1f0a,399 1f8b,1f0b,399 1f8c,1f0c,399 1f8d,1f0d,399 1f8e,1f0e,399 1f8f,1f0f,399 " ++
  "1f90,1f28,399 1f91,1f29,399 1f92,1f2a,399 1f93,1f2b,399 1f94,1f2c,399 1f95,1f2d,399 " ++
  "1f96,1f2e,399 1f97,1f2f,399 1f98,1f28,399 1f99,1f29,399 1f9a,1f2a,399 1f9b,1f2b,399 " ++
  "1f9c,1f2c,399 1f9d,1f2d,399 1f9e,1f2e,399 1f9f,1f2f,399 1fa0,1f68,399 1fa1,1f69,399 " ++
  "1fa2,1f6a,399 1fa3,1f6b,399 1fa4,1f6c,399 1fa5,1f6d,399 1fa6,1f6e,399 1fa7,1f6f,399 " ++
  "1fa8,1f68,399 1fa9,1f69,399 1faa,1f6a,399 1fab,1f6b,399 1fac,1f6c,399 1fad,1f6d,399 " ++
  "1fae,1f6e,399 1faf,1f6f,399 1fb2,1fba,399 1fb3,391,399 1fb4,386,399 1fb6,391,342 " ++
  "1fb7,391,342,399 1fbc,391,399 1fc2,1fca,399 1fc3,397,399 1fc4,389,399 1fc6,397,342 " ++
  "1fc7,397,342,399 1fcc,397,399 1fd2,399,308,300 1fd3,399,308,301 1fd6,399,342 " ++
  "1fd7,399,308,342 1fe2,3a5,308,300 1fe3,3a5,308,301 1fe4,3a1,313 1fe6,3a5,342 " ++
  "1fe7,3a5,308,342 1ff2,1ffa,399 1ff3,3a9,399 1ff4,38f,399 1ff6,3a9,342 1ff7,3a9,342,399 " ++
  "1ffc,3a9,399 fb00,46,46 fb01,46,49 fb02,46,4c fb03,46,46,49 fb04,46,46,4c fb05,53,54 " ++
  "fb06,53,54 fb13,544,546 fb14,544,535 fb15,544,53b fb16,54e,546 fb17,544,53d"

/-- The characters with a case. -/
def casedCharacters : Ranges := Ranges.decode <|
  "41-19 6-19 2f a 4 5-16 1-1e 1-c2 1-3 4-cf 2-22 7-1 1e-4 60 2a-3 2-1 2-3 1 6 1-2 1 1-13 " ++
  "1-52 1-8a 8-a5 1-25 9-28 b17-25 1 5 2-2a 1-3 2a0-55 2-5 882-a 5-2a 2-2 40-bf 40-115 2-5 " ++
  "2-25 2-5 2-7 1 1 1 1-1e 2-34 1-6 1 3-2 1-6 3-3 2-5 4-c 5-2 1-6 74 d 10-c 65 4 2-9 1 3-4 6 " ++
  "1 1 1-3 1-5 4 2-3 5-4 4 11-1f 3-1 331-33 716-e4 6-3 3-1 c-25 1 5 7912-2d 12-1d 84-65 3-3 " ++
  "1-4c 14-5 1-2 335-2a 1-d 6-4f 4f40-6 c-4 409-19 6-19 4a5-4f 60-23 4-23 74-a 1-e 1-6 1-1 " ++
  "1-a 1-e 1-6 1-1 1c3 2-2 1-29 1-8 4c5-32 d-32 5d-15 a-15 b1a-3f 5560-3f 20-18 2-18 652c-54 " ++
  "1-46 1-1 2 2-1 2-3 1-b 1 1-6 1-40 1-3 2-7 1-6 1-1b 1-3 1-4 1 3-6 1-153 2-18 1-18 1-1e 1-18 " ++
  "1-1e 1-18 1-1e 1-18 1-1e 1-18 1-7 734-9 1-13 6-5 105-3d 892-43 7ec-19 6-19 6-19"

/-- The characters that case rules pass over. -/
def caseIgnoredCharacters : Ranges := Ranges.decode <|
  "27 6 b 23 1 47 4 1 4 2-1 1f7-bf 4-1 4 9-1 1 fb-6 cf 5 31-2c 1 1-1 1-1 1 2c b-5 a-a 1 23 " ++
  "a-14 10 65-7 1-9 1-3 21 1 1e-1a 5b-a 3a-a 4 2 18-17 2b-2 2c 7-1 5-8 29-39 37 1 4-7 4 3-6 " ++
  "a-1 d f 3a 4-3 8 14-1 1a 2-1 39 4-1 4-1 2-2 3 1e-1 3 b-1 39 4-4 1-1 4 14-1 16-5 1 3a 2 1-3 " ++
  "8 7-1 b-1 1e 3d c 32 3 37 1-2 5-2 1-3 7-1 b-1 1d 3a 2 6 5-1 14-1 1c-1 39-1 4-3 8 14-1 1d " ++
  "48 7-2 1 5a 2-6 b-8 62 2-8 9 1-6 49-1 1b 1 1 37-d 1-4 1-1 5-a 1-23 9 66-3 1-5 1-1 2-1 19-1 " ++
  "4-2 10-3 d 2-1 6 f 5e 260-2 3b2-2 1d-1 1e-1 1e-1 40-1 1-6 8 2-a 3 5 2d-4 33 41-1 22 76-2 " ++
  "4-1 9 6-2 db-1 2 3a 1-6 1 1 2-7 6-9 2 27 8-2d 2-b 14-3 30 1-4 1 5 28-8 c-1 20-3 2-1 1-2 38 " ++
  "1-1 3 1-2 3a-7 2-1 40-5 52-2 1-c 1-6 4 6 3-1 32-3e d 22-64 1bd 1-2 b-2 d-2 d-2 d-1 c-4 8-1 " ++
  "a 2 2-4 31-4 1-9 1 d 10-c 33-20 b8b-1 71-2 7d f 60-1f 2f 1d5 24-3 3-4 5 5d-5 5d-2 6f16 " ++
  "4e2-5 10e 62-3 1-9 1 1c-3 50-1 e-21 4e 17-2 66-3 3-1 8 3 4 19-1 5 97-1 1a-11 d 26-7 19-a " ++
  "2e-2 30 2-3 2-1 11 15-1 42-5 2-1 2-1 c 8 23 b 33 1-2 2-1 5-1 1 1b e-1 5-1 1 64-4 9-2 79 2 " ++
  "4 4f30 93-10 23d-f 3 c-f 22 2 a9 7 6 b 23 1 2f 2d-1 43 15-2 201 e2 95-4 405-5 1-29 1-8 " ++
  "246-2 1-1 5-3 28-2 4 a5-1 23d-3 26 1a-4 1 13b-1 18 34-5 46-a 31-3 7b 36-e 29 2-1 a-2 31-3 " ++
  "2-1 2 4 a 32-2 24-4 1-7 3e c-1 34-8 a-3 2 5f-2 2 1-1 6 2 9d 3-7 15-1 39-1 3 25-6 3-4 46-5 " ++
  "d 1 1 e-1 55-7 2-2 1 17 54-5 1 4-1 1-1 ee-3 6-1 1-1 1b-1 55-7 2 1-1 6a 1 2-5 1 65 1 2-3 " ++
  "1-4 103-8 1-1 100-1 1 4 90-3 2-1 4 20-9 28-5 2-3 8 9-5 2-2 2e-c 1-1 c6 1-2 1 c9-6 1-5 1 " ++
  "52-15 2-6 1-1 1-1 7a-5 3 1-1 1-6 1 48-1 3 1 41 119-1 b-1 34-4 5 1 17 14d5-10 6-e 2cc8-b " ++
  "3-2 9c0-4 3b-6 9-3 1fc-2 28-1 1e2 3f-10 40-1 1-1 d-1 3ffc-3 1-6 1-1 c9e-1 1-3 125c-2d 2-16 " ++
  "220-2 9-f 2-6 1e-3 94-2 7bb-36 4-31 8 e 16-4 1-e 550-6 1-10 2-6 1-1 1-4 5-3d 21 a0-d 170 " ++
  "3d-3 1fb-4 fe-1 f3 2 7-1 5 9 1d0-6 6d-7 aaf-4 c0c01 1e-5f 80-ef"

/-! ## Case of a character -/

/-- The lower case of a character. -/
def lowercase (c : Char) : List Char :=
  if c.toNat = 0x130 then ['i', Char.ofNat 0x307] else [Shift.move lowercaseShifts c]

/-- The upper case of a character. -/
def uppercase (c : Char) : List Char :=
  match uppercaseExpansions.find? fun entry => entry.1 == c.toNat with
  | some (_, expansion) => expansion.map Char.ofNat
  | none => [Shift.move uppercaseShifts c]

/-- Whether a character has case. -/
def isCased (c : Char) : Bool := casedCharacters.has c.toNat

/-- Whether the rules for case pass over a character, as if it were not there. -/
def isCaseIgnored (c : Char) : Bool := caseIgnoredCharacters.has c.toNat

end RouteExpr.Unicode
