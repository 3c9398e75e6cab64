/-
The scripts of Unicode characters, version 16.0, and the scripts that characters shared between
scripts are used with.

Each entry gives the names of a script, the characters that belong to it, and the characters by
which its extended form differs: those shared with it that belong elsewhere, and those of its own
that are always shared with some other script only.
-/
import RouteExpr.Unicode.Ranges

namespace RouteExpr.Unicode

/-- A script. -/
structure Script where
  names : List String
  members : Ranges
  /-- Characters of other scripts that are used with this one. -/
  shared : Ranges
  /-- Members that are used with other scripts instead. -/
  lent : Ranges

/-- A script from the texts of its tables. -/
def Script.of (names : List String) (members shared lent : String) : Script :=
  ⟨names, Ranges.decode members, Ranges.decode shared, Ranges.decode lent⟩

/-! ## Tables -/

/-- The script `Adlam`. -/
def adlamScript : Script := Script.of ["adlm", "adlam"]
  ("1e900-4b 4-9 4-1")
  ("61f 20 1a0e df1")
  ("")

/-- The script `Ahom`. -/
def ahomScript : Script := Script.of ["ahom"]
  ("11700-1a 2-e 4-16")
  ("")
  ("")

/-- The script `Anatolian_Hieroglyphs`. -/
def anatolianHieroglyphsScript : Script := Script.of ["hluw", "anatolianhieroglyphs"]
  ("14400-246")
  ("")
  ("")

/-- The script `Arabic`. -/
def arabicScript : Script := Script.of ["arab", "arabic"]
  ("600-4 1-5 1-d 1-2 1-1f 1-9 b-19 1-6b 1-21 50-2f f0-1e 1-1 5-4a 1-1c f250-72 10-16a 2-4f " ++
   "2-35 7 20-f 70-4 1-86 f63-1e 43-2 37-3 df00-3 1-1a 1-1 1 2 1-9 1-3 1 1 6 4 1 1 1-2 1-1 1 2 " ++
   "1 1 1 1 1-1 1 2-3 1-6 1-3 1-3 1 1-9 1-10 5-2 1-4 1-10 34-1")
  ("60c e 3 20 a-a 1a 19de df1 cefc-1 5a0-1b")
  ("")

/-- The script `Armenian`. -/
def armenianScript : Script := Script.of ["armn", "armenian"]
  ("531-25 2-31 2-2 f583-4")
  ("308")
  ("")

/-- The script `Avestan`. -/
def avestanScript : Script := Script.of ["avst", "avestan"]
  ("10b00-35 3-6")
  ("b7 2d78-1")
  ("")

/-- The script `Balinese`. -/
def balineseScript : Script := Script.of ["bali", "balinese"]
  ("1b00-4c 1-31")
  ("")
  ("")

/-- The script `Bamum`. -/
def bamumScript : Script := Script.of ["bamu", "bamum"]
  ("a6a0-57 c108-238")
  ("")
  ("")

/-- The script `Bassa_Vah`. -/
def bassaVahScript : Script := Script.of ["bass", "bassavah"]
  ("16ad0-1d 2-5")
  ("")
  ("")

/-- The script `Batak`. -/
def batakScript : Script := Script.of ["batk", "batak"]
  ("1bc0-33 8-3")
  ("")
  ("")

/-- The script `Bengali`. -/
def bengaliScript : Script := Script.of ["beng", "bengali"]
  ("980-3 1-7 2-1 2-15 1-6 1 3-3 2-8 2-1 2-3 8 4-1 1-4 2-18")
  ("2bc 694-1 11-1 136a 1 2-1 1 8 8 2 4 2-2 8bf9")
  ("")

/-- The script `Bhaiksuki`. -/
def bhaiksukiScript : Script := Script.of ["bhks", "bhaiksuki"]
  ("11c00-8 1-2c 1-d a-1c")
  ("")
  ("")

/-- The script `Bopomofo`. -/
def bopomofoScript : Script := Script.of ["bopo", "bopomofo"]
  ("2ea-1 2e19-2a 70-1f")
  ("2c7 1-2 d 2d27-2 4-9 1-c a-3 2 6 c3 cd49-1 11a-4")
  ("")

/-- The script `Brahmi`. -/
def brahmiScript : Script := Script.of ["brah", "brahmi"]
  ("11000-4d 4-23 9")
  ("")
  ("")

/-- The script `Braille`. -/
def brailleScript : Script := Script.of ["brai", "braille"]
  ("2800-ff")
  ("")
  ("")

/-- The script `Buginese`. -/
def bugineseScript : Script := Script.of ["bugi", "buginese"]
  ("1a00-1b 2-1")
  ("a9cf")
  ("")

/-- The script `Buhid`. -/
def buhidScript : Script := Script.of ["buhd", "buhid"]
  ("1740-13")
  ("1735-1")
  ("")

/-- The script `Canadian_Aboriginal`. -/
def canadianAboriginalScript : Script := Script.of ["cans", "canadianaboriginal"]
  ("1400-27f 230-45 101ba-f")
  ("")
  ("")

/-- The script `Carian`. -/
def carianScript : Script := Script.of ["cari", "carian"]
  ("102a0-30")
  ("b7 1fa2 2 dd3")
  ("")

/-- The script `Caucasian_Albanian`. -/
def caucasianAlbanianScript : Script := Script.of ["aghb", "caucasianalbanian"]
  ("10530-33 b")
  ("304 2c 2c")
  ("")

/-- The script `Chakma`. -/
def chakmaScript : Script := Script.of ["cakm", "chakma"]
  ("11100-34 1-11")
  ("9e6-9 650-9")
  ("")

/-- The script `Cham`. -/
def chamScript : Script := Script.of ["cham"]
  ("aa00-36 9-d 2-9 2-3")
  ("")
  ("")

/-- The script `Cherokee`. -/
def cherokeeScript : Script := Script.of ["cher", "cherokee"]
  ("13a0-55 2-5 9772-4f")
  ("300-2 1 6-1 16-1 b-1")
  ("")

/-- The script `Chorasmian`. -/
def chorasmianScript : Script := Script.of ["chrs", "chorasmian"]
  ("10fb0-1b")
  ("")
  ("")

/-- The script `Common`. -/
def commonScript : Script := Script.of ["zyyy", "common"]
  ("0-40 1a-5 1a-2e 1-e 1-4 17 1f 1c1-26 5-4 2-13 74 9 6 1 27d 6 e 3 20 9c 204 81-1 4d9 195-3 " ++
   "122 5ef-2 47-1 cb-1 1 4cd d 7-3 1-5 1-2 2 305-b 2-56 1-a 3-a 1-e 11-20 3f-25 1-2 2-5 1-1a " ++
   "1-10 29-2 4-299 16-a 15-39f 100-273 2-1f 1-68 200-5d 192-14 1 1-18 f-7 4-3 5b-1 3 5a-1 " ++
   "93-f 20-25 9 30-3f 1f-50 2f 58-a7 19c0-3f 5900-21 66-2 a5-9 f4 a0 18b e-1 51d2-1 d0-9 " ++
   "16-22 1-12 1-3 93 1-1f 1a-5 1a-a a 2d-1 40-6 1-6 a-4 102-2 4-2c 3-8 50-c 33-2c e4-1a " ++
   "b9a4-3 f5c-f9 6-1b3 9c-73 3c-f5 a-26 2-3d 3-10 8-1 7-1d 4-3c d5-13 c-13 c-56 9-18 87-54 " ++
   "1-46 1-1 2 2-1 2-3 1-b 1 1-6 1-40 1-3 2-7 1-6 1-1b 1-3 1-4 1 3-6 1-153 2-123 2-31 1471-43 " ++
   "4c-3c 2c2-2b 4-63 c-e 2-e 1-e 1-24 a-ad 38-19 1-1 d-2b 4-8 7-1 e-5 9a-3d7 4-10 3-c 3-76 " ++
   "4-5e 6-b 4 f-b 4-37 8-9 6-27 8-1d 2-b 4-1 3e-153 c-d 2-c 3-9 5-37 7-e 2-a 6-8 7-92 1-65 " ++
   "c0407 1e-5f")
  ("")
  ("b7 204 a 1-2 1 9 1 9a 297 e 3 20 323-1 795 5ef-2 47-1 cb-1 1 4cd d 7-3 1-5 1-2 2 334 1f a " ++
   "2 db9 18-1 a 4 1 1ac-f 1-2 2 1-9 1-c 10-5 1 4-3 5b-1 3 5a-1 93-f 20-25 9 30-27 38-30 f-b " ++
   "33 58-18 a-4 60-1e 7301-7 128-9 f4 a0 536e-1 105-1 11a-4 a 2d-1 160-2 4-2c 3-8 1a1-1a " ++
   "b9a4-3 16bc-11 1ede-1")

/-- The script `Coptic`. -/
def copticScript : Script := Script.of ["copt", "coptic", "qaac"]
  ("3e2-d 2890-73 5-6")
  ("b7 248 3-1 1 6c-1 2aa1 d4c8-1b")
  ("")

/-- The script `Cuneiform`. -/
def cuneiformScript : Script := Script.of ["xsux", "cuneiform"]
  ("12000-399 66-6e 1-4 b-c3")
  ("")
  ("")

/-- The script `Cypriot`. -/
def cypriotScript : Script := Script.of ["cprt", "cypriot"]
  ("10800-5 2 1-2b 1-1 3 2")
  ("10100-2 4-2c 3-8")
  ("")

/-- The script `Cypro_Minoan`. -/
def cyproMinoanScript : Script := Script.of ["cpmn", "cyprominoan"]
  ("12f90-62")
  ("10100-1")
  ("")

/-- The script `Cyrillic`. -/
def cyrillicScript : Script := Script.of ["cyrl", "cyrillic"]
  ("400-84 2-a8 1750-a a0 4c 1067-1f 7840-5f 578e-1 e200-3d 21")
  ("2bc 43-2 1 1 1 2 5 173-1 1971 104a")
  ("")

/-- The script `Deseret`. -/
def deseretScript : Script := Script.of ["dsrt", "deseret"]
  ("10400-4f")
  ("")
  ("")

/-- The script `Devanagari`. -/
def devanagariScript : Script := Script.of ["deva", "devanagari"]
  ("900-50 4-e 2-19 9f60-1f 7200-9")
  ("2bc 694-1 11-1 136a-26 1-1 3f6 873f-9")
  ("")

/-- The script `Dives_Akuru`. -/
def divesAkuruScript : Script := Script.of ["diak", "divesakuru"]
  ("11900-6 2 2-7 1-1 1-1d 1-1 2-b 9-9")
  ("")
  ("")

/-- The script `Dogra`. -/
def dograScript : Script := Script.of ["dogr", "dogra"]
  ("11800-3b")
  ("964-b 9ec0-9")
  ("")

/-- The script `Duployan`. -/
def duployanScript : Script := Script.of ["dupl", "duployan"]
  ("1bc00-6a 5-c 3-8 7-9 2-3")
  ("b7 24f-1 1 18-1 2b17 18e63-3")
  ("")

/-- The script `Egyptian_Hieroglyphs`. -/
def egyptianHieroglyphsScript : Script := Script.of ["egyp", "egyptianhieroglyphs"]
  ("13000-455 a-f9a")
  ("")
  ("")

/-- The script `Elbasan`. -/
def elbasanScript : Script := Script.of ["elba", "elbasan"]
  ("10500-27")
  ("b7 24d")
  ("")

/-- The script `Elymaic`. -/
def elymaicScript : Script := Script.of ["elym", "elymaic"]
  ("10fe0-16")
  ("")
  ("")

/-- The script `Ethiopic`. -/
def ethiopicScript : Script := Script.of ["ethi", "ethiopic"]
  ("1200-48 1-3 2-6 1 1-3 2-28 1-3 2-20 1-3 2-6 1 1-3 2-e 1-38 1-3 2-42 2-1f 3-19 19e6-16 9-6 " ++
   "1-6 1-6 1-6 1-6 1-6 1-6 1-6 7d22-5 2-5 2-5 9-6 1-6 13cb1-6 1-3 1-1 1-e")
  ("30e")
  ("")

/-- The script `Garay`. -/
def garayScript : Script := Script.of ["gara", "garay"]
  ("10d40-25 3-1c 8-1")
  ("60c e 3")
  ("")

/-- The script `Georgian`. -/
def georgianScript : Script := Script.of ["geor", "georgian"]
  ("10a0-25 1 5 2-2a 1-3 b90-2a 2-2 1040-25 1 5")
  ("b7 4d1 b71 f5e dd6")
  ("")

/-- The script `Glagolitic`. -/
def glagoliticScript : Script := Script.of ["glag", "glagolitic"]
  ("2c00-5f 1b3a0-6 1-10 2-6 1-1 1-4")
  ("b7 24b 1 17e 2 101 b71 f5e de8 782b")
  ("")

/-- The script `Gothic`. -/
def gothicScript : Script := Script.of ["goth", "gothic"]
  ("10330-1a")
  ("b7 24c-1 2 28")
  ("")

/-- The script `Grantha`. -/
def granthaScript : Script := Script.of ["gran", "grantha"]
  ("11300-3 1-7 2-1 2-15 1-6 1-1 1-4 2-8 2-1 2-2 2 6 5-6 2-6 3-4")
  ("951-1 11-1 280-d 10dc 1-1 1e-2 3-1 3f6 f24a c94-1 1")
  ("")

/-- The script `Greek`. -/
def greekScript : Script := Script.of ["grek", "greek"]
  ("370-3 1-2 2-3 1 4 1 1-2 1 1-13 1-3e e-f 1926-4 32-4 4-4 54 140-15 2-5 2-25 2-5 2-7 1 1 1 " ++
   "1-1e 2-34 1-e 1-d 2-5 1-12 2-2 1-8 127 8a3e 55da-4e 11 d05f-45")
  ("b7 248-1 2 1 1 a 2e 2 2e 1a4b-1 29b")
  ("")

/-- The script `Gujarati`. -/
def gujaratiScript : Script := Script.of ["gujr", "gujarati"]
  ("a81-2 1-8 1-2 1-15 1-6 1-1 1-4 2-9 1-2 1-2 2 f-3 2-b 7-6")
  ("951-1 11-1 9eca-9")
  ("")

/-- The script `Gunjala_Gondi`. -/
def gunjalaGondiScript : Script := Script.of ["gong", "gunjalagondi"]
  ("11d60-5 1-1 1-24 1-1 1-5 7-9")
  ("b7 8ac-1")
  ("")

/-- The script `Gurmukhi`. -/
def gurmukhiScript : Script := Script.of ["guru", "gurmukhi"]
  ("a01-2 1-5 4-1 2-15 1-6 1-1 1-1 1-1 2 1-4 4-1 2-2 3 7-3 1 7-10")
  ("951-1 11-1 9eca-9")
  ("")

/-- The script `Gurung_Khema`. -/
def gurungKhemaScript : Script := Script.of ["gukh", "gurungkhema"]
  ("16100-39")
  ("965")
  ("")

/-- The script `Han`. -/
def hanScript : Script := Script.of ["hani", "han"]
  ("2e80-19 1-58 c-d5 2f 1 19-8 e-3 3c4-19bf 40-51ff 5900-16d 2-69 7508-1 c-1 900e-a6df " ++
   "20-1039 6-dd 2-1681 e-1d30 f-26d 9a2-21d 5e2-134a 5-105f")
  ("b7 2f38-f 1-2 2 1-9 1-c a-3 2 6 4-3 bb 94-f 20-25 9 30-27 38-30 f-b 33 58-18 a-4 60-1e " ++
   "7301-7 573d-1 11a-4 d3fa-11 1ede-1")
  ("")

/-- The script `Hangul`. -/
def hangulScript : Script := Script.of ["hang", "hangul"]
  ("1100-ff 1e2e-1 101-5d 71-1e 41-1e 76e1-1c 283-2ba3 c-16 4-30 27a4-1e 3-5 2-5 2-5 2-2")
  ("3001-2 4-9 1-c 10 6 c3 cd49-1 11a-4")
  ("")

/-- The script `Hanifi_Rohingya`. -/
def hanifiRohingyaScript : Script := Script.of ["rohg", "hanifirohingya"]
  ("10d00-27 8-9")
  ("60c e 3 20 93")
  ("")

/-- The script `Hanunoo`. -/
def hanunooScript : Script := Script.of ["hano", "hanunoo"]
  ("1720-14")
  ("1735-1")
  ("")

/-- The script `Hatran`. -/
def hatranScript : Script := Script.of ["hatr", "hatran"]
  ("108e0-12 1-1 5-4")
  ("")
  ("")

/-- The script `Hebrew`. -/
def hebrewScript : Script := Script.of ["hebr", "hebrew"]
  ("591-36 8-1a 4-5 f528-19 1-4 1 1-1 1-1 1-9")
  ("307-1")
  ("")

/-- The script `Hiragana`. -/
def hiraganaScript : Script := Script.of ["hira", "hiragana"]
  ("3041-55 6-2 17f61-11e 12 1d-2 40ad")
  ("3001-2 4-9 1-c 10-5 1 4-1 5b-3 3 5a-1 cd48-1 11a-4 a 2d-1")
  ("")

/-- The script `Imperial_Aramaic`. -/
def imperialAramaicScript : Script := Script.of ["armi", "imperialaramaic"]
  ("10840-15 1-8")
  ("")
  ("")

/-- The script `Inherited`. -/
def inheritedScript : Script := Script.of ["zinh", "inherited", "qaai"]
  ("300-6f 115-1 1c4-a 1a 2e0-3 115b-1e 201-2 1-c 1-6 4 6 3-1 c6-3f 20c-1 c2-20 f39-3 6b-1 " ++
   "cd65-f 10-d 3cf e2 105a bbc4-2d 2-16 220-2 11-7 2-6 1e-3 c2f52-ef")
  ("")
  ("300-e 1-1 1 f-2 7-1 1-1 10 2 12 5 4-c 115-1 1c4-a 1a 2e0-1 137d-2 1-c 1-6 4 6 3-1 c6-1 36 " ++
   "1 2f5 f39-3 6b-1 d245 105a")

/-- The script `Inscriptional_Pahlavi`. -/
def inscriptionalPahlaviScript : Script := Script.of ["phli", "inscriptionalpahlavi"]
  ("10b60-12 5-7")
  ("")
  ("")

/-- The script `Inscriptional_Parthian`. -/
def inscriptionalParthianScript : Script := Script.of ["prti", "inscriptionalparthian"]
  ("10b40-15 2-7")
  ("")
  ("")

/-- The script `Javanese`. -/
def javaneseScript : Script := Script.of ["java", "javanese"]
  ("a980-4d 2-9 4-1")
  ("a9cf")
  ("")

/-- The script `Kaithi`. -/
def kaithiScript : Script := Script.of ["kthi", "kaithi"]
  ("11080-42 a")
  ("966-9 24c1 79fe-9")
  ("")

/-- The script `Kannada`. -/
def kannadaScript : Script := Script.of ["knda", "kannada"]
  ("c80-c 1-2 1-16 1-9 1-4 2-8 1-2 1-3 7-1 6-1 1-3 2-9 1-2")
  ("951-1 11-1 136a 1-1 6 17 1 8b3b-5")
  ("")

/-- The script `Katakana`. -/
def katakanaScript : Script := Script.of ["kana", "katakana"]
  ("30a1-59 2-2 f0-f d0-2e 1-57 cc0e-9 1-2c b052-3 1-6 1-1 1 11f-2 32 e-3")
  ("305 1d 2cdd-2 4-9 1-c 10-5 1 4-1 5b-3 3 5a-1 cd48-1 11a-4 a 2d-1")
  ("")

/-- The script `Kawi`. -/
def kawiScript : Script := Script.of ["kawi"]
  ("11f00-10 1-28 3-1c")
  ("")
  ("")

/-- The script `Kayah_Li`. -/
def kayahLiScript : Script := Script.of ["kali", "kayahli"]
  ("a900-2d 1")
  ("a92e")
  ("")

/-- The script `Kharoshthi`. -/
def kharoshthiScript : Script := Script.of ["khar", "kharoshthi"]
  ("10a00-3 1-1 5-7 1-2 1-1c 2-2 4-9 7-8")
  ("")
  ("")

/-- The script `Khitan_Small_Script`. -/
def khitanSmallScriptScript : Script := Script.of ["kits", "khitansmallscript"]
  ("16fe4 1b1b-1d5 29")
  ("")
  ("")

/-- The script `Khmer`. -/
def khmerScript : Script := Script.of ["khmr", "khmer"]
  ("1780-5d 2-9 6-9 1e6-1f")
  ("")
  ("")

/-- The script `Khojki`. -/
def khojkiScript : Script := Script.of ["khoj", "khojki"]
  ("11200-11 1-2e")
  ("ae6-9 9d40-9")
  ("")

/-- The script `Khudawadi`. -/
def khudawadiScript : Script := Script.of ["sind", "khudawadi"]
  ("112b0-3a 5-9")
  ("964-1 9eca-9")
  ("")

/-- The script `Kirat_Rai`. -/
def kiratRaiScript : Script := Script.of ["krai", "kiratrai"]
  ("16d40-39")
  ("")
  ("")

/-- The script `Lao`. -/
def laoScript : Script := Script.of ["laoo", "lao"]
  ("e81-1 1 1-4 1-17 1 1-16 2-4 1 1-6 1-9 2-3")
  ("")
  ("")

/-- The script `Latin`. -/
def latinScript : Script := Script.of ["latn", "latin"]
  ("41-19 6-19 2f f 5-16 1-1e 1-1c0 27-4 1a1b-25 6-30 5-3 5-c 1-45 41-ff 171 d 10-c 8d-1 6 1b " ++
   "11-28 ad7-1f 7aa2-65 3-42 2-1 1 1-7 15-d 330-2a 1-8 1-3 4f96-6 41a-19 6-19 825-5 1-29 1-8 " ++
   "d745-1e 6-5")
  ("b7 204 a 1-2 1 9 1 26-e 1-1 1 f-2 7-1 1-1 26 5 4-c 115-1 4ca-1 7a8 cfc 236 c0 d26 78e8-7 " ++
   "226")
  ("")

/-- The script `Lepcha`. -/
def lepchaScript : Script := Script.of ["lepc", "lepcha"]
  ("1c00-37 3-e 3-2")
  ("")
  ("")

/-- The script `Limbu`. -/
def limbuScript : Script := Script.of ["limb", "limbu"]
  ("1900-1e 1-b 4-b 4 3-b")
  ("965")
  ("")

/-- The script `Linear_A`. -/
def linearAScript : Script := Script.of ["lina", "lineara"]
  ("10600-136 9-15 a-7")
  ("10107-2c")
  ("")

/-- The script `Linear_B`. -/
def linearBScript : Script := Script.of ["linb", "linearb"]
  ("10000-b 1-19 1-12 1-1 1-e 2-d 22-7a")
  ("10100-2 4-2c 3-8")
  ("")

/-- The script `Lisu`. -/
def lisuScript : Script := Script.of ["lisu"]
  ("a4d0-2f 7ab0")
  ("2bc 10 2d3c-1")
  ("")

/-- The script `Lycian`. -/
def lycianScript : Script := Script.of ["lyci", "lycian"]
  ("10280-1c")
  ("205a")
  ("")

/-- The script `Lydian`. -/
def lydianScript : Script := Script.of ["lydi", "lydian"]
  ("10920-19 5")
  ("b7 2d79")
  ("")

/-- The script `Mahajani`. -/
def mahajaniScript : Script := Script.of ["mahj", "mahajani"]
  ("11150-26")
  ("b7 8ac-b 9ec0-9")
  ("")

/-- The script `Makasar`. -/
def makasarScript : Script := Script.of ["maka", "makasar"]
  ("11ee0-18")
  ("")
  ("")

/-- The script `Malayalam`. -/
def malayalamScript : Script := Script.of ["mlym", "malayalam"]
  ("d00-c 1-2 1-32 1-2 1-5 4-f 2-19")
  ("951-1 11-1 1374 17 8b3d-2")
  ("")

/-- The script `Mandaic`. -/
def mandaicScript : Script := Script.of ["mand", "mandaic"]
  ("840-1b 2")
  ("640")
  ("")

/-- The script `Manichaean`. -/
def manichaeanScript : Script := Script.of ["mani", "manichaean"]
  ("10ac0-26 4-b")
  ("640")
  ("")

/-- The script `Marchen`. -/
def marchenScript : Script := Script.of ["marc", "marchen"]
  ("11c70-1f 2-15 1-d")
  ("")
  ("")

/-- The script `Masaram_Gondi`. -/
def masaramGondiScript : Script := Script.of ["gonm", "masaramgondi"]
  ("11d00-6 1-1 1-2b 3 1-1 1-8 8-9")
  ("964-1")
  ("")

/-- The script `Medefaidrin`. -/
def medefaidrinScript : Script := Script.of ["medf", "medefaidrin"]
  ("16e40-5a")
  ("")
  ("")

/-- The script `Meetei_Mayek`. -/
def meeteiMayekScript : Script := Script.of ["mtei", "meeteimayek"]
  ("aae0-16 c9-2d 2-9")
  ("")
  ("")

/-- The script `Mende_Kikakui`. -/
def mendeKikakuiScript : Script := Script.of ["mend", "mendekikakui"]
  ("1e800-c4 2-f")
  ("")
  ("")

/-- The script `Meroitic_Cursive`. -/
def meroiticCursiveScript : Script := Script.of ["merc", "meroiticcursive"]
  ("109a0-17 4-13 2-2d")
  ("")
  ("")

/-- The script `Meroitic_Hieroglyphs`. -/
def meroiticHieroglyphsScript : Script := Script.of ["mero", "meroitichieroglyphs"]
  ("10980-1f")
  ("205d")
  ("")

/-- The script `Miao`. -/
def miaoScript : Script := Script.of ["plrd", "miao"]
  ("16f00-4a 4-38 7-10")
  ("")
  ("")

/-- The script `Modi`. -/
def modiScript : Script := Script.of ["modi"]
  ("11600-44 b-9")
  ("a830-9")
  ("")

/-- The script `Mongolian`. -/
def mongolianScript : Script := Script.of ["mong", "mongolian"]
  ("1800-1 2 1-13 6-58 7-2a fdb5-c")
  ("1802-1 1 829 fd1-1 5-3")
  ("")

/-- The script `Mro`. -/
def mroScript : Script := Script.of ["mroo", "mro"]
  ("16a40-1e 1-9 4-1")
  ("")
  ("")

/-- The script `Multani`. -/
def multaniScript : Script := Script.of ["mult", "multani"]
  ("11280-6 1 1-3 1-e 1-a")
  ("a66-9")
  ("")

/-- The script `Myanmar`. -/
def myanmarScript : Script := Script.of ["mymr", "myanmar"]
  ("1000-9f 9940-1e 61-1f 6c50-13")
  ("a92e")
  ("")

/-- The script `Nabataean`. -/
def nabataeanScript : Script := Script.of ["nbat", "nabataean"]
  ("10880-1e 8-8")
  ("")
  ("")

/-- The script `Nag_Mundari`. -/
def nagMundariScript : Script := Script.of ["nagm", "nagmundari"]
  ("1e4d0-29")
  ("")
  ("")

/-- The script `Nandinagari`. -/
def nandinagariScript : Script := Script.of ["nand", "nandinagari"]
  ("119a0-7 2-2d 2-a")
  ("951 12-1 380-9 ff9 8 7 8b35-5")
  ("")

/-- The script `New_Tai_Lue`. -/
def newTaiLueScript : Script := Script.of ["talu", "newtailue"]
  ("1980-2b 4-19 6-a 3-1")
  ("")
  ("")

/-- The script `Newa`. -/
def newaScript : Script := Script.of ["newa"]
  ("11400-5b 1-4")
  ("951-1 1382 1-1 9 6 1 1")
  ("")

/-- The script `Nko`. -/
def nkoScript : Script := Script.of ["nkoo", "nko"]
  ("7c0-3a 2-2")
  ("60c e 3 f71e-1")
  ("")

/-- The script `Nushu`. -/
def nushuScript : Script := Script.of ["nshu", "nushu"]
  ("16fe1 418e-18b")
  ("")
  ("")

/-- The script `Nyiakeng_Puachue_Hmong`. -/
def nyiakengPuachueHmongScript : Script := Script.of ["hmnp", "nyiakengpuachuehmong"]
  ("1e100-2c 3-d 2-9 4-1")
  ("")
  ("")

/-- The script `Ogham`. -/
def oghamScript : Script := Script.of ["ogam", "ogham"]
  ("1680-1c")
  ("")
  ("")

/-- The script `Ol_Chiki`. -/
def olChikiScript : Script := Script.of ["olck", "olchiki"]
  ("1c50-2f")
  ("")
  ("")

/-- The script `Ol_Onal`. -/
def olOnalScript : Script := Script.of ["onao", "olonal"]
  ("1e5d0-2a 4")
  ("964-1")
  ("")

/-- The script `Old_Hungarian`. -/
def oldHungarianScript : Script := Script.of ["hung", "oldhungarian"]
  ("10c80-32 d-32 7-5")
  ("205a 2 dd3 f")
  ("")

/-- The script `Old_Italic`. -/
def oldItalicScript : Script := Script.of ["ital", "olditalic"]
  ("10300-23 9-2")
  ("")
  ("")

/-- The script `Old_North_Arabian`. -/
def oldNorthArabianScript : Script := Script.of ["narb", "oldnortharabian"]
  ("10a80-1f")
  ("")
  ("")

/-- The script `Old_Permic`. -/
def oldPermicScript : Script := Script.of ["perm", "oldpermic"]
  ("10350-2a")
  ("b7 248 5-2 a 16f")
  ("")

/-- The script `Old_Persian`. -/
def oldPersianScript : Script := Script.of ["xpeo", "oldpersian"]
  ("103a0-23 4-d")
  ("")
  ("")

/-- The script `Old_Sogdian`. -/
def oldSogdianScript : Script := Script.of ["sogo", "oldsogdian"]
  ("10f00-27")
  ("")
  ("")

/-- The script `Old_South_Arabian`. -/
def oldSouthArabianScript : Script := Script.of ["sarb", "oldsoutharabian"]
  ("10a60-1f")
  ("")
  ("")

/-- The script `Old_Turkic`. -/
def oldTurkicScript : Script := Script.of ["orkh", "oldturkic"]
  ("10c00-48")
  ("205a dd5")
  ("")

/-- The script `Old_Uyghur`. -/
def oldUyghurScript : Script := Script.of ["ougr", "olduyghur"]
  ("10f70-19")
  ("640 104b1")
  ("")

/-- The script `Oriya`. -/
def oriyaScript : Script := Script.of ["orya", "oriya"]
  ("b01-2 1-7 2-1 2-15 1-6 1-1 1-4 2-8 2-1 2-2 7-2 4-1 1-4 2-11")
  ("951-1 11-1 1374 17")
  ("")

/-- The script `Osage`. -/
def osageScript : Script := Script.of ["osge", "osage"]
  ("104b0-23 4-23")
  ("301 2 6 4c")
  ("")

/-- The script `Osmanya`. -/
def osmanyaScript : Script := Script.of ["osma", "osmanya"]
  ("10480-1d 2-9")
  ("")
  ("")

/-- The script `Pahawh_Hmong`. -/
def pahawhHmongScript : Script := Script.of ["hmng", "pahawhhmong"]
  ("16b00-45 a-9 1-6 1-14 5-12")
  ("")
  ("")

/-- The script `Palmyrene`. -/
def palmyreneScript : Script := Script.of ["palm", "palmyrene"]
  ("10860-1f")
  ("")
  ("")

/-- The script `Pau_Cin_Hau`. -/
def pauCinHauScript : Script := Script.of ["pauc", "paucinhau"]
  ("11ac0-38")
  ("")
  ("")

/-- The script `Phags_Pa`. -/
def phagsPaScript : Script := Script.of ["phag", "phagspa"]
  ("a840-37")
  ("1802-1 1 829 fd2")
  ("")

/-- The script `Phoenician`. -/
def phoenicianScript : Script := Script.of ["phnx", "phoenician"]
  ("10900-1b 3")
  ("")
  ("")

/-- The script `Psalter_Pahlavi`. -/
def psalterPahlaviScript : Script := Script.of ["phlp", "psalterpahlavi"]
  ("10b80-11 7-3 c-6")
  ("640")
  ("")

/-- The script `Rejang`. -/
def rejangScript : Script := Script.of ["rjng", "rejang"]
  ("a930-23 b")
  ("")
  ("")

/-- The script `Runic`. -/
def runicScript : Script := Script.of ["runr", "runic"]
  ("16a0-4a 3-a")
  ("16eb-2")
  ("")

/-- The script `Samaritan`. -/
def samaritanScript : Script := Script.of ["samr", "samaritan"]
  ("800-2d 2-e")
  ("2e31")
  ("")

/-- The script `Saurashtra`. -/
def saurashtraScript : Script := Script.of ["saur", "saurashtra"]
  ("a880-45 8-b")
  ("")
  ("")

/-- The script `Sharada`. -/
def sharadaScript : Script := Script.of ["shrd", "sharada"]
  ("11180-5f")
  ("951 1385 1 2-1 2 9 2 8b42-5 2")
  ("")

/-- The script `Shavian`. -/
def shavianScript : Script := Script.of ["shaw", "shavian"]
  ("10450-2f")
  ("b7")
  ("")

/-- The script `Siddham`. -/
def siddhamScript : Script := Script.of ["sidd", "siddham"]
  ("11580-35 2-25")
  ("")
  ("")

/-- The script `SignWriting`. -/
def signwritingScript : Script := Script.of ["sgnw", "signwriting"]
  ("1d800-28b f-4 1-e")
  ("")
  ("")

/-- The script `Sinhala`. -/
def sinhalaScript : Script := Script.of ["sinh", "sinhala"]
  ("d81-2 1-11 3-17 1-8 1 2-6 3 4-5 1 1-7 6-9 2-2 103ec-13")
  ("964-1 138c")
  ("")

/-- The script `Sogdian`. -/
def sogdianScript : Script := Script.of ["sogd", "sogdian"]
  ("10f30-29")
  ("640")
  ("")

/-- The script `Sora_Sompeng`. -/
def soraSompengScript : Script := Script.of ["sora", "sorasompeng"]
  ("110d0-18 7-9")
  ("")
  ("")

/-- The script `Soyombo`. -/
def soyomboScript : Script := Script.of ["soyo", "soyombo"]
  ("11a50-52")
  ("")
  ("")

/-- The script `Sundanese`. -/
def sundaneseScript : Script := Script.of ["sund", "sundanese"]
  ("1b80-3f 100-7")
  ("")
  ("")

/-- The script `Sunuwar`. -/
def sunuwarScript : Script := Script.of ["sunu", "sunuwar"]
  ("11bc0-21 e-9")
  ("300-1 1 9 2 1c 3")
  ("")

/-- The script `Syloti_Nagri`. -/
def sylotiNagriScript : Script := Script.of ["sylo", "sylotinagri"]
  ("a800-2c")
  ("964-1 80-9")
  ("")

/-- The script `Syriac`. -/
def syriacScript : Script := Script.of ["syrc", "syriac"]
  ("700-d 1-3b 2-2 110-a")
  ("303-1 2-1 1 18-2 7-1 1-1 2da e-1 2 20 a-a 1a 1787 1")
  ("")

/-- The script `Tagalog`. -/
def tagalogScript : Script := Script.of ["tglg", "tagalog"]
  ("1700-15 9")
  ("1735-1")
  ("")

/-- The script `Tagbanwa`. -/
def tagbanwaScript : Script := Script.of ["tagb", "tagbanwa"]
  ("1760-c 1-2 1-1")
  ("1735-1")
  ("")

/-- The script `Tai_Le`. -/
def taiLeScript : Script := Script.of ["tale", "taile"]
  ("1950-1d 2-4")
  ("300-1 5-1 3 d33-9")
  ("")

/-- The script `Tai_Tham`. -/
def taiThamScript : Script := Script.of ["lana", "taitham"]
  ("1a20-3e 1-1c 2-a 6-9 6-d")
  ("")
  ("")

/-- The script `Tai_Viet`. -/
def taiVietScript : Script := Script.of ["tavt", "taiviet"]
  ("aa80-42 18-4")
  ("")
  ("")

/-- The script `Takri`. -/
def takriScript : Script := Script.of ["takr", "takri"]
  ("11680-39 6-9")
  ("964-1 9eca-9")
  ("")

/-- The script `Tamil`. -/
def tamilScript : Script := Script.of ["taml", "tamil"]
  ("b82-1 1-5 3-2 1-3 3-1 1 1-1 3-1 3-2 3-b 4-4 3-2 1-3 2 6 e-14 113c5-31 d")
  ("951-1 11-1 1374 8c18 6a0d 1 37-1")
  ("")

/-- The script `Tangsa`. -/
def tangsaScript : Script := Script.of ["tnsa", "tangsa"]
  ("16a70-4e 1-9")
  ("")
  ("")

/-- The script `Tangut`. -/
def tangutScript : Script := Script.of ["tang", "tangut"]
  ("16fe0 1f-17f7 8-2ff 200-8")
  ("2ff0-f 1ef")
  ("")

/-- The script `Telugu`. -/
def teluguScript : Script := Script.of ["telu", "telugu"]
  ("c00-c 1-2 1-16 1-f 2-8 1-2 1-3 7-1 1-2 2 2-3 2-9 7-8")
  ("951-1 11-1 136f-1 1 1 17")
  ("")

/-- The script `Thaana`. -/
def thaanaScript : Script := Script.of ["thaa", "thaana"]
  ("780-31")
  ("60c e-1 2 40-9 f788 a")
  ("")

/-- The script `Thai`. -/
def thaiScript : Script := Script.of ["thai"]
  ("e01-39 5-1b")
  ("2bc 1a 2b 2d")
  ("")

/-- The script `Tibetan`. -/
def tibetanScript : Script := Script.of ["tibt", "tibetan"]
  ("f00-47 1-23 4-26 1-23 1-e 1-6 4-1")
  ("3008-3")
  ("")

/-- The script `Tifinagh`. -/
def tifinaghScript : Script := Script.of ["tfng", "tifinagh"]
  ("2d30-37 7-1 e")
  ("302 1 1-3 19")
  ("")

/-- The script `Tirhuta`. -/
def tirhutaScript : Script := Script.of ["tirh", "tirhuta"]
  ("11480-47 8-9")
  ("951-1 11-1 136f c f 8b3d-9")
  ("")

/-- The script `Todhri`. -/
def todhriScript : Script := Script.of ["todr", "todhri"]
  ("105c0-33")
  ("301 2 2 9 1 4a")
  ("")

/-- The script `Toto`. -/
def totoScript : Script := Script.of ["toto"]
  ("1e290-1e")
  ("2bc")
  ("")

/-- The script `Tulu_Tigalari`. -/
def tuluTigalariScript : Script := Script.of ["tutg", "tulutigalari"]
  ("11380-9 1 2 1-25 1-9 1 2 1-3 1-9 1-1 8-1")
  ("ce6-9 1002 1 8b3b-5 bb")
  ("")

/-- The script `Ugaritic`. -/
def ugariticScript : Script := Script.of ["ugar", "ugaritic"]
  ("10380-1d 1")
  ("")
  ("")

/-- The script `Vai`. -/
def vaiScript : Script := Script.of ["vaii", "vai"]
  ("a500-12b")
  ("")
  ("")

/-- The script `Vithkuqi`. -/
def vithkuqiScript : Script := Script.of ["vith", "vithkuqi"]
  ("10570-a 1-e 1-6 1-1 1-a 1-e 1-6 1-1")
  ("")
  ("")

/-- The script `Wancho`. -/
def wanchoScript : Script := Script.of ["wcho", "wancho"]
  ("1e2c0-39 5")
  ("")
  ("")

/-- The script `Warang_Citi`. -/
def warangCitiScript : Script := Script.of ["wara", "warangciti"]
  ("118a0-52 c")
  ("")
  ("")

/-- The script `Yezidi`. -/
def yezidiScript : Script := Script.of ["yezi", "yezidi"]
  ("10e80-29 1-2 2-1")
  ("60c e 3 40-9")
  ("")

/-- The script `Yi`. -/
def yiScript : Script := Script.of ["yiii", "yi"]
  ("a000-48c 3-36")
  ("3001-1 5-9 2-7 df ce65-4")
  ("")

/-- The script `Zanabazar_Square`. -/
def zanabazarSquareScript : Script := Script.of ["zanb", "zanabazarsquare"]
  ("11a00-47")
  ("")
  ("")

/-! ## All scripts -/

/-- The scripts. -/
def scripts : List Script := [
  adlamScript, ahomScript, anatolianHieroglyphsScript, arabicScript, armenianScript,
  avestanScript, balineseScript, bamumScript, bassaVahScript, batakScript, bengaliScript,
  bhaiksukiScript, bopomofoScript, brahmiScript, brailleScript, bugineseScript, buhidScript,
  canadianAboriginalScript, carianScript, caucasianAlbanianScript, chakmaScript, chamScript,
  cherokeeScript, chorasmianScript, commonScript, copticScript, cuneiformScript, cypriotScript,
  cyproMinoanScript, cyrillicScript, deseretScript, devanagariScript, divesAkuruScript,
  dograScript, duployanScript, egyptianHieroglyphsScript, elbasanScript, elymaicScript,
  ethiopicScript, garayScript, georgianScript, glagoliticScript, gothicScript, granthaScript,
  greekScript, gujaratiScript, gunjalaGondiScript, gurmukhiScript, gurungKhemaScript, hanScript,
  hangulScript, hanifiRohingyaScript, hanunooScript, hatranScript, hebrewScript, hiraganaScript,
  imperialAramaicScript, inheritedScript, inscriptionalPahlaviScript, inscriptionalParthianScript,
  javaneseScript, kaithiScript, kannadaScript, katakanaScript, kawiScript, kayahLiScript,
  kharoshthiScript, khitanSmallScriptScript, khmerScript, khojkiScript, khudawadiScript,
  kiratRaiScript, laoScript, latinScript, lepchaScript, limbuScript, linearAScript, linearBScript,
  lisuScript, lycianScript, lydianScript, mahajaniScript, makasarScript, malayalamScript,
  mandaicScript, manichaeanScript, marchenScript, masaramGondiScript, medefaidrinScript,
  meeteiMayekScript, mendeKikakuiScript, meroiticCursiveScript, meroiticHieroglyphsScript,
  miaoScript, modiScript, mongolianScript, mroScript, multaniScript, myanmarScript,
  nabataeanScript, nagMundariScript, nandinagariScript, newTaiLueScript, newaScript, nkoScript,
  nushuScript, nyiakengPuachueHmongScript, oghamScript, olChikiScript, olOnalScript,
  oldHungarianScript, oldItalicScript, oldNorthArabianScript, oldPermicScript, oldPersianScript,
  oldSogdianScript, oldSouthArabianScript, oldTurkicScript, oldUyghurScript, oriyaScript,
  osageScript, osmanyaScript, pahawhHmongScript, palmyreneScript, pauCinHauScript, phagsPaScript,
  phoenicianScript, psalterPahlaviScript, rejangScript, runicScript, samaritanScript,
  saurashtraScript, sharadaScript, shavianScript, siddhamScript, signwritingScript, sinhalaScript,
  sogdianScript, soraSompengScript, soyomboScript, sundaneseScript, sunuwarScript,
  sylotiNagriScript, syriacScript, tagalogScript, tagbanwaScript, taiLeScript, taiThamScript,
  taiVietScript, takriScript, tamilScript, tangsaScript, tangutScript, teluguScript, thaanaScript,
  thaiScript, tibetanScript, tifinaghScript, tirhutaScript, todhriScript, totoScript,
  tuluTigalariScript, ugariticScript, vaiScript, vithkuqiScript, wanchoScript, warangCitiScript,
  yezidiScript, yiScript, zanabazarSquareScript]

end RouteExpr.Unicode
