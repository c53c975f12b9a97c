import TestFleet.Unicode.Ranges
/-!
# Binary properties

Properties that a character of Unicode 16 has or has not and that follow from no other ones, one run
of gaps and lengths for each.
-/
namespace TestFleet.Unicode

/-- The ranges of the property Other_Alphabetic. -/
def rangesOtherAlphabetic : List Range := decode
  ["345 1 1D D 240 E 1 1 1 2 1 2 1 1 48 B 30 D 1 7 10 1 65 7 4 4 2 2 4 1 23 1 1E 10 66 B 65 2",
    "3 9 1 3 1 4 6A 1 3C C 3 7 6 14 36 2 2 F 1 2 5 3 A 2 1D 3 3A 7 2 2 2 2 A 1 A 2 1D 3 3A 5 4",
    "2 2 2 4 1 1E 2 3 1 B 3 3A 8 1 3 1 2 15 2 16 3 4 3 3A 7 2 2 2 2 9 2 A 2 1E 1 3B 5 3 3 1 3 A",
    "1 28 5 39 7 1 3 1 3 8 2 B 2 1D 3 3A 7 1 3 1 3 8 2 B 2 F 1 C 4 3A 7 1 3 1 3 A 1 A 2 1D 3 4B",
    "6 1 1 1 8 12 2 3D 1 2 7 12 1 63 1 2 6 1 2 10 1 A3 13 9 B 1 24 6E C 1 1 2 4 17 4 4 3 1 3 2",
    "7 3 4 D C 1 1 A 4 674 2 1E 2 1E 2 1E 2 42 13 BC 2 22 1 76 C 4 9 DE 5 39 A 2 14 4A 2 B 3 31",
    "5 30 F 3C 3 1E 9 2 2 39 B 32 13 19C 22 6C1 34 8F6 20 7874 8 22 2 162 1 8 1 17 5 58 2 32 10",
    "1 1 39 1 26 5 1C C 2D 4 30 C 25 1 43 E C 1 8 2 2D 3 32 1 1 3 2 2 5 1 2C 5 5 1 ED 8 4F33 1",
    "857 5 686 3 1 2 5 4 314 4 41 1 141 2 4F 1 103 3 35 E 2D 2 B 3 2D 9 9 1 3D 3 24 C 12 2 39 3",
    "30 D E 2 5C 9 2 1 6 1 2 1 9D A 17 4 3A 7 2 2 2 2 A 1 A 2 54 9 1 1 2 1 1 4 1 2 67 D 1 3 6A",
    "12 ED 7 2 7 1D 2 52 F 1 1 6A B 67 E 101 D F7 6 1 2 2 2 3 1 1 1 8E 7 2 6 4 1 1C A 2A 5 1 4",
    "12 B 2E E 197 8 1 7 53 16 1 E 7A 6 3 1 1 2 1 3 1 1 3 1 42 5 1 2 1 4 15C 4 9 2 1 1 30 7 3 3",
    "41DD 11 E20 1 1 37 7 4 5D 2 4CAC 1 2361 7 1 11 2 7 1 2 1 5 64 1 8B7 1 7E8 1A 6 1A 6 1A"]

/-- The ranges of the property Other_Lowercase. -/
def rangesOtherLowercase : List Range := decode
  ["AA 1 F 1 1F5 9 7 2 1E 5 60 1 34 1 D81 1 C2F 3F D 1 22 25 2B1 1 D 1 10 D D3 10 350 1A 792 2",
    "7A1E 2 D2 1 81 3 3 2 362 4 9 1 5C16 1 2 3 1 2A 1 9 D875 3E"]

/-- The ranges of the property Other_Uppercase. -/
def rangesOtherUppercase : List Range := decode
  ["2160 10 346 1A 1CC60 1A 6 1A 6 1A"]

/-- The ranges of the property Other_Math. -/
def rangesOtherMath : List Range := decode
  ["5E 1 371 3 2 1 1A 2 2 2 1C20 1 1B 3 B 1 20 4 18 2 E 2 41 D 4 1 3 2 4 5 12 1 4 1 2 A 1 1 3",
    "5 6 1 3 2 2 2 1 3 1 6 3 4 5 5 4B 5 2 4 1 2 1 2 1 1 1 5 2 2 4 2 4 12 2 2 1 1 1 7 1 1 6 2",
    "122 4 A8 2 1 1 18 1 11 1 1BD 2 C 9 5 5 5 2 2 2 3 5 E 1 1 1 2 6 18 2 39 1 1 1 1D 4 9 2 156",
    "2 1F A 193 16 3F 4 20 2 D463 1 1 1 4 1 D3 1 1 1 D4C1 55 1 47 1 2 2 1 2 2 2 4 1 C 1 1 1 7 1",
    "41 1 4 2 8 1 7 1 1C 1 4 1 5 1 1 3 7 1 154 2 19 1 19 1 1F 1 19 1 1F 1 19 1 1F 1 19 1 1F 1",
    "19 1 8 2 32 1600 4 1 1B 1 2 1 1 2 1 1 A 1 4 1 1 1 1 6 1 4 1 1 1 1 1 1 3 1 2 1 1 2 1 1 1 1",
    "1 1 1 1 1 1 2 1 1 2 4 1 7 1 4 1 4 1 1 1 A 1 11 5 3 1 5 1 11"]

/-- The ranges of the property Other_Grapheme_Extend. -/
def rangesOtherGraphemeExtend : List Range := decode
  ["9BE 1 18 1 166 1 18 1 66 1 18 1 E8 1 1 1 4 2 1 2 9 2 67 1 18 1 77 1 F 1 935 1 1E 1 400 1 5",
    "1 1 1 5 2 65 1 47 2 418 1 1021 2 7923 1 6C 1 55DD 2 1220 1 74 1 108 1 E 1 9 1 60 1 9 1 2 1",
    "1 3 5 1 E0 1 C 1 F1 1 106 1 279 1 C 1 603 1 50AE 2 6173 2 6 6 C2EAD 60"]

/-- The ranges of the property Other_ID_Start. -/
def rangesOtherIDStart : List Range := decode
  ["1885 2 891 1 15 1 F6C 2"]

/-- The ranges of the property Other_ID_Continue. -/
def rangesOtherIDContinue : List Range := decode
  ["B7 1 2CF 1 FE1 9 668 1 631 2 10ED 1 CE69 1"]

/-- The ranges of the property Other_Default_Ignorable_Code_Point. -/
def rangesOtherDefaultIgnorableCodePoint : List Range := decode
  ["34F 1 E0F 2 653 2 8AF 1 10FE 1 CE3B 1 4F 9 D0007 1 1 1E 60 80 F0 E10"]

/-- The ranges of the property ASCII_Hex_Digit. -/
def rangesASCIIHexDigit : List Range := [⟨0x30, 0x39⟩, ⟨0x41, 0x46⟩, ⟨0x61, 0x66⟩]

/-- The ranges of the property Bidi_Control. -/
def rangesBidiControl : List Range := decode
  ["61C 1 19F1 2 1A 5 37 4"]

/-- The ranges of the property Changes_When_Lowercased. -/
def rangesChangesWhenLowercased : List Range := decode
  ["41 1A 65 17 1 7 21 1 1 1 1 1 1 1 1 1 1 1 1 1 1 1 1 1 1 1 1 1 1 1 1 1 1 1 1 1 1 1 1 1 1 1 1",
    "1 1 1 1 1 1 1 1 1 1 1 1 1 1 1 1 1 1 1 2 1 1 1 1 1 1 1 1 1 1 1 1 1 1 1 2 1 1 1 1 1 1 1 1 1",
    "1 1 1 1 1 1 1 1 1 1 1 1 1 1 1 1 1 1 1 1 1 1 1 1 1 1 1 1 1 1 1 1 1 1 1 1 1 2 1 1 1 1 3 2 1",
    "1 1 2 1 3 2 4 1 2 1 3 3 2 1 2 1 1 1 1 1 2 1 1 2 1 1 2 1 3 1 1 1 2 3 1 7 2 1 2 1 2 1 1 1 1",
    "1 1 1 1 1 1 1 1 1 1 1 1 2 1 1 1 1 1 1 1 1 1 1 1 1 1 1 1 1 1 2 2 1 1 1 3 1 1 1 1 1 1 1 1 1",
    "1 1 1 1 1 1 1 1 1 1 1 1 1 1 1 1 1 1 1 1 1 1 1 1 1 1 1 1 1 1 1 1 1 1 1 1 1 1 1 1 1 1 1 1 1",
    "1 1 1 1 7 2 1 2 2 1 1 4 1 1 1 1 1 1 1 1 121 1 1 1 3 1 8 1 6 1 1 3 1 1 1 2 1 11 1 9 23 1 8",
    "1 1 1 1 1 1 1 1 1 1 1 1 1 1 1 1 1 1 1 1 1 1 1 5 1 2 1 1 2 2 33 30 1 1 1 1 1 1 1 1 1 1 1 1",
    "1 1 1 1 1 1 1 1 1 1 1 1 1 1 1 1 1 1 1 1 1 9 1 1 1 1 1 1 1 1 1 1 1 1 1 1 1 1 1 1 1 1 1 1 1",
    "1 1 1 1 1 1 1 1 1 1 1 1 1 1 1 1 1 1 1 1 1 1 1 1 1 1 1 1 1 1 1 2 1 1 1 1 1 1 1 1 1 1 1 1 2",
    "1 1 1 1 1 1 1 1 1 1 1 1 1 1 1 1 1 1 1 1 1 1 1 1 1 1 1 1 1 1 1 1 1 1 1 1 1 1 1 1 1 1 1 1 1",
    "1 1 1 1 1 1 1 1 1 1 1 1 1 1 1 1 1 1 1 1 1 1 1 1 1 1 1 1 1 1 1 1 1 1 1 1 1 1 1 1 1 1 1 1 1",
    "1 1 1 1 1 2 26 B49 26 1 1 5 1 2D2 56 893 1 6 2B 2 3 140 1 1 1 1 1 1 1 1 1 1 1 1 1 1 1 1 1",
    "1 1 1 1 1 1 1 1 1 1 1 1 1 1 1 1 1 1 1 1 1 1 1 1 1 1 1 1 1 1 1 1 1 1 1 1 1 1 1 1 1 1 1 1 1",
    "1 1 1 1 1 1 1 1 1 1 1 1 1 1 1 1 1 1 1 1 1 1 1 1 1 1 1 1 1 1 1 1 1 1 1 1 1 1 1 1 1 1 1 1 1",
    "1 1 1 1 1 1 1 1 1 1 1 1 1 1 1 1 1 1 1 1 1 1 1 1 1 1 1 1 1 1 1 1 1 1 1 1 1 1 1 1 1 1 9 1 1",
    "1 1 1 1 1 1 1 1 1 1 1 1 1 1 1 1 1 1 1 1 1 1 1 1 1 1 1 1 1 1 1 1 1 1 1 1 1 1 1 1 1 1 1 1 1",
    "1 1 1 1 1 1 1 1 1 1 1 1 1 1 1 1 1 1 1 1 1 1 1 1 1 1 1 1 1 1 1 1 1 1 1 1 1 1 1 1 1 1 1 1 1",
    "1 1 1 1 1 9 8 8 6 A 8 8 8 8 6 B 1 1 1 1 1 1 1 8 8 18 8 8 8 8 8 8 5 B 5 B 4 C 5 B 5 129 1 3",
    "2 6 1 2D 10 13 1 332 1A 730 30 30 1 1 3 2 1 1 1 1 1 1 4 1 1 2 1 8 3 1 1 1 1 1 1 1 1 1 1 1",
    "1 1 1 1 1 1 1 1 1 1 1 1 1 1 1 1 1 1 1 1 1 1 1 1 1 1 1 1 1 1 1 1 1 1 1 1 1 1 1 1 1 1 1 1 1",
    "1 1 1 1 1 1 1 1 1 1 1 1 1 1 1 1 1 1 1 1 1 1 1 1 1 1 1 1 1 1 1 1 1 1 1 1 1 1 1 1 1 1 8 1 1",
    "1 4 1 794D 1 1 1 1 1 1 1 1 1 1 1 1 1 1 1 1 1 1 1 1 1 1 1 1 1 1 1 1 1 1 1 1 1 1 1 1 1 1 1 1",
    "1 1 1 1 1 13 1 1 1 1 1 1 1 1 1 1 1 1 1 1 1 1 1 1 1 1 1 1 1 1 1 1 1 87 1 1 1 1 1 1 1 1 1 1",
    "1 1 1 3 1 1 1 1 1 1 1 1 1 1 1 1 1 1 1 1 1 1 1 1 1 1 1 1 1 1 1 1 1 1 1 1 1 1 1 1 1 1 1 1 1",
    "1 1 1 1 1 1 1 1 1 1 1 1 1 1 1 1 1 1 1 1 A 1 1 1 1 2 1 1 1 1 1 1 1 1 4 1 1 1 2 1 1 1 3 1 1",
    "1 1 1 1 1 1 1 1 1 1 1 1 1 1 1 1 1 1 5 1 5 1 1 1 1 1 1 1 1 1 1 1 1 1 1 1 4 1 1 1 2 3 1 5 1",
    "1 1 1 1 1 1 18 1 572B 1A 4C5 28 88 24 9C B 1 F 1 7 1 2 6EA 33 9D 16 B3A 20 5580 20 7AA0 22"]

/-- The ranges of the property Changes_When_Uppercased. -/
def rangesChangesWhenUppercased : List Range := decode
  ["61 1A 3A 1 29 18 1 8 1 1 1 1 1 1 1 1 1 1 1 1 1 1 1 1 1 1 1 1 1 1 1 1 1 1 1 1 1 1 1 1 1 1 1",
    "1 1 1 1 1 1 1 1 1 1 1 1 1 1 1 1 1 1 1 1 1 2 1 1 1 1 1 1 1 1 1 1 1 1 1 1 2 1 1 1 1 1 1 1 1",
    "1 1 1 1 1 1 1 1 1 1 1 1 1 1 1 1 1 1 1 1 1 1 1 1 1 1 1 1 1 1 1 1 1 1 1 1 1 1 2 1 1 1 1 3 2",
    "1 1 1 2 1 3 1 5 1 2 1 3 3 2 1 2 1 1 1 1 1 2 1 4 1 2 1 3 1 1 1 2 1 3 1 1 1 5 2 1 2 1 2 1 1",
    "1 1 1 1 1 1 1 1 1 1 1 1 1 2 1 1 1 1 1 1 1 1 1 1 1 1 1 1 1 1 1 2 1 2 1 1 3 1 1 1 1 1 1 1 1",
    "1 1 1 1 1 1 1 1 1 1 1 1 1 1 1 1 1 1 1 1 1 1 1 1 1 1 1 1 1 1 1 3 1 1 1 1 1 1 1 1 1 1 1 1 1",
    "1 1 1 1 8 1 2 2 1 1 4 1 1 1 1 1 1 1 1 6 1 2 1 1 1 2 3 2 1 4 1 5 2 1 1 2 2 1 7 1 2 1 1 2 3",
    "6 5 1 A 2 A6 1 2B 1 1 1 3 1 3 3 12 1 1B 23 1 2 3 3 1 1 1 1 1 1 1 1 1 1 1 1 1 1 1 1 1 1 1 1",
    "1 1 1 5 1 1 2 1 2 1 34 30 1 1 1 1 1 1 1 1 1 1 1 1 1 1 1 1 1 1 1 1 1 1 1 1 1 1 1 1 1 1 1 1",
    "1 1 9 1 1 1 1 1 1 1 1 1 1 1 1 1 1 1 1 1 1 1 1 1 1 1 1 1 1 1 1 1 1 1 1 1 1 1 1 1 1 1 1 1 1",
    "1 1 1 1 1 1 1 1 1 1 1 2 1 1 1 1 1 1 1 1 1 1 1 1 2 1 1 1 1 1 1 1 1 1 1 1 1 1 1 1 1 1 1 1 1",
    "1 1 1 1 1 1 1 1 1 1 1 1 1 1 1 1 1 1 1 1 1 1 1 1 1 1 1 1 1 1 1 1 1 1 1 1 1 1 1 1 1 1 1 1 1",
    "1 1 1 1 1 1 1 1 1 1 1 1 1 1 1 1 1 1 1 1 1 1 1 1 1 1 1 1 1 1 1 31 27 B48 2B 2 3 2F8 6 882 9",
    "1 1 EE 1 3 1 10 1 72 1 1 1 1 1 1 1 1 1 1 1 1 1 1 1 1 1 1 1 1 1 1 1 1 1 1 1 1 1 1 1 1 1 1 1",
    "1 1 1 1 1 1 1 1 1 1 1 1 1 1 1 1 1 1 1 1 1 1 1 1 1 1 1 1 1 1 1 1 1 1 1 1 1 1 1 1 1 1 1 1 1",
    "1 1 1 1 1 1 1 1 1 1 1 1 1 1 1 1 1 1 1 1 1 1 1 1 1 1 1 1 1 1 1 1 1 1 1 1 1 1 1 1 1 1 1 1 1",
    "1 1 1 1 1 1 1 1 1 1 1 1 1 1 1 1 1 1 1 1 1 1 1 7 5 1 1 1 1 1 1 1 1 1 1 1 1 1 1 1 1 1 1 1 1",
    "1 1 1 1 1 1 1 1 1 1 1 1 1 1 1 1 1 1 1 1 1 1 1 1 1 1 1 1 1 1 1 1 1 1 1 1 1 1 1 1 1 1 1 1 1",
    "1 1 1 1 1 1 1 1 1 1 1 1 1 1 1 1 1 1 1 1 1 1 1 1 1 1 1 1 1 9 8 6 A 8 8 8 8 6 A 8 8 8 8 E 2",
    "35 1 2 4 1 1 1 3 3 1 2 4 1 3 4 2 2 8 8 A 3 1 2 4 1 151 1 21 10 4 1 34B 1A 746 30 1 1 3 2 1",
    "1 1 1 1 1 6 1 2 1 A 1 1 1 1 1 1 1 1 1 1 1 1 1 1 1 1 1 1 1 1 1 1 1 1 1 1 1 1 1 1 1 1 1 1 1",
    "1 1 1 1 1 1 1 1 1 1 1 1 1 1 1 1 1 1 1 1 1 1 1 1 1 1 1 1 1 1 1 1 1 1 1 1 1 1 1 1 1 1 1 1 1",
    "1 1 1 1 1 1 1 1 1 1 1 1 1 1 1 1 1 1 1 8 1 1 1 4 1 C 26 1 1 5 1 7913 1 1 1 1 1 1 1 1 1 1 1",
    "1 1 1 1 1 1 1 1 1 1 1 1 1 1 1 1 1 1 1 1 1 1 1 1 1 1 1 1 1 1 1 1 1 1 13 1 1 1 1 1 1 1 1 1 1",
    "1 1 1 1 1 1 1 1 1 1 1 1 1 1 1 1 1 87 1 1 1 1 1 1 1 1 1 1 1 1 1 3 1 1 1 1 1 1 1 1 1 1 1 1 1",
    "1 1 1 1 1 1 1 1 1 1 1 1 1 1 1 1 1 1 1 1 1 1 1 1 1 1 1 1 1 1 1 1 1 1 1 1 1 1 1 1 1 1 1 1 1",
    "1 1 1 A 1 1 1 2 1 1 1 1 1 1 1 1 1 4 1 4 1 1 2 2 1 1 1 1 1 1 1 1 1 1 1 1 1 1 1 1 1 1 1 B 1",
    "1 1 1 1 1 1 1 1 1 1 1 1 1 1 4 1 1 1 2 1 3 1 5 1 1 1 1 1 1A 1 35C 1 1C 50 4F40 7 C 5 429 1A",
    "4CD 28 88 24 9B B 1 F 1 7 1 2 703 33 7D 16 B3A 20 5580 20 7AA2 22"]

/-- The ranges of the property Dash. -/
def rangesDash : List Range := decode
  ["2D 1 55C 1 33 1 E41 1 405 1 809 6 3D 1 27 1 F 1 186 1 C04 1 2 1 1F 2 4 1 1C 1 1BE 1 13 1",
    "6F 1 CD90 2 25 1 A 1 A9 1 E60 1 13E 1"]

/-- The ranges of the property Deprecated. -/
def rangesDeprecated : List Range := decode
  ["149 1 529 1 903 1 1 1 829 2 8C5 6 2B9 2 DDCD6 1"]

/-- The ranges of the property Diacritic. -/
def rangesDiacritic : List Range := decode
  ["5E 1 1 1 47 1 6 1 4 1 2 2 1F7 9F 1 8 5 6 11 2 4 1 9 2 FD 5 D1 1 37 2D 1 1 1 2 1 2 1 1 83 8",
    "4 2 86 2 4 2 3 3 43 1B 5B B 3A B 22 2 7E 8 29 A 10 1C 3D 1 10 1 3 4 1C 1 4A 1 10 1 6E 1 10",
    "1 6E 1 10 1 2F 3 3C 1 10 1 7 1 77 1 6E 1 10 1 6E 1 10 1 6D 2 10 1 7C 1 6F 1 C 6 1 1 6B 1 D",
    "5 4B 2 1B 1 1 1 1 1 4 2 42 3 1 2 3E 1 70 1 1 2 28 2 4 5 19 7 1 1 A 2 2C1 3 3B4 2 1E 1 94 B",
    "9 1 15B 3 124 1 14 8 2 1 30 F 2 B 68 1 F 1 26 9 36 2 3A 1 B 2 42 2 40 6 52 19 4 1 6 1 2 3",
    "32 3F 30 24 5 C 25 B 1BD 1 1 3 B 3 D 3 D 3 D 2 CF0 3 13D 1 1FA 6 69 4 5F 1 7572 1 C 2 1 1",
    "1C 2 52 2 E 22 66 3 6D 2 C 1 25 1 97 1 1B 12 39 4 24 1 5F 1 C 1 24 1 95 3 41 4 33 1 64 5 9",
    "3 80 2 4F30 1 301 10 10E 1 1 1 2F 1 2D 2 43 1 2FC 1 49F 6 1 2A 1 9 27D 3 4 1 A5 2 23B 6 26",
    "1 1A 5 18F 3 46 B 31 4 C0 1 29 1 48 2 78 2 3E 1 4C 1 9 3 68 2 B2 2 50 2 10 1 18 7 3 5 59 3",
    "1 2 D 2 5F 1 3 1 7B 2 FB 2 7E 1 76 2 73 1 10D 2 102 2 4 1 9C 1 53 1 12 1 51 1 1A5 1 102 1",
    "1 2 51 1 1A9 2 17 1 14EC F 2CD9 1 9C0 5 3B 7 234 2 222 11 50 2 3FFE 4 1 7 1 2 1F01 2E 2 17",
    "220 3 3 6 8 8 2 7 1E 4 E82 3E C2 7 177 1 3D 4 2FE 2 2E0 7 6D 3 1 3"]

/-- The ranges of the property Emoji. -/
def rangesEmoji : List Range := decode
  ["23 1 6 1 5 A 6F 1 4 1 1F8D 1 C 1 D8 1 16 1 5A 6 F 2 16F 2 C 1 A6 1 19 B 4 3 C7 1 E7 2 A 1",
    "9 1 3A 4 1 5 9 1 2 1 2 2 2 1 4 1 2 1 1 2 2 1 3 1 3 2 8 3 5 1 1 1 5 C B 2 2 1 1 2 1 1 12 1",
    "2 2 12 6 1 1 1 2 3 2 5 1 2 2 4 2 B 2 5 2 2 1 5 2 1 1 1 2 14 2 5 6 1 4 2 1 4 1 2 1 2 6 1 1",
    "2 1 1 1 1 1 6 1 3 1 6 1 A 2 F 1 2 1 4 1 1 1 4 3 1 1 B 2 30 3 9 1 E 1 E 1 174 2 1CF 3 13 2",
    "33 1 4 1 4DA 1 C 1 259 1 1 1 1BD6A 1 CA 1 A0 2 C 2 E 1 2 A 4B 1A 1 2 17 1 14 1 2 9 15 2 AE",
    "22 2 70 2 2 1 3 2 53 2 3 1 107 1 3F B 6 1 18 7 2 2 8 C 1 2 4 2 1 4 2 D 2 2 1 8 2 9 1 5 3 C",
    "3 8 3 2 1 1 1 4 1 6 1 3 1 6 56 30 46 5 8 2 3 4 A 3 1 1 2 3 1 2 A E3 C 4 1 11B 2F 1 A 1 B9",
    "70 D 3 A 5 38 7 F 2 B 6 9"]

/-- The ranges of the property Emoji_Component. -/
def rangesEmojiComponent : List Range := decode
  ["23 1 6 1 5 A 1FD3 1 D5 1 DD2B 1 F3D6 1A 1FB 5 5B0 4 C066C 60"]

/-- The ranges of the property Emoji_Modifier. -/
def rangesEmojiModifier : List Range := [⟨0x1F3FB, 0x1F3FF⟩]

/-- The ranges of the property Emoji_Modifier_Base. -/
def rangesEmojiModifierBase : List Range := decode
  ["261D 1 DB 1 10 4 1CC77 1 3C 3 2 1 2 3 75 2 2 B 15 13 3 1 4 3 1 3 7 1 1 1 18 1 C9 2 4 1 15",
    "1 4 2 AE 3 3 5 53 1 10 3 9 1 B 1 23F 1 2 1 8 8 6 1 9 A 2 3 38 1 3D 2 1 2 1 1 11 3 1 D E5 3",
    "2A 9"]

/-- The ranges of the property Emoji_Presentation. -/
def rangesEmojiPresentation : List Range := decode
  ["231A 2 CD 4 3 1 2 1 209 2 15 2 32 C 2B 1 13 1 D 1 8 2 11 2 5 2 8 1 5 1 15 1 7 2 1 1 4 1 2",
    "1 7 1 4 2 1C 1 23 1 1 1 4 3 1 1 3D 3 18 1 E 1 35B 2 33 1 4 1 1C4AE 1 CA 1 BE 1 2 A 4B 1A 1",
    "1 18 1 14 1 2 5 1 3 15 2 AE 21 C 9 1 46 1 16 C 2B 4 5 C 11 3 1 3 47 1 1 1 BB 2 3F D 4 1 18",
    "12 1 1A 2 D 1 56 55 30 46 6 1 3 3 2 3 4 4 B 2 7 9 E3 C 4 1 11B 2F 1 A 1 B9 70 D 3 A 5 38 7",
    "F 2 B 6 9"]

/-- The ranges of the property Extended_Pictographic. -/
def rangesExtendedPictographic : List Range := decode
  ["A9 1 4 1 1F8D 1 C 1 D8 1 16 1 5A 6 F 2 16F 2 C 1 5F 1 46 1 19 B 4 3 C7 1 E7 2 A 1 9 1 3A 4",
    "1 6 1 C 1 72 A 76 2 B 1 1 1 1 6 1 3 1 6 1 A 2 F 1 2 1 4 1 1 1 4 3 1 1 B 5 2D 3 9 1 E 1 E 1",
    "174 2 1CF 3 13 2 33 1 4 1 4DA 1 C 1 259 1 1 1 1BD66 100 D 3 1F 1 3C 6 C 2 E 1 2 A 12 39 1B",
    "F A 1 14 1 2 9 1 4 9 1B2 5 13E 8 10A 30 80 74 C 55 2B C 4 38 8 A 6 28 8 1E 52 C 2F 1 A 1",
    "1B9 100 3FE"]

/-- The ranges of the property Extender. -/
def rangesExtender : List Range := decode
  ["B7 1 218 2 36E 1 1B9 1 276 1 89 1 59 1 2F0 1 7F 1 943 1 38 1 263 1 18E 1 44 1 1389 1 2B 5",
    "67 2 5D 3 6F16 1 5F6 1 3C2 1 16 1 89 1 6C 1 15 2 547B 1 810 2 5CB 1 1B 1 4 1 4C7 1 125 1",
    "74 2 1F2 3 4CF 1 50A9 2 49C 2 1 1 7158 2 4B1 1 354 3"]

/-- The ranges of the property Grapheme_Link. -/
def rangesGraphemeLink : List Range := decode
  ["94D 1 7F 1 7F 1 7F 1 7F 1 7F 1 7F 1 7F 1 6D 2 10 1 7C 1 6F 1 7F 1 C9 1 B4 2 6D9 2 1E 1 9D",
    "1 28D 1 E3 1 65 2 46 2 118B 1 7A86 1 25 1 97 1 8E 1 6C 1 135 1 F6 1 5E51 1 606 1 29 1 E 1",
    "39 1 79 2 8B 1 74 1 B4 1 62 1 80 3 71 1 7F 1 FC 1 7F 1 76 1 74 1 10D 1 103 2 A1 1 53 1 12",
    "1 51 1 1A5 1 104 2 51 1 1A9 2 41EC 1"]

/-- The ranges of the property Hex_Digit. -/
def rangesHexDigit : List Range := decode
  ["30 A 7 6 1A 6 FEA9 A 7 6 1A 6"]

/-- The ranges of the property Hyphen. -/
def rangesHyphen : List Range := decode
  ["2D 1 7F 1 4DC 1 127B 1 809 2 E05 1 2E3 1 CD67 1 A9 1 57 1"]

/-- The ranges of the property ID_Compat_Math_Continue. -/
def rangesIDCompatMathContinue : List Range := decode
  ["B2 2 5 1 1FB6 1 3 B 1 F 173 1 4 1 16 1 1B4A2 1 19 1 1F 1 19 1 1F 1 19 1 1F 1 19 1 1F 1 19",
    "1"]

/-- The ranges of the property ID_Compat_Math_Start. -/
def rangesIDCompatMathStart : List Range := decode
  ["2202 1 4 1 16 1 1B4A2 1 19 1 1F 1 19 1 1F 1 19 1 1F 1 19 1 1F 1 19 1"]

/-- The ranges of the property IDS_Binary_Operator. -/
def rangesIDSBinaryOperator : List Range := [⟨0x2FF0, 0x2FF1⟩, ⟨0x2FF4, 0x2FFD⟩, ⟨0x31EF, 0x31EF⟩]

/-- The ranges of the property IDS_Trinary_Operator. -/
def rangesIDSTrinaryOperator : List Range := [⟨0x2FF2, 0x2FF3⟩]

/-- The ranges of the property IDS_Unary_Operator. -/
def rangesIDSUnaryOperator : List Range := [⟨0x2FFE, 0x2FFF⟩]

/-- The ranges of the property Ideographic. -/
def rangesIdeographic : List Range := decode
  ["3006 2 19 9 E 3 3C5 19C0 40 5200 5900 16E 2 6A 750A 1 1B 17F8 8 4D6 29 A 2467 18C 4D04",
    "A6E0 20 103A 6 DE 2 1682 E 1D31 F 26E 9A2 21E 5E2 134B 5 1060"]

/-- The ranges of the property Join_Control. -/
def rangesJoinControl : List Range := [⟨0x200C, 0x200D⟩]

/-- The ranges of the property Logical_Order_Exception. -/
def rangesLogicalOrderException : List Range := decode
  ["E40 5 7B 5 AF0 3 2 1 90FA 2 2 1 1 2"]

/-- The ranges of the property Modifier_Combining_Mark. -/
def rangesModifierCombiningMark : List Range := decode
  ["654 2 2 1 83 1 6 1 3 2 1E1 2 1 3 3 1 1F 1"]

/-- The ranges of the property Noncharacter_Code_Point. -/
def rangesNoncharacterCodePoint : List Range := decode
  ["FDD0 20 20E 2 FFFE 2 FFFE 2 FFFE 2 FFFE 2 FFFE 2 FFFE 2 FFFE 2 FFFE 2 FFFE 2 FFFE 2 FFFE 2",
    "FFFE 2 FFFE 2 FFFE 2 FFFE 2 FFFE 2"]

/-- The ranges of the property Pattern_Syntax. -/
def rangesPatternSyntax : List Range := decode
  ["21 F A 7 1A 4 1 1 1A 4 22 7 1 1 1 2 1 1 1 2 4 1 4 1 3 1 17 1 1F 1 1F18 18 8 F 2 13 1 A 131",
    "2D0 A0 276 1E 46C 200 80 181 3 4 19 F 1 CD0D 2 105 2"]

/-- The ranges of the property Pattern_White_Space. -/
def rangesPatternWhiteSpace : List Range := decode
  ["9 5 12 1 64 1 1F88 2 18 2"]

/-- The ranges of the property Prepended_Concatenation_Mark. -/
def rangesPrependedConcatenationMark : List Range := decode
  ["600 6 D7 1 31 1 180 2 50 1 107DA 1 F 1"]

/-- The ranges of the property Quotation_Mark. -/
def rangesQuotationMark : List Range := decode
  ["22 1 4 1 83 1 F 1 1F5C 8 19 2 E07 1 1C9 4 D 3 CE21 4 BD 1 4 1 5A 2"]

/-- The ranges of the property Radical. -/
def rangesRadical : List Range := [⟨0x2E80, 0x2E99⟩, ⟨0x2E9B, 0x2EF3⟩, ⟨0x2F00, 0x2FD5⟩]

/-- The ranges of the property Regional_Indicator. -/
def rangesRegionalIndicator : List Range := [⟨0x1F1E6, 0x1F1FF⟩]

/-- The ranges of the property Sentence_Terminal. -/
def rangesSentenceTerminal : List Range := decode
  ["21 1 C 1 10 1 549 1 93 3 B4 1 2B 3 F6 1 3D 1 1 1 3 2 125 2 6E4 2 316 1 4 2 305 1 C6 2 9D 2",
    "2D 1 5 1 13A 2 162 4 A2 2 A 2 2 2 1D 3 BB 2 41 2 3A4 1 17 2 9 3 CAF 3 132 1 D 1 16 2 1AD 1",
    "74FC 1 10E 2 E3 1 3 1 17E 2 56 2 5F 1 98 2 93 3 90 2 F9 1 5226 1 2 2 3B 1 3 2 A9 1 C 1 10",
    "1 41 1 AF4 2 4FD 5 2C 4 BD 2 75 4 7F 3 81 2 6 1 10 2 58 2 1 2 6C 1 12A 2 75 2 175 2 5 F 69",
    "2 F9 3 205 1 1 1 FB 2 57 2 1A4 2 2B4 2 4A 2 4B29 2 85 1 41 2 B 1 229 2 128 1 4E06 1 1DE8 1"]

/-- The ranges of the property Soft_Dotted. -/
def rangesSoftDotted : List Range := decode
  ["69 2 C4 1 119 1 1E 1 34 1 14 1 140 1 62 1 1 1 1909 1 33 1 D 1 3 1 84 1 9D 1 1A5 1 D6 2 B32",
    "1 1A7A5 2 32 2 32 2 32 2 32 2 32 2 32 2 32 2 32 2 32 2 32 2 32 2 32 2 886 1 131 2 1A 1"]

/-- The ranges of the property Terminal_Punctuation. -/
def rangesTerminalPunctuation : List Range := decode
  ["21 1 A 1 1 1 B 2 3 1 33E 1 8 1 201 1 39 1 48 1 E 1 1 3 B4 1 2B B 1 1 EB 2 36 6 1 8 1F 1",
    "105 2 4F4 2 AC 1 4 6 137 2 315 8 305 1 7C 3 47 2 9D 3 3 1 27 4 2 2 13A 2 162 4 A2 2 A 2 1",
    "3 1D 3 BB 5 3E 2 3A4 1 17 2 9 3 CAF 3 132 1 D 1 4 1 A 1 1 2 3 2 1AC 2 74FB 2 10D 3 E3 5",
    "17E 2 56 2 5F 1 97 3 93 3 7F 1 10 2 F9 1 5226 1 2 2 39 3 1 4 A9 1 A 1 1 1 B 2 3 1 41 1 2 1",
    "43A 1 30 1 486 1 C7 1 136 2 98 6 44 6 59 4 3B8 5 2C 4 BD 7 70 4 7F 3 81 2 6 1 10 2 58 5 6C",
    "1 12A 2 75 3 C 2 166 4 3 F 69 2 F9 3 205 1 1 1 FB 2 57 2 4 2 19E 3 2D 1 285 2 4A 2 52B 5",
    "45F9 2 85 1 41 3 A 1 229 2 127 2 4E06 1 1DE7 4"]

/-- The ranges of the property Unified_Ideograph. -/
def rangesUnifiedIdeograph : List Range := decode
  ["3400 19C0 40 5200 5A0E 2 1 1 1 2 A 1 1 1 1 2 2 3 105D6 A6E0 20 103A 6 DE 2 1682 E 1D31 F",
    "26E 11A2 134B 5 1060"]

/-- The ranges of the property Variation_Selector. -/
def rangesVariationSelector : List Range := decode
  ["180B 3 1 1 E5F0 10 D02F0 F0"]

/-- The ranges of the property White_Space. -/
def rangesWhiteSpace : List Range := decode
  ["9 5 12 1 64 1 1A 1 15DF 1 97F B 1D 2 5 1 2F 1 FA0 1"]

/-- The properties, by name. -/
def basicProperties : List (String × List Range) :=
  [("Other_Alphabetic", rangesOtherAlphabetic),
    ("Other_Lowercase", rangesOtherLowercase),
    ("Other_Uppercase", rangesOtherUppercase),
    ("Other_Math", rangesOtherMath),
    ("Other_Grapheme_Extend", rangesOtherGraphemeExtend),
    ("Other_ID_Start", rangesOtherIDStart),
    ("Other_ID_Continue", rangesOtherIDContinue),
    ("Other_Default_Ignorable_Code_Point", rangesOtherDefaultIgnorableCodePoint),
    ("ASCII_Hex_Digit", rangesASCIIHexDigit),
    ("Bidi_Control", rangesBidiControl),
    ("Changes_When_Lowercased", rangesChangesWhenLowercased),
    ("Changes_When_Uppercased", rangesChangesWhenUppercased),
    ("Dash", rangesDash),
    ("Deprecated", rangesDeprecated),
    ("Diacritic", rangesDiacritic),
    ("Emoji", rangesEmoji),
    ("Emoji_Component", rangesEmojiComponent),
    ("Emoji_Modifier", rangesEmojiModifier),
    ("Emoji_Modifier_Base", rangesEmojiModifierBase),
    ("Emoji_Presentation", rangesEmojiPresentation),
    ("Extended_Pictographic", rangesExtendedPictographic),
    ("Extender", rangesExtender),
    ("Grapheme_Link", rangesGraphemeLink),
    ("Hex_Digit", rangesHexDigit),
    ("Hyphen", rangesHyphen),
    ("ID_Compat_Math_Continue", rangesIDCompatMathContinue),
    ("ID_Compat_Math_Start", rangesIDCompatMathStart),
    ("IDS_Binary_Operator", rangesIDSBinaryOperator),
    ("IDS_Trinary_Operator", rangesIDSTrinaryOperator),
    ("IDS_Unary_Operator", rangesIDSUnaryOperator),
    ("Ideographic", rangesIdeographic),
    ("Join_Control", rangesJoinControl),
    ("Logical_Order_Exception", rangesLogicalOrderException),
    ("Modifier_Combining_Mark", rangesModifierCombiningMark),
    ("Noncharacter_Code_Point", rangesNoncharacterCodePoint),
    ("Pattern_Syntax", rangesPatternSyntax),
    ("Pattern_White_Space", rangesPatternWhiteSpace),
    ("Prepended_Concatenation_Mark", rangesPrependedConcatenationMark),
    ("Quotation_Mark", rangesQuotationMark),
    ("Radical", rangesRadical),
    ("Regional_Indicator", rangesRegionalIndicator),
    ("Sentence_Terminal", rangesSentenceTerminal),
    ("Soft_Dotted", rangesSoftDotted),
    ("Terminal_Punctuation", rangesTerminalPunctuation),
    ("Unified_Ideograph", rangesUnifiedIdeograph),
    ("Variation_Selector", rangesVariationSelector),
    ("White_Space", rangesWhiteSpace)]

end TestFleet.Unicode
