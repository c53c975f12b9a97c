import TestFleet.Unicode.Derived
import TestFleet.Unicode.Script
/-!
# Where text may be broken

The classes of characters by which clusters, words and sentences are told apart. Most follow from
other properties; the rest are tables. Each class is given by all its names. A class that no longer
holds any character, and the class of everything else, are not listed.
-/
namespace TestFleet.Unicode

/-- Jamo that start a syllable. -/
def leadingJamo : List Range := [⟨0x1100, 0x115F⟩, ⟨0xA960, 0xA97C⟩]

/-- Jamo and vowel signs in the middle of a syllable. -/
def vowelJamo : List Range :=
  [⟨0x1160, 0x11A7⟩, ⟨0xD7B0, 0xD7C6⟩, ⟨0x16D63, 0x16D63⟩, ⟨0x16D67, 0x16D6A⟩]

/-- Jamo that end a syllable. -/
def trailingJamo : List Range := [⟨0x11A8, 0x11FF⟩, ⟨0xD7CB, 0xD7FB⟩]

/-- Syllables without a trailing consonant: every twenty-eighth one. -/
def openSyllables : List Range :=
  (List.range 399).map fun i => ⟨0xAC00 + 28 * i, 0xAC00 + 28 * i⟩

/-- Syllables with a trailing consonant. -/
def closedSyllables : List Range :=
  (List.range 399).map fun i => ⟨0xAC01 + 28 * i, 0xAC1B + 28 * i⟩

/-- Characters that belong to the cluster of the one before them. -/
def clusterExtend : List Range := union rangesGraphemeExtend rangesEmojiModifier

/-- Spacing marks that do not belong to the cluster before them. -/
def looseMarks : List Range :=
  decode ["102B 2 B 1 29 3 2 7 15 1 3 6 2 1 A 3 9C4 1 1 2 9016 1 1 1 6CA2 2"]

/-- Letters that join the cluster after them. -/
def prefixedLetters : List Range :=
  decode ["D4E 1 10473 2 20D 1 56D 1 1 1 F8 1 49 6 2BC 1 1BB 1"]

/-- The classes of clusters. -/
def graphemeBreaks : List (List String × List Range) :=
  [(["CR"], [⟨13, 13⟩]), (["LF"], [⟨10, 10⟩]),
    (["CN", "Control"],
      minus
        (ofCategories ["Zl", "Zp", "Cc", "Cf"]
          ++ minus rangesDefaultIgnorableCodePoint assigned)
        (clusterExtend ++ rangesPrependedConcatenationMark ++ rangesJoinControl
          ++ [⟨10, 10⟩, ⟨13, 13⟩])),
    (["EX", "Extend"], clusterExtend),
    (["ZWJ"], [⟨0x200D, 0x200D⟩]),
    (["RI", "Regional_Indicator"], rangesRegionalIndicator),
    (["PP", "Prepend"], prefixedLetters ++ rangesPrependedConcatenationMark),
    (["SM", "SpacingMark"],
      minus rangesMc (clusterExtend ++ looseMarks) ++ [⟨0xE33, 0xE33⟩, ⟨0xEB3, 0xEB3⟩]),
    (["L"], leadingJamo), (["V"], vowelJamo), (["T"], trailingJamo),
    (["LV"], openSyllables), (["LVT"], closedSyllables)]

/-- Marks that belong to the word of the character before them. -/
def wordExtend : List Range :=
  minus (rangesGraphemeExtend ++ rangesMc ++ rangesEmojiModifier) [⟨0x200D, 0x200D⟩]

/-- Digits, and signs that stand before numbers. -/
def wordNumeric : List Range :=
  decode
    ["30 A 5C6 6 5A A 1 1 71 1 12 A C6 A C6 2 50 1 83 A 76 A 76 A 76 A 76 A 76 A 76 A 76 A 76 A",
      "76 A 60 A 76 A 46 A 116 A 46 A 746 A 26 A 12C A 80 A A6 A 6 A B6 A 56 A 86 A 6 A 89C6 A",
      "2A6 A 26 A C6 A 16 A 56 A 196 A 5316 A 586 A 886 A 6 A 31C A 4D 1 F 1 22 A 3C A 90 A 116",
      "A 156 A 76 A 176 A 66 A 6 14 4C A 1A6 A 66 A 296 A 56 A F6 A 46 A 1A6 A 41D6 A 926 A 56 A",
      "86 A 216 A 5F76 A AD4 32 940 A 1A6 A 1F6 A F7 A 355 A 1296 A"]

/-- Katakana and what stands in words of it. -/
def wordKatakana : List Range :=
  decode ["3031 5 65 2 3 5B 1 4 F0 10 D0 2F 1 58 CC0E 38 B052 4 1 7 1 2 1 1 11F 3 32 1 E 4"]

/-- Hebrew letters. -/
def hebrewLetters : List Range :=
  decode ["5D0 1B 4 4 F52A 1 1 A 1 D 1 5 1 1 1 2 1 2 1 A"]

/-- Characters of scripts that write words without blanks. -/
def complexContext : List Range :=
  decode
    ["E01 3A 5 F 32 2 1 1 1 5 1 18 1 1 1 17 2 5 1 1 1 7 D 4 120 40 10 40 A 6 6E0 54 3 1 4 2",
      "172 1E 2 5 B 2C 4 1A 10 1 3 2 40 3F 1 1D 23 E 8F32 10 A 5 61 63 18 5 6C20 1B 2 F E 2 3",
      "8"]

/-- Signs that count as letters of words. -/
def letterLike : List Range :=
  decode ["2C2 4 C 6 6 2 5 7 1 1 1 11 25A 3 1 1 2B 1 68 1 A114 F 9 2 67 2 3D0 1"]

/-- The ranges of a script, whatever name it is asked for by. -/
def scriptNamed (name : String) : List Range :=
  decode ((scripts.filter fun (names, _) => names.contains name).flatMap (·.2))

/-- The letters of words. -/
def wordLetters : List Range :=
  minus (rangesAlphabetic ++ letterLike)
    (rangesIdeographic ++ wordKatakana ++ complexContext ++ scriptNamed "Hiragana" ++ wordExtend
      ++ hebrewLetters ++ wordNumeric)

/-- The classes of words. -/
def wordBreaks : List (List String × List Range) :=
  [(["CR"], [⟨13, 13⟩]), (["LF"], [⟨10, 10⟩]),
    (["NL", "Newline"], [⟨11, 12⟩, ⟨0x85, 0x85⟩, ⟨0x2028, 0x2029⟩]),
    (["Extend"], wordExtend), (["ZWJ"], [⟨0x200D, 0x200D⟩]),
    (["RI", "Regional_Indicator"], rangesRegionalIndicator),
    (["FO", "Format"],
      minus rangesCf (wordExtend ++ wordNumeric ++ [⟨0x200B, 0x200D⟩])),
    (["KA", "Katakana"], wordKatakana), (["HL", "Hebrew_Letter"], hebrewLetters),
    (["LE", "ALetter"], wordLetters), (["NU", "Numeric"], wordNumeric),
    (["SQ", "Single_Quote"], [⟨0x27, 0x27⟩]), (["DQ", "Double_Quote"], [⟨0x22, 0x22⟩]),
    (["MB", "MidNumLet"], decode ["2E 1 1FE9 2 A 1 DE2D 1 B4 1 6 1"]),
    (["ML", "MidLetter"], decode ["3A 1 7C 1 2CF 1 1D7 1 94 1 1A32 1 DDEB 1 41 1 C4 1"]),
    (["MN", "MidNum"],
      decode
        ["2C 1 E 1 342 1 20A 1 82 2 5E 1 18B 1 184B 1 DDCB 1 3 1 3B 1 3 1 B7 1 E 1"]),
    (["EX", "ExtendNumLet"], decode ["5F 1 1FCF 1 F 2 13 1 DDDE 2 18 3 EF 1"]),
    (["WSegSpace"], decode ["20 1 165F 1 97F 7 1 3 54 1 FA0 1"])]

/-- Full stops that may also stand in abbreviations. -/
def abbreviationStops : List Range :=
  [⟨0x2E, 0x2E⟩, ⟨0x2024, 0x2024⟩, ⟨0xFE52, 0xFE52⟩, ⟨0xFF0E, 0xFF0E⟩]

/-- Marks that belong to the sentence of the character before them. -/
def sentenceExtend : List Range := union (rangesGraphemeExtend ++ rangesMc) [⟨0x200D, 0x200D⟩]

/-- Digits in sentences. -/
def sentenceNumeric : List Range := union wordNumeric [⟨0x66C, 0x66C⟩]

/-- Capital letters that start a sentence. -/
def sentenceUpper : List Range :=
  minus (rangesLt ++ rangesUppercase) [⟨0x1C90, 0x1CBA⟩, ⟨0x1CBD, 0x1CBF⟩]

/-- Small letters that do not start a sentence. -/
def sentenceLower : List Range :=
  minus rangesLowercase
    (⟨0x10D0, 0x10FA⟩ :: ⟨0x10FD, 0x10FF⟩ :: rangesGraphemeExtend ++ sentenceUpper)

/-- The classes of sentences. -/
def sentenceBreaks : List (List String × List Range) :=
  [(["CR"], [⟨13, 13⟩]), (["LF"], [⟨10, 10⟩]),
    (["SE", "Sep"], [⟨0x85, 0x85⟩, ⟨0x2028, 0x2029⟩]),
    (["EX", "Extend"], sentenceExtend),
    (["SP", "Sp"], minus rangesWhiteSpace [⟨10, 10⟩, ⟨13, 13⟩, ⟨0x85, 0x85⟩, ⟨0x2028, 0x2029⟩]),
    (["FO", "Format"],
      minus rangesCf (sentenceExtend ++ sentenceNumeric ++ rangesJoinControl)),
    (["LO", "Lower"], sentenceLower), (["UP", "Upper"], sentenceUpper),
    (["LE", "OLetter"],
      minus (rangesAlphabetic ++ [⟨0x5F3, 0x5F3⟩])
        (sentenceLower ++ sentenceUpper ++ sentenceExtend)),
    (["NU", "Numeric"], sentenceNumeric), (["AT", "ATerm"], abbreviationStops),
    (["ST", "STerm"], minus rangesSentenceTerminal abbreviationStops),
    (["SC", "SContinue"],
      decode
        ["2C 2 C 2 342 1 1DE 1 AE 2 1EA 1 1009 1 5 1 80A 2 FEC 1 CE0E 2 1 2 1C 2 1D 2 2 2 2 1 A",
          "1 A8 2 C 2 48 1"]),
    (["CL", "Close"],
      decode
        ["22 1 4 3 31 1 1 1 1D 1 1 1 2D 1 F 1 E7E 4 75D 2 97B 8 19 2 A 2 36 2 E 2 279 4 1D 2",
          "430 6 7 E 4F 2 1F A 193 16 3F 4 20 2 402 E E 2 2 A 18 1 12 8 1AB A 2 8 1 3 CD1E 2 D7 2",
          "1C 10 2 2 10 6 A9 2 31 1 1 1 1D 1 1 1 1 2 1 2 F712 3"])]

end TestFleet.Unicode
