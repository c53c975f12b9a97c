import TestFleet.Unicode.Category
import TestFleet.Unicode.Property
/-!
# Properties that follow from others

The standard defines many properties by general categories and a list of exceptions. They are
computed here from the tables in the same way.
-/
namespace TestFleet.Unicode

/-- The ranges of several categories. -/
def ofCategories (short : List String) : List Range :=
  (categories.filter fun (s, _, _) => short.contains s).flatMap fun (_, _, rs) => rs

/-- Every code point that has a category of its own. -/
def assigned : List Range := joined (categories.flatMap fun (_, _, rs) => rs)

/-- Letters of all kinds, numbers that are letters, and what is used like a letter. -/
def rangesAlphabetic : List Range :=
  joined (ofCategories ["Lu", "Ll", "Lt", "Lm", "Lo", "Nl"] ++ rangesOtherAlphabetic)

/-- Small letters. -/
def rangesLowercase : List Range := union rangesLl rangesOtherLowercase

/-- Capital letters. -/
def rangesUppercase : List Range := union rangesLu rangesOtherUppercase

/-- Characters with case. -/
def rangesCased : List Range := joined (rangesLt ++ rangesLowercase ++ rangesUppercase)

/-- Punctuation inside words that case rules pass over: apostrophes, middle dots, full stops. -/
def rangesInnerPunctuation : List Range :=
  decode ["27 1 6 1 B 1 7C 1 2CF 1 1D7 1 94 1 1A23 2 A 1 2 1 DDEB 1 3E 1 2 1 B1 1 6 1 B 1"]

/-- Characters that case rules pass over. -/
def rangesCaseIgnorable : List Range :=
  joined (ofCategories ["Mn", "Me", "Cf", "Lm", "Sk"] ++ rangesInnerPunctuation)

/-- Signs and letters of mathematics. -/
def rangesMath : List Range := union rangesSm rangesOtherMath

/-- Characters that extend the one before them. -/
def rangesGraphemeExtend : List Range :=
  joined (ofCategories ["Me", "Mn"] ++ rangesOtherGraphemeExtend)

/-- Characters that stand on their own. -/
def rangesGraphemeBase : List Range :=
  minus assigned
    (ofCategories ["Cc", "Cf", "Co", "Zl", "Zp"] ++ rangesGraphemeExtend)

/-- Characters that a program may leave out where it cannot show them. -/
def rangesDefaultIgnorableCodePoint : List Range :=
  minus (rangesOtherDefaultIgnorableCodePoint ++ rangesCf ++ rangesVariationSelector)
    (rangesWhiteSpace ++ [⟨0xFFF9, 0xFFFB⟩, ⟨0x13430, 0x13440⟩]
      ++ rangesPrependedConcatenationMark)

/-- What an identifier may start with. -/
def rangesIDStart : List Range :=
  union
    (minus (ofCategories ["Lu", "Ll", "Lt", "Lm", "Lo", "Nl"])
      (rangesPatternSyntax ++ rangesPatternWhiteSpace))
    rangesOtherIDStart

/-- What an identifier may go on with. -/
def rangesIDContinue : List Range :=
  joined (rangesIDStart ++ ofCategories ["Mn", "Mc", "Nd", "Pc"] ++ rangesOtherIDContinue)

/-- Characters whose compatibility forms are no identifiers. -/
def unstableContinue : List Range :=
  decode ["37A 1 2D20 2 CBC1 6 196 2 74 1 1 1 1 1 1 1 1 1 1 1 1 1 1 1"]

/-- What an identifier may start with in every normal form. -/
def rangesXIDStart : List Range :=
  minus rangesIDStart
    (unstableContinue ++ [⟨0xE33, 0xE33⟩, ⟨0xEB3, 0xEB3⟩, ⟨0xFF9E, 0xFF9F⟩])

/-- What an identifier may go on with in every normal form. -/
def rangesXIDContinue : List Range := minus rangesIDContinue unstableContinue

/-- What changes when it starts a word in title case. -/
def rangesChangesWhenTitlecased : List Range :=
  minus (rangesChangesWhenUppercased ++ [⟨0x1C4, 0x1C4⟩, ⟨0x1C7, 0x1C7⟩, ⟨0x1CA, 0x1CA⟩,
      ⟨0x1F1, 0x1F1⟩])
    (decode ["1C5 1 2 1 2 1 26 1 EDD 2B 2 3 E88 8 8 8 8 8 C 1 F 1 2F 1"])

/-- What changes when case is folded away. -/
def rangesChangesWhenCasefolded : List Range :=
  minus
    (rangesChangesWhenLowercased
      ++ decode ["B5 1 29 1 69 1 35 1 1C5 1 7C 1 D 2 3 2 19 2 3 1 191 1 E70 6 882 9 211 2 E4 8 8",
        "8 8 8 A 3 2 1 A 3 2 1 2A 3 2 1 8B78 50 4F40 7 C 5"])
    [⟨0x13A0, 0x13F5⟩]

/-- What changes in one of the three cases. -/
def rangesChangesWhenCasemapped : List Range :=
  joined (rangesChangesWhenLowercased ++ rangesChangesWhenUppercased
    ++ rangesChangesWhenTitlecased)

/-- The properties that are computed, by name. -/
def derivedProperties : List (String × List Range) :=
  [("Alphabetic", rangesAlphabetic), ("Lowercase", rangesLowercase),
    ("Uppercase", rangesUppercase), ("Cased", rangesCased),
    ("Case_Ignorable", rangesCaseIgnorable), ("Math", rangesMath),
    ("Grapheme_Extend", rangesGraphemeExtend), ("Grapheme_Base", rangesGraphemeBase),
    ("Default_Ignorable_Code_Point", rangesDefaultIgnorableCodePoint),
    ("ID_Start", rangesIDStart), ("ID_Continue", rangesIDContinue),
    ("XID_Start", rangesXIDStart), ("XID_Continue", rangesXIDContinue),
    ("Changes_When_Titlecased", rangesChangesWhenTitlecased),
    ("Changes_When_Casefolded", rangesChangesWhenCasefolded),
    ("Changes_When_Casemapped", rangesChangesWhenCasemapped)]

/-- Letters, digits, marks, connecting punctuation and joiners. -/
def wordRanges : List Range :=
  joined (rangesAlphabetic ++ ofCategories ["Mn", "Mc", "Me", "Nd", "Pc"] ++ rangesJoinControl)

end TestFleet.Unicode
