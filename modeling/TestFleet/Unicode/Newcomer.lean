import TestFleet.Unicode.Ranges
/-!
# Characters new in Unicode 17

The other tables stand at Unicode 16. These ranges say what the next version added to them: the
assigned characters, and which of those are alphabetic, are numbers or extend what stands before
them. None of the new characters is a separator, a control or a format character.
-/
namespace TestFleet.Unicode

/-- The characters that Unicode 17 added. -/
def newlyAssigned : List Range := decode
  ["88F 1 3CC 1 7F 1 DF2 F 2 C 5D5 1 AD4 1 7C37 2 2 1 1 1 1C 1 53D1 10 1BD 2 36 7 B71 1A 56B 3",
    "8 9 21 2 C64 8 248 2C 4 A 50B6 19 2 19 11E 5 1801 8 509 16 61 73 3F07 3 1BD 17 F 11 17CF",
    "1F 1 16 8 2 FD8 1 9E 4 155 9 17B 4 32 1 3 1 39 1 4 1 1C 1 4 1 10A 1 BB3F 6 1762 C 5502",
    "10CA"]

/-- The alphabetic ones among the new characters. -/
def newlyAlphabetic : List Range := decode
  ["88F 1 3CC 1 7F 1 9AF1 2 2 1 1 1 1C 1 614E 1A 56B 3 32 2 C64 8 248 2C 50C4 19 2 19 11E 5",
    "1801 8 509 16 61 73 58CD 1F 1 16 8 2 D03A 6 1762 C 5502 10CA"]

/-- The numbers among the new characters. -/
def newlyNumeric : List Range := [⟨0x11DE0, 0x11DE9⟩, ⟨0x16FF4, 0x16FF6⟩]

/-- The new characters that extend the one before them. -/
def newlyExtending : List Range := decode
  ["1ACF F 2 C F40E 2 C64 1 1 3 1 1 CB7C 1 2 1 7 2 5 1"]

end TestFleet.Unicode
