import StageCues.Text.Basic

/-!
# Text — blanks

The characters that separate words without being part of them.  The set is that of the Unicode
white space together with the four information separators; the zero width characters and the
byte order mark are not in it.
-/

namespace StageCues.Text

/-- The ranges of blank characters, both ends included, in ascending order. -/
def blankRanges : List (Nat × Nat) :=
  [(0x09, 0x0D), (0x1C, 0x20), (0x85, 0x85), (0xA0, 0xA0), (0x1680, 0x1680), (0x2000, 0x200A),
   (0x2028, 0x2029), (0x202F, 0x202F), (0x205F, 0x205F), (0x3000, 0x3000)]

/-- Whether the character is a blank. -/
def isBlank (c : Char) : Bool :=
  blankRanges.any fun r => r.1 ≤ c.toNat && c.toNat ≤ r.2

theorem isBlank_newline : isBlank '\n' = true := by decide

theorem isBlank_return : isBlank '\r' = true := by decide

theorem isBlank_quote : isBlank '"' = false := by decide

end StageCues.Text
