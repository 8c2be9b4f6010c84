import StageCues.Text.Numeral
import StageCues.Text.Printable

/-!
# Text — quoted forms

How a text is shown inside a message.  The quote in use is the single one, unless the text holds
a single quote and no double one.  The backslash, the quote in use and every character that does
not print are written as escapes.
-/

namespace StageCues.Text

/-- The quote around a text. -/
def quoteFor (t : Text) : Char :=
  if t.contains '\'' && !t.contains '"' then '"' else '\''

/-- The escape of a character that does not print: two, four or eight digits, as few as hold its
code. -/
def codeEscape (c : Char) : Text :=
  if c.toNat < 0x100 then "\\x" ++ codeHex 2 c.toNat
  else if c.toNat < 0x10000 then "\\u" ++ codeHex 4 c.toNat
  else "\\U" ++ codeHex 8 c.toNat

/-- One character between the quotes `q`. -/
def escaped (q c : Char) : Text :=
  if c = q ∨ c = '\\' then ['\\', c]
  else if c = '\n' then "\\n"
  else if c = '\r' then "\\r"
  else if c = '\t' then "\\t"
  else if isPrintable c then [c]
  else codeEscape c

/-- The text in quotes. -/
def quoted (t : Text) : Text :=
  quoteFor t :: t.flatMap (escaped (quoteFor t)) ++ [quoteFor t]

/-- The widest quoted form that is shown whole. -/
def abbreviatedWidth : Nat := 30

/-- How many characters an abbreviated form keeps in front of its dots, and how many behind. -/
def abbreviatedEnds : Nat × Nat := (13, 14)

/-- The characters from the place `n` before the end; a place before the front counts from the
end once more. -/
def lastPart (n : Nat) (t : Text) : Text :=
  if n ≤ t.length then t.drop (t.length - n) else t.drop (2 * t.length - n)

/-- The text in quotes, with its middle left out if the quoted form is too wide. -/
def abbreviated (t : Text) : Text :=
  let whole := quoted (t.take abbreviatedWidth)
  if whole.length ≤ abbreviatedWidth then whole
  else
    let ends := quoted (t.take abbreviatedEnds.1 ++ lastPart abbreviatedEnds.2 t)
    ends.take abbreviatedEnds.1 ++ "..." ++ ends.drop (ends.length - abbreviatedEnds.2)

/-- The widest number that is shown whole. -/
def abbreviatedDigits : Nat := 40

/-- How many characters an abbreviated number keeps in front of its dots, and how many behind. -/
def abbreviatedDigitEnds : Nat × Nat := (18, 19)

/-- The wording of a number, with its middle left out if it is too wide. -/
def abbreviatedMiddle (whole : Text) : Text :=
  if whole.length ≤ abbreviatedDigits then whole
  else whole.take abbreviatedDigitEnds.1 ++ "..." ++
    whole.drop (whole.length - abbreviatedDigitEnds.2)

end StageCues.Text
