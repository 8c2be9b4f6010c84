import StageCues.Text.Basic

/-!
# Text — numerals

Numbers written in a base up to sixteen, with capital letters as the digits from ten on, and
the value of a run of such digits.  Between numbers and numerals in base ten stands a limit: a
longer numeral is neither made nor read.  Base sixteen and base two have none.
-/

namespace StageCues.Text

/-- The digits of `n` in the base, most significant first; zero has one digit. -/
def numeral (base n : Nat) : Text := (Nat.toDigits base n).map Char.toUpper

/-- A whole number in base ten, with a sign if it is negative. -/
def decimal : Int → Text
  | .ofNat n => numeral 10 n
  | .negSucc n => '-' :: numeral 10 (n + 1)

/-- The most digits that a numeral in base ten may have; a sign is no digit. -/
def digitLimit : Nat := 4300

/-- Whether the number can be put down in base ten. -/
def isShort (n : Int) : Bool := (numeral 10 n.natAbs).length ≤ digitLimit

/-- A whole number in base sixteen in a field of at least two places, filled with zeros; a sign
takes one of the places. -/
def paddedHex : Int → Text
  | .ofNat n => (numeral 16 n).leftpad 2 '0'
  | .negSucc n => '-' :: numeral 16 (n + 1)

/-- A code in base sixteen with small letters, filled with zeros to the width. -/
def codeHex (width n : Nat) : Text := (Nat.toDigits 16 n).leftpad width '0'

/-- The value of a digit, capital letters counting from ten; a character that is no digit has a
value of no base. -/
def digitValue (c : Char) : Nat :=
  if '0' ≤ c ∧ c ≤ '9' then c.toNat - 48
  else if 'A' ≤ c ∧ c ≤ 'F' then c.toNat - 55
  else 16

/-- Whether the character is a digit of the base. -/
def isDigitOf (base : Nat) (c : Char) : Bool := digitValue c < min base 16

/-- Whether the run of digits can be read in the base.  Zeros in front count as digits. -/
def isReadable (base : Nat) (digits : Text) : Bool := base ≠ 10 || digits.length ≤ digitLimit

/-- The value of a run of digits. -/
def digitsValue (base : Nat) (digits : Text) : Nat :=
  digits.foldl (fun n c => base * n + digitValue c) 0

@[simp] theorem digitsValue_nil (base : Nat) : digitsValue base [] = 0 := rfl

theorem digitsValue_append_singleton (base : Nat) (digits : Text) (c : Char) :
    digitsValue base (digits ++ [c]) = base * digitsValue base digits + digitValue c := by
  simp [digitsValue]

end StageCues.Text
