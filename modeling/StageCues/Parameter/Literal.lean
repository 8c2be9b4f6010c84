import StageCues.Fault
import StageCues.Text.Upper

/-!
# Parameters — literals

The characters of one parameter as they are collected, and what they stand for.  A numeric literal
is a zero, a radix marker and digits; the longest run of digits counts and what follows it is
ignored.  It is not read if its digits go beyond the limit of base ten.  A text literal loses one
pair of enclosing double quotes.
-/

namespace StageCues

open Text

/-- The base a radix marker selects: ten or two for their markers, sixteen for every other one. -/
def markedBase (marker : Text) : Nat :=
  match uppercase marker with
  | ['D'] => 10
  | ['B'] => 2
  | _ => 16

/-- The base that a numeric literal is read in.  The first character is not looked at; the second is
the radix marker, which selects the base only if radices are honoured. -/
def literalBase (honourRadix : Bool) (t : Text) : Nat :=
  if honourRadix then markedBase ((t.drop 1).take 1) else 16

/-- The digits of a numeric literal that count: the longest run behind the radix marker. -/
def literalDigits (honourRadix : Bool) (t : Text) : Text :=
  (uppercase (t.drop 2)).takeWhile (isDigitOf (literalBase honourRadix t))

/-- The value of a numeric literal. -/
def numberValue (honourRadix : Bool) (t : Text) : Nat :=
  digitsValue (literalBase honourRadix t) (literalDigits honourRadix t)

/-- The number that is read of a numeric literal, or the fault that it has too many digits. -/
def readNumber (honourRadix : Bool) (t : Text) : Except Fault Nat :=
  if isReadable (literalBase honourRadix t) (literalDigits honourRadix t) then
    .ok (numberValue honourRadix t)
  else .error (.tooManyDigits (literalDigits honourRadix t).length)

/-- The text without one pair of enclosing double quotes. -/
def stripQuotes (t : Text) : Text :=
  if 1 < t.length ∧ t.head? = some '"' ∧ t.getLast? = some '"' then t.tail.dropLast else t

/-- The characters of one parameter so far: where they start, and whether a double quote has been
opened and not closed among them. -/
structure Literal where
  text : Text
  start : Option Int
  quoted : Bool
  deriving DecidableEq, Repr

namespace Literal

/-- A literal without characters. -/
def empty : Literal := ⟨[], none, false⟩

/-- The literal with more characters, found at the position. -/
def push (l : Literal) (piece : Text) (pos : Int) : Literal where
  text := l.text ++ piece
  start := some (l.start.getD pos)
  quoted := if piece = ['"'] then !l.quoted else l.quoted

/-- Whether this can be the start of a numeric literal: its first character is a zero. -/
def startsNumber (l : Literal) : Bool := l.text.head? = some '0'

/-- The value as a number. -/
def asNumber (l : Literal) (honourRadix : Bool) : Except Fault Nat := readNumber honourRadix l.text

/-- The value as a text. -/
def asText (l : Literal) : Text := stripQuotes l.text

/-- The label of a literal. -/
def label (l : Literal) : Text :=
  let place : Text := match l.start with
    | none => "None"
    | some pos => decimal pos
  "<Literal " ++ Text.quoted l.text ++ " at " ++ place ++ ">"

end Literal

end StageCues
