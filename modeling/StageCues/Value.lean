import StageCues.Text.Basic

/-!
# Values — what an attribute can be given

The plain values: texts, numbers, truth values, and nothing at all.  Most attributes have one sort
of values for good.  A title or a path is a text whenever it is received, but takes any plain value
that is set by hand, and so does a name that a document had no use for.
-/

namespace StageCues

/-- The sorts of plain values. -/
inductive ValueSort where
  | nothing
  | truth
  | number
  | text
  deriving DecidableEq, Repr

/-- The name of a sort of values in messages. -/
def ValueSort.name : ValueSort → Text
  | .nothing => "NoneType"
  | .truth => "bool"
  | .number => "int"
  | .text => "str"

/-- A plain value. -/
inductive PlainValue where
  | text (t : Text)
  | number (n : Int)
  | truth (b : Bool)
  | nothing
  deriving DecidableEq, Repr

namespace PlainValue

instance : Coe Text PlainValue := ⟨text⟩

/-- The empty text. -/
def blank : PlainValue := .text []

/-- The sort of a value. -/
def sort : PlainValue → ValueSort
  | .text _ => .text
  | .number _ => .number
  | .truth _ => .truth
  | .nothing => .nothing

/-- Whether the value counts as none. -/
def isBlank : PlainValue → Bool
  | .text t => t.isEmpty
  | .number n => n = 0
  | .truth b => !b
  | .nothing => true

/-- The value as it counts in a comparison, where what holds is one and what does not is zero. -/
def counted : PlainValue → PlainValue
  | .truth true => .number 1
  | .truth false => .number 0
  | v => v

/-- A text counts as nothing but itself. -/
theorem counted_eq_text {v : PlainValue} {t : Text} : v.counted = .text t ↔ v = .text t := by
  cases v with
  | truth b => cases b <;> simp [counted]
  | _ => rfl

end PlainValue

end StageCues
