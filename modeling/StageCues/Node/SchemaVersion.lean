import StageCues.Text.Basic

/-!
# Node — schema versions

The version of the schema that a document head refers to.  Three versions are known by name; every
other number is a version as well.  A number that was set by hand stays a bare number, even that of
a known version: it has no name, and all the same it counts as that version.
-/

namespace StageCues

/-- The version of a schema. -/
inductive SchemaVersion where
  | empty
  | p400
  | p676
  /-- A bare number. -/
  | other (n : Int)
  deriving DecidableEq, Repr

namespace SchemaVersion

/-- The number of a version. -/
def number : SchemaVersion → Int
  | .empty => 0
  | .p400 => 4
  | .p676 => 6
  | .other n => n

/-- The name of a known version. -/
def name? : SchemaVersion → Option Text
  | .empty => some "Empty"
  | .p400 => some "P400"
  | .p676 => some "P676"
  | .other _ => none

/-- The version with the number: a known one if there is one. -/
def ofNumber (n : Int) : SchemaVersion :=
  if n = 0 then .empty
  else if n = 4 then .p400
  else if n = 6 then .p676
  else .other n

@[simp] theorem number_ofNumber (n : Int) : (ofNumber n).number = n := by
  unfold ofNumber
  split
  · next h => exact h.symm
  · split
    · next h => exact h.symm
    · split
      · next h => exact h.symm
      · rfl

/-- Versions have the same known form exactly if they have the same number. -/
theorem ofNumber_inj {m n : Int} : ofNumber m = ofNumber n ↔ m = n := by
  constructor
  · intro h
    have := congrArg number h
    simpa using this
  · exact congrArg ofNumber

end SchemaVersion

end StageCues
