import StageCues.Text.Numeral

/-!
# The version of the program
-/

namespace StageCues

/-- The version: major, minor and patch number. -/
def version : List Nat := [0, 1, 0]

/-- The version as it is told. -/
def versionText : Text := Text.joinWith "." (version.map fun n => Text.numeral 10 n)

end StageCues
