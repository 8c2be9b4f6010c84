import StageCues.Text.Basic

/-!
# Text — style sequences

Terminals take some stretches of a text as orders to change colours and the like.  Such a style
sequence is an escape character, an opening bracket, any number of settings and one letter.  A
plain text, without them, is what a reader of a file can use.
-/

namespace StageCues.Text

/-- The character a style sequence starts with. -/
def escape : Char := '\x1b'

/-- Whether the character is part of the settings of a style sequence. -/
def isSetting (c : Char) : Bool := c.isDigit || c = ';' || c = '?'

/-- What follows the style sequence at the front of a text; none if there is none. -/
def afterSequence? : Text → Option Text
  | e :: '[' :: t =>
    match t.dropWhile isSetting with
    | c :: rest => if e = escape ∧ c.isAlpha then some rest else none
    | [] => none
  | _ => none

/-- A style sequence is not empty. -/
theorem length_afterSequence? {t rest : Text} (h : afterSequence? t = some rest) :
    rest.length < t.length := by
  unfold afterSequence? at h
  split at h
  · next e u =>
    have hle : (u.dropWhile isSetting).length ≤ u.length :=
      (List.dropWhile_suffix isSetting).length_le
    split at h
    · next c v hv =>
      rw [hv] at hle
      split at h
      · cases h
        simp only [List.length_cons] at hle ⊢
        omega
      · cases h
    · cases h
  · cases h

/-- The text without its style sequences, which are looked for from the front. -/
def unstyled : Text → Text
  | [] => []
  | c :: cs =>
    match _h : afterSequence? (c :: cs) with
    | some rest => unstyled rest
    | none => c :: unstyled cs
termination_by t => t.length
decreasing_by
  · exact length_afterSequence? ‹_›
  · exact Nat.lt_succ_self _

end StageCues.Text
