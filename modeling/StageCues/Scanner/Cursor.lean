import StageCues.Fault

/-!
# Scanner — the cursor

The scan position in a text.  The cursor may go back, but not so far that a character before the
mark would be read again.
-/

namespace StageCues

open Text

/-- A position among the characters of a text, and the position of the first character of the
current token. -/
structure Cursor where
  chars : Array Char
  pos : Int
  mark : Int
  deriving DecidableEq, Repr

namespace Cursor

/-- The cursor at the front of a text. -/
def ofText (t : Text) : Cursor := ⟨t.toArray, 0, 0⟩

/-- The text the cursor moves in. -/
def text (c : Cursor) : Text := c.chars.toList

/-- Whether all characters have been read. -/
def atEnd (c : Cursor) : Bool := c.chars.size ≤ c.pos

/-- The character at the position; one before the front counts from the end. -/
def char? (c : Cursor) : Option Char :=
  if 0 ≤ c.pos then c.chars[c.pos.toNat]? else signedGet? c.text c.pos

/-- The character at the position, or the fault that there is none. -/
def read (c : Cursor) : Except Fault Char :=
  match c.char? with
  | some x => .ok x
  | none => .error (.atPosition c.pos .outsideText)

/-- One position further. -/
def next (c : Cursor) : Cursor := { c with pos := c.pos + 1 }

/-- So many positions back: after one step forward, the character `count - 1` positions before
this one is read again.  None if that would be before the mark. -/
def back? (c : Cursor) (count : Int) : Option Cursor :=
  if c.pos - count + 1 < c.mark then none else some { c with pos := c.pos - count }

/-- The cursor with the mark at its position. -/
def markHere (c : Cursor) : Cursor := { c with mark := c.pos }

/-- The label of a cursor. -/
def label (c : Cursor) : Text :=
  "<Cursor " ++ decimal c.pos ++ "/" ++ decimal c.chars.size ++ ">"

/-- Reading gives the character at the position, and fails only without one. -/
theorem read_eq_ok_iff {c : Cursor} {x : Char} : c.read = .ok x ↔ c.char? = some x := by
  unfold read
  split
  · next h => rw [h, Except.ok.injEq, Option.some.injEq]
  · next h => rw [h]; exact ⟨nofun, nofun⟩

@[simp] theorem text_ofText (t : Text) : (ofText t).text = t := rfl

/-- All is read when the position is not before the length of the text. -/
theorem atEnd_iff {c : Cursor} : c.atEnd = true ↔ c.text.length ≤ c.pos := by
  simp [atEnd, text]

/-- The character at the position is the one the text has there. -/
theorem char?_eq_signedGet? (c : Cursor) : c.char? = signedGet? c.text c.pos := by
  unfold char?
  split
  · next h => simp [signedGet?, h, text]
  · rfl

@[simp] theorem text_next (c : Cursor) : c.next.text = c.text := rfl

@[simp] theorem mark_next (c : Cursor) : c.next.mark = c.mark := rfl

end Cursor

end StageCues
