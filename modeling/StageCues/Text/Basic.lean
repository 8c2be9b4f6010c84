/-!
# Text — code points

Everything the library reads and writes is a list of code points, so every position and every
length counts code points.  A string literal stands for the list of its characters wherever a
text is expected.  Surrogates are left out: a sequence of code points that holds one is no text
here.
-/

namespace StageCues

/-- A text is the list of its code points. -/
abbrev Text := List Char

instance : Coe String Text := ⟨String.toList⟩

namespace Text

/-- The text with a line end after it. -/
def line (t : Text) : Text := t ++ ['\n']

/-- The texts in order, with `sep` between neighbours. -/
def joinWith (sep : Text) : List Text → Text
  | [] => []
  | [t] => t
  | t :: u :: ts => t ++ sep ++ joinWith sep (u :: ts)

/-- The parts of a text between the occurrences of `sep`; an empty text has one empty part. -/
def splitAt (sep : Char) : Text → List Text
  | [] => [[]]
  | c :: cs =>
    if c = sep then [] :: splitAt sep cs
    else match splitAt sep cs with
      | [] => [[c]]
      | p :: ps => (c :: p) :: ps

/-- Whether the text holds the null character. -/
def hasNull (t : Text) : Bool := t.contains '\x00'

/-- How many bytes the text takes in UTF-8. -/
def utf8Length (t : Text) : Nat := t.foldl (fun n c => n + c.utf8Size) 0

end Text

/-- The element at a signed position: a position that is not negative counts from the front, a
negative one from the end. -/
def signedGet? {α : Type} (xs : List α) (i : Int) : Option α :=
  if 0 ≤ i then xs[i.toNat]?
  else if 0 ≤ i + xs.length then xs[(i + xs.length).toNat]?
  else none

/-- A position within the list, counted from the front, is read as it stands. -/
theorem signedGet?_ofNat {α : Type} (xs : List α) (i : Nat) : signedGet? xs i = xs[i]? := by
  simp [signedGet?]

end StageCues
