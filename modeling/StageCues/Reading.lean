import StageCues.Scanner.Run
import StageCues.Text.Blank
import StageCues.Text.Newline

/-!
# Readings

What a cue text says: its frames, its document, its iterations and the trace.  Source text may
hold blanks for the eye; they are dropped outside of double quotes before the text is scanned.
-/

namespace StageCues

open Text

/-- What a cue text says. -/
structure Reading where
  frames : List Node
  document : Option Document
  iterations : List Node
  trace : Text

/-- The text without the blanks outside of double quotes; `inside` says that an odd number of
double quotes stand before it. -/
def compactFrom (inside : Bool) : Text → Text
  | [] => []
  | c :: cs =>
    if c = '"' then c :: compactFrom (!inside) cs
    else if !inside && isBlank c then compactFrom inside cs
    else c :: compactFrom inside cs

/-- The source text without the blanks outside of double quotes. -/
def compact (t : Text) : Text := compactFrom false t

namespace Reading

/-- What a finished scanner has read. -/
def ofScanner (s : Scanner) : Reading := ⟨s.frames, s.document, s.iterations, s.trace⟩

/-- Reads a cue text without blanks. -/
def ofCompact (honourRadix : Bool) (t : Text) : Except Fault Reading :=
  match Scanner.scan honourRadix t with
  | .error h => .error h.fault
  | .ok s => .ok (ofScanner s)

/-- Reads a source text. -/
def ofSource (honourRadix : Bool) (t : Text) : Except Fault Reading :=
  ofCompact honourRadix (compact t)

/-- The cue list that was read. -/
def cueList (r : Reading) : Node := CueList.node r.frames

/-- Whether reading the written form of the cue list gives the same cue list. -/
def survives (r : Reading) : Except Fault Bool := do
  let again ← ofCompact true (← r.cueList.written)
  return r.cueList.same again.cueList

/-- Whether reading the written form of the document gives the same document. -/
def documentSurvives (d : Document) : Except Fault Bool := do
  let again ← ofCompact true (← d.written)
  return match again.document with
    | some e => d.same e
    | none => false

end Reading

/-- The text of a file's bytes. -/
def decodeFile (encoding : Encoding) (policy : DamagePolicy) (newline : NewlineMode) (bs : Bytes) :
    Except Fault Text :=
  match policy.resolve (encoding.pieces bs) with
  | .error d => .error (policy.fault encoding d)
  | .ok t => .ok (newline.apply t)

end StageCues
