import StageCues.Document
import StageCues.Parameter.Awaiting
import StageCues.Scanner.Cursor
import StageCues.Scanner.Mode

/-!
# Scanner — the state

What the scanner knows between two characters: the cursor, the mode and the character before, the
parameters it waits for, what it has built so far, the trace it tells a reader, and the notes it
keeps for itself.  An element that waits for parameters is known by its address among the built
ones.
-/

namespace StageCues

open Text

/-- The place of an element among the built ones. -/
inductive Address where
  /-- A frame by its position. -/
  | frame (i : Nat)
  /-- A channel write by the position of its frame and its own position in it. -/
  | write (i j : Nat)
  /-- The head of the document. -/
  | head
  deriving DecidableEq, Repr

/-- What the scanner keeps note of. -/
inductive Note where
  | strangeCharacter (c : Char) (pos : Int)
  | strangeToken (c : Char) (pos : Int)
  | frameAdded (count : Nat) (pos : Int)
  | malformedNumber (literal : Text) (pos : Int)
  | done (count : Nat)
  deriving DecidableEq, Repr

/-- The wording of a note. -/
def Note.message : Note → Text
  | .strangeCharacter c pos =>
    "unrecognized character " ++ quoted [c] ++ " at " ++ decimal pos
  | .strangeToken c pos => "unrecognized token K" ++ [c] ++ " at " ++ decimal pos
  | .frameAdded count pos => "keyframe " ++ decimal count ++ " added at " ++ decimal pos
  | .malformedNumber literal pos =>
    "malformed numeric literal " ++ quoted literal ++ " at " ++ decimal pos
  | .done count => "read " ++ decimal count ++ " keyframes"

/-- The state of the scanner. -/
structure Scanner where
  honourRadix : Bool
  cursor : Cursor
  mode : Mode
  previous : Char
  awaiting : Awaiting Address
  frames : List Node
  document : Option Document
  iterations : List Node
  trace : Text
  notes : List Note

/-- Why a scan stopped, and the state at that moment: whatever was done before the fault stays
done. -/
structure Halt where
  fault : Fault
  scanner : Scanner

namespace Scanner

/-- The state before the first character of a text. -/
def start (honourRadix : Bool) (t : Text) : Scanner where
  honourRadix := honourRadix
  cursor := .ofText t
  mode := .rest
  previous := '\x00'
  awaiting := .idle
  frames := []
  document := none
  iterations := []
  trace := []
  notes := []

/-- The position of the cursor. -/
def pos (s : Scanner) : Int := s.cursor.pos

/-- The scanner in the mode. -/
def enter (s : Scanner) (m : Mode) : Scanner := { s with mode := m }

/-- The scanner after telling the text. -/
def tell (s : Scanner) (t : Text) : Scanner := { s with trace := s.trace ++ t }

/-- The scanner after telling the text and a line end. -/
def tellLine (s : Scanner) (t : Text) : Scanner := s.tell (line t)

/-- The scanner after telling the lines in order; the first that cannot be put down stops the scan,
and those before it stay told. -/
def tellLines (s : Scanner) : List (Except Fault Text) → Except Halt Scanner
  | [] => .ok s
  | .error f :: _ => .error ⟨f, s⟩
  | .ok t :: rest => (s.tellLine t).tellLines rest

/-- The scanner after keeping the note. -/
def keep (s : Scanner) (n : Note) : Scanner := { s with notes := s.notes ++ [n] }

/-- The scanner waiting for so many parameters for the target. -/
def await (s : Scanner) (count : Int) (target : Address) : Scanner :=
  { s with awaiting := .expect count (some target) }

/-- The scanner with the mark at the cursor, if no character of a literal has been collected. -/
def markStart (s : Scanner) : Scanner :=
  if s.awaiting.literal.start = none then { s with cursor := s.cursor.markHere } else s

/-- The scanner after collecting a character of a literal. -/
def gather (s : Scanner) (c : Char) : Scanner :=
  let s := s.markStart
  { s with awaiting := s.awaiting.gather [c] s.pos }

/-- The scan stopped by a misreading at the cursor. -/
def misread (s : Scanner) (cause : Misreading) : Halt := ⟨.misread cause s.pos, s⟩

/-- The node at an address. -/
def nodeAt? (s : Scanner) : Address → Option Node
  | .frame i => s.frames[i]?
  | .write i j => s.frames[i]?.bind fun f => f.children[j]?
  | .head => s.document.bind DocumentOf.head

/-- The scanner after the node at the address receives a parameter. -/
def give (s : Scanner) (p : Parameter) : Address → Scanner
  | .frame i => { s with frames := s.frames.modify i fun f => f.receive p }
  | .write i j =>
    { s with frames := s.frames.modify i fun f =>
        { f with children := f.children.modify j fun w => w.receive p } }
  | .head =>
    { s with document := s.document.map fun d =>
        { d with head := d.head.map fun h => h.receive p } }

/-- The position of the last open frame; none open, or a node that is neither open nor closed,
stops the scan. -/
def openFrame (s : Scanner) : Except Halt Nat :=
  match CueList.lastOpenIndex s.frames with
  | .error f => .error ⟨f, s⟩
  | .ok none => .error (s.misread .noOpenFrame)
  | .ok (some i) => .ok i

/-- Stops the scan if a frame is open. -/
def requireClosed (s : Scanner) : Except Halt Unit :=
  match CueList.lastOpenIndex s.frames with
  | .error f => .error ⟨f, s⟩
  | .ok none => .ok ()
  | .ok (some _) => .error (s.misread .frameAlreadyOpen)

/-- The cue list built so far. -/
def cueList (s : Scanner) : Node := CueList.node s.frames

/-- The label of what is awaited. -/
def targetLabel? (s : Scanner) : Option (Except Fault Text) :=
  s.awaiting.target.map fun a =>
    match s.nodeAt? a with
    | some n => n.label
    | none => .ok "None"

end Scanner

end StageCues
