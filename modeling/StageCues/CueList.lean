import StageCues.Node.Written

/-!
# Cue lists

A cue list is the list of its frames in the order they were read.  New channel writes go to the
last open frame, which is searched for from the end; the search fails at a node that is neither
open nor closed.  The views of a cue list are its channel writes, its summary and its written
form.
-/

namespace StageCues

open Text

/-- The position of the last open member of a list, given who is closed, searching from the end and
stopping at the first open one. -/
def lastOpenIndexBy {α : Type} (closed : α → Except Fault Bool) : List α → Except Fault (Option Nat)
  | [] => .ok none
  | x :: xs =>
    match lastOpenIndexBy closed xs with
    | .error f => .error f
    | .ok (some i) => .ok (some (i + 1))
    | .ok none =>
      match closed x with
      | .error f => .error f
      | .ok true => .ok none
      | .ok false => .ok (some 0)

/-- Whether a complex element is closed; other kinds cannot be asked. -/
def Kind.closed (k : Kind) : Except Fault Bool :=
  match k.isClosed? with
  | some b => .ok b
  | none => .error (.lacks (.node k.cls) .isClosed)

/-- The channel and the value of a channel write. -/
def Node.channelWrite? (n : Node) : Option (Int × Int) :=
  match n.kind with
  | .channelData channel value _ => some (channel, value)
  | _ => none

namespace CueList

/-- The node that holds the frames. -/
def node (frames : List Node) : Node := ⟨.cueList, frames⟩

/-- The position of the last open frame. -/
def lastOpenIndex (frames : List Node) : Except Fault (Option Nat) :=
  lastOpenIndexBy Kind.closed (frames.map Node.kind)

/-- Closes the last open frame, and says which one it was. -/
def closeLastOpen (frames : List Node) : Except Fault (List Node × Option Nat) :=
  match lastOpenIndex frames with
  | .error f => .error f
  | .ok none => .ok (frames, none)
  | .ok (some i) => .ok (frames.modify i Node.close, some i)

/-- The channel writes that are children of the frames, in order. -/
def writes (frames : List Node) : List (Int × Int) :=
  frames.flatMap fun f => f.children.filterMap Node.channelWrite?

/-- The number of channel writes at any depth. -/
def writeCount (frames : List Node) : Nat := ((node frames).descendantsOf .channelData).length

/-- The line of a frame in the summary. -/
def frameLine (caption : Text) (count : Nat) : Text := caption ++ " childs: " ++ decimal count

/-- The lines of the summary: every frame with its number of children, then its channel writes. -/
def summaryLines (frames : List Node) : List (Except Fault Text) :=
  frames.flatMap fun f =>
    (fun caption => frameLine caption f.children.length) <$> f.caption ::
      (f.childrenOf .channelData).map Node.caption

/-- The summary of the frames for a reader; there is none if one of its lines cannot be put down. -/
def summary (frames : List Node) : Except Fault Text :=
  joinWith "\n" <$> (summaryLines frames).mapM id

end CueList

end StageCues
