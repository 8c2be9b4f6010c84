import StageCues.Text.Basic

/-!
# Text — line ends

A file is read under one of five line end modes.  The universal mode turns every carriage return,
with or without a line feed after it, into one line feed; the other four tell a reader where
lines end, and so leave the whole of a file as it is.
-/

namespace StageCues

/-- How line ends are read. -/
inductive NewlineMode where
  | universal
  | verbatim
  | lineFeed
  | carriageReturn
  | returnAndFeed
  deriving DecidableEq, Repr

namespace NewlineMode

/-- The mode with the given name; no name stands for the universal mode. -/
def ofName? : Option Text → Option NewlineMode
  | none => some .universal
  | some [] => some .verbatim
  | some ['\n'] => some .lineFeed
  | some ['\r'] => some .carriageReturn
  | some ['\r', '\n'] => some .returnAndFeed
  | some _ => none

/-- Every line end as one line feed. -/
def unify : Text → Text
  | [] => []
  | '\r' :: '\n' :: t => '\n' :: unify t
  | '\r' :: t => '\n' :: unify t
  | c :: t => c :: unify t

/-- The text of a file under the mode. -/
def apply : NewlineMode → Text → Text
  | .universal, t => unify t
  | _, t => t

end NewlineMode

end StageCues
