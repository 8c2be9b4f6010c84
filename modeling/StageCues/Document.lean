import StageCues.CueList

/-!
# Documents

A document has a head and a body, either of which may still be missing.  What the parts are is left
open here, because a document of a store holds identities where a document that was read holds
nodes; how two parts compare, how a part is written and how it is labelled are then given.
-/

namespace StageCues

/-- A document as far as it is known. -/
structure DocumentOf (α : Type) where
  head : Option α
  body : Option α
  deriving DecidableEq, Repr

namespace DocumentOf

variable {α : Type}

/-- A document of which nothing is known. -/
def blank : DocumentOf α := ⟨none, none⟩

/-- Whether two parts are both missing, or both there and the same. -/
def samePart (same : α → α → Bool) : Option α → Option α → Bool
  | none, none => true
  | some a, some b => same a b
  | _, _ => false

/-- Whether two documents have the same head and the same body. -/
def sameBy (same : α → α → Bool) (d e : DocumentOf α) : Bool :=
  samePart same d.head e.head && samePart same d.body e.body

/-- The written form of a part. -/
def writtenPart (written : α → Except Fault Text) : Option α → Except Fault Text
  | none => .ok []
  | some a => written a

/-- The written form of a document: its mark, its head and its body. -/
def writtenBy (written : α → Except Fault Text) (d : DocumentOf α) : Except Fault Text := do
  let head ← writtenPart written d.head
  let body ← writtenPart written d.body
  return "X!" ++ head ++ body

/-- The label of a part. -/
def labelPart (label : α → Except Fault Text) : Option α → Except Fault Text
  | none => .ok "None"
  | some a => label a

/-- The label of a document. -/
def labelBy (label : α → Except Fault Text) (d : DocumentOf α) : Except Fault Text := do
  let head ← labelPart label d.head
  let body ← labelPart label d.body
  return "<Document head=" ++ head ++ " body=" ++ body ++ ">"

end DocumentOf

/-- A document that was read. -/
abbrev Document := DocumentOf Node

namespace Document

/-- A document of which nothing is known. -/
def blank : Document := DocumentOf.blank

/-- Whether two documents have the same head and the same body. -/
def same (d e : Document) : Bool := d.sameBy Node.same e

/-- The written form of a document. -/
def written (d : Document) : Except Fault Text := d.writtenBy Node.written

/-- The label of a document. -/
def label (d : Document) : Except Fault Text := d.labelBy Node.label

end Document

end StageCues
