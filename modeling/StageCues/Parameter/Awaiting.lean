import StageCues.Parameter.Literal

/-!
# Parameters — what is awaited

How many parameters are still to come, and for what.  While a target is named it takes the
parameters; it is let go with the last one.
-/

namespace StageCues

/-- The parameters still to come for a target, and the literal of the current one. -/
structure Awaiting (τ : Type) where
  pending : Int
  target : Option τ
  literal : Literal
  deriving DecidableEq, Repr

namespace Awaiting

variable {τ : Type}

/-- Nothing is awaited. -/
def idle : Awaiting τ := ⟨0, none, .empty⟩

/-- So many parameters are awaited for the target, and the current literal is dropped. -/
def expect (count : Int) (target : Option τ) : Awaiting τ := ⟨count, target, .empty⟩

/-- Whether more parameters follow the current one. -/
def hasMore (a : Awaiting τ) : Bool := 1 < a.pending

/-- What is awaited after one parameter has been taken. -/
def delivered (a : Awaiting τ) : Awaiting τ where
  pending := a.pending - 1
  target := if a.hasMore then a.target else none
  literal := .empty

/-- What is awaited with more characters in the current literal. -/
def gather (a : Awaiting τ) (piece : Text) (pos : Int) : Awaiting τ :=
  { a with literal := a.literal.push piece pos }

/-- The label, given how the target is shown. -/
def label (a : Awaiting τ) (shown : τ → Except Fault Text) : Except Fault Text := do
  let target : Text ← match a.target with
    | none => .ok "None"
    | some t => shown t
  return "<ParameterSequence pending=" ++ Text.decimal a.pending ++ " target=" ++ target ++ ">"

end Awaiting

end StageCues
