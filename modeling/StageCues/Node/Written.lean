import StageCues.Node.Label

/-!
# Node — the written form

How nodes are put down as cue text.  A numeric literal is `0H`, the number in base sixteen with at
least two places, and a semicolon; a text literal is the text in double quotes and a semicolon,
with nothing escaped.  Numbers in base sixteen have no limit, so only a plain node has no written
form, and a head with a number for its title or path that goes beyond the limit of base ten.

How deep a tree is has no bound here: calls are taken to nest as deeply as writing it needs.
-/

namespace StageCues

open Text

/-- The literal of a number. -/
def numberLiteral (n : Int) : Text := "0H" ++ paddedHex n ++ ";"

/-- The literal of a text. -/
def textLiteral (t : Text) : Text := "\"" ++ t ++ "\";"

/-- The text where the condition holds, nothing otherwise. -/
def textIf (b : Bool) (t : Text) : Text := if b then t else []

namespace Kind

/-- Whether nodes of the kind have a written form. -/
def isWritable (k : Kind) : Bool := k ≠ .plain

/-- Whether the written form of a node of the kind leaves its children out. -/
def hidesChildren : Kind → Bool
  | .keyFrame _ empty _ => empty
  | .delay .. | .channelData .. | .predefinedHead .. | .linkedHead .. => true
  | _ => false

/-- The written form of a node of the kind around the written form of its children. -/
def wrap (k : Kind) (inner : Text) : Except Fault Text :=
  match k with
  | .keyFrame time true _ => .ok ("kF" ++ numberLiteral time)
  | .keyFrame time false closed =>
    .ok ("KF" ++ numberLiteral time ++ inner ++ textIf closed "kf")
  | .delay mode ms => .ok (if mode = 0 then "WB" else "WM" ++ numberLiteral ms)
  | .channelData channel value _ => .ok ("BP" ++ numberLiteral channel ++ numberLiteral value)
  | .forIteration .. => .ok ("FI" ++ inner)
  | .infiniteIteration _ => .ok ("II" ++ inner)
  | .predefinedHead version id title _ => do
    let front := "X@" ++ numberLiteral version.number ++ textIf (id ≠ 0) ("X@" ++ numberLiteral id)
    if title.isBlank then return front else return front ++ "X+" ++ textLiteral (← title.plain)
  | .linkedHead version title path _ => do
    return "X+" ++ textLiteral (← title.plain) ++ textLiteral (← path.plain) ++
      textIf (version.number ≠ 0) ("X@" ++ numberLiteral version.number)
  | _ => .ok inner

end Kind

namespace Node

mutual

/-- The written form of a node, or the fault that a plain node lacks one.  Children that are left
out are not looked at. -/
def written : Node → Except Fault Text
  | ⟨k, cs⟩ =>
    if k.isWritable then
      if k.hidesChildren then k.wrap [] else writtenAll cs >>= k.wrap
    else .error (.lacks (.node k.cls) .write)
termination_by structural n => n

/-- The written forms of the nodes one after the other. -/
def writtenAll : List Node → Except Fault Text
  | [] => .ok []
  | n :: ns => do
    let t ← written n
    let u ← writtenAll ns
    return t ++ u
termination_by structural ns => ns

end

end Node

end StageCues
