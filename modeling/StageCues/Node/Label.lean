import StageCues.Node.Basic
import StageCues.Wording

/-!
# Node — labels and drawings

A label names a node in one line: its class, what its class is known by, and how many children it
has.  A caption is the wording for a reader of the show.  A drawing puts the label of every
descendant on a line of its own, led by pieces that show which nodes are last children.  A node with
a number beyond the limit of base ten has no label, and no line in a drawing.

How deep a tree is has no bound here: calls are taken to nest as deeply as a drawing needs.
-/

namespace StageCues

open Text

/-- The pieces a drawing is made of: below a node with a following sibling, below a last child,
before a node with a following sibling, before a last child. -/
structure Style where
  bar : Text
  blank : Text
  middle : Text
  last : Text
  deriving DecidableEq, Repr

namespace Style

/-- The style in ASCII characters. -/
def ascii : Style := ⟨" | ", "   ", " |-", " `-"⟩

/-- The style with line drawing characters and round corners. -/
def round : Style := ⟨" │ ", "   ", " ├╴", " ╰╴"⟩

/-- The style with the given name; no name, or an empty one, stands for the round style. -/
def ofName? : Option Text → Except Fault Style
  | none => .ok round
  | some [] => .ok round
  | some name =>
    if name = "ascii" then .ok ascii
    else if name = "round" then .ok round
    else .error (.unknownStyle name)

/-- The piece right before a node. -/
def tip (s : Style) (isLastChild : Bool) : Text := if isLastChild then s.last else s.middle

/-- The piece for an ancestor of a node. -/
def stem (s : Style) (isLastChild : Bool) : Text := if isLastChild then s.blank else s.bar

end Style

namespace Kind

/-- What a kind is known by in a label. -/
def detail? : Kind → Except Fault (Option Text)
  | .forIteration start target direction _ => do
    let front ← worded start
    let back ← worded target
    return some (front ++ (if direction = 0 then "->" else "<-") ++ back)
  | .keyFrame time empty _ => do
    return some ((← worded time) ++ "ms" ++ (if empty then " empty" else ""))
  | .delay mode ms => do
    if mode = 0 then return some "beat" else return some ((← worded ms) ++ "ms")
  | .channelData channel value _ => do
    return some ((← worded channel) ++ "=" ++ (← worded value))
  | .head version title | .predefinedHead version _ title _ | .linkedHead version title _ _ => do
    return some ((← worded version.number) ++ " " ++ (← title.shown))
  | _ => return none

/-- How a number of children is put. -/
def childCount (count : Nat) : Text :=
  "(" ++ decimal count ++ (if count = 1 then " child)" else " children)")

/-- The label of a node of the kind with so many children.  Plain nodes and cue lists always show
the number of children, elements only if there are any. -/
def label (k : Kind) (count : Nat) : Except Fault Text := do
  if k.cls.isElement then
    let detail : Text := (← k.detail?).elim [] fun d => " " ++ d
    let children : Text := if count = 0 then [] else " " ++ childCount count
    return "<elements." ++ k.cls.name ++ detail ++ children ++ ">"
  else return "<" ++ k.cls.name ++ " " ++ childCount count ++ ">"

/-- The wording of a node of the kind for a reader; a node without one shows its label. -/
def caption (k : Kind) (count : Nat) : Except Fault Text :=
  match k with
  | .channelData channel value _ => do
    return "Ch " ++ (← worded channel) ++ ": " ++ (← worded value)
  | .keyFrame time _ _ => do return "KeyFrame lasts for " ++ (← worded time) ++ " ms."
  | .delay mode ms => do
    if mode = 0 then return "Wait for BeatSignal." else return "Delay " ++ (← worded ms) ++ " ms"
  | _ => k.label count

theorem failsByLength_detail (k : Kind) : FailsByLength k.detail? := by
  have hhead : ∀ (version : SchemaVersion) (title : PlainValue), FailsByLength
      (do return some ((← worded version.number) ++ " " ++ (← title.shown)) :
        Except Fault (Option Text)) := fun version title =>
    (failsByLength_worded _).bind fun _ => title.failsByLength_shown.bind fun _ => .ok _
  cases k with
  | forIteration start target => exact failsByLength_both start target _
  | keyFrame time => exact (failsByLength_worded time).bind fun _ => .ok _
  | delay mode ms =>
    simp only [detail?]
    split
    · exact .ok _
    · exact (failsByLength_worded ms).bind fun _ => .ok _
  | channelData channel value => exact failsByLength_both channel value _
  | head version title => exact hhead version title
  | predefinedHead version _ title => exact hhead version title
  | linkedHead version title => exact hhead version title
  | _ => exact .ok _

/-- **A label fails at a number that is too long only.** -/
theorem failsByLength_label (k : Kind) (count : Nat) : FailsByLength (k.label count) := by
  unfold label
  split
  · exact k.failsByLength_detail.bind fun _ => .ok _
  · exact .ok _

/-- **So does a caption.** -/
theorem failsByLength_caption (k : Kind) (count : Nat) : FailsByLength (k.caption count) := by
  cases k with
  | channelData channel value => exact failsByLength_both channel value _
  | keyFrame time => exact (failsByLength_worded time).bind fun _ => .ok _
  | delay mode ms =>
    simp only [caption]
    split
    · exact .ok _
    · exact (failsByLength_worded ms).bind fun _ => .ok _
  | _ => exact failsByLength_label _ count

end Kind

namespace Node

/-- The label of a node. -/
def label (n : Node) : Except Fault Text := n.kind.label n.children.length

/-- The wording of a node for a reader. -/
def caption (n : Node) : Except Fault Text := n.kind.caption n.children.length

mutual

/-- The lines of a drawing of the node, `lead` standing before its label and `below` before the
lines of its children.  Each line is there or not for itself. -/
def drawUnder (style : Style) (lead below : Text) : Node → List (Except Fault Text)
  | ⟨k, cs⟩ => (lead ++ ·) <$> k.label cs.length :: drawAll style below cs
termination_by structural n => n

/-- The lines of a drawing of the nodes as the children of one node. -/
def drawAll (style : Style) (lead : Text) : List Node → List (Except Fault Text)
  | [] => []
  | n :: ns =>
    drawUnder style (lead ++ style.tip ns.isEmpty) (lead ++ style.stem ns.isEmpty) n ++
      drawAll style lead ns
termination_by structural ns => ns

end

/-- The lines of a drawing of the node and its descendants. -/
def drawLines (style : Style) (n : Node) : List (Except Fault Text) := n.drawUnder style [] []

/-- The lines with their line ends, or the fault of the first that cannot be put down. -/
def drawn (lines : List (Except Fault Text)) : Except Fault Text :=
  (fun ts => ts.flatMap line) <$> lines.mapM id

/-- The drawing of the node and its descendants. -/
def draw (style : Style) (n : Node) : Except Fault Text := drawn (n.drawLines style)

end Node

end StageCues
