import StageCues.Store.Content

/-!
# Store — parents and children

Questions about the place of a node among others, the last open node of a cue list, and the
drawing of a tree.  The drawing finds the pieces before a label by climbing from the node to its
parents, so a node that was moved is drawn after its new parent.

How deep a tree is has no bound here: calls are taken to nest as deeply as a drawing needs.
-/

namespace StageCues.Store

open Text

/-- The parent of a node, asked for by following its link. -/
def followParent (s : Store) (id : NodeId) : Except Fault (Option NodeId) :=
  match (s.cell id).link with
  | .broken given => .error (.notCallable given)
  | link => .ok link.parent?

/-- The parent of a node that has one. -/
def requireParent (s : Store) (id : NodeId) : Except Fault NodeId :=
  match s.followParent id with
  | .error f => .error f
  | .ok none => .error .noParent
  | .ok (some p) => .ok p

/-- Whether the node is the last child of another. -/
def isLastOf (s : Store) (parent id : NodeId) : Bool :=
  (s.children parent).getLast? = some (.node id)

/-- Whether the node is the last child of its parent; a node without a parent cannot be asked. -/
def isLastChild (s : Store) (id : NodeId) : Except Fault Bool :=
  match s.requireParent id with
  | .error f => .error f
  | .ok p => .ok (s.isLastOf p id)

/-- Whether an item is among the children of a node. -/
def contains (s : Store) (parent : NodeId) (x : Item) : Bool := (s.children parent).contains x

/-- The first position of an item among the children of a node. -/
def index (s : Store) (parent : NodeId) (x : Item) : Except Fault Nat :=
  match (s.children parent).idxOf? x with
  | some i => .ok i
  | none =>
    match s.label x with
    | .error f => .error f
    | .ok label => .error (.notAChild label)

/-- The child at a signed position. -/
def child (s : Store) (parent : NodeId) (i : Int) : Except Fault Item :=
  match signedGet? (s.children parent) i with
  | some x => .ok x
  | none => .error (.atPosition i .outsideChildren)

/-- Whether an item is closed; only complex elements can be asked. -/
def closed (s : Store) : Item → Except Fault Bool
  | .node id => (s.kind id).closed
  | x => .error (s.lacking x .isClosed)

/-- A cue list itself; another node lacks the operation. -/
def requireCueList (s : Store) (id : NodeId) (operation : Operation) : Except Fault Unit :=
  if s.cls id = .cueList then .ok () else .error (.lacks (.node (s.cls id)) operation)

/-- The last open child of a node, searching from the end. -/
def lastOpenChild (s : Store) (id : NodeId) : Except Fault (Option NodeId) :=
  match lastOpenIndexBy s.closed (s.children id) with
  | .error f => .error f
  | .ok none => .ok none
  | .ok (some i) => .ok ((s.children id)[i]?.bind Item.node?)

/-- The last open node of a cue list. -/
def lastOpen (s : Store) (id : NodeId) : Except Fault (Option NodeId) := do
  s.requireCueList id .lastOpen
  s.lastOpenChild id

/-- Closes the last open node of a cue list, and says which one it was. -/
def closeLastOpen (s : Store) (id : NodeId) : Except Fault (Store × Option NodeId) := do
  s.requireCueList id .closeLastOpen
  match ← s.lastOpenChild id with
  | none => return (s, none)
  | some c => return (s.modifyKind c Kind.close, some c)

/-- The number of channel writes below a cue list. -/
def writeCount (s : Store) (id : NodeId) : Except Fault Nat := do
  s.requireCueList id .writeCount
  return (← s.descendantsOf id [.channelData]).length

/-- The lines of the summary for one frame. -/
def summaryLines (s : Store) : Item → Except Fault (List Text)
  | .node id => do
    let caption ← s.caption id
    let writes ← (s.childrenOf id [.channelData]).mapM s.caption
    return CueList.frameLine caption (s.children id).length :: writes
  | .document _ => .error (.lacks .document .length)

/-- The summary of a cue list. -/
def summary (s : Store) (id : NodeId) : Except Fault Text := do
  s.requireCueList id .summary
  return joinWith "\n" (← (s.children id).mapM s.summaryLines).flatten

/-- The pieces before the label of a node that is drawn at the depth, found by climbing that many
times; `near` says that no parent has been climbed to yet. -/
def climb (s : Store) (style : Style) : Bool → Nat → NodeId → Except Fault Text
  | _, 0, _ => .ok []
  | near, n + 1, id =>
    match s.requireParent id with
    | .error f => .error f
    | .ok p =>
      match s.climb style false n p with
      | .error f => .error f
      | .ok front =>
        .ok (front ++ if near then style.tip (s.isLastOf p id) else style.stem (s.isLastOf p id))

/-- The lines of the drawing of an item at a depth, cut off so many levels below.  Documents cannot
be drawn. -/
def drawWithin (s : Store) (style : Style) : Nat → Int → Item → Except Fault Text
  | 0, _, _ => .ok []
  | n + 1, depth, .node id => do
    let lead ← s.climb style true depth.toNat id
    let label ← s.label (.node id)
    let below ← (s.children id).mapM (s.drawWithin style n (depth + 1))
    return line (lead ++ label) ++ below.flatten
  | _ + 1, _, x => .error (s.lacking x .draw)

/-- The drawing of a node at a depth in the named style. -/
def draw (s : Store) (style : Option Text) (depth : Int) (id : NodeId) : Except Fault Text := do
  let style ← Style.ofName? style
  s.drawWithin style s.size depth (.node id)

end StageCues.Store
