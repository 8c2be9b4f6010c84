import StageCues.Store.Basic

/-!
# Store — trees

The tree of nodes below a node of a store as a value, and the converse: a tree put into a store cell
by cell.  Then the descendants by identity, in document order.  Nothing is ever below itself, so no
path is longer than the number of cells.

How deep a tree is has no bound here: calls are taken to nest as deeply as a search for descendants
needs.
-/

namespace StageCues.Store

/-- The tree below a node, cut off below the given depth; documents among the children are left
out. -/
def nodeWithin (s : Store) : Nat → NodeId → Node
  | 0, id => .leaf (s.kind id)
  | n + 1, id => ⟨s.kind id, (s.childNodes id).map (s.nodeWithin n)⟩

/-- The tree below a node. -/
def node (s : Store) (id : NodeId) : Node := s.nodeWithin s.cells.length id

/-- The descendants of a node in document order, cut off below the given depth.  Nobody knows what
is below a document. -/
def descendantsWithin (s : Store) : Nat → NodeId → Except Fault (List NodeId)
  | 0, _ => .ok []
  | n + 1, id => do
    let families ← (s.children id).mapM fun x =>
      match x with
      | .node c => (c :: ·) <$> s.descendantsWithin n c
      | .document _ => .error (s.lacking x .descendants)
    return families.flatten

/-- The descendants of a node in document order. -/
def descendants (s : Store) (id : NodeId) : Except Fault (List NodeId) :=
  s.descendantsWithin s.size id

/-- Whether the node belongs to one of the classes. -/
def isAny (s : Store) (classes : List NodeClass) (id : NodeId) : Bool :=
  classes.any fun c => (s.cls id).isA c

/-- The children of the classes. -/
def childrenOf (s : Store) (id : NodeId) (classes : List NodeClass) : List NodeId :=
  (s.childNodes id).filter (s.isAny classes)

/-- The descendants of the classes. -/
def descendantsOf (s : Store) (id : NodeId) (classes : List NodeClass) :
    Except Fault (List NodeId) :=
  (·.filter (s.isAny classes)) <$> s.descendants id

mutual

/-- A tree put into the store. -/
def graft : Node → Store → Store × NodeId
  | ⟨k, cs⟩, s => (graftAll (s.insert k).2 cs (s.insert k).1, (s.insert k).2)
termination_by structural n => n

/-- Trees put into the store as the next children of a node. -/
def graftAll (parent : NodeId) : List Node → Store → Store
  | [], s => s
  | n :: ns, s => graftAll parent ns ((graft n s).1.link parent (.node (graft n s).2))
termination_by structural ns => ns

end

/-- A part of a document put into the store. -/
def graftPart (s : Store) : Option Node → Store × Option Item
  | none => (s, none)
  | some n => ((graft n s).1, some (.node (graft n s).2))

/-- A document put into the store. -/
def graftDocument (s : Store) (d : Document) : Store × DocumentId :=
  let (s, head) := s.graftPart d.head
  let (s, body) := s.graftPart d.body
  s.insertDocument ⟨head, body⟩

end StageCues.Store
