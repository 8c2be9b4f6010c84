import StageCues.Store.Tree

/-!
# Store — content

What the items of a store say: their labels, their written forms, and whether two of them have the
same content.  All of it is read off the cells, looking no further than the answer needs: an item
that is shared many times over is as quickly labelled as any other, written in time where it is left
out, and told from another at the first difference.

How deep a tree is has no bound here: calls are taken to nest as deeply as a written form or a
comparison needs.
-/

namespace StageCues.Store

/-- The label of an item, cut off below so many documents inside one another. -/
def labelWithin (s : Store) : Nat → Item → Except Fault Text
  | _, .node id => (s.kind id).label (s.children id).length
  | 0, .document _ => .ok []
  | n + 1, .document id => (s.document id).labelBy (s.labelWithin n)

/-- The label of an item. -/
def label (s : Store) (x : Item) : Except Fault Text := s.labelWithin s.size x

/-- The wording of a node for a reader. -/
def caption (s : Store) (id : NodeId) : Except Fault Text :=
  (s.kind id).caption (s.children id).length

/-- The written form of an item, cut off below the given depth. -/
def writtenWithin (s : Store) : Nat → Item → Except Fault Text
  | 0, _ => .ok []
  | n + 1, .node id =>
    let k := s.kind id
    if k.isWritable then
      if k.hidesChildren then k.wrap []
      else do
        let parts ← (s.children id).mapM (s.writtenWithin n)
        k.wrap parts.flatten
    else .error (.lacks (.node k.cls) .write)
  | n + 1, .document id => do
    s.requireCallable (.document id) .write
    (s.document id).writtenBy (s.writtenWithin n)

/-- The written form of an item. -/
def written (s : Store) (x : Item) : Except Fault Text := s.writtenWithin s.size x

/-- Whether two parts of documents are both missing, or both there and the same.  A part is asked
even if there is none to compare it with. -/
def samePart (s : Store) (same : Item → Item → Except Fault Bool) :
    Option Item → Option Item → Except Fault Bool
  | none, y => .ok y.isNone
  | some x, none => (fun _ => false) <$> s.requireCallable x .equals
  | some x, some y => same x y

/-- Whether two items have the same shape, classes and attributes, as far as the given depth. -/
def sameWithin (s : Store) : Nat → Item → Item → Except Fault Bool
  | 0, _, _ => .ok true
  | n + 1, .node a, .node b =>
    if (s.kind a).alike (s.kind b) && (s.children a).length == (s.children b).length then
      ((s.children a).zip (s.children b)).allM fun p => s.sameWithin n p.1 p.2
    else .ok false
  | n + 1, .document d, .document e => do
    s.requireCallable (.document d) .equals
    if ← s.samePart (s.sameWithin n) (s.document d).head (s.document e).head then
      s.samePart (s.sameWithin n) (s.document d).body (s.document e).body
    else return false
  | _ + 1, x, _ => (fun _ => false) <$> s.requireCallable x .equals

/-- Whether two items have the same shape, classes and attributes. -/
def same (s : Store) (x y : Item) : Except Fault Bool := s.sameWithin s.size x y

/-- The label of a node does not depend on what is below its children. -/
theorem label_node (s : Store) (id : NodeId) :
    s.label (.node id) = (s.kind id).label (s.children id).length := by
  unfold label labelWithin
  rfl

end StageCues.Store
