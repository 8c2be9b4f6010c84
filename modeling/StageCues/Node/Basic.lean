import StageCues.Node.Kind

/-!
# Node — trees

A node is a kind and a list of child nodes.  Two nodes are the same when their kinds are alike and
their children are the same in order; the descendants of a node are its children, each followed by
its own descendants.

How deep a tree is has no bound here: calls are taken to nest as deeply as a comparison or a search
for descendants needs.
-/

namespace StageCues

/-- A kind with child nodes, in the order they were added. -/
structure Node where
  kind : Kind
  children : List Node
  deriving Repr

namespace Node

/-- A node without children. -/
def leaf (k : Kind) : Node := ⟨k, []⟩

/-- The class of a node. -/
def cls (n : Node) : NodeClass := n.kind.cls

/-- The node after it receives a parameter. -/
def receive (n : Node) (p : Parameter) : Node := { n with kind := n.kind.receive p }

/-- The node after it is closed. -/
def close (n : Node) : Node := { n with kind := n.kind.close }

/-- The node with one more child at the end. -/
def push (n child : Node) : Node := { n with children := n.children ++ [child] }

mutual

/-- Whether two nodes have the same shape, classes and attributes. -/
def same : Node → Node → Bool
  | ⟨k, cs⟩, ⟨l, ds⟩ => k.alike l && sameAll cs ds
termination_by structural n => n

/-- Whether two lists of nodes are the same, node by node. -/
def sameAll : List Node → List Node → Bool
  | [], [] => true
  | n :: ns, m :: ms => same n m && sameAll ns ms
  | _, _ => false
termination_by structural ns => ns

end

mutual

/-- The descendants of a node in document order. -/
def descendants : Node → List Node
  | ⟨_, cs⟩ => family cs
termination_by structural n => n

/-- The nodes of a list, each followed by its descendants. -/
def family : List Node → List Node
  | [] => []
  | n :: ns => n :: descendants n ++ family ns
termination_by structural ns => ns

end

/-- Whether the node belongs to one of the classes. -/
def isAny (n : Node) (classes : List NodeClass) : Bool := classes.any fun c => n.cls.isA c

/-- The children of the class. -/
def childrenOf (n : Node) (c : NodeClass) : List Node := n.children.filter fun m => m.cls.isA c

/-- The descendants of the class. -/
def descendantsOf (n : Node) (c : NodeClass) : List Node :=
  n.descendants.filter fun m => m.cls.isA c

@[simp] theorem cls_receive (n : Node) (p : Parameter) : (n.receive p).cls = n.cls := by
  simp [cls, receive]

@[simp] theorem children_receive (n : Node) (p : Parameter) :
    (n.receive p).children = n.children := rfl

@[simp] theorem cls_close (n : Node) : n.close.cls = n.cls := by
  simp [cls, close]

@[simp] theorem children_close (n : Node) : n.close.children = n.children := rfl

@[simp] theorem children_push (n child : Node) :
    (n.push child).children = n.children ++ [child] := rfl

@[simp] theorem kind_push (n child : Node) : (n.push child).kind = n.kind := rfl

end Node

end StageCues
