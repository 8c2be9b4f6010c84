import StageCues.Document

/-!
# Store — shared nodes

Nodes and documents that can be changed and shared live in a store.  A node has a kind, a list of
children and a link to at most one parent: the node it was last appended to.  An item may be a
child of several nodes, or twice of one; it then is in each list, and the parent of a node is the
last one.  Documents can be children too, but keep no parent; on the other hand they take a value
under any name, and a name that was given a value no longer stands for an operation.
-/

namespace StageCues

/-- The identity of a node in a store. -/
abbrev NodeId := Nat

/-- The identity of a document in a store. -/
abbrev DocumentId := Nat

/-- What a store holds: a node or a document. -/
inductive Item where
  | node (id : NodeId)
  | document (id : DocumentId)
  deriving DecidableEq, Repr

/-- The node that an item is. -/
def Item.node? : Item → Option NodeId
  | .node id => some id
  | .document _ => none

/-- What a node knows of its parent. -/
inductive ParentLink where
  | none
  | under (parent : NodeId)
  /-- The link was overwritten with a value of the sort. -/
  | broken (given : ValueSort)
  deriving DecidableEq, Repr

/-- The parent that a link leads to. -/
def ParentLink.parent? : ParentLink → Option NodeId
  | .under p => some p
  | _ => Option.none

/-- A node that can be changed. -/
structure Cell where
  kind : Kind
  children : List Item
  link : ParentLink
  deriving DecidableEq, Repr

/-- The cell with the parent. -/
def Cell.under (parent : NodeId) (c : Cell) : Cell := { c with link := .under parent }

/-- The cell with one more child at the end. -/
def Cell.push (child : Item) (c : Cell) : Cell := { c with children := c.children ++ [child] }

/-- A document that can be changed, and the values it was given under other names than those of its
parts, the newest first. -/
structure DocumentCell where
  content : DocumentOf Item
  given : List (Text × PlainValue)
  deriving DecidableEq, Repr

/-- The nodes and documents made so far, by identity. -/
structure Store where
  cells : List Cell
  documents : List DocumentCell
  deriving DecidableEq, Repr

namespace Store

/-- A store without nodes and documents. -/
def empty : Store := ⟨[], []⟩

/-- How many nodes and documents there are. -/
def size (s : Store) : Nat := s.cells.length + s.documents.length

/-- The cell of a node; an identity that was never given out has a plain cell of its own. -/
def cell (s : Store) (id : NodeId) : Cell := s.cells[id]?.getD ⟨.plain, [], .none⟩

/-- The kind of a node. -/
def kind (s : Store) (id : NodeId) : Kind := (s.cell id).kind

/-- The class of a node. -/
def cls (s : Store) (id : NodeId) : NodeClass := (s.kind id).cls

/-- The children of a node. -/
def children (s : Store) (id : NodeId) : List Item := (s.cell id).children

/-- The children of a node that are nodes. -/
def childNodes (s : Store) (id : NodeId) : List NodeId := (s.children id).filterMap Item.node?

/-- The parent of a node. -/
def parent (s : Store) (id : NodeId) : Option NodeId := (s.cell id).link.parent?

/-- The cell of a document; an identity that was never given out has a blank cell of its own. -/
def documentCell (s : Store) (id : DocumentId) : DocumentCell :=
  s.documents[id]?.getD ⟨.blank, []⟩

/-- A document by its identity. -/
def document (s : Store) (id : DocumentId) : DocumentOf Item := (s.documentCell id).content

/-- The value that an item was given under a name of its own choice.  Nodes take none. -/
def given? (s : Store) (name : Text) : Item → Option PlainValue
  | .node _ => none
  | .document id => (s.documentCell id).given.lookup name

/-- An item as one that can be asked something. -/
def owner (s : Store) : Item → Owner
  | .node id => .node (s.cls id)
  | .document _ => .document

/-- The fault of calling an operation by a name that was given to a value. -/
def shadowed? (s : Store) (x : Item) (operation : Operation) : Option Fault := do
  let name ← operation.name?
  let value ← s.given? name x
  return .notCallable value.sort

/-- The fault of asking an item for an operation that it does not have by its class. -/
def lacking (s : Store) (x : Item) (operation : Operation) : Fault :=
  (s.shadowed? x operation).getD (.lacks (s.owner x) operation)

/-- Whether an operation that an item has by its class can be called: a fault if its name was given
to a value. -/
def requireCallable (s : Store) (x : Item) (operation : Operation) : Except Fault Unit :=
  match s.shadowed? x operation with
  | some f => .error f
  | none => .ok ()

/-- The store with one cell changed. -/
def modifyCell (s : Store) (id : NodeId) (f : Cell → Cell) : Store :=
  { s with cells := s.cells.modify id f }

/-- The store with the kind of one node changed. -/
def modifyKind (s : Store) (id : NodeId) (f : Kind → Kind) : Store :=
  s.modifyCell id fun c => { c with kind := f c.kind }

/-- A new node without children and without a parent. -/
def insert (s : Store) (k : Kind) : Store × NodeId :=
  ({ s with cells := s.cells ++ [⟨k, [], .none⟩] }, s.cells.length)

/-- The item with the parent; documents keep none. -/
def setParent (s : Store) (parent : NodeId) : Item → Store
  | .node id => s.modifyCell id (.under parent)
  | .document _ => s

/-- The child put at the end of the parent's children, and the parent made its parent. -/
def link (s : Store) (parent : NodeId) (child : Item) : Store :=
  (s.setParent parent child).modifyCell parent (.push child)

/-- An item appended to a node; a channel write takes no children. -/
def append (s : Store) (parent : NodeId) (child : Item) : Except Fault Store :=
  if s.cls parent = .channelData then .error .childOfChannel else .ok (s.link parent child)

/-- Items appended in order, until one is refused. -/
def extend (s : Store) (parent : NodeId) : List Item → Except Fault Store
  | [] => .ok s
  | child :: rest =>
    match s.append parent child with
    | .error f => .error f
    | .ok t => t.extend parent rest

/-- An item appended as a child element.  Only complex elements take child elements; a wait ignores
them, and an iteration takes complex elements only. -/
def adopt (s : Store) (parent : NodeId) (child : Item) : Except Fault Store :=
  if !(s.cls parent).isComplex then .error (.lacks (.node (s.cls parent)) .adopt)
  else if s.cls parent = .delay then .ok s
  else if (s.cls parent).isA .iteration && !(s.owner child).isComplex then
    .error (.childOfIteration (s.owner child))
  else s.append parent child

/-- A new node with the children. -/
def make (s : Store) (k : Kind) (children : List Item) : Except Fault (Store × NodeId) :=
  let (t, id) := s.insert k
  match t.extend id children with
  | .error f => .error f
  | .ok u => .ok (u, id)

/-- A complex element closed. -/
def close (s : Store) (id : NodeId) : Except Fault Store :=
  if (s.cls id).isComplex then .ok (s.modifyKind id Kind.close)
  else .error (.lacks (.node (s.cls id)) .close)

/-- An element given a parameter. -/
def receive (s : Store) (id : NodeId) (p : Parameter) : Except Fault Store :=
  if (s.cls id).isElement then .ok (s.modifyKind id fun k => k.receive p)
  else .error (.lacks (.node (s.cls id)) p.operation)

/-- An attribute of a node given a new value. -/
def assign (s : Store) (id : NodeId) (a : Assignment) : Except Fault Store :=
  match (s.kind id).assign? a with
  | some k => .ok (s.modifyKind id fun _ => k)
  | none => .error (.unassignable (.node (s.cls id)) a.slot .absent)

/-- A name that is no attribute of any kind given a new value in a node, which breaks the link to
the parent or is refused. -/
def assignOther (s : Store) (id : NodeId) (slot : Text) (given : ValueSort) : Except Fault Store :=
  if slot = "_parent" then .ok (s.modifyCell id fun c => { c with link := .broken given })
  else .error (.unassignable (.node (s.cls id)) slot (.ofNode (s.cls id) slot given))

/-- A new document. -/
def insertDocument (s : Store) (d : DocumentOf Item) : Store × DocumentId :=
  ({ s with documents := s.documents ++ [⟨d, []⟩] }, s.documents.length)

/-- The store with one document cell changed. -/
def modifyDocumentCell (s : Store) (id : DocumentId) (f : DocumentCell → DocumentCell) : Store :=
  { s with documents := s.documents.modify id f }

/-- The store with one document changed. -/
def modifyDocument (s : Store) (id : DocumentId) (f : DocumentOf Item → DocumentOf Item) : Store :=
  s.modifyDocumentCell id fun d => { d with content := f d.content }

/-- A name that is no part of a document given a new value in one. -/
def assignInDocument (s : Store) (id : DocumentId) (slot : Text) (value : PlainValue) :
    Except Fault Store :=
  match Refusal.ofDocument? slot value.sort with
  | some why => .error (.unassignable .document slot why)
  | none => .ok (s.modifyDocumentCell id fun d => { d with given := (slot, value) :: d.given })

@[simp] theorem length_cells_modifyCell (s : Store) (id : NodeId) (f : Cell → Cell) :
    (s.modifyCell id f).cells.length = s.cells.length := by
  simp [modifyCell]

@[simp] theorem length_cells_setParent (s : Store) (p : NodeId) (x : Item) :
    (s.setParent p x).cells.length = s.cells.length := by
  cases x with
  | node id => exact length_cells_modifyCell s id _
  | document id => rfl

@[simp] theorem length_cells_link (s : Store) (p : NodeId) (x : Item) :
    (s.link p x).cells.length = s.cells.length := by
  simp [link]

/-- Changing a cell that was never made changes nothing. -/
theorem modifyCell_of_le (s : Store) {i : NodeId} (h : s.cells.length ≤ i) (f : Cell → Cell) :
    s.modifyCell i f = s := by
  rw [modifyCell, List.modify_eq_self h]

/-- A change of one cell leaves the others alone. -/
theorem cell_modifyCell_of_ne (s : Store) {i j : NodeId} (h : i ≠ j) (f : Cell → Cell) :
    (s.modifyCell i f).cell j = s.cell j := by
  simp [modifyCell, cell, h]

theorem cell_modifyCell_self {s : Store} {i : NodeId} (h : i < s.cells.length) (f : Cell → Cell) :
    (s.modifyCell i f).cell i = f (s.cell i) := by
  simp [modifyCell, cell, List.getElem?_eq_getElem h]

/-- A change that keeps a part of every cell keeps that part of the store. -/
theorem map_cell_modifyCell {α : Type} (g : Cell → α) (f : Cell → Cell) (h : ∀ c, g (f c) = g c)
    (s : Store) (i j : NodeId) : g ((s.modifyCell i f).cell j) = g (s.cell j) := by
  by_cases hij : i = j
  · subst hij
    by_cases hi : i < s.cells.length
    · rw [cell_modifyCell_self hi, h]
    · rw [modifyCell_of_le s (Nat.le_of_not_lt hi)]
  · rw [cell_modifyCell_of_ne s hij]

/-- Only nodes that were made are of another class than the plain one. -/
theorem lt_of_cls {s : Store} {id : NodeId} (h : s.cls id ≠ .plain) : id < s.cells.length := by
  refine Nat.lt_of_not_le fun hle => h ?_
  rw [cls, kind, cell, List.getElem?_eq_none hle]
  rfl

/-- A new kind leaves the children and the parent of the node as they are. -/
theorem cell_modifyKind_self {s : Store} {id : NodeId} (h : id < s.cells.length) (f : Kind → Kind) :
    (s.modifyKind id f).cell id = { s.cell id with kind := f (s.kind id) } :=
  cell_modifyCell_self h _

theorem cell_modifyKind_of_ne (s : Store) {i j : NodeId} (h : i ≠ j) (f : Kind → Kind) :
    (s.modifyKind i f).cell j = s.cell j :=
  cell_modifyCell_of_ne s h _

theorem kind_modifyKind_self {s : Store} {id : NodeId} (h : id < s.cells.length) (f : Kind → Kind) :
    (s.modifyKind id f).kind id = f (s.kind id) :=
  congrArg Cell.kind (cell_modifyKind_self h f)

@[simp] theorem children_modifyKind (s : Store) (i j : NodeId) (f : Kind → Kind) :
    (s.modifyKind i f).children j = s.children j :=
  map_cell_modifyCell Cell.children (fun c => { c with kind := f c.kind }) (fun _ => rfl) s i j

/-- A change of kinds that keeps the class of every kind keeps that of every node. -/
theorem cls_modifyKind {f : Kind → Kind} (h : ∀ k, (f k).cls = k.cls) (s : Store) (i j : NodeId) :
    (s.modifyKind i f).cls j = s.cls j :=
  map_cell_modifyCell (fun c => c.kind.cls) (fun c => { c with kind := f c.kind })
    (fun c => h c.kind) s i j

/-- Two changes of one kind are one. -/
theorem modifyKind_modifyKind (s : Store) (id : NodeId) (f g : Kind → Kind) :
    (s.modifyKind id f).modifyKind id g = s.modifyKind id fun k => g (f k) := by
  simp only [modifyKind, modifyCell, List.modify_modify_eq]
  rfl

/-- A new parent changes nothing but a link. -/
theorem map_cell_setParent {α : Type} (g : Cell → α) (h : ∀ p c, g (.under p c) = g c) (s : Store)
    (p : NodeId) (x : Item) (j : NodeId) : g ((s.setParent p x).cell j) = g (s.cell j) := by
  cases x with
  | node id => exact map_cell_modifyCell g (.under p) (h p) s id j
  | document id => rfl

@[simp] theorem kind_link (s : Store) (p : NodeId) (x : Item) (id : NodeId) :
    (s.link p x).kind id = s.kind id := by
  rw [kind, link, map_cell_modifyCell Cell.kind (.push x) fun _ => rfl]
  exact map_cell_setParent Cell.kind (fun _ _ => rfl) s p x id

@[simp] theorem cls_link (s : Store) (p : NodeId) (x : Item) (id : NodeId) :
    (s.link p x).cls id = s.cls id := by
  rw [cls, kind_link, cls]

/-- Only the parent gets a new child. -/
theorem children_link_of_ne (s : Store) {p id : NodeId} (h : p ≠ id) (x : Item) :
    (s.link p x).children id = s.children id := by
  rw [children, link, cell_modifyCell_of_ne _ h]
  exact map_cell_setParent Cell.children (fun _ _ => rfl) s p x id

/-- The child is put at the end. -/
theorem children_link_self {s : Store} {p : NodeId} (h : p < s.cells.length) (x : Item) :
    (s.link p x).children p = s.children p ++ [x] := by
  rw [children, link, cell_modifyCell_self (by simpa using h)]
  exact congrArg (· ++ [x]) (map_cell_setParent Cell.children (fun _ _ => rfl) s p x p)

/-- Only the child gets a new parent. -/
theorem parent_link_of_ne (s : Store) {x : Item} {id : NodeId} (h : x ≠ .node id) (p : NodeId) :
    (s.link p x).parent id = s.parent id := by
  rw [parent, link, map_cell_modifyCell Cell.link (.push x) fun _ => rfl]
  cases x with
  | node c =>
    exact congrArg (fun k => k.link.parent?)
      (cell_modifyCell_of_ne s (fun hc => h (congrArg Item.node hc)) _)
  | document d => rfl

/-- The child's parent is the node it was put under. -/
theorem parent_link_self {s : Store} {c : NodeId} (h : c < s.cells.length) (p : NodeId) :
    (s.link p (.node c)).parent c = some p := by
  rw [parent, link, map_cell_modifyCell Cell.link (.push (.node c)) fun _ => rfl, setParent,
    cell_modifyCell_self h]
  rfl

/-- Nothing can take an operation away from a node. -/
@[simp] theorem requireCallable_node (s : Store) (id : NodeId) (o : Operation) :
    s.requireCallable (.node id) o = .ok () := by
  cases o <;> rfl

/-- Appending is refused by channel writes and by nothing else. -/
theorem append_eq_ok_iff {s t : Store} {p : NodeId} {x : Item} :
    s.append p x = .ok t ↔ s.cls p ≠ .channelData ∧ s.link p x = t := by
  unfold append
  split <;> simp_all

end Store

end StageCues
