import StageCues.Proofs.Built.Received
import StageCues.Store.Basic

/-!
# Store — what elements have received

An element of a store takes every parameter, whatever its class is and whether it has a use for it
or not (`receiveAll_eq`), so what becomes of an element that was new is what becomes of its kind
(`NewElement.receiveAll_kind`).  Its children, its parent and all other nodes stay as they are
(`receiveAll_new`).
-/

namespace StageCues.Store

/-- An element given parameters, one after the other, until one is refused. -/
def receiveAll (s : Store) (id : NodeId) : List Parameter → Except Fault Store
  | [] => .ok s
  | p :: ps =>
    match s.receive id p with
    | .error f => .error f
    | .ok t => t.receiveAll id ps

variable {s : Store} {id : NodeId}

theorem receive_of_isElement (h : (s.cls id).isElement = true) (p : Parameter) :
    s.receive id p = .ok (s.modifyKind id fun k => k.receive p) := by
  rw [receive, if_pos h]

/-- Only nodes that were made are elements. -/
theorem lt_of_isElement (h : (s.cls id).isElement = true) : id < s.cells.length := by
  refine lt_of_cls fun hplain => ?_
  rw [hplain] at h
  cases h

/-- **An element takes all parameters**, and nothing but its kind changes. -/
theorem receiveAll_eq (h : (s.cls id).isElement = true) (ps : List Parameter) :
    s.receiveAll id ps = .ok (s.modifyKind id fun k => k.receiveAll ps) := by
  induction ps generalizing s with
  | nil =>
      have hsame : s.cells.modify id (fun c => c) = s.cells := List.modify_id id s.cells
      exact congrArg (fun cs => Except.ok { s with cells := cs }) hsame.symm
  | cons p ps ih =>
      have hcls : (s.modifyKind id fun k => k.receive p).cls id = s.cls id :=
        cls_modifyKind (fun k => Kind.cls_receive k p) s id id
      have hrest := ih (s := s.modifyKind id fun k => k.receive p) (by rw [hcls]; exact h)
      rw [modifyKind_modifyKind] at hrest
      rw [receiveAll, receive_of_isElement h]
      exact hrest

/-- **What an element has received that was new.**  It stands anywhere in a store and has any
children.  Numbers and texts come in any order, and none is refused.  The element is then what it
should be after these parameters, as open or closed as it was; its children and its parent are the
same, and so are all other nodes and all documents.  A head is of the version with the number that
it was told. -/
theorem receiveAll_new {e : NewElement} (h : s.kind id = e.kind) (ps : List Parameter) :
    ∃ t, s.receiveAll id ps = .ok t ∧
      t.cell id = { s.cell id with kind := e.after ps } ∧
      (e.after ps).version?.map SchemaVersion.number = e.versionAfter ps ∧
      (e.after ps).isClosed? = (s.kind id).isClosed? ∧
      (∀ j, j ≠ id → t.cell j = s.cell j) ∧
      t.cells.length = s.cells.length ∧ t.documents = s.documents := by
  have helement : (s.cls id).isElement = true := by
    rw [cls, h]
    exact e.isElement_kind
  refine ⟨_, receiveAll_eq helement ps, ?_, e.version?_after ps, ?_, fun j hj => ?_,
    length_cells_modifyCell s id _, rfl⟩
  · rw [cell_modifyKind_self (lt_of_isElement helement), h, NewElement.receiveAll_kind]
  · rw [NewElement.isClosed?_after, h]
  · exact cell_modifyKind_of_ne s (Ne.symm hj) _

/-- A channel write in a frame, which is not told its channel by a text, and is told it by the
number minus one: all bits of it are set then. -/
theorem receiveAll_new_negative :
    let s : Store :=
      ⟨[⟨.newChannelData 7 9, [], .under 1⟩, ⟨.newKeyFrame 10 false, [.node 0], .none⟩], []⟩
    let ps : List Parameter := [.text "1", .number (-1), .number 0, .text "2", .number (-2)]
    s.kind 0 = (NewElement.channelData 7 9).kind ∧
    ∃ t, s.receiveAll 0 ps = .ok t ∧
      t.cell 0 = ⟨.channelData 65535 254 3, [], .under 1⟩ ∧
      (∀ j, j ≠ 0 → t.cell j = s.cell j) ∧ t.cells.length = 2 ∧ t.documents = [] := by
  intro s ps
  have hnew : s.kind 0 = (NewElement.channelData 7 9).kind := rfl
  obtain ⟨t, ht, hcell, -, -, hother, hlength, hdocuments⟩ := receiveAll_new hnew ps
  exact ⟨hnew, t, ht, hcell, hother, hlength, hdocuments⟩

end StageCues.Store
