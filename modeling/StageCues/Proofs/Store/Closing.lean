import Mathlib.Data.List.Nodup
import StageCues.Store.Family

/-!
# Store — closing from the end

A cue list closes its last open element at every call, so the calls close the open elements from the
end, one each, and then no more (`closings_from_end`).  The search goes past the elements that count
as closed and stops at the first that does not (`lastOpenIndexBy_map`); a wait always counts as
closed.  After a call the cue list has the same elements (`Lists.close`), and the open ones are
those that were open, without the last (`Lists.openFromEnd_close`).
-/

namespace StageCues

/-- If all members of a list can be asked whether they are closed, the search comes to the last open
one, and to none if there is none. -/
theorem lastOpenIndexBy_map {α β : Type} {closed : α → Except Fault Bool} {g : β → α}
    {isOpen : β → Bool} {xs : List β} (h : ∀ x ∈ xs, closed (g x) = .ok (!isOpen x)) :
    ∃ i?, lastOpenIndexBy closed (xs.map g) = .ok i? ∧
      (i?.map fun i => xs[i]?) = (xs.filter isOpen).getLast?.map some := by
  induction xs with
  | nil => exact ⟨none, rfl, rfl⟩
  | cons x xs ih =>
      obtain ⟨i?, hi, hlast⟩ := ih fun y hy => h y (List.mem_cons_of_mem x hy)
      have hx := h x List.mem_cons_self
      cases i? with
      | some i =>
          obtain ⟨y, hy, hfound⟩ := Option.map_eq_some_iff.mp hlast.symm
          refine ⟨some (i + 1), by rw [List.map_cons, lastOpenIndexBy, hi], ?_⟩
          rw [List.filter_cons]
          split
          · rw [List.getLast?_cons, hy]
            exact congrArg some hfound.symm
          · exact hlast
      | none =>
          have hnone : xs.filter isOpen = [] :=
            List.getLast?_eq_none_iff.mp (Option.map_eq_none_iff.mp hlast.symm)
          rw [List.filter_cons, hnone, List.map_cons, lastOpenIndexBy, hi]
          cases hopen : isOpen x with
          | true => exact ⟨some 0, by rw [hx, hopen]; rfl, rfl⟩
          | false => exact ⟨none, by rw [hx, hopen]; rfl, rfl⟩

namespace Store

/-- Whether a node is a complex element that does not count as closed. -/
def isOpen (s : Store) (id : NodeId) : Bool := (s.kind id).isClosed? == some false

/-- The open ones of the nodes, the last one first. -/
def openFromEnd (s : Store) (cs : List NodeId) : List NodeId := (cs.filter s.isOpen).reverse

/-- The nodes closed, one after the other. -/
def closeAll (s : Store) (cs : List NodeId) : Store :=
  cs.foldl (fun s c => s.modifyKind c Kind.close) s

/-- So many calls that close the last open element of a cue list: the store after them, and what
each call says was closed. -/
def closings (s : Store) (l : NodeId) : Nat → Except Fault (Store × List (Option NodeId))
  | 0 => .ok (s, [])
  | n + 1 =>
    match s.closeLastOpen l with
    | .error f => .error f
    | .ok (t, c?) =>
      match t.closings l n with
      | .error f => .error f
      | .ok (u, cs) => .ok (u, c? :: cs)

/-- The node is a cue list, and its elements are complex elements of any class, each there once. -/
structure Lists (s : Store) (l : NodeId) (cs : List NodeId) : Prop where
  cueList : s.cls l = .cueList
  children : s.children l = cs.map .node
  distinct : cs.Nodup
  complex : ∀ c ∈ cs, (s.cls c).isComplex = true

variable {s : Store} {l c id : NodeId} {cs os : List NodeId}

/-- A complex element can be asked whether it is closed. -/
theorem closed_of_isComplex (h : (s.cls c).isComplex = true) :
    s.closed (.node c) = .ok (!s.isOpen c) := by
  rw [cls, ← Kind.isClosed?_isSome] at h
  obtain ⟨b, hb⟩ := Option.isSome_iff_exists.mp h
  simp only [closed, Kind.closed, isOpen, hb]
  cases b <;> rfl

theorem mem_of_mem_openFromEnd (h : c ∈ s.openFromEnd cs) : c ∈ cs :=
  (List.mem_filter.mp (List.mem_reverse.mp h)).1

theorem isOpen_of_mem_openFromEnd (h : c ∈ s.openFromEnd cs) : s.isOpen c = true :=
  (List.mem_filter.mp (List.mem_reverse.mp h)).2

/-- A node that was closed is not open, and the others are as they were. -/
theorem isOpen_modifyKind_close (h : c < s.cells.length) (id : NodeId) :
    (s.modifyKind c Kind.close).isOpen id = (decide (id ≠ c) && s.isOpen id) := by
  by_cases hid : id = c
  · subst hid
    rw [isOpen, kind_modifyKind_self h, Kind.isClosed?_close]
    cases (s.kind id).isClosed? <;> simp
  · rw [isOpen, kind, cell_modifyKind_of_ne s (Ne.symm hid)]
    simp [isOpen, kind, hid]

/-! ### Closed nodes -/

@[simp] theorem closeAll_cons (s : Store) (c : NodeId) (os : List NodeId) :
    s.closeAll (c :: os) = (s.modifyKind c Kind.close).closeAll os := rfl

@[simp] theorem length_cells_closeAll (s : Store) (os : List NodeId) :
    (s.closeAll os).cells.length = s.cells.length := by
  induction os generalizing s with
  | nil => rfl
  | cons c os ih => exact (ih _).trans (length_cells_modifyCell s c _)

@[simp] theorem documents_closeAll (s : Store) (os : List NodeId) :
    (s.closeAll os).documents = s.documents := by
  induction os generalizing s with
  | nil => rfl
  | cons c os ih => exact ih _

theorem cell_closeAll_of_not_mem (h : id ∉ os) : (s.closeAll os).cell id = s.cell id := by
  induction os generalizing s with
  | nil => rfl
  | cons c os ih =>
      have hc : c ≠ id := Ne.symm (List.ne_of_not_mem_cons h)
      rw [closeAll_cons, ih (List.not_mem_of_not_mem_cons h), cell_modifyKind_of_ne s hc]

/-- A node that was closed, once or more than once, has the kind of a closed one and is otherwise as
it was. -/
theorem cell_closeAll_of_mem (hid : id < s.cells.length) (h : id ∈ os) :
    (s.closeAll os).cell id = { s.cell id with kind := (s.kind id).close } := by
  induction os generalizing s with
  | nil => cases h
  | cons c os ih =>
      have hlength : id < (s.modifyKind c Kind.close).cells.length := by
        rw [modifyKind, length_cells_modifyCell]
        exact hid
      rw [closeAll_cons]
      by_cases hos : id ∈ os
      · rw [ih hlength hos]
        by_cases hc : c = id
        · subst hc
          rw [kind, cell_modifyKind_self hid, Kind.close_close]
        · rw [kind, cell_modifyKind_of_ne s hc, kind]
      · obtain rfl : id = c := (List.mem_cons.mp h).resolve_right hos
        rw [cell_closeAll_of_not_mem hos, cell_modifyKind_self hid]

namespace Lists

/-- The elements of a cue list were made. -/
theorem lt_length (h : s.Lists l cs) (hc : c ∈ cs) : c < s.cells.length :=
  lt_of_cls fun hplain => absurd (h.complex c hc) (by rw [hplain]; decide)

/-! ### One call -/

/-- **The last open element** of a cue list is the last one that does not count as closed. -/
theorem lastOpenChild (h : s.Lists l cs) :
    s.lastOpenChild l = .ok (cs.filter s.isOpen).getLast? := by
  obtain ⟨i?, hi, hlast⟩ := lastOpenIndexBy_map fun c hc => closed_of_isComplex (h.complex c hc)
  rw [Store.lastOpenChild, h.children, hi]
  cases i? with
  | none => exact congrArg Except.ok (Option.map_eq_none_iff.mp hlast.symm).symm
  | some i =>
      obtain ⟨c, hc, hfound⟩ := Option.map_eq_some_iff.mp hlast.symm
      simp only [List.getElem?_map, hc, ← hfound]
      rfl

theorem lastOpen (h : s.Lists l cs) : s.lastOpen l = .ok (cs.filter s.isOpen).getLast? := by
  rw [Store.lastOpen, requireCueList, if_pos h.cueList]
  exact h.lastOpenChild

/-- A call closes the last open element and says which one it was, and without one does nothing. -/
theorem closeLastOpen (h : s.Lists l cs) : s.closeLastOpen l = .ok
    (((s.openFromEnd cs).head?.map fun c => s.modifyKind c Kind.close).getD s,
      (s.openFromEnd cs).head?) := by
  rw [Store.closeLastOpen, requireCueList, if_pos h.cueList, h.lastOpenChild, openFromEnd,
    List.head?_reverse]
  cases (cs.filter s.isOpen).getLast? <;> rfl

/-- Closing a node leaves a cue list the elements that it has. -/
theorem close (h : s.Lists l cs) (c : NodeId) : (s.modifyKind c Kind.close).Lists l cs where
  cueList := (cls_modifyKind Kind.cls_close s c l).trans h.cueList
  children := (children_modifyKind s c l Kind.close).trans h.children
  distinct := h.distinct
  complex := fun d hd => by rw [cls_modifyKind Kind.cls_close]; exact h.complex d hd

/-- After the last open element was closed, the others are still open. -/
theorem openFromEnd_close (h : s.Lists l cs) (ho : s.openFromEnd cs = c :: os) :
    (s.modifyKind c Kind.close).openFromEnd cs = os := by
  have hc : c < s.cells.length := by
    have hmem : c ∈ s.openFromEnd cs := by
      rw [ho]
      exact List.mem_cons_self
    exact h.lt_length (mem_of_mem_openFromEnd hmem)
  have hnodup : (s.openFromEnd cs).Nodup :=
    List.nodup_reverse.mpr (h.distinct.sublist List.filter_sublist)
  rw [ho, List.nodup_cons] at hnodup
  have hother : os.filter (fun d => decide (d ≠ c)) = os := by
    refine List.filter_eq_self.mpr fun d hd => decide_eq_true ?_
    rintro rfl
    exact hnodup.1 hd
  calc (s.modifyKind c Kind.close).openFromEnd cs
      = (s.openFromEnd cs).filter (fun d => decide (d ≠ c)) := by
        rw [openFromEnd, openFromEnd, List.filter_reverse, List.filter_filter]
        simp only [funext (isOpen_modifyKind_close hc)]
    _ = os := by rw [ho, List.filter_cons_of_neg (by simp), hother]

/-! ### Many calls -/

/-- The calls close the open elements from the end, one each, as long as there are any. -/
theorem closings_eq (h : s.Lists l cs) (n : Nat) :
    s.closings l n = .ok (s.closeAll ((s.openFromEnd cs).take n),
      (List.range n).map fun j => (s.openFromEnd cs)[j]?) := by
  induction n generalizing s with
  | zero => rfl
  | succ n ih =>
      rw [closings, h.closeLastOpen, List.range_succ_eq_map, List.map_cons, List.map_map]
      cases ho : s.openFromEnd cs with
      | nil =>
          have hrest := ih h
          rw [ho, List.take_nil] at hrest
          simp only [List.head?_nil, Option.map_none, Option.getD_none, hrest, List.take_nil]
          rfl
      | cons c os =>
          have hrest := ih (h.close c)
          rw [h.openFromEnd_close ho] at hrest
          simp only [List.head?_cons, Option.map_some, Option.getD_some, hrest, List.take_succ_cons]
          rfl

/-- Closing nodes leaves a cue list the elements that it has. -/
theorem closeAll (h : s.Lists l cs) (os : List NodeId) : (s.closeAll os).Lists l cs := by
  induction os generalizing s with
  | nil => exact h
  | cons c os ih => exact ih (h.close c)

/-- When open elements were closed from the end, the others are still open. -/
theorem openFromEnd_closeAll (h : s.Lists l cs) (n : Nat) :
    (s.closeAll ((s.openFromEnd cs).take n)).openFromEnd cs = (s.openFromEnd cs).drop n := by
  induction n generalizing s with
  | zero => rfl
  | succ n ih =>
      cases ho : s.openFromEnd cs with
      | nil => exact ho
      | cons c os =>
          have hrest := ih (h.close c)
          rw [h.openFromEnd_close ho] at hrest
          exact hrest

end Lists

/-- **Closing from the end.**  The call after so many calls closes the open element at that place
from the end, and says so, and when there is none left it says so and does nothing.  The elements
that were closed are closed and have all other attributes, their children and their parents as
before; no other node is changed, and no document.  At every moment the last open element is the
last one that does not count as closed. -/
theorem closings_from_end (h : s.Lists l cs) (n : Nat) :
    ∃ t, s.closings l n = .ok (t, (List.range n).map fun j => (s.openFromEnd cs)[j]?) ∧
      t.closeLastOpen l = .ok
        (((s.openFromEnd cs)[n]?.map fun c => t.modifyKind c Kind.close).getD t,
          (s.openFromEnd cs)[n]?) ∧
      (∀ c, c ∈ (s.openFromEnd cs).take n →
        t.cell c = { s.cell c with kind := (s.kind c).close } ∧
        (t.kind c).isClosed? = some true ∧
        (t.kind c).assign? (.closed false) = some (s.kind c)) ∧
      (∀ i, i ∉ (s.openFromEnd cs).take n → t.cell i = s.cell i) ∧
      t.cells.length = s.cells.length ∧ t.documents = s.documents ∧
      t.lastOpen l = .ok (cs.filter t.isOpen).getLast? := by
  have hlists := h.closeAll ((s.openFromEnd cs).take n)
  have hnext := hlists.closeLastOpen
  rw [h.openFromEnd_closeAll n, List.head?_drop] at hnext
  refine ⟨s.closeAll ((s.openFromEnd cs).take n), h.closings_eq n, hnext, fun c hc => ?_,
    fun i hi => cell_closeAll_of_not_mem hi, length_cells_closeAll s _, documents_closeAll s _,
    hlists.lastOpen⟩
  have hmem := List.mem_of_mem_take hc
  have hcell := cell_closeAll_of_mem (h.lt_length (mem_of_mem_openFromEnd hmem)) hc
  have hopen : (s.kind c).isClosed? = some false :=
    eq_of_beq (isOpen_of_mem_openFromEnd hmem)
  refine ⟨hcell, ?_, ?_⟩
  · rw [kind, hcell, Kind.isClosed?_close, hopen]
    rfl
  · rw [kind, hcell]
    exact Kind.assign?_close hopen

/-- A wait and an empty frame are passed over, a loop is closed before the frame in front of them,
and the third call closes nothing. -/
theorem closings_three :
    let s : Store := ⟨[⟨.keyFrame 10 false false, [], .under 4⟩, ⟨.delay 1 20, [], .under 4⟩,
      ⟨.forIteration 0 3 0 false, [], .under 4⟩, ⟨.keyFrame 5 true true, [], .under 4⟩,
      ⟨.cueList, [.node 0, .node 1, .node 2, .node 3], .none⟩], []⟩
    s.Lists 4 [0, 1, 2, 3] ∧
    ∃ t, s.closings 4 3 = .ok (t, [some 2, some 0, none]) ∧
      t.cell 0 = ⟨.keyFrame 10 false true, [], .under 4⟩ ∧
      t.cell 2 = ⟨.forIteration 0 3 0 true, [], .under 4⟩ ∧
      (∀ i, i ∉ [2, 0] → t.cell i = s.cell i) ∧
      t.closeLastOpen 4 = .ok (t, none) := by
  intro s
  have hlists : s.Lists 4 [0, 1, 2, 3] := ⟨rfl, rfl, by decide, by decide⟩
  obtain ⟨t, hcalls, hnext, hclosed, hother, -⟩ := closings_from_end hlists 3
  exact ⟨hlists, t, hcalls, (hclosed 0 (by decide)).1, (hclosed 2 (by decide)).1, hother, hnext⟩

end Store

end StageCues
