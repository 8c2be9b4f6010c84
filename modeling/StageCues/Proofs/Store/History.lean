import StageCues.Proofs.Store.Calls
import StageCues.Proofs.Store.Depth

/-!
# Store — the history of a tree

A run of calls puts nodes under others, one after the other; its history are these attachments, each
the parent with the child.  A store that was built by calls says nothing else about which node
stands where: the children of a node are those that were put under it, in this order
(`children_build`), and its parent is the node that it was put under last (`parent_build`).

So a node that was put under another just once has that one for its parent, and stands there once.
If this is so of every node below a node, and that node is not below itself, the tree is planted
(`planted_build`): a node of it that is below itself would have the node above it in the tree below
itself as well, and so on up to the root.
-/

namespace StageCues

namespace History

/-- The nodes that were put under a node, in order. -/
def under (h : History) (p : NodeId) : List NodeId := (h.filter fun e => e.1 = p).map Prod.snd

/-- The node that a node was put under last. -/
def last? (h : History) (c : NodeId) : Option NodeId :=
  (h.filter fun e => e.2 = c).getLast?.map Prod.fst

/-- How often a node was put under another. -/
def times (h : History) (c : NodeId) : Nat := (h.filter fun e => e.2 = c).length

variable {h : History} {p c : NodeId}

theorem under_append (h k : History) (p : NodeId) : (h ++ k).under p = h.under p ++ k.under p := by
  rw [under, List.filter_append, List.map_append]
  rfl

theorem last?_append (h k : History) (c : NodeId) :
    (h ++ k).last? c = (k.last? c).or (h.last? c) := by
  unfold last?
  rw [List.filter_append, List.getLast?_append]
  cases (k.filter fun e => e.2 = c).getLast? <;> rfl

theorem mem_under : c ∈ h.under p ↔ (p, c) ∈ h := by
  unfold under
  constructor
  · intro hc
    obtain ⟨⟨q, d⟩, hmem, rfl⟩ := List.mem_map.mp hc
    obtain ⟨he, hq⟩ := List.mem_filter.mp hmem
    obtain rfl : q = p := by simpa using hq
    exact he
  · intro he
    exact List.mem_map.mpr ⟨(p, c), List.mem_filter.mpr ⟨he, by simp⟩, rfl⟩

/-- A node that was put under another once has it for its last one. -/
theorem last?_of_once (he : (p, c) ∈ h) (honce : h.times c = 1) : h.last? c = some p := by
  obtain ⟨e, hall⟩ := List.length_eq_one_iff.mp honce
  have hmem : (p, c) ∈ h.filter fun e => e.2 = c := List.mem_filter.mpr ⟨he, by simp⟩
  rw [hall, List.mem_singleton] at hmem
  rw [last?, hall, ← hmem]
  rfl

/-- Nodes that were put under others once stand only once among the nodes under one of them. -/
theorem nodup_under (honce : ∀ c ∈ h.under p, h.times c = 1) : (h.under p).Nodup := by
  refine List.nodup_iff_count_le_one.mpr fun c => ?_
  by_cases hc : c ∈ h.under p
  · -- the node is not put under this one more often than under any
    have hcount : (h.under p).count c =
        ((h.filter fun e => e.1 = p).filter fun e => e.2 = c).length := by
      rw [under, List.count_eq_countP, List.countP_map, List.countP_eq_length_filter]
      rfl
    have hpart := ((List.filter_sublist (l := h) (p := fun e => e.1 = p)).filter
      fun e => e.2 = c).length_le
    have hone : (h.filter fun e => e.2 = c).length = 1 := honce c hc
    omega
  · rw [List.count_eq_zero_of_not_mem hc]
    exact Nat.zero_le 1

/-! ### One parent and many children -/

theorem under_map (p q : NodeId) (cs : List NodeId) :
    under (cs.map fun c => (p, c)) q = if p = q then cs else [] := by
  unfold under
  rw [List.filter_map, List.map_map]
  by_cases h : p = q <;> simp [h, Function.comp_def]

theorem last?_cons (e : NodeId × NodeId) (h : History) (c : NodeId) :
    last? (e :: h) c = (h.last? c).or (if e.2 = c then some e.1 else none) := by
  rw [← List.singleton_append, last?_append]
  congr 1
  unfold last?
  split
  · next he => simp [he]
  · next he => simp [he]

/-! ### The last attachment of a node -/

/-- A node that was never put under another was put under none last. -/
theorem last?_of_forall_not_mem (hc : ∀ p, (p, c) ∉ h) : h.last? c = none := by
  have hnone : (h.filter fun e => e.2 = c) = [] := by
    refine List.filter_eq_nil_iff.mpr fun e he hec => ?_
    obtain rfl : e.2 = c := of_decide_eq_true hec
    exact hc e.1 he
  rw [last?, hnone]
  rfl

/-- An attachment of a node that no other one follows is its last. -/
theorem last?_append_cons {earlier later : History} (hlater : ∀ q, (q, c) ∉ later) :
    last? (earlier ++ (p, c) :: later) c = some p := by
  rw [last?_append, last?_cons, last?_of_forall_not_mem hlater, if_pos rfl]
  rfl

theorem mem_of_last? (hc : h.last? c = some p) : (p, c) ∈ h := by
  obtain ⟨⟨q, d⟩, hlast, rfl⟩ := Option.map_eq_some_iff.mp hc
  obtain ⟨he, hd⟩ := List.mem_filter.mp (List.mem_of_getLast? hlast)
  obtain rfl : d = c := of_decide_eq_true hd
  exact he

end History

namespace Store

/-- What a run of calls attaches, in order. -/
def history (s : Store) : List Call → History
  | [] => []
  | call :: calls => s.attached call ++ (s.perform call).history calls

variable {s : Store} {k : Kind} {p c id r : NodeId} {cs : List NodeId} {calls : List Call}
  {call : Call}

/-- A new node has no parent, and the others keep theirs. -/
@[simp] theorem parent_insert (s : Store) (k : Kind) (id : NodeId) :
    (s.insert k).1.parent id = s.parent id := by
  have hnone : ∀ {t : Store}, t.cells.length ≤ id → t.parent id = none := by
    intro t h
    simp only [parent, cell, List.getElem?_eq_none h, Option.getD_none]
    rfl
  rcases Nat.lt_trichotomy id s.cells.length with hid | rfl | hid
  · rw [parent, cell_insert_of_lt hid, parent]
  · rw [parent, cell_insert_self, hnone (Nat.le_refl _)]
    rfl
  · have hle : (s.insert k).1.cells.length ≤ id := by
      rw [length_cells_insert]
      exact hid
    rw [hnone hle, hnone (Nat.le_of_lt hid)]

theorem children_linkAll (hp : p < s.cells.length) (cs : List NodeId) (id : NodeId) :
    (s.linkAll p cs).children id =
      s.children id ++ (History.under (cs.map fun c => (p, c)) id).map .node := by
  rw [History.under_map]
  by_cases hid : p = id
  · subst hid
    rw [if_pos rfl, children_linkAll_self hp]
  · rw [if_neg hid, children_linkAll_of_ne s hid, List.map_nil, List.append_nil]

/-- The parent is the node that the child was put under last. -/
theorem parent_linkAll (hcs : ∀ c ∈ cs, c < s.cells.length) (p id : NodeId) :
    (s.linkAll p cs).parent id =
      (History.last? (cs.map fun c => (p, c)) id).or (s.parent id) := by
  induction cs generalizing s with
  | nil => rfl
  | cons c cs ih =>
      obtain ⟨hc, hcs⟩ := List.forall_mem_cons.mp hcs
      have hlink : (s.link p (.node c)).parent id =
          (if c = id then some p else none).or (s.parent id) := by
        by_cases hid : c = id
        · subst hid
          rw [if_pos rfl, parent_link_self hc]
          rfl
        · rw [if_neg hid, parent_link_of_ne s fun h => hid (Item.node.inj h)]
          rfl
      rw [linkAll_cons, ih (by simpa using hcs), List.map_cons, History.last?_cons, hlink,
        Option.or_assoc]

/-- **What a call changes.**  The nodes that it attaches come behind the children that were there,
and their parent is the node that they were put under. -/
theorem perform_attached (s : Store) (call : Call) (id : NodeId) :
    (s.perform call).children id = s.children id ++ ((s.attached call).under id).map .node ∧
    (s.perform call).parent id = ((s.attached call).last? id).or (s.parent id) := by
  rcases perform_cases s call with ⟨e, ea⟩ | ⟨k, cs, -, hcs, e, ea⟩ | ⟨p, cs, -, hp, hcs, e, ea⟩
  · rw [e, ea]
    exact ⟨(List.append_nil _).symm, rfl⟩
  · have hmade : s.cells.length < (s.insert k).1.cells.length := by simp
    have hknown : ∀ c ∈ cs, c < (s.insert k).1.cells.length := fun c hc =>
      Nat.lt_trans (hcs c hc) hmade
    rw [e, ea, children_linkAll hmade, parent_linkAll hknown, children_insert, parent_insert]
    exact ⟨rfl, rfl⟩
  · rw [e, ea, children_linkAll hp, parent_linkAll hcs]
    exact ⟨rfl, rfl⟩

/-- **What a run of calls changes.** -/
theorem performAll_attached (s : Store) (calls : List Call) (id : NodeId) :
    (s.performAll calls).children id = s.children id ++ ((s.history calls).under id).map .node ∧
    (s.performAll calls).parent id = ((s.history calls).last? id).or (s.parent id) := by
  induction calls generalizing s with
  | nil => exact ⟨(List.append_nil _).symm, rfl⟩
  | cons call calls ih =>
      obtain ⟨hchildren, hparent⟩ := ih (s.perform call)
      obtain ⟨hfirst, hfirst'⟩ := perform_attached s call id
      have hrun : s.performAll (call :: calls) = (s.perform call).performAll calls := rfl
      rw [hrun, hchildren, hparent, hfirst, hfirst', history, History.under_append,
        History.last?_append, List.map_append, List.append_assoc, Option.or_assoc]
      exact ⟨rfl, rfl⟩

/-- The children of a node are those that were put under it. -/
theorem children_build (calls : List Call) (p : NodeId) :
    (build calls).children p = ((empty.history calls).under p).map .node :=
  (performAll_attached empty calls p).1

/-- The parent of a node is the one that it was put under last. -/
theorem parent_build (calls : List Call) (c : NodeId) :
    (build calls).parent c = (empty.history calls).last? c :=
  (performAll_attached empty calls c).2.trans (Option.or_none)

theorem holds_build : (build calls).Holds p c ↔ (p, c) ∈ empty.history calls := by
  rw [Holds, children_build, ← History.mem_under, List.mem_map]
  constructor
  · rintro ⟨d, hd, he⟩
    exact Item.node.inj he ▸ hd
  · intro h
    exact ⟨c, h, rfl⟩

/-- Where nodes are put only under nodes that were made after them, below means before. -/
theorem lt_of_below (h : ∀ e ∈ empty.history calls, e.2 < e.1) (hbelow : (build calls).Below p c) :
    c < p := by
  induction hbelow with
  | single hc => exact h _ (holds_build.mp hc)
  | tail _ hc ih => exact Nat.lt_trans (h _ (holds_build.mp hc)) ih

/-- In a store that was built by calls, nodes that are not below themselves have trees below
them. -/
theorem founded_build (hr : r < (build calls).cells.length)
    (hacyclic : ∀ p, (build calls).Within r p → ¬ (build calls).Below p p) :
    (build calls).Founded r := by
  have hgrounded : (build calls).Grounded :=
    performAll_keeps (fun _ call h => h.perform call) grounded_empty calls
  exact ⟨hr, fun p _ => hgrounded p, hacyclic⟩

/-- **Whose nodes were attached once, is planted.** -/
theorem planted_build (hr : r < (build calls).cells.length) (hroot : ¬ (build calls).Below r r)
    (honce : ∀ c, (build calls).Below r c → (empty.history calls).times c = 1) :
    (build calls).Planted r := by
  have hbelow : ∀ {p c}, (build calls).Within r p → (build calls).Holds p c →
      (build calls).Below r c := fun hp hc => .tail' hp hc
  have hlinked : ∀ p c, (build calls).Within r p → (build calls).Holds p c →
      (build calls).parent c = some p := by
    intro p c hp hc
    rw [parent_build]
    exact History.last?_of_once (holds_build.mp hc) (honce c (hbelow hp hc))
  refine ⟨founded_build hr fun p hp => ?_, hlinked, fun p hp => ?_⟩
  · -- a node below itself is the child of a node below itself, which can only be the one above it
    induction hp with
    | refl => exact hroot
    | @tail p c hp hc ih =>
        intro hcc
        obtain ⟨q, hcq, hq⟩ := Relation.TransGen.tail'_iff.mp hcc
        have hqr : (build calls).Within r q := (hbelow hp hc).to_reflTransGen.trans hcq
        have hsame : p = q :=
          Option.some.inj ((hlinked p c hp hc).symm.trans (hlinked q c hqr hq))
        exact ih (hsame ▸ Relation.TransGen.head' (hsame ▸ hc) hcq)
  · rw [children_build]
    refine (History.nodup_under fun c hc => ?_).map fun a b h => Item.node.inj h
    exact honce c (hbelow hp (holds_build.mpr (History.mem_under.mp hc)))

end Store

end StageCues
