import Mathlib.Data.Finset.Card
import Mathlib.Data.Finset.Filter
import Mathlib.Data.Finset.Range
import Mathlib.Logic.Relation
import StageCues.Store.Tree

/-!
# Store — trees of nodes, and how deep they are

What stands below a node of a store is a tree of nodes if there are no documents in it and no node
of it is below itself (`Founded`); the same node may still stand in several places of it.  Questions
about a tree are answered by recursion up to a depth that the number of cells gives.  That is always
deep enough: going down a tree, fewer and fewer nodes are left below, so a tree has no more levels
than there are cells (`Founded.levels`).

`Levels` is made for induction: it says of a tree with one level more that its children are nodes,
each with a tree of so many levels.  Cut off anywhere deeper, the tree below a node is the same
(`nodeWithin_of_levels`), and its family are the node itself and the nodes below it
(`mem_familyWithin`).
-/

namespace StageCues.Store

/-- Whether a node is a child of another. -/
def Holds (s : Store) (p c : NodeId) : Prop := .node c ∈ s.children p

/-- Whether a node is below another: a child of it, or below one of its children. -/
def Below (s : Store) : NodeId → NodeId → Prop := Relation.TransGen s.Holds

/-- Whether a node is another itself or below it. -/
def Within (s : Store) : NodeId → NodeId → Prop := Relation.ReflTransGen s.Holds

/-- What stands below a node is a tree of nodes that were made. -/
structure Founded (s : Store) (r : NodeId) : Prop where
  made : r < s.cells.length
  nodes : ∀ p, s.Within r p → ∀ x ∈ s.children p, ∃ c, x = .node c ∧ c < s.cells.length
  acyclic : ∀ p, s.Within r p → ¬ s.Below p p

/-- What stands below a node is a tree in which every node stands in one place, and knows its
parent. -/
structure Planted (s : Store) (r : NodeId) : Prop extends Founded s r where
  linked : ∀ p c, s.Within r p → s.Holds p c → s.parent c = some p
  nodup : ∀ p, s.Within r p → (s.children p).Nodup

/-- Whether there are nodes only from a node on down, and no more than so many levels of them. -/
def Levels (s : Store) : Nat → NodeId → Prop
  | 0, _ => False
  | n + 1, id => ∀ x ∈ s.children id, ∃ c, x = .node c ∧ s.Levels n c

variable {s : Store} {n m : Nat} {r p c id : NodeId}

/-! ### Children that are nodes -/

/-- Children that are all nodes are the child nodes. -/
theorem children_eq_map (h : ∀ x ∈ s.children id, ∃ c, x = .node c) :
    s.children id = (s.childNodes id).map .node := by
  unfold childNodes
  generalize s.children id = xs at h
  induction xs with
  | nil => rfl
  | cons x xs ih =>
      obtain ⟨c, rfl⟩ := h x List.mem_cons_self
      exact congrArg (Item.node c :: ·) (ih fun y hy => h y (List.mem_cons_of_mem _ hy))

theorem mem_childNodes : c ∈ s.childNodes p ↔ s.Holds p c := by
  unfold childNodes Holds
  rw [List.mem_filterMap]
  constructor
  · rintro ⟨x, hx, hc⟩
    cases x with
    | node d => exact Option.some.inj hc ▸ hx
    | document d => cases hc
  · intro h
    exact ⟨_, h, rfl⟩

theorem Levels.children_eq (h : s.Levels (n + 1) id) :
    s.children id = (s.childNodes id).map .node := by
  refine children_eq_map fun x hx => ?_
  obtain ⟨c, rfl, -⟩ := h x hx
  exact ⟨c, rfl⟩

theorem Levels.child (h : s.Levels (n + 1) id) (hc : c ∈ s.childNodes id) : s.Levels n c := by
  obtain ⟨d, hd, hlevels⟩ := h _ (mem_childNodes.mp hc)
  cases hd
  exact hlevels

/-- What is asked of all child nodes is asked of all children. -/
theorem Levels.mapM_children {α : Type} {f : Item → Except Fault α} {g : NodeId → Except Fault α}
    (h : s.Levels (n + 1) id) (hf : ∀ c ∈ s.childNodes id, f (.node c) = g c) :
    (s.children id).mapM f = (s.childNodes id).mapM g := by
  rw [h.children_eq]
  generalize s.childNodes id = cs at hf
  induction cs with
  | nil => rfl
  | cons c cs ih =>
      have hrest := ih fun d hd => hf d (List.mem_cons_of_mem _ hd)
      rw [List.map_cons, List.mapM_cons, List.mapM_cons, hf c List.mem_cons_self, hrest]

/-! ### How deep a tree is -/

/-- All nodes of a tree were made. -/
theorem Founded.made_of_within (h : s.Founded r) (hp : s.Within r p) : p < s.cells.length := by
  cases hp with
  | refl => exact h.made
  | tail hq hc =>
      obtain ⟨c, he, hmade⟩ := h.nodes _ hq _ hc
      cases he
      exact hmade

theorem Founded.of_within (h : s.Founded r) (hp : s.Within r p) : s.Founded p where
  made := h.made_of_within hp
  nodes q hq := h.nodes q (hp.trans hq)
  acyclic q hq := h.acyclic q (hp.trans hq)

theorem Founded.child (h : s.Founded r) (hc : s.Holds r c) : s.Founded c :=
  h.of_within (.single hc)

open scoped Classical in
/-- The nodes below a node. -/
noncomputable def below (s : Store) (p : NodeId) : Finset NodeId :=
  (Finset.range s.cells.length).filter (s.Below p)

/-- **Going down, fewer nodes are left below.** -/
theorem Founded.card_below_lt (h : s.Founded p) (hc : s.Holds p c) :
    (s.below c).card < (s.below p).card := by
  classical
  have hchild := h.child hc
  -- what is below the child is below the node too, but the child is below the node alone
  refine Finset.card_lt_card ⟨fun d hd => ?_, fun hsub => ?_⟩
  · obtain ⟨hmade, hd⟩ := Finset.mem_filter.mp hd
    exact Finset.mem_filter.mpr ⟨hmade, .head hc hd⟩
  · have hmem : c ∈ s.below p :=
      Finset.mem_filter.mpr ⟨Finset.mem_range.mpr hchild.made, .single hc⟩
    exact hchild.acyclic c .refl (Finset.mem_filter.mp (hsub hmem)).2

/-- A node with fewer nodes below it has no more levels. -/
theorem Founded.levels_of_card (h : s.Founded p) (hn : (s.below p).card < n) : s.Levels n p := by
  induction n generalizing p with
  | zero => exact absurd hn (Nat.not_lt_zero _)
  | succ n ih =>
      intro x hx
      obtain ⟨c, rfl, -⟩ := h.nodes p .refl x hx
      have hless := Nat.lt_of_lt_of_le (h.card_below_lt hx) (Nat.le_of_lt_succ hn)
      exact ⟨c, rfl, ih (h.child hx) hless⟩

/-- **A tree has no more levels than there are cells.** -/
theorem Founded.levels (h : s.Founded r) : s.Levels s.cells.length r := by
  classical
  refine h.levels_of_card ?_
  -- the root is a node that was made, and not one of those below it
  have hsub : s.below r ⊂ Finset.range s.cells.length :=
    Finset.filter_ssubset.mpr ⟨r, Finset.mem_range.mpr h.made, h.acyclic r .refl⟩
  exact Finset.card_range s.cells.length ▸ Finset.card_lt_card hsub

theorem Levels.mono (h : s.Levels n id) (hle : n ≤ m) : s.Levels m id := by
  induction n generalizing m id with
  | zero => exact h.elim
  | succ n ih =>
      cases m with
      | zero => exact absurd hle (Nat.not_succ_le_zero n)
      | succ m =>
          intro x hx
          obtain ⟨c, rfl, hc⟩ := h x hx
          exact ⟨c, rfl, ih hc (Nat.le_of_succ_le_succ hle)⟩

theorem size_ge (s : Store) : s.cells.length ≤ s.size := Nat.le_add_right _ _

theorem Founded.levels_size (h : s.Founded r) : s.Levels s.size r := h.levels.mono (size_ge s)

/-! ### The tree below a node -/

/-- Deeper than its levels, a tree is cut off nowhere. -/
theorem nodeWithin_of_levels (h : s.Levels n id) (hle : n ≤ m) :
    s.nodeWithin m id = s.nodeWithin n id := by
  induction n generalizing m id with
  | zero => exact h.elim
  | succ n ih =>
      cases m with
      | zero => exact absurd hle (Nat.not_succ_le_zero n)
      | succ m =>
          have hchildren : ∀ c ∈ s.childNodes id, s.nodeWithin m c = s.nodeWithin n c :=
            fun c hc => ih (h.child hc) (Nat.le_of_succ_le_succ hle)
          rw [nodeWithin, nodeWithin, List.map_congr_left hchildren]

theorem Founded.node_eq (h : s.Founded id) : s.node id = s.nodeWithin s.size id :=
  (nodeWithin_of_levels h.levels (size_ge s)).symm

/-! ### A node and its descendants -/

/-- A node and its descendants in document order, cut off below the given depth. -/
def familyWithin (s : Store) : Nat → NodeId → List NodeId
  | 0, _ => []
  | n + 1, id => id :: (s.childNodes id).flatMap (s.familyWithin n)

/-- The family of a node. -/
def family (s : Store) (id : NodeId) : List NodeId := s.familyWithin s.size id

theorem cons_descendantsWithin (h : s.Levels n id) :
    (id :: ·) <$> s.descendantsWithin n id = .ok (s.familyWithin n id) := by
  induction n generalizing id with
  | zero => exact h.elim
  | succ n ih =>
      rw [descendantsWithin, h.mapM_children (g := fun c => pure (s.familyWithin n c)),
        List.mapM_pure]
      · rfl
      · exact fun c hc => ih (h.child hc)

/-- **The family of a node is the node and what is below it.** -/
theorem mem_familyWithin (h : s.Levels n id) : c ∈ s.familyWithin n id ↔ s.Within id c := by
  induction n generalizing id with
  | zero => exact h.elim
  | succ n ih =>
      rw [familyWithin, List.mem_cons, List.mem_flatMap, Within,
        Relation.ReflTransGen.cases_head_iff]
      constructor
      · rintro (rfl | ⟨d, hd, hc⟩)
        · exact .inl rfl
        · exact .inr ⟨d, mem_childNodes.mp hd, (ih (h.child hd)).mp hc⟩
      · rintro (rfl | ⟨d, hd, hc⟩)
        · exact .inl rfl
        · exact .inr ⟨d, mem_childNodes.mpr hd, (ih (h.child (mem_childNodes.mpr hd))).mpr hc⟩

theorem Founded.descendants_eq (h : s.Founded id) :
    ∃ ds, s.descendants id = .ok ds ∧ s.family id = id :: ds := by
  have hcons := cons_descendantsWithin h.levels_size
  cases hds : s.descendantsWithin s.size id with
  | error f => rw [hds] at hcons; cases hcons
  | ok ds =>
      rw [hds] at hcons
      exact ⟨ds, hds, (Except.ok.inj hcons).symm⟩

end StageCues.Store
