import Mathlib.Data.List.Forall2
import StageCues.Proofs.Store.History
import StageCues.Proofs.Text.Labels
import StageCues.Store.Family

/-!
# Store — drawings of trees

A drawing has a line for each node of a tree.  The pieces before a label are found by climbing from
the node to its parent, and so on, as many times as the node is deep.  In a planted tree that leads
back along the path on which the node is reached from the root, and no further
(`Planted.climb_path`).  So the drawing is the one that is made from the root on downwards
(`Planted.draw_eq`), and its lines are those of the nodes in document order
(`Planted.drawnAs_family`), each of which stands there once (`Planted.nodup_family`).

`lead` says what stands before the label of a node at the end of a path: a piece for each node on
the way, which shows whether another child follows it, and a piece for the node itself.
-/

namespace StageCues.Store

open Text

/-- The steps of a path that goes on from a node, each from one node to the next. -/
def steps : NodeId → List NodeId → List (NodeId × NodeId)
  | _, [] => []
  | p, c :: path => (p, c) :: steps c path

/-- Whether a path leads from a node down to another, from children to children. -/
structure IsPath (s : Store) (r : NodeId) (path : List NodeId) (n : NodeId) : Prop where
  holds : ∀ e ∈ steps r path, s.Holds e.1 e.2
  ends : path.getLastD r = n

/-- The piece for a node on the way: blank below a last child, and a bar below any other. -/
def stemAt (s : Store) (style : Style) (e : NodeId × NodeId) : Text :=
  if s.isLastOf e.1 e.2 then style.blank else style.bar

/-- The piece for a node itself: one for a last child, and another for a child in the middle. -/
def tipAt (s : Store) (style : Style) (e : NodeId × NodeId) : Text :=
  if s.isLastOf e.1 e.2 then style.last else style.middle

/-- The pieces for all nodes of a path, as they stand before what is below them. -/
def stems (s : Store) (style : Style) (r : NodeId) (path : List NodeId) : Text :=
  (steps r path).flatMap (s.stemAt style)

/-- The pieces before the label of the node at the end of a path: those for the nodes on the way,
and the one for the node itself, if it is not the root. -/
def lead (s : Store) (style : Style) (r : NodeId) (path : List NodeId) : Text :=
  (steps r path).dropLast.flatMap (s.stemAt style) ++
    (steps r path).getLast?.elim [] (s.tipAt style)

variable {s : Store} {style : Style} {path path' : List NodeId} {r p c n : NodeId} {m : Nat}

/-! ### Paths -/

theorem steps_concat (r : NodeId) (path : List NodeId) (c : NodeId) :
    steps r (path ++ [c]) = steps r path ++ [(path.getLastD r, c)] := by
  induction path generalizing r with
  | nil => rfl
  | cons d path ih =>
      show (r, d) :: steps d (path ++ [c]) = _
      rw [ih, List.getLastD_cons]
      rfl

theorem isPath_nil : s.IsPath r [] n ↔ r = n :=
  ⟨IsPath.ends, fun h => ⟨fun _ he => absurd he List.not_mem_nil, h⟩⟩

/-- A path goes on from its end to a child. -/
theorem isPath_concat : s.IsPath r (path ++ [c]) n ↔
    c = n ∧ ∃ p, s.IsPath r path p ∧ s.Holds p c := by
  have hsteps := steps_concat r path c
  constructor
  · rintro ⟨hholds, hends⟩
    rw [hsteps] at hholds
    obtain ⟨hway, hlast⟩ := List.forall_mem_append.mp hholds
    exact ⟨by simpa using hends, _, ⟨hway, rfl⟩, hlast _ (List.mem_singleton_self _)⟩
  · rintro ⟨rfl, p, ⟨hholds, rfl⟩, hc⟩
    refine ⟨?_, by simp⟩
    rw [hsteps]
    exact List.forall_mem_append.mpr ⟨hholds, List.forall_mem_singleton.mpr hc⟩

theorem IsPath.concat (h : s.IsPath r path p) (hc : s.Holds p c) : s.IsPath r (path ++ [c]) c :=
  isPath_concat.mpr ⟨rfl, p, h, hc⟩

theorem IsPath.within (h : s.IsPath r path n) : s.Within r n := by
  induction path using List.reverseRecOn generalizing n with
  | nil => exact isPath_nil.mp h ▸ .refl
  | append_singleton path c ih =>
      obtain ⟨rfl, p, hp, hc⟩ := isPath_concat.mp h
      exact (ih hp).tail hc

/-- **In a planted tree there is one path to a node.** -/
theorem Planted.path_unique (h : s.Planted r) (hp : s.IsPath r path n) (hp' : s.IsPath r path' n) :
    path = path' := by
  -- no path leads back to the root, so that the two paths are empty together
  have hback : ∀ {path : List NodeId} {p : NodeId}, s.IsPath r path p → ¬ s.Holds p r :=
    fun hp hr => h.acyclic r .refl (.tail' hp.within hr)
  induction path using List.reverseRecOn generalizing n path' with
  | nil =>
      cases path' using List.reverseRecOn with
      | nil => rfl
      | append_singleton path' c =>
          obtain ⟨rfl, p, hq, hc⟩ := isPath_concat.mp hp'
          exact absurd (isPath_nil.mp hp ▸ hc) (hback hq)
  | append_singleton path c ih =>
      obtain ⟨rfl, p, hq, hc⟩ := isPath_concat.mp hp
      cases path' using List.reverseRecOn with
      | nil => exact absurd (isPath_nil.mp hp' ▸ hc) (hback hq)
      | append_singleton path' d =>
          obtain ⟨rfl, p', hq', hd⟩ := isPath_concat.mp hp'
          -- the node has one parent, so that the paths have their last step in common
          have hparent := (h.linked p d hq.within hc).symm.trans (h.linked p' d hq'.within hd)
          rw [ih hq (Option.some.inj hparent ▸ hq')]

/-! ### Climbing -/

theorem stems_concat (hp : s.IsPath r path p) (c : NodeId) :
    s.stems style r (path ++ [c]) = s.stems style r path ++ s.stemAt style (p, c) := by
  rw [stems, steps_concat, hp.ends, List.flatMap_append, List.flatMap_singleton]
  rfl

theorem lead_concat (hp : s.IsPath r path p) (c : NodeId) :
    s.lead style r (path ++ [c]) = s.stems style r path ++ s.tipAt style (p, c) := by
  rw [lead, steps_concat, hp.ends, List.dropLast_concat, List.getLast?_concat]
  rfl

theorem requireParent_of_parent (h : s.parent c = some p) : s.requireParent c = .ok p := by
  unfold requireParent followParent
  unfold parent at h
  cases hlink : (s.cell c).link with
  | under q =>
      rw [hlink] at h
      exact congrArg Except.ok (Option.some.inj h)
  | _ => rw [hlink] at h; cases h

theorem Planted.requireParent (h : s.Planted r) (hp : s.IsPath r path p) (hc : s.Holds p c) :
    s.requireParent c = .ok p :=
  requireParent_of_parent (h.linked p c hp.within hc)

/-- Climbing from the end of a path leads back along it. -/
theorem Planted.climb_stems (h : s.Planted r) (hp : s.IsPath r path n) :
    s.climb style false path.length n = .ok (s.stems style r path) := by
  induction path using List.reverseRecOn generalizing n with
  | nil => rfl
  | append_singleton path c ih =>
      obtain ⟨rfl, p, hq, hc⟩ := isPath_concat.mp hp
      simp only [List.length_append, List.length_singleton, climb, h.requireParent hq hc, ih hq,
        stems_concat hq]
      rfl

/-- **The pieces before a label are those of the path to the node.** -/
theorem Planted.climb_path (h : s.Planted r) (hp : s.IsPath r path n) :
    s.climb style true path.length n = .ok (s.lead style r path) := by
  induction path using List.reverseRecOn with
  | nil => rfl
  | append_singleton path c _ =>
      obtain ⟨rfl, p, hq, hc⟩ := isPath_concat.mp hp
      simp only [List.length_append, List.length_singleton, climb, h.requireParent hq hc,
        h.climb_stems hq, lead_concat hq]
      rfl

/-! ### From the root downwards -/

/-- The last child is the one with no child behind it. -/
theorem isLastOf_eq {front back : List NodeId} (hnodup : (s.children p).Nodup)
    (hsplit : s.children p = (front ++ c :: back).map .node) :
    s.isLastOf p c = back.isEmpty := by
  unfold isLastOf
  rw [hsplit] at hnodup ⊢
  cases back using List.reverseRecOn with
  | nil => simp
  | append_singleton back d =>
      obtain ⟨-, htail, -⟩ := List.nodup_append.mp hnodup.of_map
      have hne : d ≠ c := by
        rintro rfl
        exact (List.nodup_cons.mp htail).1 List.mem_concat_self
      have hback : front ++ c :: (back ++ [d]) = (front ++ c :: back) ++ [d] := by simp
      rw [hback, List.map_append, List.map_singleton, List.getLast?_concat]
      simp [hne]

/-- The lines below the children of a node, child by child: each child has the path of the node and
one step more. -/
theorem Planted.drawAll_eq (h : s.Planted r) (hp : s.IsPath r path p) (f : NodeId → Node)
    {front cs : List NodeId} (hsplit : s.children p = (front ++ cs).map .node) :
    Node.drawAll style (s.stems style r path) (cs.map f) = cs.flatMap fun c =>
      Node.drawUnder style (s.lead style r (path ++ [c])) (s.stems style r (path ++ [c]))
        (f c) := by
  induction cs generalizing front with
  | nil => rfl
  | cons c cs ih =>
      have hlast : s.isLastOf p c = (cs.map f).isEmpty := by
        rw [isLastOf_eq (h.nodup p hp.within) hsplit, List.isEmpty_map]
      have hnext : s.children p = (front ++ [c] ++ cs).map .node := by
        rw [hsplit, List.append_assoc]
        rfl
      rw [List.map_cons, Node.drawAll, ih hnext, List.flatMap_cons, lead_concat hp, stems_concat hp,
        tipAt, stemAt, hlast]
      rfl

/-- The lines of a node and of what is below it: its label behind the pieces of its path, if it has
one, then the lines of its children. -/
theorem Planted.drawUnder_eq (h : s.Planted r) (style : Style) (hlevels : s.Levels (m + 1) c)
    (hp : s.IsPath r path c) :
    Node.drawUnder style (s.lead style r path) (s.stems style r path) (s.nodeWithin (m + 1) c) =
      ((s.lead style r path ++ ·) <$> s.label (.node c)) :: (s.childNodes c).flatMap fun d =>
        Node.drawUnder style (s.lead style r (path ++ [d])) (s.stems style r (path ++ [d]))
          (s.nodeWithin m d) := by
  have hsplit : s.children c = ([] ++ s.childNodes c).map .node := hlevels.children_eq
  have hcount : ((s.childNodes c).map (s.nodeWithin m)).length = (s.children c).length := by
    rw [hlevels.children_eq, List.length_map, List.length_map]
  rw [nodeWithin, Node.drawUnder, h.drawAll_eq hp (s.nodeWithin m) hsplit, hcount, label_node]

/-- Lines are put down one after the other. -/
theorem drawn_append (xs ys : List (Except Fault Text)) :
    Node.drawn (xs ++ ys) = do return (← Node.drawn xs) ++ (← Node.drawn ys) := by
  unfold Node.drawn
  rw [List.mapM_append]
  cases xs.mapM id with
  | error f => rfl
  | ok ts =>
      cases ys.mapM id with
      | error f => rfl
      | ok us => exact congrArg Except.ok List.flatMap_append

theorem drawn_cons (x : Except Fault Text) (xs : List (Except Fault Text)) :
    Node.drawn (x :: xs) = do return line (← x) ++ (← Node.drawn xs) := by
  rw [← List.singleton_append, drawn_append]
  cases x with
  | error f => rfl
  | ok t =>
      show (do return (line t ++ []) ++ (← Node.drawn xs)) = _
      rw [List.append_nil]
      rfl

theorem drawn_flatMap (f : NodeId → List (Except Fault Text)) (cs : List NodeId) :
    Node.drawn (cs.flatMap f) = List.flatten <$> cs.mapM fun c => Node.drawn (f c) := by
  induction cs with
  | nil => rfl
  | cons c cs ih =>
      rw [List.flatMap_cons, drawn_append, ih, List.mapM_cons]
      cases Node.drawn (f c) with
      | error e => rfl
      | ok t => cases cs.mapM fun c => Node.drawn (f c) <;> rfl

/-- **The drawing below a node is that of its tree**, if it is drawn at its depth. -/
theorem Planted.drawWithin_eq (h : s.Planted r) (hlevels : s.Levels m c)
    (hp : s.IsPath r path c) :
    s.drawWithin style m path.length (.node c) =
      Node.drawn (Node.drawUnder style (s.lead style r path) (s.stems style r path)
        (s.nodeWithin m c)) := by
  induction m generalizing c path with
  | zero => exact hlevels.elim
  | succ m ih =>
      have hbelow : ∀ d ∈ s.childNodes c, s.drawWithin style m (path.length + 1) (.node d) =
          Node.drawn (Node.drawUnder style (s.lead style r (path ++ [d]))
            (s.stems style r (path ++ [d])) (s.nodeWithin m d)) := by
        intro d hd
        have hdepth : ((path ++ [d]).length : Int) = path.length + 1 := by simp
        exact hdepth ▸ ih (hlevels.child hd) (hp.concat (mem_childNodes.mp hd))
      rw [drawWithin, Int.toNat_natCast, h.climb_path hp, hlevels.mapM_children hbelow,
        h.drawUnder_eq style hlevels hp, drawn_cons, drawn_flatMap]
      have hsteps : ∀ (lead : Text) (x : Except Fault Text) (y : Except Fault (List Text)),
          (do return line (lead ++ (← x)) ++ (← y).flatten) =
            (do return line (← (lead ++ ·) <$> x) ++ (← List.flatten <$> y)) := by
        intro lead x y
        cases x with
        | error f => rfl
        | ok l => cases y <;> rfl
      exact hsteps _ _ _

/-- **A tree is drawn as its value is.** -/
theorem Planted.draw_eq {name : Option Text} (h : s.Planted r)
    (hstyle : Style.ofName? name = .ok style) :
    s.draw name 0 r = (s.node r).draw style := by
  have hpath : s.IsPath r [] r := isPath_nil.mpr rfl
  rw [draw, hstyle, h.node_eq]
  exact h.drawWithin_eq h.levels_size hpath

example : Node.draw .ascii ⟨.cueList, [⟨.keyFrame 40 false true, [.leaf (.channelData 1 255 2)]⟩,
      .leaf (.delay 0 0)]⟩ =
    .ok (line "<CueList (2 children)>" ++ line " |-<elements.KeyFrame 40ms (1 child)>" ++
      line " |  `-<elements.ChannelData 1=255>" ++ line " `-<elements.Delay beat>") := by
  decide +kernel

/-- What is drawn for a node of a tree: on one line, its label behind the pieces of the path to
it. -/
structure DrawnAs (s : Store) (style : Style) (r n : NodeId) (t : Text) : Prop where
  reached : ∃ path, s.IsPath r path n
  pieces : ∀ path, s.IsPath r path n → ∃ l, s.label (.node n) = .ok l ∧ t = s.lead style r path ++ l
  line : '\n' ∉ t

/-- What is to be put down for a node of a tree: its label, if it has one, behind the pieces of a
path to it. -/
def Outlined (s : Store) (style : Style) (r n : NodeId) (x : Except Fault Text) : Prop :=
  ∃ path, s.IsPath r path n ∧ x = (s.lead style r path ++ ·) <$> s.label (.node n)

theorem newline_not_mem_lead (hstyle : style.OnLine) (path : List NodeId) :
    '\n' ∉ s.lead style r path := by
  intro h
  rcases List.mem_append.mp h with h | h
  · obtain ⟨e, -, he⟩ := List.mem_flatMap.mp h
    exact hstyle.stem _ he
  · cases hlast : (steps r path).getLast? with
    | none => simp [hlast] at h
    | some e =>
        rw [hlast] at h
        exact hstyle.tip _ h

/-- **The lines of a tree are those of its nodes, in document order.** -/
theorem Planted.outlined_family (h : s.Planted r) (hlevels : s.Levels m c)
    (hp : s.IsPath r path c) :
    List.Forall₂ (s.Outlined style r) (s.familyWithin m c)
      (Node.drawUnder style (s.lead style r path) (s.stems style r path) (s.nodeWithin m c)) := by
  induction m generalizing c path with
  | zero => exact hlevels.elim
  | succ m ih =>
      rw [familyWithin, h.drawUnder_eq style hlevels hp]
      refine .cons ⟨path, hp, rfl⟩ ?_
      have hchildren : ∀ d ∈ s.childNodes c, List.Forall₂ (s.Outlined style r) (s.familyWithin m d)
          (Node.drawUnder style (s.lead style r (path ++ [d])) (s.stems style r (path ++ [d]))
            (s.nodeWithin m d)) :=
        fun d hd => ih (hlevels.child hd) (hp.concat (mem_childNodes.mp hd))
      generalize s.childNodes c = cs at hchildren
      induction cs with
      | nil => exact .nil
      | cons d cs ihs =>
          rw [List.flatMap_cons, List.flatMap_cons]
          exact List.rel_append (hchildren d List.mem_cons_self)
            (ihs fun e he => hchildren e (List.mem_cons_of_mem d he))

/-- A node with a label is drawn on a line, whichever path it is reached on. -/
theorem Planted.drawnAs (h : s.Planted r) (hstyle : style.OnLine) {x : Except Fault Text} {l : Text}
    (hx : s.Outlined style r n x) (hl : s.label (.node n) = .ok l) :
    ∃ t, x = .ok t ∧ s.DrawnAs style r n t := by
  obtain ⟨path, hp, rfl⟩ := hx
  refine ⟨_, congrArg _ hl, ⟨path, hp⟩, fun path' hp' => ⟨l, hl, ?_⟩, ?_⟩
  · rw [h.path_unique hp hp']
  · rw [label_node] at hl
    exact List.not_mem_append (newline_not_mem_lead hstyle path) (Kind.newline_not_mem_label hl)

/-- **If all nodes have a label, all lines are put down.** -/
theorem Planted.drawn_lines (h : s.Planted r) (hstyle : style.OnLine) {ns : List NodeId}
    {xs : List (Except Fault Text)} (hxs : List.Forall₂ (s.Outlined style r) ns xs)
    (hns : ∀ n ∈ ns, ∃ l, s.label (.node n) = .ok l) :
    ∃ ts, Node.drawn xs = .ok (ts.flatMap Text.line) ∧
      List.Forall₂ (s.DrawnAs style r) ns ts := by
  induction hxs with
  | nil => exact ⟨[], rfl, .nil⟩
  | cons hx _ ih =>
      obtain ⟨⟨l, hl⟩, hns⟩ := List.forall_mem_cons.mp hns
      obtain ⟨t, rfl, ht⟩ := h.drawnAs hstyle hx hl
      obtain ⟨ts, hdrawn, hts⟩ := ih hns
      refine ⟨t :: ts, ?_, .cons ht hts⟩
      rw [drawn_cons, hdrawn]
      rfl

/-- **If a node has no label, the drawing fails at a number that is too long.** -/
theorem drawn_unlabelled {ns : List NodeId} {xs : List (Except Fault Text)}
    (hxs : List.Forall₂ (s.Outlined style r) ns xs)
    (hns : ∃ n ∈ ns, ∀ l, s.label (.node n) ≠ .ok l) : Node.drawn xs = .error .tooLong := by
  induction hxs with
  | nil => exact absurd hns (by simp)
  | @cons n x ns xs hx _ ih =>
      obtain ⟨path, -, rfl⟩ := hx
      rw [drawn_cons]
      cases hl : s.label (.node n) with
      | error f =>
          rw [label_node] at hl
          obtain rfl := (s.kind n).failsByLength_label _ f hl
          rfl
      | ok l =>
          obtain ⟨m, hm, hlabel⟩ := hns
          rcases List.mem_cons.mp hm with rfl | hm
          · exact absurd hl (hlabel l)
          · rw [ih ⟨m, hm, hlabel⟩]
            rfl

/-! ### Nodes that stand once -/

/-- What is below the end of a path has a path that goes on from it. -/
theorem IsPath.extend (hp : s.IsPath r path c) (h : s.Within c n) :
    ∃ rest, s.IsPath r (path ++ rest) n := by
  induction h with
  | refl => exact ⟨[], (List.append_nil path).symm ▸ hp⟩
  | tail _ hd ih =>
      obtain ⟨rest, hrest⟩ := ih
      exact ⟨_, (List.append_assoc path rest _) ▸ hrest.concat hd⟩

/-- A node is below one child at most. -/
theorem Planted.child_unique {d e : NodeId} (h : s.Planted r) (hp : s.IsPath r path p)
    (hd : s.Holds p d) (he : s.Holds p e) (hdn : s.Within d n) (hen : s.Within e n) : d = e := by
  obtain ⟨restD, hpathD⟩ := (hp.concat hd).extend hdn
  obtain ⟨restE, hpathE⟩ := (hp.concat he).extend hen
  have heq := h.path_unique hpathD hpathE
  rw [List.append_assoc, List.append_assoc] at heq
  exact (List.cons.inj (List.append_cancel_left heq)).1

/-- **Every node stands once in the family of the root.** -/
theorem Planted.nodup_family (h : s.Planted r) (hlevels : s.Levels m c)
    (hp : s.IsPath r path c) : (s.familyWithin m c).Nodup := by
  induction m generalizing c path with
  | zero => exact hlevels.elim
  | succ m ih =>
      have hmem : ∀ {d n}, d ∈ s.childNodes c → n ∈ s.familyWithin m d → s.Within d n :=
        fun hd hn => (mem_familyWithin (hlevels.child hd)).mp hn
      have hchildren := h.nodup c hp.within
      rw [hlevels.children_eq] at hchildren
      rw [familyWithin, List.nodup_cons, List.nodup_flatMap]
      refine ⟨fun hc => ?_, fun d hd => ?_, ?_⟩
      · obtain ⟨d, hd, hdc⟩ := List.mem_flatMap.mp hc
        exact h.acyclic c hp.within (.head' (mem_childNodes.mp hd) (hmem hd hdc))
      · exact ih (hlevels.child hd) (hp.concat (mem_childNodes.mp hd))
      · -- a node below two children would have two paths
        refine (List.Nodup.of_map _ hchildren).imp_of_mem fun {d e} hd he hne => ?_
        intro n hdn hen
        exact hne (h.child_unique hp (mem_childNodes.mp hd) (mem_childNodes.mp he) (hmem hd hdn)
          (hmem he hen))

/-! ### Drawings of trees that were built -/

/-- **A tree is drawn line by line, as its nodes stand in it.**  Take a node of a store that was
built by calls.  If it is not below itself, and every node below it was put under another just once,
it can be drawn in every style, wherever it stands itself, as long as all nodes have a label.  The
drawing has one line for each node, the root and its descendants in document order, each of them
once, and in front of the label of a node are the pieces for the path from the root to the node.  A
node without a label has a number that is too long, and then nothing comes of the drawing. -/
theorem draw_build {calls : List Call} {r : NodeId} {name : Option Text} {style : Style}
    (hmade : r < (build calls).cells.length) (hroot : ¬ (build calls).Below r r)
    (honce : ∀ c, (build calls).Below r c → (empty.history calls).times c = 1)
    (hstyle : Style.ofName? name = .ok style) :
    ∃ ds, (build calls).descendants r = .ok ds ∧ (r :: ds).Nodup ∧
      (∀ n, n ∈ r :: ds ↔ (build calls).Within r n) ∧
      ((∀ n ∈ r :: ds, ∃ l, (build calls).label (.node n) = .ok l) →
        ∃ ts, (build calls).draw name 0 r = .ok (ts.flatMap line) ∧
          List.Forall₂ ((build calls).DrawnAs style r) (r :: ds) ts) ∧
      ((∃ n ∈ r :: ds, ∀ l, (build calls).label (.node n) ≠ .ok l) →
        (build calls).draw name 0 r = .error .tooLong) := by
  have h := planted_build hmade hroot honce
  have hpath : (build calls).IsPath r [] r := isPath_nil.mpr rfl
  obtain ⟨ds, hds, hfamily⟩ := h.descendants_eq
  have hlines : List.Forall₂ ((build calls).Outlined style r) _ _ :=
    h.outlined_family h.levels_size hpath
  rw [← family, hfamily] at hlines
  rw [h.draw_eq hstyle, h.node_eq]
  refine ⟨ds, hds, ?_, fun n => ?_, fun hlabels => ?_, fun hlabels => ?_⟩
  · rw [← hfamily]
    exact h.nodup_family h.levels_size hpath
  · rw [← hfamily]
    exact mem_familyWithin h.levels_size
  · exact h.drawn_lines (Style.onLine_of_name hstyle) hlines hlabels
  · exact drawn_unlabelled hlines hlabels

/-- Calls that put a cue list under another node, and its last child under the cue list after
that. -/
def nested : List Call :=
  [.make (.channelData 1 255 2) [] (.inl rfl), .make (.keyFrame 40 false true) [0] (.inr rfl),
    .make (.delay 0 0) [] (.inl rfl), .make .cueList [1] (.inr rfl), .make .plain [3] (.inr rfl),
    .append 3 2]

/-- The cue list is drawn in ASCII characters. -/
theorem draw_build_nested :
    3 < (build nested).cells.length ∧ ¬ (build nested).Below 3 3 ∧
      (∀ c, (build nested).Below 3 c → (empty.history nested).times c = 1) ∧
      (build nested).draw (some "ascii") 0 3 =
        .ok (["<CueList (2 children)>", " |-<elements.KeyFrame 40ms (1 child)>",
          " |  `-<elements.ChannelData 1=255>", " `-<elements.Delay beat>"].flatMap line) ∧
      List.Forall₂ ((build nested).DrawnAs .ascii 3) [3, 1, 0, 2]
        ["<CueList (2 children)>", " |-<elements.KeyFrame 40ms (1 child)>",
          " |  `-<elements.ChannelData 1=255>", " `-<elements.Delay beat>"] := by
  have hmade : 3 < (build nested).cells.length := by decide
  have hbelow : ∀ c, (build nested).Below 3 c → c < 3 := fun c hc => lt_of_below (by decide) hc
  have hroot : ¬ (build nested).Below 3 3 := fun h => Nat.lt_irrefl 3 (hbelow 3 h)
  have honce : ∀ c, (build nested).Below 3 c → (empty.history nested).times c = 1 := fun c hc =>
    (by decide : ∀ c < 3, (empty.history nested).times c = 1) c (hbelow c hc)
  have hstyle : Style.ofName? (some "ascii") = .ok .ascii := rfl
  obtain ⟨ds, hds, -, -, hdraw, -⟩ := draw_build hmade hroot honce hstyle
  have hds' : (build nested).descendants 3 = .ok [1, 0, 2] := rfl
  obtain rfl := Except.ok.inj (hds.symm.trans hds')
  have hlabels : ∀ n ∈ [3, 1, 0, 2], ∃ l, (build nested).label (.node n) = .ok l := by
    simp only [List.forall_mem_cons]
    exact ⟨⟨_, rfl⟩, ⟨_, rfl⟩, ⟨_, rfl⟩, ⟨_, rfl⟩, nofun⟩
  obtain ⟨ts, hdraw, hlines⟩ := hdraw hlabels
  have hline : ∀ {n : NodeId} {t l : Text} (path : List NodeId),
      (build nested).DrawnAs .ascii 3 n t →
      (∀ e ∈ steps 3 path, .node e.2 ∈ (build nested).children e.1) → path.getLastD 3 = n →
      (build nested).label (.node n) = .ok l → t = (build nested).lead .ascii 3 path ++ l := by
    intro n t l path ht hholds hends hl
    obtain ⟨l', hl', rfl⟩ := ht.pieces path ⟨hholds, hends⟩
    rw [Except.ok.inj (hl.symm.trans hl')]
  obtain _ | ⟨h3, _ | ⟨h1, _ | ⟨h0, _ | ⟨h2, ⟨⟩⟩⟩⟩⟩ := id hlines
  obtain rfl := hline [] h3 (by decide) rfl rfl
  obtain rfl := hline [1] h1 (by decide) rfl rfl
  obtain rfl := hline [1, 0] h0 (by decide) rfl rfl
  obtain rfl := hline [2] h2 (by decide) rfl rfl
  exact ⟨hmade, hroot, honce, hdraw, hlines⟩

/-- A frame that stands alone, with the first time that is too long, cannot be drawn. -/
theorem draw_build_longFrame :
    0 < (build [.make (.keyFrame (10 ^ 4300) false true) [] (.inr rfl)]).cells.length ∧
    (∀ c, ¬ (build [.make (.keyFrame (10 ^ 4300) false true) [] (.inr rfl)]).Below 0 c) ∧
    (build [.make (.keyFrame (10 ^ 4300) false true) [] (.inr rfl)]).draw none 0 0 =
      .error .tooLong := by
  have hbare : ∀ d : Int, isShort d = false →
      0 < (build [.make (.keyFrame d false true) [] (.inr rfl)]).cells.length ∧
      (∀ c, ¬ (build [.make (.keyFrame d false true) [] (.inr rfl)]).Below 0 c) ∧
      (build [.make (.keyFrame d false true) [] (.inr rfl)]).draw none 0 0 = .error .tooLong := by
    intro d h
    refine ⟨Nat.one_pos, fun c hc => ?_, ?_⟩
    · exact Nat.not_lt_zero c (lt_of_below (List.forall_mem_nil _) hc)
    · show (do return line (← (Kind.keyFrame d false true).label 0) ++ []) = _
      rw [Kind.label_longFrame h]
      rfl
  exact hbare _ isShort_pow

end StageCues.Store
