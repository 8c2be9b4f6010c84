import StageCues.Proofs.Forward.Remarks
import StageCues.Proofs.Written.Reread

/-!
# Written — trees are flattened

Frames can be grouped by bodies and loops, to any depth, with waits between them (`IsPart`).  A body
is written as its children, a loop as its mark in front of them, and nothing says where they end; a
wait is written as remarks.  So what is read from the written form of a tree is flat: the frames of
the tree, and a loop without children for each of its loops, in document order (`IsPart.readsAs`),
unless the time of a frame is too long to be told at its end.
-/

namespace StageCues

open Text

/-- The kinds that group nodes: bodies and loops. -/
inductive Kind.IsGroup : Kind → Prop where
  | body {closed : Bool} : Kind.IsGroup (.body closed)
  | counted {start target direction : Int} {closed : Bool} :
      Kind.IsGroup (.forIteration start target direction closed)
  | endless {closed : Bool} : Kind.IsGroup (.infiniteIteration closed)

/-- A tree of groups to any depth, over waits and closed frames. -/
inductive IsPart : Node → Prop where
  | group {k : Kind} {cs : List Node} : k.IsGroup → (∀ c ∈ cs, IsPart c) → IsPart ⟨k, cs⟩
  | delay {mode ms : Int} : IsPart (.leaf (.delay mode ms))
  | frame {f : Node} : IsFrame true f → IsPart f

/-- Whether the class is one of the loops that a cue text can have. -/
def NodeClass.isLoop (c : NodeClass) : Bool := c = .forIteration || c = .infiniteIteration

/-- The frames among nodes and their descendants, in document order. -/
def framesOf (ns : List Node) : List Node := (Node.family ns).filter fun m => m.cls.isA .keyFrame

/-- The classes of the loops among nodes and their descendants, in document order. -/
def loopsOf (ns : List Node) : List NodeClass :=
  ((Node.family ns).map Node.cls).filter NodeClass.isLoop

variable {b : Bool} {f t : Node} {ns ms cs ws : List Node} {k : Kind} {r r₁ r₂ : Reading} {w : Text}

/-! ### Frames and loops of a tree -/

theorem family_append (ns ms : List Node) :
    Node.family (ns ++ ms) = Node.family ns ++ Node.family ms := by
  induction ns with
  | nil => rfl
  | cons n ns ih => rw [List.cons_append, Node.family, Node.family, ih, List.append_assoc]

theorem framesOf_append (ns ms : List Node) :
    framesOf (ns ++ ms) = framesOf ns ++ framesOf ms := by
  rw [framesOf, family_append, List.filter_append]
  rfl

theorem loopsOf_append (ns ms : List Node) : loopsOf (ns ++ ms) = loopsOf ns ++ loopsOf ms := by
  rw [loopsOf, family_append, List.map_append, List.filter_append]
  rfl

/-- A node comes in front of its descendants. -/
theorem framesOf_node (k : Kind) (cs : List Node) :
    framesOf [⟨k, cs⟩] = (if k.cls.isA .keyFrame then [⟨k, cs⟩] else []) ++ framesOf cs := by
  rw [framesOf, Node.family, Node.descendants, Node.family, List.append_nil, List.filter_cons]
  show (if k.cls.isA .keyFrame then _ else _) = _
  split <;> rfl

theorem loopsOf_node (k : Kind) (cs : List Node) :
    loopsOf [⟨k, cs⟩] = (if k.cls.isLoop then [k.cls] else []) ++ loopsOf cs := by
  rw [loopsOf, Node.family, Node.descendants, Node.family, List.append_nil, List.map_cons,
    List.filter_cons]
  show (if k.cls.isLoop then _ else _) = _
  split <;> rfl

/-- Channel writes are neither frames nor loops. -/
theorem framesOf_writes (h : ∀ w ∈ ws, IsWrite w) : framesOf ws = [] ∧ loopsOf ws = [] := by
  induction ws with
  | nil => exact ⟨rfl, rfl⟩
  | cons w ws ih =>
      obtain ⟨hw, hws⟩ := List.forall_mem_cons.mp h
      obtain ⟨hframes, hloops⟩ := ih hws
      rw [← List.singleton_append, framesOf_append, loopsOf_append, hframes, hloops]
      cases hw
      exact ⟨rfl, rfl⟩

/-- A frame has no other among its descendants, and no loop. -/
theorem IsFrame.framesOf_eq (h : IsFrame b f) : framesOf [f] = [f] ∧ loopsOf [f] = [] := by
  cases h with
  | empty => exact ⟨rfl, rfl⟩
  | full _ hws =>
      obtain ⟨hframes, hloops⟩ := framesOf_writes hws
      rw [framesOf_node, loopsOf_node, hframes, hloops]
      exact ⟨rfl, rfl⟩

/-! ### What is read -/

/-- The reading `r'` is `r` with the frames and the loops of the nodes, and possibly more told. -/
structure Reading.Gains (r : Reading) (ns : List Node) (r' : Reading) : Prop where
  frames : r'.frames = r.frames ++ (framesOf ns).map Node.reread
  document : r'.document = r.document
  iterations : r'.iterations = r.iterations ++ (loopsOf ns).map fun c => Node.leaf (.fresh c)

namespace Reading

theorem gains_nil (r : Reading) : r.Gains [] r where
  frames := (List.append_nil _).symm
  document := rfl
  iterations := (List.append_nil _).symm

theorem Gains.append (h₁ : r.Gains ns r₁) (h₂ : r₁.Gains ms r₂) : r.Gains (ns ++ ms) r₂ where
  frames := by rw [h₂.frames, h₁.frames, framesOf_append, List.map_append, List.append_assoc]
  document := h₂.document.trans h₁.document
  iterations := by
    rw [h₂.iterations, h₁.iterations, loopsOf_append, List.map_append, List.append_assoc]

end Reading

/-- Whether the ends of all frames among nodes and their descendants can be told. -/
def isTellableAll (ns : List Node) : Bool := (framesOf ns).all Node.isTellable

theorem isTellableAll_append (ns ms : List Node) :
    isTellableAll (ns ++ ms) = (isTellableAll ns && isTellableAll ms) := by
  rw [isTellableAll, framesOf_append, List.all_append]
  rfl

/-- The text is read as the nodes, behind closed frames and in front of anything, if the ends of all
their frames can be told. -/
def ReadsAs (w : Text) (ns : List Node) : Prop :=
  ∀ (honourRadix : Bool) (size : Nat) (r : Reading) (t : Text), (∀ g ∈ r.frames, IsFrame true g) →
    ∃ r', Forward.read honourRadix size r (w ++ t) =
        unlessFault (tooLongUnless (isTellableAll ns)) (Forward.read honourRadix size r' t) ∧
      r.Gains ns r' ∧ ∀ g ∈ r'.frames, IsFrame true g

theorem readsAs_nil : ReadsAs [] [] := fun _ _ r _ hr => ⟨r, rfl, r.gains_nil, hr⟩

theorem ReadsAs.append {v : Text} (hw : ReadsAs w ns) (hv : ReadsAs v ms) :
    ReadsAs (w ++ v) (ns ++ ms) := by
  intro honourRadix size r t hr
  obtain ⟨r₁, h₁, hg₁, hr₁⟩ := hw honourRadix size r (v ++ t) hr
  obtain ⟨r₂, h₂, hg₂, hr₂⟩ := hv honourRadix size r₁ t hr₁
  refine ⟨r₂, ?_, hg₁.append hg₂, hr₂⟩
  rw [List.append_assoc, h₁, h₂, isTellableAll_append, tooLongUnless_and, unlessFault_or]

/-- A closed frame is read as itself. -/
theorem readsAs_frame (hf : IsFrame true f) : ReadsAs (writtenFrame f) [f] := by
  intro honourRadix size r t hr
  obtain ⟨r', h, hfr, hdoc, hit⟩ := Forward.read_writtenFrame honourRadix size t hf hr
  obtain ⟨hframes, hloops⟩ := hf.framesOf_eq
  refine ⟨r', ?_, ⟨?_, hdoc, ?_⟩, ?_⟩
  · rw [h, isTellableAll, hframes, List.all_cons, List.all_nil, Bool.and_true]
  · rw [hfr, hframes]
    rfl
  · rw [hit, hloops]
    exact (List.append_nil _).symm
  · exact hfr ▸ List.forall_mem_append.mpr ⟨hr, List.forall_mem_singleton.mpr hf.reread⟩

/-- A wait is read as nothing: it is written as remarks. -/
theorem readsAs_delay (mode ms : Int) :
    ∃ w, (Node.leaf (.delay mode ms)).written = .ok w ∧ ReadsAs w [.leaf (.delay mode ms)] := by
  obtain ⟨ws, hws, htext⟩ : ∃ ws : List Text, (∀ w ∈ ws, IsRemark w) ∧
      Kind.wrap (.delay mode ms) [] = .ok ws.flatten := by
    have hnumber : IsRemark (numberLiteral ms) :=
      .number (x := 'H') (by decide) (not_mem_paddedHex ms)
    by_cases hm : mode = 0
    · refine ⟨["WB"], ?_, by simp [Kind.wrap, hm]⟩
      exact List.forall_mem_singleton.mpr (.token (by decide))
    · refine ⟨["WM", numberLiteral ms], ?_, by simp [Kind.wrap, hm]⟩
      exact List.forall_mem_cons.mpr
        ⟨.token (by decide), List.forall_mem_singleton.mpr hnumber⟩
  refine ⟨ws.flatten, htext, fun honourRadix size r t hr => ?_⟩
  obtain ⟨u, hu⟩ := Forward.read_remarks hws
  rw [hu]
  refine ⟨r.tell u, rfl, ⟨?_, rfl, ?_⟩, hr⟩
  · exact (List.append_nil _).symm
  · exact (List.append_nil _).symm

/-- The mark of a loop is read as the loop, and its children behind it. -/
theorem ReadsAs.loop {x y : Char} {u : Text} (h : ReadsAs w cs)
    (hx : x ≠ '"' ∧ x ≠ '0' ∧ Forward.begins x = true) (hk : k.cls.isLoop = true)
    (htoken : ∀ r pos, Forward.token r x y pos = .ok ((r.iterate k.cls).tell u, .nothing)) :
    ReadsAs (x :: y :: w) [⟨k, cs⟩] := by
  have hframe : k.cls.isA .keyFrame = false := by
    revert hk
    cases k.cls <;> decide
  intro honourRadix size r t hr
  obtain ⟨r', hread, hgains, hr'⟩ := h honourRadix size ((r.iterate k.cls).tell u) t hr
  refine ⟨r', ?_, ⟨?_, hgains.document, ?_⟩, hr'⟩
  · rw [List.cons_append, List.cons_append, Forward.read_token _ _ _ _ y hx.1 hx.2.1 hx.2.2, htoken]
    rw [isTellableAll, framesOf_node, hframe]
    exact hread
  · rw [hgains.frames, framesOf_node, hframe]
    rfl
  · rw [hgains.iterations, loopsOf_node, hk]
    show r.iterations ++ [_] ++ _ = _
    rw [List.append_assoc]
    rfl

/-- **A group is read as itself**, if its children are read as themselves. -/
theorem ReadsAs.group (h : ReadsAs w cs) (hk : k.IsGroup) :
    ∃ v, k.wrap w = .ok v ∧ ReadsAs v [⟨k, cs⟩] := by
  cases hk with
  | @body closed =>
      refine ⟨w, rfl, fun honourRadix size r t hr => ?_⟩
      obtain ⟨r', hread, hgains, hr'⟩ := h honourRadix size r t hr
      refine ⟨r', ?_, ⟨?_, hgains.document, ?_⟩, hr'⟩
      · rw [isTellableAll, framesOf_node]
        exact hread
      · rw [hgains.frames, framesOf_node]
        rfl
      · rw [hgains.iterations, loopsOf_node]
        rfl
  | counted => exact ⟨_, rfl, h.loop (x := 'F') (y := 'I') (by decide) rfl fun _ _ => rfl⟩
  | endless => exact ⟨_, rfl, h.loop (x := 'I') (y := 'I') (by decide) rfl fun _ _ => rfl⟩

/-- Nodes one behind the other are read as themselves if each of them is. -/
theorem readsAs_all (h : ∀ c ∈ cs, ∃ w, c.written = .ok w ∧ ReadsAs w [c]) :
    ∃ w, Node.writtenAll cs = .ok w ∧ ReadsAs w cs := by
  induction cs with
  | nil => exact ⟨[], rfl, readsAs_nil⟩
  | cons c cs ih =>
      obtain ⟨⟨v, hv, hread⟩, hcs⟩ := List.forall_mem_cons.mp h
      obtain ⟨w, hw, hreads⟩ := ih hcs
      refine ⟨v ++ w, ?_, hread.append hreads⟩
      rw [Node.writtenAll, hv, hw]
      rfl

/-- **A tree has a written form, which is read as its frames and loops.** -/
theorem IsPart.readsAs (h : IsPart t) : ∃ w, t.written = .ok w ∧ ReadsAs w [t] := by
  induction h with
  | @group k cs hk _ ih =>
      obtain ⟨w, hw, hread⟩ := readsAs_all ih
      have hwritten : (⟨k, cs⟩ : Node).written = Node.writtenAll cs >>= k.wrap := by
        cases hk <;> rfl
      obtain ⟨v, hv, hreadv⟩ := hread.group hk
      exact ⟨v, by rw [hwritten, hw]; exact hv, hreadv⟩
  | @delay mode ms => exact readsAs_delay mode ms
  | @frame f hf => exact ⟨_, hf.isRaw.written_eq, readsAs_frame hf⟩

/-! ### Whole trees -/

/-- The frames among nodes are those of each of them. -/
theorem framesOf_eq_flatMap (ns : List Node) : framesOf ns = ns.flatMap fun n => framesOf [n] := by
  induction ns with
  | nil => rfl
  | cons n ns ih => rw [List.flatMap_cons, ← ih, ← framesOf_append, List.singleton_append]

/-- The frames of a tree are closed. -/
theorem IsPart.closed (h : IsPart t) : ∀ f ∈ framesOf [t], IsFrame true f := by
  induction h with
  | @group k cs hk _ ih =>
      have hframe : k.cls.isA .keyFrame = false := by cases hk <;> rfl
      intro f hf
      rw [framesOf_node, hframe, framesOf_eq_flatMap cs] at hf
      obtain ⟨c, hc, hf⟩ := List.mem_flatMap.mp hf
      exact ih c hc f hf
  | delay => nofun
  | @frame f hf =>
      rw [hf.framesOf_eq.1]
      exact List.forall_mem_singleton.mpr hf

/-- A tree has the frames of its descendants if its root is no frame. -/
theorem framesOf_root (hroot : t.kind.IsGroup) : framesOf [t] = t.descendantsOf .keyFrame := by
  obtain ⟨k, cs⟩ := t
  have hframe : k.cls.isA .keyFrame = false := by cases hroot <;> rfl
  rw [framesOf_node, hframe]
  rfl

/-- **Which trees are read flat.**  A tree of bodies and loops to any depth, over waits and closed
frames, has a written form.  If the times of all its frames that are not empty are short enough to
be told, that can be read, with radices honoured or not: the frames that are read are the same as
those of the tree, one by one in document order; the iterations that are read have the classes of
its loops, in document order as well; and there is no document.  If one of the times is too long,
that is why nothing is read. -/
theorem IsPart.read_flat (h : IsPart t) (hroot : t.kind.IsGroup) (honourRadix : Bool) :
    ∃ w, t.written = .ok w ∧
      ((∀ f ∈ t.descendantsOf .keyFrame, f.isTellable = true) →
        ∃ r, Reading.ofCompact honourRadix w = .ok r ∧
          List.Forall₂ (fun f g => f.same g = true) r.frames (t.descendantsOf .keyFrame) ∧
          r.iterations.map Node.cls = ((t :: t.descendants).map Node.cls).filter NodeClass.isLoop ∧
          r.document = none) ∧
      ((∃ f ∈ t.descendantsOf .keyFrame, f.isTellable = false) →
        Reading.ofCompact honourRadix w = .error .tooLong) := by
  obtain ⟨w, hw, hread⟩ := h.readsAs
  obtain ⟨r, hr, hgains, -⟩ := hread honourRadix w.length .blank [] nofun
  replace hr := Reading.ofCompact_unless hr
  rw [isTellableAll, framesOf_root hroot] at hr
  refine ⟨w, hw, fun htold => ?_, fun hlong => ?_⟩
  · rw [List.all_eq_true.mpr htold] at hr
    refine ⟨r, hr, ?_, ?_, hgains.document⟩
    · rw [hgains.frames, ← framesOf_root hroot]
      show List.Forall₂ _ ((framesOf [t]).map Node.reread) (framesOf [t])
      rw [List.forall₂_map_left_iff, List.forall₂_same]
      exact fun f hf => Node.same_symm _ _ (h.closed f hf).same_reread
    · have hloops : loopsOf [t] = ((t :: t.descendants).map Node.cls).filter NodeClass.isLoop := by
        rw [loopsOf, Node.family, Node.family, List.append_nil]
      have hcls : ∀ c : NodeClass, (Node.leaf (.fresh c)).cls = c := by
        intro c
        cases c <;> rfl
      rw [hgains.iterations, ← hloops]
      show ((loopsOf [t]).map fun c => Node.leaf (.fresh c)).map Node.cls = loopsOf [t]
      rw [List.map_map, Function.comp_def]
      simp only [hcls, List.map_id']
  · have htold : (t.descendantsOf .keyFrame).all Node.isTellable = false := by simpa using hlong
    rw [hr, htold]
    rfl

/-- A frame and a wait in a counted loop, with a loop without end behind it. -/
theorem IsPart.read_flat_nested :
    ∃ t : Node, IsPart t ∧ t.kind.IsGroup ∧ t.written = .ok "FIKF0H05;BP0H01;0H02;kfWM0H-5;II" ∧
      ∃ r, Reading.ofCompact true "FIKF0H05;BP0H01;0H02;kfWM0H-5;II" = .ok r ∧
        List.Forall₂ (fun f g => f.same g = true) r.frames (t.descendantsOf .keyFrame) ∧
        r.iterations.map Node.cls = [.forIteration, .infiniteIteration] ∧ r.document = none := by
  have hframe : IsFrame true ⟨.keyFrame 5 false true, [.leaf (.channelData 1 2 0)]⟩ :=
    .full (by decide) (List.forall_mem_singleton.mpr
      (.mk (by decide) (by decide) (by decide) (by decide)))
  have hend : IsPart ⟨.infiniteIteration false, []⟩ := .group .endless nofun
  have htree : IsPart ⟨.body false, [⟨.forIteration 0 3 0 false,
      [⟨.keyFrame 5 false true, [.leaf (.channelData 1 2 0)]⟩, .leaf (.delay 1 (-5))]⟩,
      ⟨.infiniteIteration false, []⟩]⟩ := by
    refine .group .body (List.forall_mem_cons.mpr ⟨?_, List.forall_mem_singleton.mpr hend⟩)
    exact .group .counted
      (List.forall_mem_cons.mpr ⟨.frame hframe, List.forall_mem_singleton.mpr .delay⟩)
  obtain ⟨w, hw, hread, -⟩ := htree.read_flat .body true
  obtain rfl : ("FIKF0H05;BP0H01;0H02;kfWM0H-5;II" : Text) = w := Except.ok.inj hw
  obtain ⟨r, hr, hframes, hloops, hdoc⟩ := hread (by decide)
  exact ⟨_, htree, .body, hw, r, hr, hframes, hloops, hdoc⟩

/-- A body around a closed frame with the first time that is too long is such a tree, and nothing is
read from its written form. -/
theorem IsPart.read_longFrame :
    IsPart ⟨.body false, [⟨.keyFrame (10 ^ 4300) false true, []⟩]⟩ ∧
    ∃ w, (Node.mk (.body false) [⟨.keyFrame (10 ^ 4300) false true, []⟩]).written = .ok w ∧
      ∀ honourRadix : Bool, Reading.ofCompact honourRadix w = .error .tooLong := by
  have hd : (0 : Int) ≤ 10 ^ 4300 := Int.pow_nonneg (by decide)
  have htree : IsPart ⟨.body false, [⟨.keyFrame (10 ^ 4300) false true, []⟩]⟩ :=
    .group .body (List.forall_mem_singleton.mpr (.frame (.full hd nofun)))
  have hwritten := written_bareFrame hd
  refine ⟨htree, _, hwritten, fun honourRadix => ?_⟩
  exact Reading.ofCompact_bareFrame honourRadix hd isShort_pow

end StageCues
