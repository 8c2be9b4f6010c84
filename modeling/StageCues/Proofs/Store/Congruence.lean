import StageCues.Proofs.Store.History
import StageCues.Proofs.Store.Pairing
import StageCues.Proofs.Written.Visible
import StageCues.Store.Family
import StageCues.Universe

/-!
# Store — what items that are the same have in common

Titles and paths are meant to be texts, and the names of a document's operations to be left alone
(`Typed`).  Then comparing is an equivalence, and of two items that are the same there is the same
to be seen at all places (`Paired.visible`).  So the two are written in the same way, as cue lists
they have the same summary, and the same is sent when they are played (`same_congr`).

Two trees of nodes are compared in a store as they are compared as values (`Founded.same_eq`).  What
a cue list sends has nothing to do with titles and paths (`CueList.writes_congr`).
-/

namespace StageCues

/-! ### Trees as values -/

namespace Node

variable {n m : Node} {ns ms : List Node}

theorem sameAll_iff :
    sameAll ns ms = true ↔ List.Forall₂ (fun n m => n.same m = true) ns ms := by
  induction ns generalizing ms with
  | nil => cases ms <;> simp [sameAll]
  | cons n ns ih =>
      cases ms with
      | nil => simp [sameAll]
      | cons m ms => rw [sameAll, Bool.and_eq_true, ih, List.forall₂_cons]

theorem same_iff : n.same m = true ↔
    n.kind.alike m.kind = true ∧
      List.Forall₂ (fun n m => n.same m = true) n.children m.children := by
  rw [← sameAll_iff, ← Bool.and_eq_true]
  cases n
  cases m
  rfl

/-- Nodes of alike kinds are the same channel write, or none both. -/
theorem channelWrite?_congr (h : n.kind.alike m.kind = true) :
    n.channelWrite? = m.channelWrite? := by
  have hforget : ∀ n : Node, (⟨n.kind.forget, []⟩ : Node).channelWrite? = n.channelWrite? := by
    rintro ⟨k, cs⟩
    cases k <;> rfl
  have hkind : n.kind.forget = m.kind.forget := by simpa [Kind.alike] using h
  rw [← hforget n, ← hforget m, hkind]

end Node

/-- Lists whose members say the same say the same. -/
theorem map_congr_forall₂ {α β γ : Type} {f : α → γ} {g : β → γ} {xs : List α} {ys : List β}
    (h : List.Forall₂ (fun x y => f x = g y) xs ys) : xs.map f = ys.map g := by
  rwa [← List.forall₂_eq_eq_eq, List.forall₂_map_left_iff, List.forall₂_map_right_iff]

/-- **Cue lists that are the same have the same channel writes.** -/
theorem CueList.writes_congr {l m : Node} (h : l.same m = true) :
    writes l.children = writes m.children := by
  have hframe : ∀ f g : Node, f.same g = true →
      f.children.filterMap Node.channelWrite? = g.children.filterMap Node.channelWrite? := by
    intro f g hfg
    have hwrites : f.children.map Node.channelWrite? = g.children.map Node.channelWrite? :=
      map_congr_forall₂ ((Node.same_iff.mp hfg).2.imp fun v w hvw =>
        Node.channelWrite?_congr (Node.same_iff.mp hvw).1)
    have hid : ∀ vs : List Node, vs.filterMap Node.channelWrite? =
        (vs.map Node.channelWrite?).filterMap id := by
      intro vs
      rw [List.filterMap_map]
      rfl
    rw [hid, hid, hwrites]
  unfold writes
  rw [List.flatMap_def, List.flatMap_def,
    map_congr_forall₂ ((Node.same_iff.mp h).2.imp hframe)]

namespace Store

/-- Whether there is the same to be seen of two kinds. -/
def KindsVisible (k l : Kind) : Prop := k.visible = l.visible

/-- Whether everything in a store has the values that it is meant to have: titles and paths are
texts, and no document was given anything under another name than those of its parts. -/
structure Typed (s : Store) : Prop where
  kinds : ∀ c ∈ s.cells, c.kind.hasTexts = true
  documents : ∀ d ∈ s.documents, d.given = []

variable {s : Store} {R Q : Kind → Kind → Prop} {n : Nat} {x y : Item} {a b : NodeId}

theorem Typed.hasTexts (h : s.Typed) (id : NodeId) : (s.kind id).hasTexts = true := by
  rw [kind, cell]
  cases hc : s.cells[id]? with
  | none => rfl
  | some c => exact h.kinds c (List.mem_of_getElem? hc)

/-- Every operation can be called. -/
theorem Typed.keeps (h : s.Typed) (o : Operation) (x : Item) : s.Keeps o x := by
  intro y _
  cases y with
  | node id => exact requireCallable_node s id o
  | document id =>
      have hgiven : (s.documentCell id).given = [] := by
        rw [documentCell]
        cases hd : s.documents[id]? with
        | none => rfl
        | some d => exact h.documents d (List.mem_of_getElem? hd)
      have hnone : s.shadowed? (.document id) o = none := by
        simp only [shadowed?, given?, hgiven]
        cases o.name? <;> rfl
      rw [requireCallable, hnone]

/-! ### Place by place -/

theorem Paired.imp (h : s.Paired R n x y)
    (himp : ∀ a b, R (s.kind a) (s.kind b) → Q (s.kind a) (s.kind b)) : s.Paired Q n x y := by
  induction n generalizing x y with
  | zero => trivial
  | succ n ih =>
      have hlist : ∀ {xs ys}, List.Forall₂ (s.Paired R n) xs ys →
          List.Forall₂ (s.Paired Q n) xs ys :=
        fun hxs => hxs.imp fun _ _ => ih
      cases x <;> cases y
      · exact ⟨himp _ _ h.1, hlist h.2⟩
      · exact h.elim
      · exact h.elim
      · exact ⟨hlist h.1, hlist h.2⟩

/-- **Items that are the same have the same to be seen at all places.** -/
theorem Paired.visible (hs : s.Typed) (h : s.Paired KindsAlike n x y) :
    s.Paired KindsVisible n x y :=
  h.imp fun a b hab => Kind.visible_congr hab (hs.hasTexts a) (hs.hasTexts b)

/-! ### The written form -/

theorem forall₂_imp_mem {α : Type} {P Q : α → α → Prop} {xs ys : List α}
    (h : List.Forall₂ P xs ys) (himp : ∀ x ∈ xs, ∀ y ∈ ys, P x y → Q x y) :
    List.Forall₂ Q xs ys := by
  induction h with
  | nil => exact .nil
  | cons hxy _ ih =>
      refine .cons (himp _ List.mem_cons_self _ List.mem_cons_self hxy) (ih fun x hx y hy => ?_)
      exact himp x (List.mem_cons_of_mem _ hx) y (List.mem_cons_of_mem _ hy)

theorem mapM_congr {α β : Type} {f : α → Except Fault β} {xs ys : List α}
    (h : List.Forall₂ (fun x y => f x = f y) xs ys) : xs.mapM f = ys.mapM f := by
  induction h with
  | nil => rfl
  | cons hxy _ ih => rw [List.mapM_cons, List.mapM_cons, hxy, ih]

theorem exists_mapM {α β : Type} {f : α → Except Fault β} {xs : List α}
    (h : ∀ x ∈ xs, ∃ t, f x = .ok t) : ∃ ts, xs.mapM f = .ok ts := by
  induction xs with
  | nil => exact ⟨[], rfl⟩
  | cons x xs ih =>
      obtain ⟨t, ht⟩ := h x List.mem_cons_self
      obtain ⟨ts, hts⟩ := ih fun y hy => h y (List.mem_cons_of_mem x hy)
      exact ⟨t :: ts, by rw [List.mapM_cons, ht, hts]; rfl⟩

theorem writtenPart_congr {f : Item → Except Fault Text} {p q : Option Item}
    (h : List.Forall₂ (fun x y => f x = f y) p.toList q.toList) :
    DocumentOf.writtenPart f p = DocumentOf.writtenPart f q := by
  cases p with
  | none =>
      cases q with
      | none => rfl
      | some y => cases h
  | some x =>
      cases q with
      | none => cases h
      | some y => exact (List.forall₂_cons.mp h).1

/-- **Where there is the same to be seen, the same is written.** -/
theorem Paired.written (hs : s.Typed) (h : s.Paired KindsVisible n x y) :
    s.writtenWithin n x = s.writtenWithin n y := by
  induction n generalizing x y with
  | zero => rfl
  | succ n ih =>
      have hlist : ∀ {xs ys}, List.Forall₂ (s.Paired KindsVisible n) xs ys →
          List.Forall₂ (fun u v => s.writtenWithin n u = s.writtenWithin n v) xs ys :=
        fun hpaired => hpaired.imp fun _ _ => ih
      cases x <;> cases y
      · next a b =>
          have hchildren : (s.children a).mapM (s.writtenWithin n) =
              (s.children b).mapM (s.writtenWithin n) :=
            mapM_congr (hlist h.2)
          obtain ⟨hcls, hwritable, hhides, hwrap⟩ := Kind.written_congr h.1
          simp only [writtenWithin, hcls, hwritable, hhides, hwrap, hchildren]
      · exact h.elim
      · exact h.elim
      · rw [writtenWithin, writtenWithin, (hs.keeps .write _).callable,
          (hs.keeps .write _).callable, DocumentOf.writtenBy, DocumentOf.writtenBy,
          writtenPart_congr (hlist h.1), writtenPart_congr (hlist h.2)]

/-- **Items without plain nodes have a written form.** -/
theorem exists_written (hs : s.Typed)
    (hw : ∀ id, s.Consists x (.node id) → s.cls id ≠ .plain) (n : Nat) :
    ∃ t, s.writtenWithin n x = .ok t := by
  induction n generalizing x with
  | zero => exact ⟨[], rfl⟩
  | succ n ih =>
      have hparts : ∀ y ∈ s.parts x, ∃ t, s.writtenWithin n y = .ok t :=
        fun y hy => ih fun id hid => hw id (.head hy hid)
      cases x with
      | node a =>
          have hwritable : (s.kind a).isWritable = true := by
            refine decide_eq_true fun hplain => hw a .refl ?_
            rw [cls, hplain]
            rfl
          obtain ⟨ts, hts⟩ : ∃ ts, (s.children a).mapM (s.writtenWithin n) = .ok ts :=
            exists_mapM hparts
          simp only [writtenWithin, hwritable, if_true]
          split
          · exact Kind.exists_wrap (hs.hasTexts a) []
          · rw [hts]
            exact Kind.exists_wrap (hs.hasTexts a) ts.flatten
      | document d =>
          obtain ⟨hheads, hbodies⟩ := List.forall_mem_append.mp hparts
          have hpart : ∀ p : Option Item, (∀ y ∈ p.toList, ∃ t, s.writtenWithin n y = .ok t) →
              ∃ t, DocumentOf.writtenPart (s.writtenWithin n) p = .ok t := by
            intro p hp
            cases p with
            | none => exact ⟨[], rfl⟩
            | some y => exact hp y (List.mem_singleton_self y)
          obtain ⟨t, ht⟩ := hpart _ hheads
          obtain ⟨u, hu⟩ := hpart _ hbodies
          rw [writtenWithin, (hs.keeps .write _).callable, DocumentOf.writtenBy, ht, hu]
          exact ⟨_, rfl⟩

/-! ### Trees and their summaries -/

/-- A tree of nodes consists of its nodes. -/
theorem Founded.within_of_consists (h : s.Founded a) (hx : s.Consists (.node a) x) :
    ∃ c, x = .node c ∧ s.Within a c := by
  induction hx with
  | refl => exact ⟨a, rfl, .refl⟩
  | tail _ hy ih =>
      obtain ⟨c, rfl, hc⟩ := ih
      obtain ⟨d, rfl, -⟩ := h.nodes c hc _ hy
      exact ⟨d, rfl, hc.tail hy⟩

/-- So there are no documents in it that could have been given anything. -/
theorem Founded.keeps (h : s.Founded a) (o : Operation) : s.Keeps o (.node a) := by
  intro x hx
  obtain ⟨c, rfl, -⟩ := h.within_of_consists hx
  exact requireCallable_node s c o

theorem Paired.kind (hl : s.Levels n a) (h : s.Paired R n (.node a) (.node b)) :
    R (s.kind a) (s.kind b) := by
  cases n with
  | zero => exact hl.elim
  | succ n => exact h.1

/-- The children of nodes that are paired are paired, as far as there are levels. -/
theorem Paired.childNodes (hl : s.Levels (n + 1) a) (h : s.Paired R (n + 1) (.node a) (.node b)) :
    List.Forall₂ (fun c d => s.Levels n c ∧ s.Paired R n (.node c) (.node d))
      (s.childNodes a) (s.childNodes b) := by
  have hnodes : ∀ x ∈ s.children a, ∃ c, x = .node c ∧ s.Levels n c := hl
  have hpaired := h.2
  unfold Store.childNodes
  generalize s.children a = xs at hnodes hpaired
  generalize s.children b = ys at hpaired
  induction hpaired with
  | nil => exact .nil
  | @cons x y xs ys hxy _ ih =>
      obtain ⟨⟨c, rfl, hc⟩, hrest⟩ := List.forall_mem_cons.mp hnodes
      cases n with
      | zero => exact hc.elim
      | succ n =>
          cases y with
          | document e => exact hxy.elim
          | node d => exact .cons ⟨hc, hxy⟩ (ih hrest)

theorem Paired.caption (hl : s.Levels n a) (h : s.Paired KindsVisible n (.node a) (.node b)) :
    s.caption a = s.caption b := by
  have hkind : (s.kind a).visible = (s.kind b).visible := h.kind hl
  cases n with
  | zero => exact hl.elim
  | succ n =>
      have hcount : (s.children a).length = (s.children b).length := h.2.length_eq
      rw [Store.caption, Store.caption, ← Kind.caption_visible, hkind, Kind.caption_visible, hcount]

/-- The captions of the channel writes among nodes that are paired. -/
theorem captions_congr {cs ds : List NodeId} (h : List.Forall₂
      (fun c d => s.Levels n c ∧ s.Paired KindsVisible n (.node c) (.node d)) cs ds) :
    (cs.filter (s.isAny [.channelData])).mapM s.caption =
      (ds.filter (s.isAny [.channelData])).mapM s.caption := by
  induction h with
  | nil => rfl
  | @cons c d cs ds hcd _ ih =>
      obtain ⟨hlevels, hpaired⟩ := hcd
      -- the channel writes are picked by their class, which visibly alike nodes have in common
      have hcls : s.cls c = s.cls d := (Kind.written_congr (hpaired.kind hlevels)).1
      have hany : s.isAny [.channelData] c = s.isAny [.channelData] d := by
        rw [isAny, isAny, hcls]
      rw [List.filter_cons, List.filter_cons, hany]
      split
      · rw [List.mapM_cons, List.mapM_cons, ih, hpaired.caption hlevels]
      · exact ih

theorem Paired.summaryLines (hl : s.Levels n a) (h : s.Paired KindsVisible n (.node a) y) :
    s.summaryLines (.node a) = s.summaryLines y := by
  cases n with
  | zero => exact hl.elim
  | succ n =>
      cases y with
      | document e => exact h.elim
      | node b =>
          have hcount : (s.children a).length = (s.children b).length := h.2.length_eq
          rw [Store.summaryLines, Store.summaryLines, h.caption hl, hcount, childrenOf, childrenOf,
            captions_congr (h.childNodes hl)]

/-- **Where there is the same to be seen, the summary is the same.** -/
theorem Paired.summary (hl : s.Levels n a) (h : s.Paired KindsVisible n (.node a) (.node b)) :
    s.summary a = s.summary b := by
  have hkind : (s.kind a).visible = (s.kind b).visible := h.kind hl
  have hcls : s.cls a = s.cls b := (Kind.written_congr hkind).1
  cases n with
  | zero => exact hl.elim
  | succ n =>
      have hlines : (s.children a).mapM s.summaryLines = (s.children b).mapM s.summaryLines := by
        refine mapM_congr (forall₂_imp_mem h.2 fun x hx y _ hxy => ?_)
        obtain ⟨c, rfl, hc⟩ := hl x hx
        exact hxy.summaryLines hc
      rw [Store.summary, Store.summary, requireCueList, requireCueList, hcls, hlines]

theorem failsByLength_mapM {α β : Type} {f : α → Except Fault β} {xs : List α}
    (h : ∀ x ∈ xs, FailsByLength (f x)) : FailsByLength (xs.mapM f) := by
  induction xs with
  | nil => exact .ok _
  | cons x xs ih =>
      obtain ⟨hx, hxs⟩ := List.forall_mem_cons.mp h
      rw [List.mapM_cons]
      exact hx.bind fun _ => (ih hxs).bind fun _ => .ok _

/-- A cue list has a summary, unless a number of it is too long. -/
theorem failsByLength_summary (hl : s.Levels (n + 1) a) (ha : s.cls a = .cueList) :
    FailsByLength (s.summary a) := by
  have hlines : ∀ x ∈ s.children a, FailsByLength (s.summaryLines x) := by
    intro x hx
    obtain ⟨c, rfl, -⟩ := hl x hx
    exact (Kind.failsByLength_caption _ _).bind fun _ =>
      (failsByLength_mapM fun _ _ => Kind.failsByLength_caption _ _).bind fun _ => .ok _
  rw [summary, requireCueList, if_pos ha]
  exact (failsByLength_mapM hlines).bind fun _ => .ok _

/-- Trees are paired by alike kinds if they are the same as values, and only then. -/
theorem paired_iff_same (ha : s.Levels n a) (hb : s.Levels n b) :
    s.Paired KindsAlike n (.node a) (.node b) ↔
      (s.nodeWithin n a).same (s.nodeWithin n b) = true := by
  induction n generalizing a b with
  | zero => exact ha.elim
  | succ n ih =>
      have hmem : ∀ c ∈ s.childNodes a, ∀ d ∈ s.childNodes b,
          s.Paired KindsAlike n (.node c) (.node d) ↔
            (s.nodeWithin n c).same (s.nodeWithin n d) = true :=
        fun c hc d hd => ih (ha.child hc) (hb.child hd)
      rw [Node.same_iff, Paired, ha.children_eq, hb.children_eq, nodeWithin, nodeWithin,
        List.forall₂_map_left_iff, List.forall₂_map_right_iff, List.forall₂_map_left_iff,
        List.forall₂_map_right_iff]
      refine and_congr_right fun _ => ⟨fun h => ?_, fun h => ?_⟩
      · exact forall₂_imp_mem h fun c hc d hd => (hmem c hc d hd).mp
      · exact forall₂_imp_mem h fun c hc d hd => (hmem c hc d hd).mpr

/-- **Trees are compared in a store as they are compared as values.** -/
theorem Founded.same_eq (ha : s.Founded a) (hb : s.Founded b) :
    s.same (.node a) (.node b) = .ok ((s.node a).same (s.node b)) := by
  obtain ⟨c, hc, hP⟩ := sameWithin_eq (ha.keeps .equals) s.size (.node b)
  have hvalues := paired_iff_same ha.levels_size hb.levels_size
  rw [same, hc, ha.node_eq, hb.node_eq]
  exact congrArg Except.ok (Bool.eq_iff_iff.mpr (hP.trans hvalues))

/-! ### Being the same as a congruence -/

/-- **Being the same is a congruence**, in a store where everything has the values that it is meant
to have.  Comparing two items always comes to an answer, and it is an equivalence.  If two items are
the same, one of them is written as the other is, and if there is no plain node in it, it has a
written form.  Cue lists that are trees of nodes and the same have the same summary, which only a
number that is too long can keep from being there; and the same channel writes are sent when they
are played. -/
theorem same_congr {s : Store} (h : s.Typed) :
    (∀ x y, ∃ b, s.same x y = .ok b) ∧
    (Equivalence fun x y => s.same x y = .ok true) ∧
    (∀ x y, s.same x y = .ok true → s.written x = s.written y ∧
      ((∀ id, s.Consists x (.node id) → s.cls id ≠ .plain) → ∃ t, s.written x = .ok t)) ∧
    ∀ a b, s.Founded a → s.Founded b → s.cls a = .cueList →
      s.same (.node a) (.node b) = .ok true →
      s.summary a = s.summary b ∧ FailsByLength (s.summary a) ∧
      ∀ (σ : Type) (o : Output σ) (t : σ),
        o.play (s.node a).children t = o.play (s.node b).children t := by
  have hkeeps : ∀ x, s.Keeps .equals x := h.keeps .equals
  refine ⟨fun x y => exists_same (hkeeps x) y, same_equivalence hkeeps, fun x y hsame => ?_,
    fun a b ha hb hcls hsame => ?_⟩
  · have hpaired := ((same_iff (hkeeps x)).mp hsame).visible h
    exact ⟨hpaired.written h, fun hplain => exists_written h hplain s.size⟩
  · have hpaired := ((same_iff (hkeeps _)).mp hsame).visible h
    refine ⟨hpaired.summary ha.levels_size, ?_, fun σ o t => ?_⟩
    · exact failsByLength_summary (ha.levels_size.mono (Nat.le_succ _)) hcls
    · have hvalues := Except.ok.inj ((ha.same_eq hb).symm.trans hsame)
      rw [Output.play, Output.play, CueList.writes_congr hvalues]

/-- Calls that make two cue lists which differ only in what their channel writes have received. -/
def twins : List Call :=
  [.make (.channelData 7 30 0) [] (.inl rfl), .make (.channelData 7 30 2) [] (.inl rfl),
    .make (.keyFrame 25 false true) [0] (.inr rfl), .make (.keyFrame 25 false true) [1] (.inr rfl),
    .make .cueList [2] (.inr rfl), .make .cueList [3] (.inr rfl)]

/-- The two are the same, are written in the same way, and send the same. -/
theorem same_congr_twins :
    (build twins).Typed ∧ (build twins).Founded 4 ∧ (build twins).Founded 5 ∧
      (build twins).same (.node 4) (.node 5) = .ok true ∧
      (build twins).written (.node 4) = (build twins).written (.node 5) ∧
      (∃ t, (build twins).written (.node 4) = .ok t) ∧
      (build twins).summary 4 = (build twins).summary 5 ∧
      Output.recorder.play ((build twins).node 4).children [] =
        Output.recorder.play ((build twins).node 5).children [] := by
  have htyped : (build twins).Typed := ⟨by decide, by decide⟩
  have hfounded : ∀ r < 6, (build twins).Founded r := fun r hr =>
    founded_build hr fun p _ hp => Nat.lt_irrefl p (lt_of_below (by decide) hp)
  have ha := hfounded 4 (by decide)
  have hb := hfounded 5 (by decide)
  have hsame : (build twins).same (.node 4) (.node 5) = .ok true := rfl
  have hplain : ∀ id, (build twins).Consists (.node 4) (.node id) →
      (build twins).cls id ≠ .plain := by
    intro id hid
    obtain ⟨c, hc, hwithin⟩ := ha.within_of_consists hid
    cases hc
    exact (by decide : ∀ id < 6, (build twins).cls id ≠ .plain) id (ha.made_of_within hwithin)
  obtain ⟨-, -, hwritten, hlists⟩ := same_congr htyped
  obtain ⟨hsummary, -, hplay⟩ := hlists 4 5 ha hb rfl hsame
  obtain ⟨hequal, hexists⟩ := hwritten (.node 4) (.node 5) hsame
  exact ⟨htyped, ha, hb, hsame, hequal, hexists hplain, hsummary, hplay _ _ _⟩

end Store

end StageCues
