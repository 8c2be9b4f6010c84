import Mathlib.Data.List.Forall2
import Mathlib.Logic.Relation
import StageCues.Store.Content

/-!
# Store — items side by side

Two items are compared place by place: their kinds at the same place, then what each of them
consists of, in order.  `Paired` says that two items have the same shape, and at all places kinds in
a given relation.  It is reflexive, symmetric and transitive if the relation is.

Comparing two items comes to an answer, and it is whether they are paired by kinds that are alike
(`sameWithin_eq`).  There is one way to fail: a document that was given a value for the comparison
cannot be asked for it any more.  Where there is no such document the comparison is an equivalence
(`same_equivalence`).
-/

namespace StageCues.Store

/-- What an item consists of: the children of a node, the parts of a document. -/
def parts (s : Store) : Item → List Item
  | .node id => s.children id
  | .document id => (s.document id).head.toList ++ (s.document id).body.toList

/-- Whether an item is another one itself, or a part of it, or a part of one of its parts. -/
def Consists (s : Store) : Item → Item → Prop := Relation.ReflTransGen fun x y => y ∈ s.parts x

/-- Whether an operation can be called throughout an item: no document in it was given a value under
its name. -/
def Keeps (s : Store) (o : Operation) (x : Item) : Prop :=
  ∀ y, s.Consists x y → s.requireCallable y o = .ok ()

/-- Whether two items have the same shape, and kinds in the relation at all places, as far as the
given depth. -/
def Paired (s : Store) (R : Kind → Kind → Prop) : Nat → Item → Item → Prop
  | 0, _, _ => True
  | n + 1, .node a, .node b =>
    R (s.kind a) (s.kind b) ∧ List.Forall₂ (s.Paired R n) (s.children a) (s.children b)
  | n + 1, .document d, .document e =>
    List.Forall₂ (s.Paired R n) (s.document d).head.toList (s.document e).head.toList ∧
      List.Forall₂ (s.Paired R n) (s.document d).body.toList (s.document e).body.toList
  | _ + 1, _, _ => False

/-- Whether two kinds are alike. -/
def KindsAlike (k l : Kind) : Prop := k.alike l = true

variable {s : Store} {R : Kind → Kind → Prop} {o : Operation} {n : Nat} {x y z : Item}

theorem Keeps.callable (h : s.Keeps o x) : s.requireCallable x o = .ok () := h x .refl

theorem Keeps.part (h : s.Keeps o x) (hy : y ∈ s.parts x) : s.Keeps o y :=
  fun z hz => h z (.head hy hz)

/-! ### Pairs -/

theorem forall₂_trans {α : Type} {P Q T : α → α → Prop} {xs ys zs : List α}
    (h : List.Forall₂ P xs ys) (h' : List.Forall₂ Q ys zs)
    (hcomp : ∀ x y z, P x y → Q y z → T x z) : List.Forall₂ T xs zs := by
  induction h generalizing zs with
  | nil =>
      cases h'
      exact .nil
  | cons hxy _ ih =>
      cases h' with
      | cons hyz hrest => exact .cons (hcomp _ _ _ hxy hyz) (ih hrest)

theorem Paired.refl (hR : ∀ k, R k k) (n : Nat) (x : Item) : s.Paired R n x x := by
  induction n generalizing x with
  | zero => trivial
  | succ n ih =>
      have hlist : ∀ xs, List.Forall₂ (s.Paired R n) xs xs :=
        fun xs => List.forall₂_same.mpr fun y _ => ih y
      cases x with
      | node a => exact ⟨hR _, hlist _⟩
      | document d => exact ⟨hlist _, hlist _⟩

theorem Paired.symm (hR : ∀ k l, R k l → R l k) (h : s.Paired R n x y) : s.Paired R n y x := by
  induction n generalizing x y with
  | zero => trivial
  | succ n ih =>
      have hlist : ∀ {xs ys}, List.Forall₂ (s.Paired R n) xs ys →
          List.Forall₂ (s.Paired R n) ys xs :=
        fun hxs => (hxs.imp fun _ _ => ih).flip
      cases x <;> cases y
      · exact ⟨hR _ _ h.1, hlist h.2⟩
      · exact h.elim
      · exact h.elim
      · exact ⟨hlist h.1, hlist h.2⟩

theorem Paired.trans (hR : ∀ k l m, R k l → R l m → R k m) (h : s.Paired R n x y)
    (h' : s.Paired R n y z) : s.Paired R n x z := by
  induction n generalizing x y z with
  | zero => trivial
  | succ n ih =>
      have hlist : ∀ {xs ys zs}, List.Forall₂ (s.Paired R n) xs ys →
          List.Forall₂ (s.Paired R n) ys zs → List.Forall₂ (s.Paired R n) xs zs :=
        fun hxs hys => forall₂_trans hxs hys fun _ _ _ => ih
      cases x <;> cases y
      · cases z
        · exact ⟨hR _ _ _ h.1 h'.1, hlist h.2 h'.2⟩
        · exact h'.elim
      · exact h.elim
      · exact h.elim
      · cases z
        · exact h'.elim
        · exact ⟨hlist h.1 h'.1, hlist h.2 h'.2⟩

/-! ### Comparing -/

/-- A comparison of lists of the same length, item by item. -/
theorem allM_zip {P : Item → Item → Prop} {f : Item → Item → Except Fault Bool} {xs ys : List Item}
    (hf : ∀ x ∈ xs, ∀ y, ∃ b, f x y = .ok b ∧ (b = true ↔ P x y)) (hlen : xs.length = ys.length) :
    ∃ b, ((xs.zip ys).allM fun p => f p.1 p.2) = .ok b ∧ (b = true ↔ List.Forall₂ P xs ys) := by
  induction xs generalizing ys with
  | nil =>
      obtain rfl := List.length_eq_zero_iff.mp hlen.symm
      exact ⟨true, rfl, by simp⟩
  | cons x xs ih =>
      cases ys with
      | nil => cases hlen
      | cons y ys =>
          obtain ⟨b, hb, hP⟩ := hf x List.mem_cons_self y
          obtain ⟨c, hc, hPs⟩ := ih (fun u hu => hf u (List.mem_cons_of_mem x hu))
            (Nat.succ.inj hlen)
          refine ⟨b && c, ?_, ?_⟩
          · rw [List.zip_cons_cons, List.allM, hb]
            cases b with
            | false => rfl
            | true => exact hc
          · rw [Bool.and_eq_true, hP, hPs, List.forall₂_cons]

/-- A comparison of parts that may be missing. -/
theorem samePart_eq {P : Item → Item → Prop} {f : Item → Item → Except Fault Bool}
    {p q : Option Item} (hp : ∀ x ∈ p.toList, s.requireCallable x .equals = .ok ())
    (hf : ∀ x ∈ p.toList, ∀ y, ∃ b, f x y = .ok b ∧ (b = true ↔ P x y)) :
    ∃ b, s.samePart f p q = .ok b ∧ (b = true ↔ List.Forall₂ P p.toList q.toList) := by
  cases p with
  | none =>
      cases q with
      | none => exact ⟨true, rfl, by simp⟩
      | some y => exact ⟨false, rfl, by simp⟩
  | some x =>
      have hmem : x ∈ (some x).toList := List.mem_singleton_self x
      cases q with
      | none => exact ⟨false, by rw [samePart, hp x hmem]; rfl, by simp⟩
      | some y =>
          obtain ⟨b, hb, hP⟩ := hf x hmem y
          exact ⟨b, hb, by simp [hP]⟩

/-- Two nodes are compared by their kinds and then child by child. -/
theorem sameWithin_nodes {a b : NodeId} (h : ∀ u ∈ s.children a, ∀ v,
      ∃ c, s.sameWithin n u v = .ok c ∧ (c = true ↔ s.Paired KindsAlike n u v)) :
    ∃ c, s.sameWithin (n + 1) (.node a) (.node b) = .ok c ∧
      (c = true ↔ s.Paired KindsAlike (n + 1) (.node a) (.node b)) := by
  by_cases hlen : (s.children a).length = (s.children b).length
  · obtain ⟨c, hc, hP⟩ := allM_zip h hlen
    refine ⟨(s.kind a).alike (s.kind b) && c, ?_, ?_⟩
    · cases hk : (s.kind a).alike (s.kind b) with
      | false => simp [sameWithin, hk]
      | true => simp [sameWithin, hk, hlen, hc]
    · rw [Bool.and_eq_true, hP]
      rfl
  · refine ⟨false, by simp [sameWithin, hlen], ?_⟩
    simp only [Bool.false_eq_true, false_iff]
    exact fun hpaired => hlen hpaired.2.length_eq

/-- Two documents are compared by their heads and then by their bodies. -/
theorem sameWithin_documents {d e : DocumentId} (hd : s.Keeps .equals (.document d))
    (h : ∀ u ∈ s.parts (.document d), ∀ v,
      ∃ c, s.sameWithin n u v = .ok c ∧ (c = true ↔ s.Paired KindsAlike n u v)) :
    ∃ c, s.sameWithin (n + 1) (.document d) (.document e) = .ok c ∧
      (c = true ↔ s.Paired KindsAlike (n + 1) (.document d) (.document e)) := by
  have hcall : ∀ u ∈ s.parts (.document d), s.requireCallable u .equals = .ok () :=
    fun u hu => (hd.part hu).callable
  obtain ⟨hcallHead, hcallBody⟩ := List.forall_mem_append.mp hcall
  obtain ⟨hhead, hbody⟩ := List.forall_mem_append.mp h
  obtain ⟨b, hb, hP⟩ := samePart_eq (q := (s.document e).head) hcallHead hhead
  obtain ⟨c, hc, hQ⟩ := samePart_eq (q := (s.document e).body) hcallBody hbody
  refine ⟨b && c, ?_, ?_⟩
  · simp only [sameWithin, hd.callable, hb]
    -- the bodies are looked at only if the heads are the same
    cases b with
    | false => rfl
    | true => exact hc
  · rw [Bool.and_eq_true, hP, hQ]
    rfl

/-- **Comparing comes to an answer, and it is whether the items are paired by alike kinds.** -/
theorem sameWithin_eq (h : s.Keeps .equals x) (n : Nat) (y : Item) :
    ∃ c, s.sameWithin n x y = .ok c ∧ (c = true ↔ s.Paired KindsAlike n x y) := by
  induction n generalizing x y with
  | zero => exact ⟨true, rfl, by simp [Paired]⟩
  | succ n ih =>
      have hparts : ∀ u ∈ s.parts x, ∀ v,
          ∃ c, s.sameWithin n u v = .ok c ∧ (c = true ↔ s.Paired KindsAlike n u v) :=
        fun u hu v => ih (h.part hu) v
      cases x <;> cases y
      · exact sameWithin_nodes hparts
      · exact ⟨false, by simp only [sameWithin, h.callable]; rfl, by simp [Paired]⟩
      · exact ⟨false, by simp only [sameWithin, h.callable]; rfl, by simp [Paired]⟩
      · exact sameWithin_documents h hparts

theorem exists_same (h : s.Keeps .equals x) (y : Item) : ∃ b, s.same x y = .ok b := by
  obtain ⟨b, hb, -⟩ := sameWithin_eq h s.size y
  exact ⟨b, hb⟩

/-- Items are the same if they are paired by alike kinds, and only then. -/
theorem same_iff (h : s.Keeps .equals x) :
    s.same x y = .ok true ↔ s.Paired KindsAlike s.size x y := by
  obtain ⟨b, hb, hP⟩ := sameWithin_eq h s.size y
  rw [same, hb, ← hP]
  exact ⟨Except.ok.inj, congrArg Except.ok⟩

/-- **Being the same is an equivalence**, if everything can be compared. -/
theorem same_equivalence (h : ∀ x, s.Keeps .equals x) :
    Equivalence fun x y => s.same x y = .ok true where
  refl x := (same_iff (h x)).mpr (.refl Kind.alike_refl _ _)
  symm {x y} hxy := (same_iff (h y)).mpr
    (((same_iff (h x)).mp hxy).symm fun _ _ => Kind.alike_symm)
  trans {x y _} hxy hyz :=
    have hpaired := (same_iff (h x)).mp hxy
    (same_iff (h x)).mpr (hpaired.trans (fun _ _ _ => Kind.alike_trans) ((same_iff (h y)).mp hyz))

end StageCues.Store
