import StageCues.Proofs.Built.Elements
import StageCues.Proofs.Forward.Reader
import StageCues.Proofs.Text.Likeness

/-!
# Forward — alike texts are read alike

Two readings resemble each other when they have the same frames and the same iterations, and
documents that differ in the texts of their heads at most, which are alike (`Reading.Resembles`).
Their traces are only held together by a relation that telling more of the same, in whatever case,
keeps (`IsTold`).

From readings that resemble each other, alike texts are read alike (`read_alike`): the reader
takes the same tokens with the same numbers and alike texts, and it fails at the same place, or at
the same number that is too long, or nowhere.  The second of the two texts may stand further on in
its text than the first, and a misreading is then found so much further on (`Matches`).
-/

namespace StageCues

open Text

/-- Heads with the same numbers and alike texts. -/
inductive Node.Resembles (σ : Char → Char → Prop) : Node → Node → Prop where
  | predefined {v : SchemaVersion} {i : Int} {t u : Text} {b : Bool} :
      List.Forall₂ σ t u →
      Node.Resembles σ (.leaf (.predefinedHead v i t b)) (.leaf (.predefinedHead v i u b))
  | linked {v : SchemaVersion} {t u p q : Text} {b : Bool} :
      List.Forall₂ σ t u → List.Forall₂ σ p q →
      Node.Resembles σ (.leaf (.linkedHead v t p b)) (.leaf (.linkedHead v u q b))

/-- Documents with heads that resemble each other, or both without one. -/
structure Document.Resembles (σ : Char → Char → Prop) (d e : Document) : Prop where
  head : Option.Rel (Node.Resembles σ) d.head e.head
  body : d.body = e.body

/-- A relation of traces that telling more keeps, in whatever case it is told. -/
def IsTold (τ : Text → Text → Prop) : Prop :=
  ∀ ⦃t u v w : Text⦄, τ t u → uppercase v = uppercase w → τ (t ++ v) (u ++ w)

/-- Readings with the same frames and iterations, with documents that resemble each other and with
related traces. -/
structure Reading.Resembles (σ : Char → Char → Prop) (τ : Text → Text → Prop)
    (r q : Reading) : Prop where
  frames : r.frames = q.frames
  document : Option.Rel (Document.Resembles σ) r.document q.document
  iterations : r.iterations = q.iterations
  trace : τ r.trace q.trace

/-- Related results, or the same fault; a misreading is found so many characters further on. -/
inductive Matches {α β : Type} (R : α → β → Prop) (k : Int) :
    Except Fault α → Except Fault β → Prop where
  | ok {a : α} {b : β} : R a b → Matches R k (.ok a) (.ok b)
  | misread (m : Misreading) (pos : Int) :
      Matches R k (.error (.misread m pos)) (.error (.misread m (pos + k)))
  | other {f : Fault} : (∀ m pos, f ≠ .misread m pos) → Matches R k (.error f) (.error f)

variable {σ : Char → Char → Prop} {τ : Text → Text → Prop} {r q : Reading} {t u v w : Text}

/-- A number that is too long is the same fault on both sides. -/
theorem Matches.overlong {α β : Type} {R : α → β → Prop} {k : Int} {f : Fault}
    (h : f.isOverlong = true) : Matches R k (.error f) (.error f) :=
  .other fun m pos hf => by
    subst hf
    cases h

theorem Matches.map {α β γ δ : Type} {R : α → β → Prop} {S : γ → δ → Prop} {k : Int}
    {x : Except Fault α} {y : Except Fault β} {f : α → γ} {g : β → δ} (h : Matches R k x y)
    (hfg : ∀ a b, R a b → S (f a) (g b)) : Matches S k (f <$> x) (g <$> y) := by
  cases h with
  | ok hab => exact .ok (hfg _ _ hab)
  | misread m pos => exact .misread m pos
  | other hf => exact .other hf

theorem isTold_true : IsTold fun _ _ => True := fun _ _ _ _ _ _ => trivial

theorem isTold_uppercase : IsTold fun t u => uppercase t = uppercase u := by
  intro t u v w h hv
  show uppercase (t ++ v) = uppercase (u ++ w)
  unfold uppercase at h hv ⊢
  rw [List.flatMap_append, List.flatMap_append, h, hv]

/-- Members that are related stay so when both change. -/
theorem rel_map {α β : Type} {R S : α → β → Prop} {f : α → α} {g : β → β} {a : Option α}
    {b : Option β} (h : Option.Rel R a b) (hfg : ∀ x y, R x y → S (f x) (g y)) :
    Option.Rel S (a.map f) (b.map g) := by
  cases h with
  | none => exact .none
  | some hxy => exact .some (hfg _ _ hxy)

/-- A text that is read matches what is read as well, one that is misread what is misread for the
same reason, and one with a number that is too long what has the same one. -/
theorem Matches.of_ofCompact {β : Type} {R : Reading → β → Prop} {k : Int} {honourRadix : Bool}
    {o : Except Fault β} (h : Matches R k (Reading.ofCompact honourRadix t) o) :
    (∃ m pos, Reading.ofCompact honourRadix t = .error (.misread m pos) ∧
      o = .error (.misread m (pos + k))) ∨
    (∃ f, f.isOverlong = true ∧ Reading.ofCompact honourRadix t = .error f ∧ o = .error f) ∨
    ∃ r q, Reading.ofCompact honourRadix t = .ok r ∧ o = .ok q ∧ R r q := by
  generalize ht : Reading.ofCompact honourRadix t = e at h ⊢
  cases h with
  | @ok r q hrq => exact .inr (.inr ⟨r, q, rfl, rfl, hrq⟩)
  | misread m pos => exact .inl ⟨m, pos, rfl, rfl⟩
  | @other f hf =>
      rcases Reading.fault_of_ofCompact ht with ⟨m, pos, rfl⟩ | ho
      · exact absurd rfl (hf m pos)
      · exact .inr (.inl ⟨f, ho, rfl, rfl⟩)

/-! ### What a reading is told and given -/

theorem Node.Resembles.cls_eq {n m : Node} (h : n.Resembles σ m) : n.cls = m.cls := by
  cases h <;> rfl

theorem Node.Resembles.receive_number {n m : Node} (h : n.Resembles σ m) (k : Int) :
    (n.receive (.number k)).Resembles σ (m.receive (.number k)) := by
  cases h with
  | @predefined v i t u b ht => cases b <;> exact .predefined ht
  | @linked v t u p q b ht hp => cases b <;> exact .linked ht hp

theorem Node.Resembles.receive_text {n m : Node} (h : n.Resembles σ m)
    (ht : List.Forall₂ σ t u) :
    (n.receive (.text t)).Resembles σ (m.receive (.text u)) := by
  cases h with
  | @predefined v i _ _ b => cases b <;> exact .predefined ht
  | @linked v _ _ _ _ b hv hp =>
      cases b with
      | false => exact .linked ht hp
      | true => exact .linked hv ht

namespace Reading.Resembles

theorem tell (h : r.Resembles σ τ q) (hτ : IsTold τ) (hv : uppercase v = uppercase w) :
    (r.tell v).Resembles σ τ (q.tell w) where
  frames := h.frames
  document := h.document
  iterations := h.iterations
  trace := hτ h.trace hv

/-- The same lines are told, or the first that fails stops both. -/
theorem tellLines (h : r.Resembles σ τ q) (hτ : IsTold τ) (k : Int)
    {lines : List (Except Fault Text)} (hlines : ∀ x ∈ lines, FailsByLength x) :
    Matches (Reading.Resembles σ τ) k (r.tellLines lines) (q.tellLines lines) := by
  induction lines generalizing r q with
  | nil => exact .ok h
  | cons x lines ih =>
      have hx := hlines x List.mem_cons_self
      cases x with
      | error f =>
          obtain rfl := hx f rfl
          exact .overlong rfl
      | ok u => exact ih (h.tell hτ rfl) fun y hy => hlines y (List.mem_cons_of_mem _ hy)

theorem iterate (h : r.Resembles σ τ q) (c : NodeClass) :
    (r.iterate c).Resembles σ τ (q.iterate c) where
  frames := h.frames
  document := h.document
  iterations := congrArg (· ++ [Node.leaf (.fresh c)]) h.iterations
  trace := h.trace

/-- The frames change in the same way. -/
theorem withFrames (h : r.Resembles σ τ q) (g : List Node → List Node) :
    Reading.Resembles σ τ { r with frames := g r.frames } { q with frames := g q.frames } where
  frames := congrArg g h.frames
  document := h.document
  iterations := h.iterations
  trace := h.trace

/-- The heads change, and still resemble each other. -/
theorem mapHead (h : r.Resembles σ τ q) {f g : Node → Node}
    (hfg : ∀ n m : Node, n.Resembles σ m → (f n).Resembles σ (g m)) :
    Reading.Resembles σ τ
      { r with document := r.document.map fun d => { d with head := d.head.map f } }
      { q with document := q.document.map fun d => { d with head := d.head.map g } } where
  frames := h.frames
  document := rel_map h.document fun _ _ hd => ⟨rel_map hd.head hfg, hd.body⟩
  iterations := h.iterations
  trace := h.trace

/-- The same number for the same element. -/
theorem give_number (h : r.Resembles σ τ q) (k : Int) (a : Address) :
    (r.give (.number k) a).Resembles σ τ (q.give (.number k) a) := by
  cases a with
  | frame i => exact h.withFrames fun fs => fs.modify i _
  | write i j => exact h.withFrames fun fs => fs.modify i _
  | head => exact h.mapHead fun _ _ hn => hn.receive_number k

/-- Alike texts for the head. -/
theorem give_text (h : r.Resembles σ τ q) (ht : List.Forall₂ σ t u) :
    (r.give (.text t) .head).Resembles σ τ (q.give (.text u) .head) :=
  h.mapHead fun _ _ hn => hn.receive_text ht

end Reading.Resembles

namespace Forward

variable {x x' y y' : Char} {k : Nat}

/-! ### Parameters -/

section

variable (hσ : IsLikeness σ)
include hσ

/-- Alike texts are cut at the same semicolon. -/
theorem cutNumber_alike (h : List.Forall₂ σ t u) :
    Option.Rel (fun p p' => List.Forall₂ σ p.1 p'.1 ∧ List.Forall₂ σ p.2 p'.2)
      (cutNumber t) (cutNumber u) := by
  induction h with
  | nil => exact .none
  | @cons c d t u hc ht ih =>
      unfold cutNumber
      simp only [hσ.eq_semicolon_iff hc]
      split
      · exact .some ⟨.nil, ht⟩
      · exact rel_map ih fun _ _ h => ⟨.cons hc h.1, h.2⟩

/-- Alike texts are cut at the same semicolon outside of double quotes. -/
theorem cutText_alike (h : List.Forall₂ σ t u) (quoted : Bool) :
    Option.Rel (fun p p' => List.Forall₂ σ p.1 p'.1 ∧ List.Forall₂ σ p.2 p'.2)
      (cutText quoted t) (cutText quoted u) := by
  induction h generalizing quoted with
  | nil => exact .none
  | @cons c d t u hc ht ih =>
      unfold cutText
      simp only [hσ.eq_semicolon_iff hc, hσ.eq_quote_iff hc]
      split
      · exact .some ⟨.nil, ht⟩
      · exact rel_map (ih _) fun _ _ h => ⟨.cons hc h.1, h.2⟩

/-- Alike texts give the same numbers. -/
theorem numbers_alike (hτ : IsTold τ) (honourRadix : Bool) (a : Address) (n : Nat) (k : Int)
    (h : r.Resembles σ τ q) (ht : List.Forall₂ σ t u) :
    Matches (fun p p' => p.1.Resembles σ τ p'.1 ∧ List.Forall₂ σ p.2 p'.2) k
      (numbers honourRadix a n r t) (numbers honourRadix a n q u) := by
  induction n generalizing r q t u with
  | zero => exact .ok ⟨h, ht⟩
  | succ n ih =>
      cases ht with
      | nil => exact .ok ⟨h, .nil⟩
      | @cons c d t u hc ht =>
          have hcut := cutNumber_alike hσ (.cons hc ht)
          unfold numbers
          simp only [ne_eq, hσ.eq_zero_iff hc]
          split
          · exact .ok ⟨h.tell hτ rfl, .cons hc ht⟩
          · revert hcut
            generalize cutNumber (c :: t) = o
            generalize cutNumber (d :: u) = o'
            rintro (@⟨⟨l, rest⟩, ⟨l', rest'⟩, ⟨hl, hrest⟩⟩ | _)
            · have hnumber : readNumber honourRadix l = readNumber honourRadix l' :=
                hσ.readNumber_eq honourRadix hl
              dsimp only
              rw [hnumber]
              cases hv : readNumber honourRadix l' with
              | error f =>
                  obtain ⟨-, -, rfl⟩ := readNumber_eq_error hv
                  exact .overlong rfl
              | ok v => exact ih (h.give_number _ a) hrest
            · exact .ok ⟨h, .nil⟩

/-- Alike texts give alike texts to the head. -/
theorem texts_alike (n : Nat) (h : r.Resembles σ τ q) (ht : List.Forall₂ σ t u) :
    (texts .head n r t).1.Resembles σ τ (texts .head n q u).1 ∧
      List.Forall₂ σ (texts .head n r t).2 (texts .head n q u).2 := by
  induction n generalizing r q t u with
  | zero => exact ⟨h, ht⟩
  | succ n ih =>
      have hcut := cutText_alike hσ ht false
      unfold texts
      revert hcut
      generalize cutText false t = o
      generalize cutText false u = o'
      rintro (⟨⟨hl, hrest⟩⟩ | _)
      · exact ih (h.give_text (hσ.stripQuotes hl)) hrest
      · exact ⟨h, .nil⟩

end

/-! ### Tokens -/

/-- Alike characters begin a token, or neither does. -/
theorem begins_alike (hσ : IsLikeness σ) (hx : σ x x') : begins x = begins x' := by
  unfold begins
  rw [hσ.upper_eq hx]

/-- Readings that resemble each other, of which the same parameters are asked for: texts only for
the head. -/
inductive Asks (σ : Char → Char → Prop) (τ : Text → Text → Prop) :
    Reading × Wanted → Reading × Wanted → Prop where
  | nothing {r q : Reading} : r.Resembles σ τ q → Asks σ τ (r, .nothing) (q, .nothing)
  | numbers {r q : Reading} (n : Nat) (a : Address) :
      r.Resembles σ τ q → Asks σ τ (r, .numbers n a) (q, .numbers n a)
  | texts {r q : Reading} (n : Nat) :
      r.Resembles σ τ q → Asks σ τ (r, .texts n .head) (q, .texts n .head)

/-- The parameters of a token are taken alike from alike texts. -/
theorem parameters_alike (hσ : IsLikeness σ) (hτ : IsTold τ) (honourRadix : Bool) (k : Int)
    {p p' : Reading × Wanted} (h : Asks σ τ p p') (ht : List.Forall₂ σ t u) :
    Matches (fun p p' => p.1.Resembles σ τ p'.1 ∧ List.Forall₂ σ p.2 p'.2) k
      (parameters honourRadix p.2 p.1 t) (parameters honourRadix p'.2 p'.1 u) := by
  cases h with
  | nothing h => exact .ok ⟨h, ht⟩
  | numbers n a h => exact numbers_alike hσ hτ honourRadix a n k h ht
  | texts n h => exact .ok (texts_alike hσ n h ht)

section

variable (hτ : IsTold τ)
include hτ

/-- A frame is started or ended in both readings, or in neither. -/
theorem frame_alike (h : r.Resembles σ τ q) (x y : Char) (pos : Int) (k : Int) :
    Matches (Asks σ τ) k (frame r x y pos) (frame q x y (pos + k)) := by
  have hstart : ∀ (empty : Bool) (told : Text),
      Asks σ τ (startFrame r empty told) (startFrame q empty told) := by
    intro empty told
    unfold startFrame
    rw [h.frames]
    refine .numbers 1 _ (Reading.Resembles.tell ?_ hτ rfl)
    exact ⟨rfl, h.document, h.iterations, h.trace⟩
  have hend : ∀ i, Matches (Reading.Resembles σ τ) k (endFrame r i) (endFrame q i) := by
    intro i
    unfold endFrame
    rw [h.frames]
    refine Reading.Resembles.tellLines (Reading.Resembles.tell ?_ hτ rfl) hτ k ?_
    · exact ⟨rfl, h.document, h.iterations, h.trace⟩
    · intro x hx
      cases hf : (q.frames.modify i Node.close)[i]? with
      | none =>
          rw [hf] at hx
          exact absurd hx List.not_mem_nil
      | some f =>
          rw [hf] at hx
          exact Scanner.failsByLength_closingCaptions hx
  unfold frame
  rw [h.frames]
  cases ho : CueList.lastOpenIndex q.frames with
  | error f => exact .other fun m pos => Scanner.lastOpenIndex_ne_misread ho m pos
  | ok o =>
      cases o with
      | none =>
          dsimp only
          split
          · exact .ok (hstart _ _)
          · split
            · exact .ok (hstart _ _)
            · exact .misread _ _
      | some i =>
          dsimp only
          split
          · exact .misread _ _
          · exact (hend i).map fun _ _ h => .nothing h

/-- A channel write is added to the open frame of both readings, or of neither. -/
theorem write_alike (h : r.Resembles σ τ q) (pos : Int) (k : Int) :
    Matches (Asks σ τ) k (write r pos) (write q (pos + k)) := by
  unfold write
  rw [h.frames]
  cases ho : CueList.lastOpenIndex q.frames with
  | error f => exact .other fun m pos => Scanner.lastOpenIndex_ne_misread ho m pos
  | ok o =>
      cases o with
      | none => exact .misread _ _
      | some i =>
          refine .ok (.numbers 2 _ (Reading.Resembles.tell ?_ hτ rfl))
          exact ⟨rfl, h.document, h.iterations, h.trace⟩

/-- The heads of both readings are made if they are missing, and ask for the same. -/
theorem head_alike (h : r.Resembles σ τ q) {l : Kind}
    (hl : l = .newPredefinedHead 0 ∨ l = .newLinkedHead) (told : Text) {f : Node → Wanted}
    (hf : ∀ n m : Node, ∀ r' q' : Reading, n.Resembles σ m → r'.Resembles σ τ q' →
      Asks σ τ (r', f n) (q', f m)) (pos : Int) (k : Int) :
    Matches (Asks σ τ) k (head r l told f pos) (head q l told f (pos + k)) := by
  have hfresh : (Node.leaf l).Resembles σ (.leaf l) := by
    rcases hl with rfl | rfl
    · exact .predefined .nil
    · exact .linked .nil .nil
  unfold head
  have hdoc := h.document
  revert hdoc
  generalize r.document = o
  generalize q.document = o'
  rintro (@⟨d, e, hde⟩ | _)
  · have hn : (d.head.getD (.leaf l)).Resembles σ (e.head.getD (.leaf l)) := by
      obtain ⟨dh, db⟩ := d
      obtain ⟨eh, eb⟩ := e
      obtain ⟨hhead, -⟩ := hde
      cases hhead with
      | none => exact hfresh
      | some hn => exact hn
    refine .ok (hf _ _ _ _ hn (Reading.Resembles.tell ?_ hτ rfl))
    exact ⟨h.frames, .some ⟨.some hn, hde.body⟩, h.iterations, h.trace⟩
  · exact .misread _ _

/-- **Alike tokens do the same to readings that resemble each other.** -/
theorem token_alike (hσ : IsLikeness σ) (h : r.Resembles σ τ q) (hx : σ x x') (hy : σ y y')
    (pos : Int) (k : Int) :
    Matches (Asks σ τ) k (token r x y pos) (token q x' y' (pos + k)) := by
  have hux := hσ.upper_eq hx
  have huy := hσ.upper_eq hy
  have hsame : ∀ {r' q' : Reading}, r'.Resembles σ τ q' →
      Matches (Asks σ τ) k (.ok (r', .nothing)) (.ok (q', .nothing)) := fun h => .ok (.nothing h)
  unfold token
  rw [← hux, ← huy]
  split
  · refine hsame ?_
    split
    · exact h.tell hτ rfl
    · exact h
  · next hk =>
    split
    · next hf =>
      rw [hσ.eq_of_frame hx (.inl hk), hσ.eq_of_frame hy (.inr hf)]
      exact frame_alike hτ h x' y' pos k
    · exact hsame h
  · split
    · exact write_alike hτ h pos k
    · exact hsame h
  · refine hsame ?_
    split
    · exact h.tell hτ rfl
    · split
      · exact h.tell hτ rfl
      · exact h
  · refine hsame ?_
    split
    · exact (h.iterate _).tell hτ rfl
    · split
      · exact h.tell hτ rfl
      · exact h
  · refine hsame ?_
    split
    · exact (h.iterate _).tell hτ rfl
    · exact h
  · split
    · refine hsame (Reading.Resembles.tell ?_ hτ rfl)
      exact ⟨h.frames, .some ⟨.none, rfl⟩, h.iterations, h.trace⟩
    · split
      · exact head_alike hτ h (.inl rfl) _ (fun _ _ _ _ _ hr => .numbers 1 .head hr) pos k
      · split
        · refine head_alike hτ h (.inr rfl) _ (fun n m r' q' hn hr => ?_) pos k
          rw [hn.cls_eq]
          exact .texts _ hr
        · exact hsame h
  · exact hsame h

end

/-! ### The whole text -/

/-- With so many characters left at most, alike texts are read alike from readings that resemble
each other. -/
def ReadsAlike (σ : Char → Char → Prop) (τ : Text → Text → Prop) (honourRadix : Bool)
    (size k n : Nat) : Prop :=
  ∀ ⦃r q : Reading⦄ ⦃t u : Text⦄, t.length ≤ n → r.Resembles σ τ q → List.Forall₂ σ t u →
    Matches (Reading.Resembles σ τ) k (read honourRadix size r t) (read honourRadix (size + k) q u)

section

variable {honourRadix : Bool} {size n : Nat}
variable (hσ : IsLikeness σ) (hτ : IsTold τ) (h : r.Resembles σ τ q) (ht : List.Forall₂ σ t u)
include hσ hτ h ht

theorem ReadsAlike.quote (ha : ReadsAlike σ τ honourRadix size k t.length)
    (hx : σ '"' '"') :
    Matches (Reading.Resembles σ τ) k (read honourRadix size r ('"' :: t))
      (read honourRadix (size + k) q ('"' :: u)) := by
  obtain ⟨htake, hdrop⟩ := hσ.takeWhile_ne (e := '"') rfl ⟨rfl, rfl⟩ ht
  rw [read_quote, read_quote]
  refine ha (length_drop_dropWhile_le _ _) (h.tell hτ ?_) (List.forall₂_drop 1 hdrop)
  exact hσ.uppercase_eq (.cons hx (List.rel_append htake (List.forall₂_take 1 hdrop)))

theorem ReadsAlike.number (ha : ReadsAlike σ τ honourRadix size k t.length) (hy : σ y y') :
    Matches (Reading.Resembles σ τ) k (read honourRadix size r ('0' :: y :: t))
      (read honourRadix (size + k) q ('0' :: y' :: u)) := by
  rw [read_number, read_number, ← hσ.upper_eq hy]
  split
  · exact ha (Nat.le_refl _) (h.tell hτ rfl) ht
  · obtain ⟨htake, hdrop⟩ := hσ.takeWhile_ne (e := ';') rfl ⟨rfl, rfl⟩ ht
    refine ha (length_drop_dropWhile_le _ _) (h.tell hτ ?_) (List.forall₂_drop 1 hdrop)
    simp only [uppercase_cons, hσ.uppercase_eq htake]

theorem ReadsAlike.token (ha : ReadsAlike σ τ honourRadix size k t.length) (hx : σ x x')
    (hy : σ y y') (hq : x ≠ '"') (h0 : x ≠ '0') (hb : begins x = true) :
    Matches (Reading.Resembles σ τ) k (read honourRadix size r (x :: y :: t))
      (read honourRadix (size + k) q (x' :: y' :: u)) := by
  have hq' : x' ≠ '"' := fun e => hq ((hσ.eq_quote_iff hx).mpr e)
  have h0' : x' ≠ '0' := fun e => h0 ((hσ.eq_zero_iff hx).mpr e)
  have hb' : begins x' = true := begins_alike hσ hx ▸ hb
  have hpos : ((size + k : Nat) : Int) - u.length - 1 = size - t.length - 1 + k := by
    rw [ht.length_eq]
    omega
  have htoken := token_alike hτ hσ h hx hy (size - t.length - 1) k
  rw [read_token _ _ _ _ y hq h0 hb, read_token _ _ _ _ y' hq' h0' hb', hpos]
  revert htoken
  generalize Forward.token r x y _ = o
  generalize Forward.token q x' y' _ = o'
  rintro (@⟨⟨p, w⟩, ⟨p', w'⟩, hp⟩ | ⟨m, pos⟩ | hf)
  · have hparameters := parameters_alike hσ hτ honourRadix k hp ht
    dsimp only at hparameters ⊢
    cases hread : parameters honourRadix w p t with
    | error f =>
        rw [hread] at hparameters
        generalize parameters honourRadix w' p' u = o at hparameters ⊢
        cases hparameters with
        | misread m pos => exact .misread m pos
        | other hf => exact .other hf
    | ok v =>
        rw [hread] at hparameters
        generalize parameters honourRadix w' p' u = o at hparameters ⊢
        cases hparameters with
        | ok hv => exact ha (length_of_parameters hread) hv.1 hv.2
  · exact .misread m pos
  · exact .other hf

/-- **Alike texts are read alike**, from readings that resemble each other. -/
theorem read_alike (honourRadix : Bool) (size k : Nat) :
    Matches (Reading.Resembles σ τ) k (read honourRadix size r t)
      (read honourRadix (size + k) q u) := by
  suffices ha : ∀ n, ReadsAlike σ τ honourRadix size k n from ha t.length (Nat.le_refl _) h ht
  clear h ht
  intro n
  induction n using Nat.strongRecOn with
  | ind n ih =>
  intro r q t u hn h ht
  cases ht with
  | nil =>
      rw [read_nil, read_nil]
      exact .ok h
  | @cons x x' t u hx ht =>
  have ha : ReadsAlike σ τ honourRadix size k t.length := ih _ hn
  by_cases hq : x = '"'
  · obtain rfl := hq
    obtain rfl := (hσ.eq_quote_iff hx).mp rfl
    exact ha.quote hσ hτ h ht hx
  have hq' : x' ≠ '"' := fun e => hq ((hσ.eq_quote_iff hx).mpr e)
  have hiff := hσ.eq_zero_iff hx
  by_cases hs : x = '0' ∨ begins x = true
  · have hs' : x' = '0' ∨ begins x' = true := begins_alike hσ hx ▸ hs.imp_left hiff.mp
    cases ht with
    | nil =>
        -- the first character of a token or of a number is the last one of the text
        rw [read_single _ _ _ hq hs, read_single _ _ _ hq' hs']
        exact .ok h
    | @cons y y' t u hy ht =>
        have ha : ReadsAlike σ τ honourRadix size k t.length := ih _ (Nat.lt_of_succ_lt hn)
        by_cases h0 : x = '0'
        · obtain rfl := h0
          obtain rfl := hiff.mp rfl
          exact ha.number hσ hτ h ht hy
        · exact ha.token hσ hτ h ht hx hy hq h0 (hs.resolve_left h0)
  · obtain ⟨h0, hb⟩ := not_or.mp hs
    have hb : begins x = false := Bool.eq_false_iff.mpr hb
    have hb' : begins x' = false := begins_alike hσ hx ▸ hb
    rw [read_stray _ _ _ _ hq h0 hb, read_stray _ _ _ _ hq' (fun e => h0 (hiff.mpr e)) hb']
    exact ha (Nat.le_refl _) (h.tell hτ (by rw [hσ.upper_eq hx])) ht

end

end Forward

end StageCues
