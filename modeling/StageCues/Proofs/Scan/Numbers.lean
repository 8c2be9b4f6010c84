import StageCues.Proofs.Scan.Gist
import StageCues.Proofs.Text.Numeral

/-!
# Scan — elements without their numbers

A scanner is `unnumbered` when the numbers that were given to its elements are taken out, and with
them what it has told, which shows them.  All that a character does to a scanner, but for numbers,
can be seen from the unnumbered one: the search for an open frame, the addresses of elements, the
class of a head and the memory of what an element has received do not depend on numbers.  So
scanners that are the same but for numbers do the same with a character (`react_unnumbered_congr`),
even if each takes another number from its literal.

There is one thing that depends on numbers: one that goes beyond the limit of base ten can stop a
scanner where another one does not.  Two results are `Abreast` if they are the same but for numbers,
or if the limit stopped one of them.
-/

namespace StageCues

open Text

/-- The kind with the numbers that can be given to it taken out. -/
def Kind.unnumbered : Kind → Kind
  | .forIteration start _ direction closed => .forIteration start 0 direction closed
  | .keyFrame _ empty closed => .keyFrame 0 empty closed
  | .delay _ _ => .delay 0 0
  | .channelData _ _ received => .channelData 0 0 received
  | .predefinedHead _ _ title versioned => .predefinedHead .empty 0 title versioned
  | .linkedHead _ title path titled => .linkedHead .empty title path titled
  | k => k

/-- The node with the numbers of itself and of its children taken out. -/
def Node.unnumbered (n : Node) : Node where
  kind := n.kind.unnumbered
  children := n.children.map fun w => { w with kind := w.kind.unnumbered }

/-- Two parameters that are both numbers, or the same text. -/
inductive Parameter.Alike : Parameter → Parameter → Prop where
  | numbers (m n : Int) : Alike (.number m) (.number n)
  | texts (t : Text) : Alike (.text t) (.text t)

variable {p q : Parameter}

theorem Parameter.alike_refl (p : Parameter) : p.Alike p := by
  cases p with
  | number n => exact .numbers n n
  | text t => exact .texts t

/-! ### Elements without their numbers -/

namespace Kind

variable {k l : Kind}

theorem closed_unnumbered (k : Kind) : k.unnumbered.closed = k.closed := by
  cases k <;> rfl

theorem unnumbered_close (k : Kind) : k.close.unnumbered = k.unnumbered.close := by
  cases k <;> rfl

/-- The numbers of a kind do not matter to what it becomes by a parameter, but for its numbers, and
neither does the parameter if it is a number. -/
theorem unnumbered_receive (k : Kind) (h : p.Alike q) :
    (k.receive p).unnumbered = (k.unnumbered.receive q).unnumbered := by
  cases h with
  | numbers m n =>
      cases k with
      | predefinedHead version id title versioned => cases versioned <;> rfl
      | _ => rfl
  | texts t =>
      cases k with
      | predefinedHead version id title versioned => cases versioned <;> rfl
      | linkedHead version title path titled => cases titled <;> rfl
      | _ => rfl

/-- **Kinds that are the same but for numbers stay so when they receive a number each.** -/
theorem receive_congr (h : p.Alike q) (hk : k.unnumbered = l.unnumbered) :
    (k.receive p).unnumbered = (l.receive q).unnumbered := by
  rw [k.unnumbered_receive h, l.unnumbered_receive q.alike_refl, hk]

end Kind

/-- Changes of one member that are the same through a function. -/
theorem map_modify_congr {α β : Type} {g : α → β} {f f' : α → α}
    (h : ∀ x y, g x = g y → g (f x) = g (f' y)) {l m : List α} (hl : l.map g = m.map g) (i : Nat) :
    (l.modify i f).map g = (m.modify i f').map g := by
  induction l generalizing m i with
  | nil =>
      obtain rfl := List.map_eq_nil_iff.mp hl.symm
      cases i <;> rfl
  | cons x l ih =>
      cases m with
      | nil => cases hl
      | cons y m =>
          obtain ⟨hxy, hl⟩ := List.cons.inj hl
          cases i with
          | zero => simp only [List.modify_zero_cons, List.map_cons, h x y hxy, hl]
          | succ i => simp only [List.modify_succ_cons, List.map_cons, hxy, ih hl i]

/-- The same of a value that may be missing. -/
theorem map_option_congr {α β : Type} {g : α → β} {f f' : α → α}
    (h : ∀ x y, g x = g y → g (f x) = g (f' y)) {x y : Option α} (hxy : x.map g = y.map g) :
    (x.map f).map g = (y.map f').map g := by
  cases x with
  | none =>
      rw [Option.map_eq_none_iff.mp hxy.symm]
      rfl
  | some a =>
      obtain ⟨b, rfl, hb⟩ := Option.map_eq_some_iff.mp hxy.symm
      exact congrArg some (h a b hb.symm)

namespace Node

variable {n m : Node}

theorem unnumbered_eq_iff : n.unnumbered = m.unnumbered ↔
    n.kind.unnumbered = m.kind.unnumbered ∧
      n.children.map (fun w => { w with kind := w.kind.unnumbered : Node }) =
        m.children.map fun w => { w with kind := w.kind.unnumbered } := by
  unfold unnumbered
  rw [Node.mk.injEq]

/-- Taking the numbers out does not change the class. -/
theorem cls_congr (h : n.unnumbered = m.unnumbered) : n.cls = m.cls := by
  have key : ∀ k : Kind, k.unnumbered.cls = k.cls := by
    intro k
    cases k <;> rfl
  unfold cls
  rw [← key, (unnumbered_eq_iff.mp h).1, key]

theorem close_congr (h : n.unnumbered = m.unnumbered) :
    n.close.unnumbered = m.close.unnumbered := by
  rw [unnumbered_eq_iff] at h ⊢
  exact ⟨by simp only [close, Kind.unnumbered_close, h.1], h.2⟩

theorem push_congr (h : n.unnumbered = m.unnumbered) (w : Node) :
    (n.push w).unnumbered = (m.push w).unnumbered := by
  rw [unnumbered_eq_iff] at h ⊢
  exact ⟨h.1, by simp only [children_push, List.map_append, h.2]⟩

theorem receive_congr (hp : p.Alike q) (h : n.unnumbered = m.unnumbered) :
    (n.receive p).unnumbered = (m.receive q).unnumbered := by
  rw [unnumbered_eq_iff] at h ⊢
  exact ⟨Kind.receive_congr hp h.1, h.2⟩

/-- The same of a parameter for one of the children. -/
theorem receiveAt_congr (hp : p.Alike q) (h : n.unnumbered = m.unnumbered) (j : Nat) :
    unnumbered { n with children := n.children.modify j fun w => w.receive p } =
      unnumbered { m with children := m.children.modify j fun w => w.receive q } := by
  rw [unnumbered_eq_iff] at h ⊢
  refine ⟨h.1, map_modify_congr (fun v w hvw => ?_) h.2 j⟩
  rw [Node.mk.injEq] at hvw ⊢
  exact ⟨Kind.receive_congr hp hvw.1, hvw.2⟩

end Node

/-- Which frame is open does not depend on numbers. -/
theorem lastOpenIndex_congr {fs gs : List Node}
    (h : fs.map Node.unnumbered = gs.map Node.unnumbered) :
    CueList.lastOpenIndex fs = CueList.lastOpenIndex gs := by
  have key : ∀ fs : List Node,
      CueList.lastOpenIndex (fs.map Node.unnumbered) = CueList.lastOpenIndex fs := by
    intro fs
    unfold CueList.lastOpenIndex
    induction fs with
    | nil => rfl
    | cons f fs ih =>
        simp only [List.map_cons, lastOpenIndexBy] at ih ⊢
        rw [ih, show f.unnumbered.kind.closed = f.kind.closed from f.kind.closed_unnumbered]
  rw [← key, h, key]

namespace Scanner

/-- The scanner without the numbers of its elements, and without what it has told. -/
def unnumbered (s : Scanner) : Scanner :=
  { s with
    honourRadix := false
    frames := s.frames.map Node.unnumbered
    document := s.document.map fun d => { d with head := d.head.map Node.unnumbered }
    trace := [] }

variable {s t : Scanner} {c : Char}

/-- What is left of a scanner without the numbers is the rest of it as it is. -/
theorem unnumbered_eq_iff : s.unnumbered = t.unnumbered ↔
    s.cursor = t.cursor ∧ s.mode = t.mode ∧ s.previous = t.previous ∧ s.awaiting = t.awaiting ∧
      s.frames.map Node.unnumbered = t.frames.map Node.unnumbered ∧
      (s.document.map fun d => ({ d with head := d.head.map Node.unnumbered } : Document)) =
        (t.document.map fun d => { d with head := d.head.map Node.unnumbered }) ∧
      s.iterations = t.iterations ∧ s.notes = t.notes := by
  unfold unnumbered
  simp only [Scanner.mk.injEq, true_and]

/-- The scanner that has told nothing. -/
def muted (s : Scanner) : Scanner := { s with trace := [] }

/-- What is done to a scanner without a look at its elements or at what it has told is done to it
without the numbers. -/
theorem congr_of_muted {f : Scanner → Scanner} (hf : ∀ u, (f u).unnumbered = (f u.unnumbered).muted)
    (h : s.unnumbered = t.unnumbered) : (f s).unnumbered = (f t).unnumbered := by
  rw [hf, hf t, h]

theorem tell_congr (h : s.unnumbered = t.unnumbered) (u v : Text) :
    (s.tell u).unnumbered = (t.tell v).unnumbered := h

theorem enter_congr (h : s.unnumbered = t.unnumbered) (m : Mode) :
    (s.enter m).unnumbered = (t.enter m).unnumbered :=
  congr_of_muted (f := fun u => u.enter m) (fun _ => rfl) h

theorem error_congr (h : s.unnumbered = t.unnumbered) (f : Fault) :
    through unnumbered (.error ⟨f, s⟩) = through unnumbered (.error ⟨f, t⟩) := by
  simp only [through, h]

theorem misread_congr (h : s.unnumbered = t.unnumbered) (m : Misreading) :
    through unnumbered (.error (s.misread m)) = through unnumbered (.error (t.misread m)) := by
  have hpos : s.pos = t.pos := congrArg Cursor.pos (unnumbered_eq_iff.mp h).1
  unfold misread
  rw [hpos]
  exact error_congr h _

theorem length_frames_congr (h : s.unnumbered = t.unnumbered) :
    s.frames.length = t.frames.length := by
  obtain ⟨-, -, -, -, hf, -⟩ := unnumbered_eq_iff.mp h
  simpa using congrArg List.length hf

/-! ### What builds no elements with numbers -/

theorem unnumbered_onRest (s : Scanner) (c : Char) :
    (s.onRest c).unnumbered = (s.unnumbered.onRest c).muted := by
  unfold onRest
  split <;> rfl

theorem unnumbered_onLetterC (s : Scanner) (c : Char) :
    (s.onLetterC c).unnumbered = (s.unnumbered.onLetterC c).muted := by
  unfold onLetterC
  split <;> rfl

theorem unnumbered_onLetterW (s : Scanner) (c : Char) :
    (s.onLetterW c).unnumbered = (s.unnumbered.onLetterW c).muted := by
  unfold onLetterW
  split
  · rfl
  · split <;> rfl

theorem unnumbered_onLetterF (s : Scanner) (c : Char) :
    (s.onLetterF c).unnumbered = (s.unnumbered.onLetterF c).muted := by
  unfold onLetterF
  split
  · rfl
  · split <;> rfl

theorem unnumbered_onLetterI (s : Scanner) (c : Char) :
    (s.onLetterI c).unnumbered = (s.unnumbered.onLetterI c).muted := by
  unfold onLetterI
  split <;> rfl

theorem unnumbered_onNumber (s : Scanner) (c : Char) :
    (s.onNumber c).unnumbered = (s.unnumbered.onNumber c).muted := by
  unfold onNumber
  split <;> rfl

theorem unnumbered_onDigits (s : Scanner) (c : Char) :
    (s.onDigits c).unnumbered = (s.unnumbered.onDigits c).muted := by
  unfold onDigits
  split <;> rfl

theorem unnumbered_onWaitNumber (s : Scanner) (c : Char) :
    (s.onWaitNumber c).unnumbered = (s.unnumbered.onWaitNumber c).muted := by
  unfold onWaitNumber gather markStart
  by_cases hs : s.awaiting.literal.start = none
  · simp only [unnumbered, hs, if_true, enter, keep, pos, Cursor.markHere]
    split
    · split <;> rfl
    · split <;> rfl
  · simp only [unnumbered, hs, if_false, enter, keep, pos]
    split
    · split <;> rfl
    · split <;> rfl

theorem unnumbered_onWaitText (s : Scanner) (c : Char) :
    (s.onWaitText c).unnumbered = (s.unnumbered.onWaitText c).muted := by
  unfold onWaitText gather markStart
  by_cases hs : s.awaiting.literal.start = none
  · simp only [unnumbered, hs, if_true]
    split <;> rfl
  · simp only [unnumbered, hs, if_false]
    split <;> rfl

/-! ### What builds elements -/

theorem addFrame_congr (h : s.unnumbered = t.unnumbered) (empty : Bool) :
    (s.addFrame empty).unnumbered = (t.addFrame empty).unnumbered := by
  have hlen := length_frames_congr h
  obtain ⟨hc, -, hp, -, hf, hd, hi, hn⟩ := unnumbered_eq_iff.mp h
  rw [unnumbered_eq_iff]
  refine ⟨hc, rfl, hp, ?_, ?_, hd, hi, ?_⟩
  · show Awaiting.expect 1 (some (Address.frame s.frames.length)) =
      .expect 1 (some (.frame t.frames.length))
    rw [hlen]
  · show (s.frames ++ [_]).map Node.unnumbered = (t.frames ++ [_]).map Node.unnumbered
    rw [List.map_append, List.map_append, hf]
  · show s.notes ++ [.frameAdded (s.frames ++ [_]).length s.cursor.pos] =
      t.notes ++ [.frameAdded (t.frames ++ [_]).length t.cursor.pos]
    rw [hn, hc, List.length_append, List.length_append, hlen]

/-- Whether the limit of base ten stopped a run. -/
def overlong : Except Halt Scanner → Bool
  | .error h => h.fault.isOverlong
  | .ok _ => false

/-- Two results that are the same but for numbers, as far as the limit of base ten lets them get. -/
inductive Abreast (x y : Except Halt Scanner) : Prop where
  | same : through unnumbered x = through unnumbered y → Abreast x y
  | left : overlong x = true → Abreast x y
  | right : overlong y = true → Abreast x y

theorem Abreast.symm {x y : Except Halt Scanner} (h : Abreast x y) : Abreast y x := by
  cases h with
  | same h => exact .same h.symm
  | left h => exact .right h
  | right h => exact .left h

/-- Captions that cannot all be told stop the scanner at the limit. -/
theorem overlong_of_tellLines {f : Option Node} {k : Halt}
    (e : s.tellLines (f.elim [] closingCaptions) = .error k) : k.fault = .tooLong := by
  obtain ⟨hmem, -⟩ := tellLines_eq_error e
  cases f with
  | none => cases hmem
  | some f => exact failsByLength_closingCaptions hmem _ rfl

theorem closeFrame_congr (h : s.unnumbered = t.unnumbered) (i : Nat) :
    (s.closeFrame i).unnumbered = (t.closeFrame i).unnumbered := by
  obtain ⟨hc, hm, hp, ha, hf, hd, hi, hn⟩ := unnumbered_eq_iff.mp h
  refine unnumbered_eq_iff.mpr ⟨hc, hm, hp, ha, ?_, hd, hi, hn⟩
  exact map_modify_congr (g := Node.unnumbered) (fun _ _ => Node.close_congr) hf i

/-- **A frame ends where another one would**, unless a number in either is too long to be told. -/
theorem endFrame_congr (h : s.unnumbered = t.unnumbered) : Abreast s.endFrame t.endFrame := by
  have ho := lastOpenIndex_congr (unnumbered_eq_iff.mp h).2.2.2.2.1
  unfold endFrame openFrame
  rw [ho]
  cases CueList.lastOpenIndex t.frames with
  | error f => exact .same (error_congr h f)
  | ok i =>
      cases i with
      | none => exact .same (misread_congr h _)
      | some i =>
          have hclosed := closeFrame_congr h i
          cases hs : (s.closeFrame i).tellLines
              ((s.closeFrame i).frames[i]?.elim [] closingCaptions) with
          | error k =>
              refine .left ?_
              show overlong (_ <$> _) = true
              rw [hs]
              exact congrArg Fault.isOverlong (overlong_of_tellLines hs)
          | ok u =>
              cases ht : (t.closeFrame i).tellLines
                  ((t.closeFrame i).frames[i]?.elim [] closingCaptions) with
              | error k =>
                  refine .right ?_
                  show overlong (_ <$> _) = true
                  rw [ht]
                  exact congrArg Fault.isOverlong (overlong_of_tellLines ht)
              | ok v =>
                  refine .same ?_
                  show through unnumbered (_ <$> _) = through unnumbered (_ <$> _)
                  rw [hs, ht]
                  obtain ⟨-, a, rfl⟩ := tellLines_eq_ok hs
                  obtain ⟨-, b, rfl⟩ := tellLines_eq_ok ht
                  exact congrArg Except.ok (enter_congr (tell_congr hclosed a b) .rest)

theorem addWrite_congr (h : s.unnumbered = t.unnumbered) :
    through unnumbered s.addWrite = through unnumbered t.addWrite := by
  obtain ⟨hc, hm, hp, ha, hf, hd, hi, hn⟩ := unnumbered_eq_iff.mp h
  have ho := lastOpenIndex_congr hf
  unfold addWrite openFrame
  rw [ho]
  cases CueList.lastOpenIndex t.frames with
  | error f => exact error_congr h f
  | ok i =>
      cases i with
      | none => exact misread_congr h _
      | some i =>
          -- the frame has as many children with the numbers as without
          have hget := congrArg (fun fs : List Node => (fs[i]?).map fun f => f.children.length) hf
          simp only [List.getElem?_map, Option.map_map, Function.comp_def, Node.unnumbered,
            List.length_map] at hget
          have hframes := map_modify_congr
            (fun _ _ hxy => Node.push_congr hxy (.leaf (.newChannelData 0 0))) hf i
          refine congrArg Except.ok (unnumbered_eq_iff.mpr ⟨hc, rfl, hp, ?_, hframes, hd, hi, hn⟩)
          refine congrArg (fun j => Awaiting.expect 2 (some (Address.write i j))) ?_
          cases hs : s.frames[i]? <;> cases ht : t.frames[i]? <;> simp_all

theorem onLetterK_congr (h : s.unnumbered = t.unnumbered) (c : Char) :
    Abreast (s.onLetterK c) (t.onLetterK c) := by
  obtain ⟨-, -, hp, -, hf, -⟩ := unnumbered_eq_iff.mp h
  have ho := lastOpenIndex_congr hf
  have start : ∀ (u : Text) (empty : Bool),
      through unnumbered (do s.requireClosed; return (s.tellLine u).addFrame empty) =
        through unnumbered (do t.requireClosed; return (t.tellLine u).addFrame empty) := by
    intro u empty
    unfold requireClosed
    rw [ho]
    cases CueList.lastOpenIndex t.frames with
    | error f => exact error_congr h f
    | ok i =>
        cases i with
        | none => exact congrArg Except.ok (addFrame_congr (tell_congr h _ _) empty)
        | some i => exact misread_congr h _
  unfold onLetterK
  rw [hp]
  split
  · exact .same (congrArg Except.ok (congr_of_muted
      (f := fun u => (u.keep (.strangeToken c u.pos)).enter .rest) (fun _ => rfl) h))
  · split
    · exact .same (start _ _)
    · split
      · exact .same (start _ _)
      · exact endFrame_congr h

theorem onLetterB_congr (h : s.unnumbered = t.unnumbered) (c : Char) :
    through unnumbered (s.onLetterB c) = through unnumbered (t.onLetterB c) := by
  unfold onLetterB
  split
  · exact addWrite_congr (tell_congr h _ _)
  · exact congrArg Except.ok (enter_congr h _)

/-- The head is missing in both documents, or has the same class in both. -/
theorem withHead_congr (h : s.unnumbered = t.unnumbered) (k : Kind) :
    s.withHead k = .error (s.misread .noDocument) ∧ t.withHead k = .error (t.misread .noDocument) ∨
      ∃ u v x y, s.withHead k = .ok (u, x) ∧ t.withHead k = .ok (v, y) ∧
        u.unnumbered = v.unnumbered ∧ x.cls = y.cls := by
  obtain ⟨hc, hm, hp, ha, hf, hd, hi, hn⟩ := unnumbered_eq_iff.mp h
  unfold withHead
  cases hs : s.document with
  | none =>
      rw [hs] at hd
      have ht : t.document = none := Option.map_eq_none_iff.mp hd.symm
      rw [ht]
      exact .inl ⟨rfl, rfl⟩
  | some d =>
      rw [hs] at hd
      obtain ⟨e, ht, hde⟩ := Option.map_eq_some_iff.mp hd.symm
      rw [ht]
      obtain ⟨hhead, hbody⟩ := DocumentOf.mk.inj hde
      have hx : (d.head.getD (.leaf k)).unnumbered = (e.head.getD (.leaf k)).unnumbered := by
        cases hdh : d.head <;> cases heh : e.head <;> simp_all
      refine .inr ⟨_, _, _, _, rfl, rfl, unnumbered_eq_iff.mpr ⟨hc, hm, hp, ha, hf, ?_, hi, hn⟩, ?_⟩
      · show some _ = some _
        simp only [Option.map_some, hx, hbody]
      · exact Node.cls_congr hx

theorem await_congr (h : s.unnumbered = t.unnumbered) (n : Int) (a : Address) :
    (s.await n a).unnumbered = (t.await n a).unnumbered :=
  congr_of_muted (f := fun u => u.await n a) (fun _ => rfl) h

theorem onCommand_congr (h : s.unnumbered = t.unnumbered) (c : Char) :
    through unnumbered (s.onCommand c) = through unnumbered (t.onCommand c) := by
  -- what a head is told before it is looked for is no part of the scanner without the numbers
  have head : ∀ (u : Text) (k : Kind) (n : Node → Int) (m : Mode),
      (∀ x y : Node, x.cls = y.cls → n x = n y) →
      through unnumbered ((s.tellLine u).withHead k >>= fun p =>
          return (p.1.await (n p.2) .head).enter m) =
        through unnumbered ((t.tellLine u).withHead k >>= fun p =>
          return (p.1.await (n p.2) .head).enter m) := by
    intro u k n m hn
    have hu : (s.tellLine u).unnumbered = (t.tellLine u).unnumbered := tell_congr h _ _
    rcases withHead_congr hu k with ⟨hs, ht⟩ | ⟨s', t', x, y, hs, ht, hst, hxy⟩
    · rw [hs, ht]
      exact misread_congr hu _
    · rw [hs, ht]
      show Except.ok _ = Except.ok _
      rw [hn x y hxy, enter_congr (await_congr hst _ _)]
  unfold onCommand
  split
  · obtain ⟨hc, hm, hp, ha, hf, -, hi, hn⟩ := unnumbered_eq_iff.mp h
    exact congrArg Except.ok (unnumbered_eq_iff.mpr ⟨hc, rfl, hp, ha, hf, rfl, hi, hn⟩)
  · split
    · exact head _ _ (fun _ => 1) _ fun _ _ _ => rfl
    · split
      · refine head _ _ (fun x => if x.cls.isA .linkedHead then 2 else 1) _ fun x y hxy => ?_
        rw [hxy]
      · exact congrArg Except.ok (enter_congr h _)

/-! ### What is delivered -/

/-- What is given to an element does not matter but for its numbers. -/
theorem give_congr (h : s.unnumbered = t.unnumbered) (hp : p.Alike q) (a : Address) :
    (s.give p a).unnumbered = (t.give q a).unnumbered := by
  obtain ⟨hc, hm, hpr, ha, hf, hd, hi, hn⟩ := unnumbered_eq_iff.mp h
  rw [unnumbered_eq_iff]
  cases a with
  | frame i =>
      refine ⟨hc, hm, hpr, ha, ?_, hd, hi, hn⟩
      exact map_modify_congr (g := Node.unnumbered) (fun _ _ => Node.receive_congr hp) hf i
  | write i j =>
      refine ⟨hc, hm, hpr, ha, ?_, hd, hi, hn⟩
      exact map_modify_congr (g := Node.unnumbered)
        (fun _ _ hxy => Node.receiveAt_congr hp hxy j) hf i
  | head =>
      refine ⟨hc, hm, hpr, ha, hf, ?_, hi, hn⟩
      refine map_option_congr (fun d e hde => ?_) hd
      obtain ⟨hhead, hbody⟩ := DocumentOf.mk.inj hde
      rw [DocumentOf.mk.injEq]
      exact ⟨map_option_congr (fun _ _ => Node.receive_congr hp) hhead, hbody⟩

/-- Both parameters have the same recipient, or none. -/
theorem recipient_congr (h : s.unnumbered = t.unnumbered) :
    (∃ a, s.recipient = .ok a ∧ t.recipient = .ok a) ∨
      ∃ k k', s.recipient = .error k ∧ t.recipient = .error k' ∧
        through unnumbered (.error k) = through unnumbered (.error k') := by
  obtain ⟨-, -, -, ha, hf, -⟩ := unnumbered_eq_iff.mp h
  have ho := lastOpenIndex_congr hf
  unfold recipient openFrame
  rw [ha, ho]
  cases t.awaiting.target with
  | some a => exact .inl ⟨a, rfl, rfl⟩
  | none =>
      cases CueList.lastOpenIndex t.frames with
      | error f => exact .inr ⟨_, _, rfl, rfl, error_congr h f⟩
      | ok i =>
          cases i with
          | none => exact .inr ⟨_, _, rfl, rfl, misread_congr h _⟩
          | some i => exact .inl ⟨_, rfl, rfl⟩

theorem deliver_congr (h : s.unnumbered = t.unnumbered) (hp : p.Alike q) (m : Mode) :
    through unnumbered (s.deliver p m) = through unnumbered (t.deliver q m) := by
  obtain ⟨hc, -, -, ha, -⟩ := unnumbered_eq_iff.mp h
  rcases recipient_congr h with ⟨a, hs, ht⟩ | ⟨k, k', hs, ht, hk⟩
  · have hg := give_congr h hp a
    by_cases hm : s.cursor.mark ≤ s.cursor.pos
    · rw [deliver_of_le hs hm, deliver_of_le ht (hc ▸ hm), ha, hc]
      exact congrArg Except.ok (congr_of_muted (f := fun u => { u with
        awaiting := t.awaiting.delivered
        cursor := { t.cursor with pos := t.cursor.pos - 1 }
        mode := if t.awaiting.hasMore then m else .rest }) (fun _ => rfl) hg)
    · have hm : s.cursor.pos < s.cursor.mark := by omega
      rw [deliver_of_lt hs hm, deliver_of_lt ht (hc ▸ hm), ha]
      exact error_congr (congr_of_muted
        (f := fun u => { u with awaiting := t.awaiting.delivered }) (fun _ => rfl) hg) _
  · rw [deliver_of_error hs, deliver_of_error ht]
    exact hk

/-- A literal that is not read has too many digits. -/
theorem overlong_onGotNumber {f : Fault}
    (e : s.awaiting.literal.asNumber s.honourRadix = .error f) :
    overlong s.onGotNumber = true := by
  unfold onGotNumber
  rw [e]
  obtain ⟨-, -, rfl⟩ := readNumber_eq_error e
  rfl

/-- **A number is delivered where another one would be**, unless either is too long to be read. -/
theorem onGotNumber_congr (h : s.unnumbered = t.unnumbered) :
    Abreast s.onGotNumber t.onGotNumber := by
  cases hs : s.awaiting.literal.asNumber s.honourRadix with
  | error f => exact .left (overlong_onGotNumber hs)
  | ok m =>
      cases ht : t.awaiting.literal.asNumber t.honourRadix with
      | error f => exact .right (overlong_onGotNumber ht)
      | ok n =>
          unfold onGotNumber
          rw [hs, ht]
          exact .same (deliver_congr h (.numbers m n) _)

theorem onGotText_congr (h : s.unnumbered = t.unnumbered) :
    through unnumbered s.onGotText = through unnumbered t.onGotText := by
  obtain ⟨-, -, -, ha, -⟩ := unnumbered_eq_iff.mp h
  unfold onGotText
  rw [ha]
  exact deliver_congr h (.texts _) _

theorem onNoNumber_congr (h : s.unnumbered = t.unnumbered) :
    through unnumbered s.onNoNumber = through unnumbered t.onNoNumber := by
  have hu := tell_congr h (line "There is no parameter.") (line "There is no parameter.")
  have hc : s.cursor = t.cursor := (unnumbered_eq_iff.mp h).1
  unfold onNoNumber
  by_cases hb : s.cursor.pos - 2 + 1 < s.cursor.mark
  · rw [goBack_of_lt (s := s.tellLine _) hb, goBack_of_lt (s := t.tellLine _) (hc ▸ hb)]
    exact error_congr hu _
  · have hb : s.cursor.mark ≤ s.cursor.pos - 2 + 1 := by omega
    rw [goBack_of_le (s := s.tellLine _) hb, goBack_of_le (s := t.tellLine _) (hc ▸ hb)]
    exact congrArg Except.ok (congr_of_muted (f := fun u => { u with
      cursor := { u.cursor with pos := u.cursor.pos - 2 }
      awaiting := .idle
      mode := .rest }) (fun _ => rfl) hu)

/-! ### Two scanners that are the same but for numbers -/

/-- **Scanners that are the same but for numbers do the same with a character, but for numbers**,
unless the limit stops one of them. -/
theorem react_unnumbered_congr (h : s.unnumbered = t.unnumbered) (c : Char) :
    Abreast (s.react c) (t.react c) := by
  obtain ⟨-, hm, -⟩ := unnumbered_eq_iff.mp h
  have simple : ∀ {f : Scanner → Scanner}, (∀ u, (f u).unnumbered = (f u.unnumbered).muted) →
      Abreast (.ok (f s)) (.ok (f t)) :=
    fun hf => .same (congrArg Except.ok (congr_of_muted hf h))
  unfold react
  rw [hm]
  split
  · exact simple (f := fun u => u.onRest c) fun u => unnumbered_onRest u c
  · exact simple (f := fun u => u.onLetterC c) fun u => unnumbered_onLetterC u c
  · exact onLetterK_congr h c
  · exact .same (onLetterB_congr h c)
  · exact simple (f := fun u => u.onLetterW c) fun u => unnumbered_onLetterW u c
  · exact simple (f := fun u => u.onLetterF c) fun u => unnumbered_onLetterF u c
  · exact simple (f := fun u => u.onLetterI c) fun u => unnumbered_onLetterI u c
  · exact simple (f := fun u => u.onQuotation c) fun _ => rfl
  · exact simple (f := fun u => u.onNumber c) fun u => unnumbered_onNumber u c
  · exact simple (f := fun u => u.onDigits c) fun u => unnumbered_onDigits u c
  · exact simple (f := fun u => u.onDigits c) fun u => unnumbered_onDigits u c
  · exact simple (f := fun u => u.onDigits c) fun u => unnumbered_onDigits u c
  · exact .same (onCommand_congr h c)
  · exact simple (f := fun u => u.onWaitNumber c) fun u => unnumbered_onWaitNumber u c
  · exact simple (f := fun u => u.onWaitText c) fun u => unnumbered_onWaitText u c
  · exact onGotNumber_congr h
  · exact .same (onGotText_congr h)
  · exact .same (onNoNumber_congr h)

end Scanner

end StageCues
