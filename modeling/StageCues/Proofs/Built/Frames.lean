import StageCues.Proofs.Scan.Load
import StageCues.Proofs.Text.Numeral
import StageCues.Reading

/-!
# Built — the frames

Whatever text is scanned, the cue list is made of frames: with times that are not negative, with
channel writes in range for their children, and with none if they are empty (`IsFrame`).  All of
them but the last are closed (`WellFramed`).

The scanner looks for an open frame whenever it starts or ends one or adds a write.  What it finds
in well-formed frames is the last one or none (`lastOpenIndex_opened`, `lastOpenIndex_closed`); so
each move keeps the frames well-formed (`wellFramed_move`), and with it each turn and each run.
-/

namespace StageCues

open Text

/-- A channel write in range. -/
inductive IsWrite : Node → Prop where
  | mk {c v k : Int} :
      0 ≤ c → c ≤ 65535 → 0 ≤ v → v ≤ 255 → IsWrite (.leaf (.channelData c v k))

/-- A frame, closed or not.  An empty one is closed and has no children. -/
inductive IsFrame : Bool → Node → Prop where
  | empty {d : Int} : 0 ≤ d → IsFrame true ⟨.keyFrame d true true, []⟩
  | full {d : Int} {b : Bool} {ws : List Node} :
      0 ≤ d → (∀ w ∈ ws, IsWrite w) → IsFrame b ⟨.keyFrame d false b, ws⟩

/-- Frames of which only the last may be open. -/
inductive WellFramed : List Node → Prop where
  | closed {fs : List Node} : (∀ f ∈ fs, IsFrame true f) → WellFramed fs
  | opened {fs : List Node} {f : Node} :
      (∀ f ∈ fs, IsFrame true f) → IsFrame false f → WellFramed (fs ++ [f])

/-- A parameter that is no negative number. -/
def Parameter.IsNatural (p : Parameter) : Prop := ∀ n, p = .number n → 0 ≤ n

/-! ### Changes of one node -/

section

variable {α : Type} {g : α → α}

/-- What every member has and the one that is changed still has, every member has after the
change. -/
theorem forall_mem_modify_at {P : α → Prop} {l : List α} {i : Nat} (h : ∀ x ∈ l, P x)
    (hg : ∀ x, l[i]? = some x → P (g x)) : ∀ x ∈ l.modify i g, P x := by
  intro x hx
  obtain ⟨j, hj⟩ := List.mem_iff_getElem?.mp hx
  rw [List.getElem?_modify] at hj
  cases hl : l[j]? with
  | none => rw [hl] at hj; cases hj
  | some y =>
      rw [hl] at hj
      obtain rfl := Option.some.inj hj
      split
      · next hij =>
        subst hij
        exact hg y hl
      · exact h y (List.mem_of_getElem? hl)

/-- What every member has and a change keeps, every member has after the change of one. -/
theorem forall_mem_modify {P : α → Prop} {l : List α} (h : ∀ x ∈ l, P x)
    (hg : ∀ x, P x → P (g x)) (i : Nat) : ∀ x ∈ l.modify i g, P x :=
  forall_mem_modify_at h fun x hx => hg x (h x (List.mem_of_getElem? hx))

/-- A change of one member, seen at the last one. -/
theorem modify_concat (l : List α) (x : α) (i : Nat) :
    (l ++ [x]).modify i g = l.modify i g ++ [if i = l.length then g x else x] := by
  induction l generalizing i with
  | nil => cases i <;> simp
  | cons y l ih =>
      cases i with
      | zero => rfl
      | succ i =>
          simp only [List.cons_append, List.modify_succ_cons, ih, List.length_cons,
            Nat.succ_inj]

/-- A change of the last member. -/
theorem modify_length (l : List α) (x : α) : (l ++ [x]).modify l.length g = l ++ [g x] := by
  rw [modify_concat, if_pos rfl, List.modify_eq_self (Nat.le_refl _)]

end

variable {b : Bool} {f w : Node} {fs : List Node} {p : Parameter}

theorem IsWrite.receive (h : IsWrite w) : IsWrite (w.receive p) := by
  obtain ⟨hc, hc', hv, hv'⟩ := h
  cases p with
  | text t => exact .mk hc hc' hv hv'
  | number n =>
      show IsWrite (.leaf (.channelData _ _ _))
      refine .mk ?_ ?_ ?_ ?_ <;> split <;> omega

theorem IsFrame.close (h : IsFrame b f) : IsFrame true f.close := by
  cases h with
  | empty hd => exact .empty hd
  | full hd hws => exact .full hd hws

theorem IsFrame.push (h : IsFrame false f) (hw : IsWrite w) : IsFrame false (f.push w) := by
  cases h with
  | full hd hws =>
      refine .full hd ?_
      intro x hx
      rcases List.mem_append.mp hx with hx | hx
      · exact hws x hx
      · exact List.mem_singleton.mp hx ▸ hw

theorem IsFrame.receive (h : IsFrame b f) (hp : p.IsNatural) : IsFrame b (f.receive p) := by
  cases p with
  | text t => cases h <;> constructor <;> assumption
  | number n =>
      have hn := hp n rfl
      cases h with
      | empty => exact .empty hn
      | full _ hws => exact .full hn hws

/-- A parameter for one of the writes. -/
theorem IsFrame.receiveAt (h : IsFrame b f) (j : Nat) :
    IsFrame b { f with children := f.children.modify j fun w => w.receive p } := by
  cases h with
  | empty hd =>
      rw [show ([] : List Node).modify j _ = [] from List.modify_nil _ j]
      exact .empty hd
  | full hd hws => exact .full hd (forall_mem_modify hws (fun _ => IsWrite.receive) j)

theorem WellFramed.modify {g : Node → Node} (h : WellFramed fs)
    (hg : ∀ b f, IsFrame b f → IsFrame b (g f)) (i : Nat) : WellFramed (fs.modify i g) := by
  cases h with
  | closed hfs => exact .closed (forall_mem_modify hfs (hg true) i)
  | opened hfs hf =>
      rw [modify_concat]
      refine .opened (forall_mem_modify hfs (hg true) i) ?_
      split
      · exact hg false _ hf
      · exact hf

theorem WellFramed.forall_isFrame (h : WellFramed fs) : ∀ f ∈ fs, ∃ b, IsFrame b f := by
  cases h with
  | closed hfs => exact fun f hf => ⟨true, hfs f hf⟩
  | opened hfs hf =>
      intro g hg
      rcases List.mem_append.mp hg with hg | hg
      · exact ⟨true, hfs g hg⟩
      · exact ⟨false, List.mem_singleton.mp hg ▸ hf⟩

/-- All children of a frame are channel writes. -/
theorem IsFrame.childrenOf_eq (h : IsFrame b f) : f.childrenOf .channelData = f.children := by
  cases h with
  | empty => rfl
  | full _ hws =>
      refine List.filter_eq_self.mpr fun w hw => ?_
      cases hws w hw
      rfl

/-! ### Captions -/

/-- A channel write with short numbers has a caption. -/
theorem caption_write {c v : Int} (k : Int) (hc : isShort c = true) (hv : isShort v = true) :
    (Node.leaf (.channelData c v k)).caption =
      .ok ("Ch " ++ decimal c ++ ": " ++ decimal v) := by
  show (do return "Ch " ++ (← worded c) ++ ": " ++ (← worded v)) = _
  rw [worded_of_isShort hc, worded_of_isShort hv]
  rfl

/-- Numbers within sixteen bits are short. -/
theorem isShort_of_le_word {n : Int} (h : n.natAbs ≤ 65535) : isShort n = true :=
  isShort_of_le (n := 65535) (by decide) h

/-- A channel write has a caption. -/
theorem IsWrite.exists_caption {w : Node} (h : IsWrite w) : ∃ u, w.caption = .ok u := by
  obtain ⟨hc, hc', hv, hv'⟩ := h
  exact ⟨_, caption_write _ (isShort_of_le_word (by omega)) (isShort_of_le_word (by omega))⟩

/-- Channel writes have captions. -/
theorem exists_captions {ws : List Node} (hws : ∀ w ∈ ws, IsWrite w) :
    ∃ us : List Text, ws.map Node.caption = us.map .ok := by
  induction ws with
  | nil => exact ⟨[], rfl⟩
  | cons w ws ih =>
      obtain ⟨u, hu⟩ := (hws w List.mem_cons_self).exists_caption
      obtain ⟨us, hus⟩ := ih fun v hv => hws v (List.mem_cons_of_mem w hv)
      exact ⟨u :: us, by rw [List.map_cons, List.map_cons, hu, hus]⟩

/-! ### The open frame -/

theorem IsFrame.closed_kind (h : IsFrame b f) : f.kind.closed = .ok b := by
  cases h <;> rfl

/-- No frame is open among closed ones. -/
theorem lastOpenIndex_closed (h : ∀ f ∈ fs, IsFrame true f) :
    CueList.lastOpenIndex fs = .ok none := by
  unfold CueList.lastOpenIndex
  induction fs with
  | nil => rfl
  | cons f fs ih =>
      have hf := (h f List.mem_cons_self).closed_kind
      have hih := ih fun g hg => h g (List.mem_cons_of_mem f hg)
      simp only [List.map_cons, lastOpenIndexBy, hih, hf]

/-- An open frame behind closed ones is found. -/
theorem lastOpenIndex_opened (h : ∀ f ∈ fs, IsFrame true f) (hf : IsFrame false f) :
    CueList.lastOpenIndex (fs ++ [f]) = .ok (some fs.length) := by
  unfold CueList.lastOpenIndex
  induction fs with
  | nil => simp only [List.nil_append, List.map_cons, List.map_nil, lastOpenIndexBy,
      hf.closed_kind, List.length_nil]
  | cons g fs ih =>
      have hih := ih fun x hx => h x (List.mem_cons_of_mem g hx)
      simp only [List.cons_append, List.map_cons, lastOpenIndexBy, hih, List.length_cons]

/-- Where no frame is open all are closed. -/
theorem WellFramed.all_closed (h : WellFramed fs) (ho : CueList.lastOpenIndex fs = .ok none) :
    ∀ f ∈ fs, IsFrame true f := by
  cases h with
  | closed hfs => exact hfs
  | opened hfs hf =>
      rw [lastOpenIndex_opened hfs hf] at ho
      cases ho

/-- The open frame is the last one. -/
theorem WellFramed.last_open {i : Nat} (h : WellFramed fs)
    (ho : CueList.lastOpenIndex fs = .ok (some i)) :
    ∃ gs f, fs = gs ++ [f] ∧ i = gs.length ∧ (∀ g ∈ gs, IsFrame true g) ∧ IsFrame false f := by
  cases h with
  | closed hfs =>
      rw [lastOpenIndex_closed hfs] at ho
      cases ho
  | opened hfs hf =>
      rw [lastOpenIndex_opened hfs hf] at ho
      cases ho
      exact ⟨_, _, rfl, rfl, hfs, hf⟩

/-- The open frame can be closed. -/
theorem WellFramed.close {i : Nat} (h : WellFramed fs)
    (ho : CueList.lastOpenIndex fs = .ok (some i)) : WellFramed (fs.modify i Node.close) := by
  obtain ⟨gs, f, rfl, rfl, hgs, hf⟩ := h.last_open ho
  rw [modify_length]
  exact .closed (List.forall_mem_append.mpr ⟨hgs, List.forall_mem_singleton.mpr hf.close⟩)

/-- **All that is told at the end of a frame can be put down exactly if its time can.** -/
theorem closingCaptions_ok_iff {d : Int} {ws : List Node}
    (hf : IsFrame b ⟨.keyFrame d false b, ws⟩) :
    (∀ x ∈ Scanner.closingCaptions ⟨.keyFrame d false b, ws⟩, ∃ t, x = .ok t) ↔
      isShort d = true := by
  have hws : ∀ w ∈ ws, IsWrite w := by
    cases hf with
    | full _ hws => exact hws
  have hown : (∃ t, (Node.mk (.keyFrame d false b) ws).caption = .ok t) ↔ isShort d = true := by
    have hcaption : (Node.mk (.keyFrame d false b) ws).caption =
        (do return "KeyFrame lasts for " ++ (← worded d) ++ " ms.") := rfl
    rw [hcaption]
    cases hd : isShort d with
    | true =>
        rw [worded_of_isShort hd]
        exact ⟨fun _ => rfl, fun _ => ⟨_, rfl⟩⟩
    | false =>
        rw [worded_of_not_isShort hd]
        exact ⟨fun ⟨_, h⟩ => (nomatch h), nofun⟩
  unfold Scanner.closingCaptions
  rw [hf.childrenOf_eq, List.forall_mem_append, List.forall_mem_singleton, hown,
    and_iff_right_iff_imp]
  exact fun _ => List.forall_mem_map.mpr fun w hw => (hws w hw).exists_caption

/-! ### Every move keeps the frames -/

namespace Scanner

variable {s t : Scanner} {c : Char}

/-- A number that was read is not negative. -/
theorem isNatural_of_complete? {m : Mode} (h : s.complete? = some (p, m)) : p.IsNatural := by
  rcases complete?_eq_some h with ⟨n, -, -, rfl, -⟩ | ⟨-, rfl, -⟩
  · rintro m hm
    cases hm
    exact Int.natCast_nonneg n
  · nofun

theorem wellFramed_give (h : WellFramed s.frames) (hp : p.IsNatural) (a : Address) :
    WellFramed (s.give p a).frames := by
  cases a with
  | frame i => exact h.modify (fun _ _ hf => hf.receive hp) i
  | write i j => exact h.modify (fun _ _ hf => hf.receiveAt j) i
  | head => exact h

theorem wellFramed_settles (h : WellFramed s.frames) (hs : Settles s t) :
    WellFramed t.frames := by
  cases hs with
  | @deliver q m a hc => exact wellFramed_give h (isNatural_of_complete? hc) a
  | cancel => exact h

/-- **What a character does to well-formed frames leaves them well-formed.** -/
theorem wellFramed_move (h : WellFramed s.frames) (hm : Move s c t) : WellFramed t.frames := by
  have hmark : s.markStart.frames = s.frames := by
    unfold markStart
    split <;> rfl
  cases hm with
  | quiet | iteration | document | head => exact h
  | gather | finish =>
      show WellFramed s.markStart.frames
      rw [hmark]
      exact h
  | @addFrame empty u l _ ho =>
      have hfs := h.all_closed ho
      cases empty with
      | false => exact .opened hfs (.full (Int.le_refl 0) nofun)
      | true =>
          refine .closed ?_
          intro f hf
          rcases List.mem_append.mp hf with hf | hf
          · exact hfs f hf
          · exact List.mem_singleton.mp hf ▸ .empty (Int.le_refl 0)
  | endFrame _ ho => exact h.close ho
  | @addWrite i j u _ ho =>
      obtain ⟨gs, f, hfs, rfl, hgs, hf⟩ := h.last_open ho
      show WellFramed (s.frames.modify gs.length fun f => f.push (.leaf (.newChannelData 0 0)))
      rw [hfs, modify_length]
      exact .opened hgs (hf.push (.mk (by decide) (by decide) (by decide) (by decide)))
  | settle hs => exact wellFramed_settles h hs

/-- A turn keeps the frames well-formed. -/
theorem wellFramed_turn (h : WellFramed s.frames) (hd : s.isDone = false) (e : s.turn = .ok t) :
    WellFramed t.frames := by
  rcases turn_cases hd e with ⟨-, c, u, -, hm, rfl⟩ | ⟨-, -, u, hs, rfl⟩
  · have hu : WellFramed u.frames := wellFramed_move h hm
    exact hu
  · have hu : WellFramed u.frames := wellFramed_settles h hs
    exact hu

/-- A run keeps the frames well-formed. -/
theorem wellFramed_finish (h : WellFramed s.frames) (e : s.finish = .ok t) :
    WellFramed t.frames :=
  keep_finish (P := fun u => WellFramed u.frames)
    (fun _ _ hd e h => wellFramed_turn h hd e) h e

end Scanner

/-- **The frames that are read from any text are well-formed.** -/
theorem Reading.wellFramed {honourRadix : Bool} {t : Text} {r : Reading}
    (h : ofCompact honourRadix t = .ok r) : WellFramed r.frames := by
  unfold ofCompact at h
  rw [Scanner.scan_eq_finish] at h
  cases e : (Scanner.start honourRadix t).finish with
  | error k => rw [e] at h; cases h
  | ok s =>
      rw [e] at h
      obtain rfl := Except.ok.inj h
      have hstart : WellFramed (Scanner.start honourRadix t).frames := .closed nofun
      have hs : WellFramed s.frames := Scanner.wellFramed_finish hstart e
      exact hs

end StageCues
