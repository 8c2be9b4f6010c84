import StageCues.Scanner.Run

/-!
# Scan — what a turn can do

A turn handles one character, or the end of the text.  `Move s c t` lists what a character `c` can
make of a scanner `s`, before the cursor advances; `Settles s t` lists what becomes of a parameter
that is complete or missing, which needs no character.  Every turn that succeeds is one of these
(`turn_cases`), so a fact about all runs is proved by going through the moves once.

Both relations say exactly what happens to the cursor, the mode, the awaited parameters and the
built elements; what is told and what is noted stays open.
-/

namespace StageCues

open Text

namespace Mode

/-- Whether the mode belongs to a parameter: one is being collected, complete or missing. -/
def isParameter : Mode → Bool
  | .waitNumber | .waitText | .gotNumber | .gotText | .noNumber => true
  | _ => false

/-- Where a character leads outside of parameters, as long as nothing is built. -/
inductive Leads : Mode → Char → Mode → Prop where
  | start {c : Char} {m : Mode} : ofLeading? (upper c) = some m → Leads .rest c m
  | stray {c : Char} : ofLeading? (upper c) = none → Leads .rest c .rest
  | quoted {c : Char} : Leads .quotation c .quotation
  | marked {c k : Char} {m : Mode} : ofMarker? (upper c) = some (k, m) → Leads .number c m
  | digit {c : Char} {m : Mode} : m = .hexDigits ∨ m = .decDigits ∨ m = .binDigits → Leads m c m
  | close {c : Char} {m : Mode} : m ≠ .rest → m.isParameter = false → Leads m c .rest

end Mode

namespace Scanner

/-- The parameter that is complete and can be read, and the mode for a further one. -/
def complete? (s : Scanner) : Option (Parameter × Mode) :=
  match s.mode with
  | .gotNumber =>
    match s.awaiting.literal.asNumber s.honourRadix with
    | .ok n => some (.number n, .waitNumber)
    | .error _ => none
  | .gotText => some (.text s.awaiting.literal.asText, .waitText)
  | _ => none

/-- What becomes of a parameter that is complete or missing, before the cursor advances. -/
inductive Settles (s : Scanner) : Scanner → Prop where
  | deliver {p : Parameter} {m : Mode} {a : Address} :
      s.complete? = some (p, m) → s.recipient = .ok a → s.cursor.mark ≤ s.cursor.pos →
      Settles s { s.give p a with
        awaiting := s.awaiting.delivered
        cursor := { s.cursor with pos := s.cursor.pos - 1 }
        mode := if s.awaiting.hasMore then m else .rest }
  | cancel {u : Text} :
      s.mode = .noNumber → s.cursor.mark ≤ s.cursor.pos - 1 →
      Settles s { s with
        awaiting := .idle
        cursor := { s.cursor with pos := s.cursor.pos - 2 }
        mode := .rest
        trace := s.trace ++ u }

/-- What a character makes of a scanner, before the cursor advances. -/
inductive Move (s : Scanner) (c : Char) : Scanner → Prop where
  | quiet {m : Mode} {u : Text} {l : List Note} :
      s.mode.Leads c m →
      Move s c { s with mode := m, trace := s.trace ++ u, notes := s.notes ++ l }
  | iteration {k : NodeClass} {u : Text} :
      s.mode = .letterF ∧ k = .forIteration ∨ s.mode = .letterI ∧ k = .infiniteIteration →
      Move s c { s with
        mode := .rest
        iterations := s.iterations ++ [.leaf (.fresh k)]
        trace := s.trace ++ u }
  | document {u : Text} :
      s.mode = .command →
      Move s c { s with mode := .rest, document := some .blank, trace := s.trace ++ u }
  | addFrame {empty : Bool} {u : Text} {l : List Note} :
      s.mode = .letterK → CueList.lastOpenIndex s.frames = .ok none →
      Move s c { s with
        mode := .waitNumber
        frames := s.frames ++ [.leaf (.newKeyFrame 0 empty)]
        awaiting := .expect 1 (some (.frame s.frames.length))
        trace := s.trace ++ u
        notes := s.notes ++ l }
  | endFrame {i : Nat} {u : Text} :
      s.mode = .letterK → CueList.lastOpenIndex s.frames = .ok (some i) →
      (∀ f, s.frames[i]? = some f → ∀ x ∈ closingCaptions f.close, ∃ t, x = .ok t) →
      Move s c { s with
        mode := .rest
        frames := s.frames.modify i Node.close
        trace := s.trace ++ u }
  | addWrite {i j : Nat} {u : Text} :
      s.mode = .letterB → CueList.lastOpenIndex s.frames = .ok (some i) →
      (∀ f, s.frames[i]? = some f → j = f.children.length) →
      Move s c { s with
        mode := .waitNumber
        frames := s.frames.modify i fun f => f.push (.leaf (.newChannelData 0 0))
        awaiting := .expect 2 (some (.write i j))
        trace := s.trace ++ u }
  | head {d : Document} {k : Kind} {n : Int} {m : Mode} {u : Text} :
      s.mode = .command → s.document = some d → n = 1 ∨ n = 2 →
      k = .newPredefinedHead 0 ∧ m = .waitNumber ∨ k = .newLinkedHead ∧ m = .waitText →
      Move s c { s with
        mode := m
        document := some { d with head := some (d.head.getD (.leaf k)) }
        awaiting := .expect n (some .head)
        trace := s.trace ++ u }
  | gather {m : Mode} {l : List Note} :
      s.mode = .waitNumber ∧ upper c ≠ [';'] ∧
          m = (if (s.awaiting.literal.push [c] s.cursor.pos).startsNumber then .waitNumber
            else .noNumber) ∨
        s.mode = .waitText ∧ (upper c = [';'] → s.awaiting.literal.quoted = true) ∧
          m = .waitText →
      Move s c { s.gather c with mode := m, notes := (s.gather c).notes ++ l }
  | finish {m : Mode} {l : List Note} :
      upper c = [';'] →
      s.mode = .waitNumber ∧
          m = (if s.awaiting.literal.startsNumber then .gotNumber else .noNumber) ∨
        s.mode = .waitText ∧ s.awaiting.literal.quoted = false ∧ m = .gotText →
      Move s c { s.markStart with mode := m, notes := s.markStart.notes ++ l }
  | settle {t : Scanner} : Settles s t → Move s c t

/-! ### Every handler makes a move -/

variable {s t : Scanner} {c : Char}

theorem openFrame_eq_ok {i : Nat} (h : s.openFrame = .ok i) :
    CueList.lastOpenIndex s.frames = .ok (some i) := by
  unfold openFrame at h
  split at h
  · cases h
  · cases h
  · next e => cases h; exact e

theorem requireClosed_eq_ok {u : Unit} (h : s.requireClosed = .ok u) :
    CueList.lastOpenIndex s.frames = .ok none := by
  unfold requireClosed at h
  split at h
  · cases h
  · next e => exact e
  · cases h

theorem goBack_of_le {n : Int} (h : s.cursor.mark ≤ s.cursor.pos - n + 1) :
    s.goBack n = .ok { s with cursor := { s.cursor with pos := s.cursor.pos - n } } := by
  unfold goBack Cursor.back?
  rw [if_neg (by omega)]

theorem goBack_of_lt {n : Int} (h : s.cursor.pos - n + 1 < s.cursor.mark) :
    s.goBack n = .error ⟨.rewound, s⟩ := by
  unfold goBack Cursor.back?
  rw [if_pos h]

theorem goBack_eq_ok {n : Int} (h : s.goBack n = .ok t) :
    s.cursor.mark ≤ s.cursor.pos - n + 1 ∧
      t = { s with cursor := { s.cursor with pos := s.cursor.pos - n } } := by
  by_cases hb : s.cursor.pos - n + 1 < s.cursor.mark
  · rw [goBack_of_lt hb] at h
    cases h
  · rw [goBack_of_le (by omega)] at h
    cases h
    exact ⟨by omega, rfl⟩

@[simp] theorem cursor_give (s : Scanner) (p : Parameter) (a : Address) :
    (s.give p a).cursor = s.cursor := by
  cases a <;> rfl

/-- A number that is complete is within the limit, a text is whatever was collected. -/
theorem complete?_eq_some {p : Parameter} {m : Mode} (h : s.complete? = some (p, m)) :
    (∃ n : Nat, s.mode = .gotNumber ∧ s.awaiting.literal.asNumber s.honourRadix = .ok n ∧
      p = .number n ∧ m = .waitNumber) ∨
    s.mode = .gotText ∧ p = .text s.awaiting.literal.asText ∧ m = .waitText := by
  unfold complete? at h
  split at h
  · next hm =>
    split at h
    · next n hn =>
      cases h
      exact .inl ⟨n, hm, hn, rfl, rfl⟩
    · cases h
  · next hm =>
    cases h
    exact .inr ⟨hm, rfl, rfl⟩
  · cases h

theorem complete?_number {n : Nat} (hm : s.mode = .gotNumber)
    (hn : s.awaiting.literal.asNumber s.honourRadix = .ok n) :
    s.complete? = some (.number n, .waitNumber) := by
  unfold complete?
  rw [hm]
  dsimp only
  rw [hn]

theorem complete?_text (hm : s.mode = .gotText) :
    s.complete? = some (.text s.awaiting.literal.asText, .waitText) := by
  unfold complete?
  rw [hm]

/-- A complete parameter has a mode of its own, and one that a further parameter is awaited in. -/
theorem mode_of_complete {p : Parameter} {m : Mode} (h : s.complete? = some (p, m)) :
    (s.mode = .gotNumber ∨ s.mode = .gotText) ∧ (m = .waitNumber ∨ m = .waitText) := by
  rcases complete?_eq_some h with ⟨n, hm, -, -, rfl⟩ | ⟨hm, -, rfl⟩
  · exact ⟨.inl hm, .inl rfl⟩
  · exact ⟨.inr hm, .inr rfl⟩

/-- **Lines that are all told can all be put down**, and nothing but the trace changes. -/
theorem tellLines_eq_ok {lines : List (Except Fault Text)} (h : s.tellLines lines = .ok t) :
    (∀ x ∈ lines, ∃ u, x = .ok u) ∧ ∃ u, t = s.tell u := by
  induction lines generalizing s with
  | nil =>
      cases h
      exact ⟨nofun, [], by simp [tell]⟩
  | cons x lines ih =>
      cases x with
      | error f => cases h
      | ok v =>
          obtain ⟨hall, u, rfl⟩ := ih h
          exact ⟨List.forall_mem_cons.mpr ⟨⟨v, rfl⟩, hall⟩, line v ++ u,
            by simp [tell, tellLine, List.append_assoc]⟩

/-- **A line that cannot be put down stops the scan**, and nothing but the trace has changed. -/
theorem tellLines_eq_error {lines : List (Except Fault Text)} {h : Halt}
    (e : s.tellLines lines = .error h) :
    .error h.fault ∈ lines ∧ ∃ u, h.scanner = s.tell u := by
  induction lines generalizing s with
  | nil => cases e
  | cons x lines ih =>
      cases x with
      | error f =>
          cases e
          exact ⟨List.mem_cons_self, [], by simp [tell]⟩
      | ok v =>
          obtain ⟨hmem, u, hu⟩ := ih e
          exact ⟨List.mem_cons_of_mem _ hmem, line v ++ u,
            by rw [hu]; simp [tell, tellLine, List.append_assoc]⟩

/-- Text told and notes kept on the way back to rest. -/
theorem move_rest (u : Text) (l : List Note) (h : s.mode ≠ .rest)
    (hp : s.mode.isParameter = false) :
    Move s c { s with mode := .rest, trace := s.trace ++ u, notes := s.notes ++ l } :=
  .quiet (.close h hp)

/-- Back to rest with nothing to say. -/
theorem move_silent (h : s.mode ≠ .rest) (hp : s.mode.isParameter = false) :
    Move s c (s.enter .rest) := by
  simpa [enter] using move_rest [] [] h hp

/-- Back to rest with a text told. -/
theorem move_told (u : Text) (h : s.mode ≠ .rest) (hp : s.mode.isParameter = false) :
    Move s c ((s.tell u).enter .rest) := by
  simpa [enter, tell] using move_rest u [] h hp

theorem move_onRest (h : s.mode = .rest) : Move s c (s.onRest c) := by
  unfold onRest
  split
  · next e =>
    have hl : s.mode.Leads c .rest := h ▸ .stray e
    simpa [keep, tell, ← h] using Move.quiet (u := upper c) (l := [_]) hl
  · next e =>
    have hl : s.mode.Leads c .quotation := h ▸ .start e
    simpa [tell, enter] using Move.quiet (u := [c]) (l := []) hl
  · next m _ e =>
    have hl : s.mode.Leads c m := h ▸ .start e
    simpa [enter] using Move.quiet (u := []) (l := []) hl

theorem move_onLetterC (h : s.mode = .letterC) : Move s c (s.onLetterC c) := by
  unfold onLetterC
  split
  · exact move_told _ (by simp [h]) (by simp [h, Mode.isParameter])
  · exact move_silent (by simp [h]) (by simp [h, Mode.isParameter])

theorem move_onLetterW (h : s.mode = .letterW) : Move s c (s.onLetterW c) := by
  unfold onLetterW
  split
  · exact move_told _ (by simp [h]) (by simp [h, Mode.isParameter])
  · split
    · exact move_told _ (by simp [h]) (by simp [h, Mode.isParameter])
    · exact move_silent (by simp [h]) (by simp [h, Mode.isParameter])

theorem move_onLetterF (h : s.mode = .letterF) : Move s c (s.onLetterF c) := by
  unfold onLetterF
  split
  · simpa [enter, tell, addIteration] using Move.iteration (u := _) (.inl ⟨h, rfl⟩)
  · split
    · exact move_told _ (by simp [h]) (by simp [h, Mode.isParameter])
    · exact move_silent (by simp [h]) (by simp [h, Mode.isParameter])

theorem move_onLetterI (h : s.mode = .letterI) : Move s c (s.onLetterI c) := by
  unfold onLetterI
  split
  · simpa [enter, tell, addIteration] using Move.iteration (u := _) (.inr ⟨h, rfl⟩)
  · exact move_silent (by simp [h]) (by simp [h, Mode.isParameter])

theorem move_onQuotation (h : s.mode = .quotation) : Move s c (s.onQuotation c) := by
  unfold onQuotation
  split
  · exact move_told _ (by simp [h]) (by simp [h, Mode.isParameter])
  · have hl : s.mode.Leads c .quotation := h ▸ .quoted
    simpa [enter, tell] using Move.quiet (u := [c]) (l := []) hl

theorem move_onNumber (h : s.mode = .number) : Move s c (s.onNumber c) := by
  unfold onNumber
  split
  · exact move_told _ (by simp [h]) (by simp [h, Mode.isParameter])
  · next marker m e =>
    have hl : s.mode.Leads c m := h ▸ .marked e
    simpa [enter, tell] using Move.quiet (u := " " ++ [marker]) (l := []) hl

theorem move_onDigits (h : s.mode = .hexDigits ∨ s.mode = .decDigits ∨ s.mode = .binDigits) :
    Move s c (s.onDigits c) := by
  unfold onDigits
  split
  · refine move_silent ?_ ?_ <;> rcases h with h | h | h <;> simp [h, Mode.isParameter]
  · simpa [tell] using Move.quiet (u := upper c) (l := []) (.digit h)

/-- The frame that is closed is the one that is told. -/
theorem frame_closeFrame {i : Nat} {f : Node} (h : s.frames[i]? = some f) :
    (s.closeFrame i).frames[i]? = some f.close := by
  show (s.frames.modify i Node.close)[i]? = _
  rw [List.getElem?_modify_eq, h]
  rfl

theorem move_endFrame (h : s.mode = .letterK) (e : s.endFrame = .ok t) : Move s c t := by
  unfold endFrame at e
  split at e
  · cases e
  · next i ho =>
    obtain ⟨v, ht, rfl⟩ := map_eq_ok.mp e
    obtain ⟨hall, u, rfl⟩ := tellLines_eq_ok ht
    have hshown : ∀ f, s.frames[i]? = some f → ∀ x ∈ closingCaptions f.close, ∃ t, x = .ok t := by
      intro f hf
      rw [frame_closeFrame hf] at hall
      exact hall
    simpa [closeFrame, tellLine, tell, enter, List.append_assoc] using
      Move.endFrame (u := _) h (openFrame_eq_ok ho) hshown

theorem move_onLetterK (h : s.mode = .letterK) (e : s.onLetterK c = .ok t) : Move s c t := by
  unfold onLetterK at e
  split at e
  · cases e
    simpa [enter, keep] using move_rest [] [_] (by simp [h]) (by simp [h, Mode.isParameter])
  · split at e
    · cases hc : s.requireClosed with
      | error f => simp [hc, bind, Except.bind] at e
      | ok u =>
        simp only [hc, bind, Except.bind, pure, Except.pure] at e
        cases e
        simpa [addFrame, tellLine, tell, await, keep, enter] using
          Move.addFrame (u := _) (l := [_]) h (requireClosed_eq_ok hc)
    · split at e
      · cases hc : s.requireClosed with
        | error f => simp [hc, bind, Except.bind] at e
        | ok u =>
          simp only [hc, bind, Except.bind, pure, Except.pure] at e
          cases e
          simpa [addFrame, tellLine, tell, await, keep, enter] using
            Move.addFrame (u := _) (l := [_]) h (requireClosed_eq_ok hc)
      · exact move_endFrame h e

theorem move_onLetterB (h : s.mode = .letterB) (e : s.onLetterB c = .ok t) : Move s c t := by
  unfold onLetterB at e
  split at e
  · unfold addWrite at e
    split at e
    · cases e
    · next i ho =>
      cases e
      have hi : CueList.lastOpenIndex s.frames = .ok (some i) :=
        openFrame_eq_ok (s := s.tell "\nLoading channel data...") ho
      refine .addWrite h hi ?_
      intro f hf
      have hf' : (s.tell "\nLoading channel data...").frames[i]? = some f := hf
      rw [hf']
  · cases e
    exact move_silent (by simp [h]) (by simp [h, Mode.isParameter])

theorem withHead_eq_ok {k : Kind} {n : Node} (e : s.withHead k = .ok (t, n)) :
    ∃ d, s.document = some d ∧ n = d.head.getD (.leaf k) ∧
      t = { s with document := some { d with head := some (d.head.getD (.leaf k)) } } := by
  unfold withHead at e
  split at e
  · cases e
  · next d hd =>
    cases e
    exact ⟨d, hd, rfl, rfl⟩

theorem move_onCommand (h : s.mode = .command) (e : s.onCommand c = .ok t) : Move s c t := by
  unfold onCommand at e
  split at e
  · cases e
    exact .document h
  · split at e
    · cases hw : (s.tellLine "Head").withHead (.newPredefinedHead 0) with
      | error f => rw [hw] at e; cases e
      | ok r =>
        obtain ⟨d, hd, -, hr⟩ := withHead_eq_ok hw
        rw [hw] at e
        cases e
        rw [hr]
        exact .head h hd (.inl rfl) (.inl ⟨rfl, rfl⟩)
    · split at e
      · cases hw : (s.tellLine "Title").withHead .newLinkedHead with
        | error f => rw [hw] at e; cases e
        | ok r =>
          obtain ⟨d, hd, -, hr⟩ := withHead_eq_ok hw
          rw [hw] at e
          cases e
          rw [hr]
          refine .head h hd ?_ (.inr ⟨rfl, rfl⟩)
          split
          · exact .inr rfl
          · exact .inl rfl
      · cases e
        exact move_silent (by simp [h]) (by simp [h, Mode.isParameter])

@[simp] theorem markStart_awaiting (s : Scanner) : s.markStart.awaiting = s.awaiting := by
  unfold markStart
  split <;> rfl

@[simp] theorem pos_markStart (s : Scanner) : s.markStart.cursor.pos = s.cursor.pos := by
  unfold markStart
  split <;> rfl

theorem literal_gather (s : Scanner) (c : Char) :
    (s.gather c).awaiting.literal = s.awaiting.literal.push [c] s.cursor.pos := by
  simp [gather, Awaiting.gather, pos]

theorem move_onWaitNumber (h : s.mode = .waitNumber) : Move s c (s.onWaitNumber c) := by
  unfold onWaitNumber
  by_cases hc : upper c = [';']
  · simp only [if_pos hc, enter, keep]
    have hl : s.markStart.awaiting.literal = s.awaiting.literal := by rw [markStart_awaiting]
    cases hz : s.awaiting.literal.startsNumber with
    | true =>
      have hm := Move.finish (m := .gotNumber) (l := []) hc (.inl ⟨h, (if_pos hz).symm⟩)
      simpa [hl, hz] using hm
    | false =>
      simp only [hl, hz, Bool.not_false, if_true]
      exact .finish hc (.inl ⟨h, (if_neg (by simp [hz])).symm⟩)
  · simp only [if_neg hc, enter, keep, literal_gather]
    cases hz : (s.awaiting.literal.push [c] s.cursor.pos).startsNumber with
    | true =>
      have hm := Move.gather (m := .waitNumber) (l := []) (.inl ⟨h, hc, (if_pos hz).symm⟩)
      simpa using hm
    | false =>
      simp only [Bool.not_false, if_true]
      exact .gather (.inl ⟨h, hc, (if_neg (by simp [hz])).symm⟩)

theorem move_onWaitText (h : s.mode = .waitText) : Move s c (s.onWaitText c) := by
  unfold onWaitText
  split
  · next hc =>
    simpa [enter] using Move.finish (l := []) hc.1 (.inr ⟨h, hc.2, rfl⟩)
  · next hc =>
    have hq : upper c = [';'] → s.awaiting.literal.quoted = true := by
      intro h'
      simpa [h'] using hc
    simpa [enter] using Move.gather (l := []) (.inr ⟨h, hq, rfl⟩)

theorem deliver_of_le {p : Parameter} {m : Mode} {a : Address} (hr : s.recipient = .ok a)
    (h : s.cursor.mark ≤ s.cursor.pos) :
    s.deliver p m = .ok { s.give p a with
      awaiting := s.awaiting.delivered
      cursor := { s.cursor with pos := s.cursor.pos - 1 }
      mode := if s.awaiting.hasMore then m else .rest } := by
  have hb : ({ s.give p a with awaiting := s.awaiting.delivered }).cursor.mark ≤
      ({ s.give p a with awaiting := s.awaiting.delivered }).cursor.pos - 1 + 1 := by
    simp only [cursor_give]
    omega
  unfold deliver
  rw [hr]
  simp only [bind, Except.bind]
  rw [goBack_of_le hb]
  simp only [cursor_give]
  rfl

theorem deliver_of_lt {p : Parameter} {m : Mode} {a : Address} (hr : s.recipient = .ok a)
    (h : s.cursor.pos < s.cursor.mark) :
    s.deliver p m = .error ⟨.rewound, { s.give p a with awaiting := s.awaiting.delivered }⟩ := by
  have hb : ({ s.give p a with awaiting := s.awaiting.delivered }).cursor.pos - 1 + 1 <
      ({ s.give p a with awaiting := s.awaiting.delivered }).cursor.mark := by
    simp only [cursor_give]
    omega
  unfold deliver
  rw [hr]
  simp only [bind, Except.bind]
  rw [goBack_of_lt hb]

theorem deliver_of_error {p : Parameter} {m : Mode} {h : Halt} (hr : s.recipient = .error h) :
    s.deliver p m = .error h := by
  unfold deliver
  rw [hr]
  rfl

theorem settles_deliver {p : Parameter} {m : Mode} (h : s.complete? = some (p, m))
    (e : s.deliver p m = .ok t) : Settles s t := by
  cases hr : s.recipient with
  | error f =>
      rw [deliver_of_error hr] at e
      cases e
  | ok a =>
      by_cases hm : s.cursor.mark ≤ s.cursor.pos
      · rw [deliver_of_le hr hm] at e
        cases e
        exact .deliver h hr hm
      · rw [deliver_of_lt hr (by omega)] at e
        cases e

theorem settles_onGotNumber (h : s.mode = .gotNumber) (e : s.onGotNumber = .ok t) :
    Settles s t := by
  unfold onGotNumber at e
  split at e
  · cases e
  · next n hn => exact settles_deliver (complete?_number h hn) e

/-- A complete parameter is settled by its delivery. -/
theorem settle_of_complete {p : Parameter} {m : Mode} (h : s.complete? = some (p, m)) :
    s.mode.isPending = true ∧ s.settle = s.deliver p m := by
  unfold settle
  rcases complete?_eq_some h with ⟨n, hm, hn, rfl, rfl⟩ | ⟨hm, rfl, rfl⟩
  · rw [hm]
    refine ⟨rfl, ?_⟩
    show s.onGotNumber = _
    unfold onGotNumber
    rw [hn]
  · rw [hm]
    exact ⟨rfl, rfl⟩

theorem settles_onNoNumber (h : s.mode = .noNumber) (e : s.onNoNumber = .ok t) :
    Settles s t := by
  unfold onNoNumber at e
  cases hb : (s.tellLine "There is no parameter.").goBack 2 with
  | error f => rw [hb] at e; cases e
  | ok u =>
    rw [hb] at e
    cases e
    obtain ⟨hm, rfl⟩ := goBack_eq_ok hb
    refine .cancel h ?_
    have : s.cursor.mark ≤ s.cursor.pos - 2 + 1 := hm
    omega

/-- A pending mode settles its parameter, whatever character it is given. -/
theorem settles_settle (h : s.mode.isPending = true) (e : s.settle = .ok t) : Settles s t := by
  unfold settle at e
  split at e
  · next hm => exact settles_onGotNumber hm e
  · next hm => exact settles_deliver (complete?_text hm) e
  · next hm => exact settles_onNoNumber hm e
  · next h₁ h₂ h₃ =>
    unfold Mode.isPending at h
    split at h
    · next hm => exact absurd hm h₁
    · next hm => exact absurd hm h₂
    · next hm => exact absurd hm h₃
    · cases h

/-- **What a character can do.** -/
theorem move_of_react (e : s.react c = .ok t) : Move s c t := by
  unfold react at e
  split at e <;> rename_i h
  · cases e; exact move_onRest h
  · cases e; exact move_onLetterC h
  · exact move_onLetterK h e
  · exact move_onLetterB h e
  · cases e; exact move_onLetterW h
  · cases e; exact move_onLetterF h
  · cases e; exact move_onLetterI h
  · cases e; exact move_onQuotation h
  · cases e; exact move_onNumber h
  · cases e; exact move_onDigits (.inl h)
  · cases e; exact move_onDigits (.inr (.inl h))
  · cases e; exact move_onDigits (.inr (.inr h))
  · exact move_onCommand h e
  · cases e; exact move_onWaitNumber h
  · cases e; exact move_onWaitText h
  · exact .settle (settles_onGotNumber h e)
  · exact .settle (settles_deliver (complete?_text h) e)
  · exact .settle (settles_onNoNumber h e)

/-- **What a turn can do.**  A turn that succeeds with something left to do handles the character
at the cursor, or settles a parameter at the end of the text; then the cursor advances. -/
theorem turn_cases (hd : s.isDone = false) (e : s.turn = .ok t) :
    (s.cursor.atEnd = false ∧ ∃ c u, s.cursor.char? = some c ∧ Move s c u ∧
        t = { u with previous := c }.next) ∨
      (s.cursor.atEnd = true ∧ s.mode.isPending = true ∧ ∃ u, Settles s u ∧ t = u.next) := by
  unfold turn at e
  cases ha : s.cursor.atEnd with
  | true =>
    have hp : s.mode.isPending = true := by simpa [isDone, ha] using hd
    cases hs : s.settle with
    | error f => rw [if_pos ha, hs] at e; cases e
    | ok u =>
      rw [if_pos ha, hs] at e
      cases e
      exact .inr ⟨rfl, hp, u, settles_settle hp hs, rfl⟩
  | false =>
    rw [if_neg (by simp [ha])] at e
    split at e
    · cases e
    · next c hc =>
      cases hr : s.react c with
      | error f => rw [hr] at e; cases e
      | ok u =>
        rw [hr] at e
        cases e
        exact .inl ⟨rfl, c, u, Cursor.read_eq_ok_iff.mp hc, move_of_react hr, rfl⟩

end Scanner

end StageCues
