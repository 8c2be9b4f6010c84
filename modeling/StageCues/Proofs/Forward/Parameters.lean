import StageCues.Proofs.Forward.Stands
import StageCues.Proofs.Text.Capital

/-!
# Forward — parameters

The scanner collects a literal, delivers it on the character behind it and reads that one again;
the forward reader cuts the literal off at once.  Both come to the same place with the same
parameter given, for numbers (`follows_numbers`) and for texts (`returns_texts`), as many as are
awaited; where a number is missing the scanner goes back to the character that is none, and where
it has too many digits both stop with the same fault.
-/

namespace StageCues

open Text

namespace Scanner

variable {radix : Bool} {size : Nat} {r : Reading} {t : Text} {s u : Scanner} {c : Char}

/-! ### Delivery -/

theorem ofScanner_give (s : Scanner) (p : Parameter) (a : Address) :
    Reading.ofScanner (s.give p a) = (Reading.ofScanner s).give p a := by
  cases a <;> rfl

/-- The turn in which a complete parameter is delivered.  The text that is left stays the same. -/
theorem turn_deliver {p : Parameter} {m : Mode} {a : Address}
    (h : Stands radix size r t s) (hc : s.complete? = some (p, m))
    (hr : s.recipient = .ok a) (hm : s.cursor.mark ≤ s.cursor.pos) :
    s.mode.isPending = true ∧ ∃ u, s.turn = .ok u ∧ Stands radix size (r.give p a) t u ∧
      u.awaiting = s.awaiting.delivered ∧
      u.mode = if s.awaiting.hasMore then m else .rest := by
  obtain ⟨hp, hset⟩ := settle_of_complete hc
  obtain ⟨q, hq⟩ := turn_settle h hp (hset.trans (deliver_of_le hr hm))
  refine ⟨hp, _, hq, ?_, rfl, rfl⟩
  refine h.congr ?_ ?_ rfl ?_
  · rw [← h.reading, ← ofScanner_give]
    rfl
  · show (s.give p a).honourRadix = _
    cases a <;> rfl
  · show s.cursor.pos - 1 + 1 = s.cursor.pos
    omega

/-- A complete parameter is delivered. -/
theorem stands_deliver {p : Parameter} {m : Mode} {a : Address}
    (h : Stands radix size r t s) (hc : s.complete? = some (p, m))
    (ha : s.awaiting.target = some a) (hm : s.cursor.mark ≤ s.cursor.pos) :
    ∃ u, s.finish = u.finish ∧ Stands radix size (r.give p a) t u ∧
      u.awaiting = s.awaiting.delivered ∧
      u.mode = if s.awaiting.hasMore then m else .rest := by
  have hr : s.recipient = .ok a := by
    unfold recipient
    rw [ha]
  obtain ⟨hp, u, hu, hst⟩ := turn_deliver h hc hr hm
  exact ⟨u, finish_of_turn (isDone_of_isPending hp) hu, hst⟩

/-- One more character of a number. -/
theorem react_number (hm : s.mode = .waitNumber) (hc : c ≠ ';')
    (hz : (s.gather c).awaiting.literal.startsNumber = true) :
    s.react c = .ok ((s.gather c).enter .waitNumber) := by
  have hu : upper c ≠ [';'] := fun h => hc (upper_eq_semicolon.mp h)
  unfold react
  rw [hm]
  simp only [onWaitNumber, if_neg hu, enter, hz, Bool.not_true, Bool.false_eq_true, if_false]

/-- The end of a number. -/
theorem react_endNumber (hm : s.mode = .waitNumber)
    (hz : s.awaiting.literal.startsNumber = true) :
    s.react ';' = .ok (s.markStart.enter .gotNumber) := by
  have hu : upper ';' = [';'] := upper_eq_semicolon.mpr rfl
  unfold react
  rw [hm]
  simp only [onWaitNumber, if_pos hu, enter, markStart_awaiting, hz, Bool.not_true,
    Bool.false_eq_true, if_false]

/-- A character that is no zero, where a number should start. -/
theorem react_noNumber (hm : s.mode = .waitNumber) (hl : s.awaiting.literal = .empty)
    (hc : c ≠ '0') : ∃ u, s.react c = .ok u ∧ u.mode = .noNumber ∧
      u.cursor = s.cursor.markHere ∧ u.honourRadix = s.honourRadix ∧
      Reading.ofScanner u = .ofScanner s := by
  have hmark : s.markStart = { s with cursor := s.cursor.markHere } := if_pos (by rw [hl]; rfl)
  unfold react
  rw [hm]
  by_cases hs : upper c = [';']
  · have hz : s.markStart.awaiting.literal.startsNumber = false := by
      rw [markStart_awaiting, hl]
      rfl
    refine ⟨_, rfl, ?_⟩
    simp only [onWaitNumber, if_pos hs, enter, hz, Bool.not_false, if_true, keep]
    rw [hmark]
    exact ⟨trivial, rfl, rfl, rfl⟩
  · have hz : (s.gather c).awaiting.literal.startsNumber = false := by
      rw [literal_gather, hl]
      simpa [Literal.startsNumber, Literal.push, Literal.empty] using hc
    refine ⟨_, rfl, ?_⟩
    simp only [onWaitNumber, if_neg hs, enter, hz, Bool.not_false, if_true, keep]
    unfold gather
    rw [hmark]
    exact ⟨trivial, rfl, rfl, rfl⟩

theorem stands_markStart (s : Scanner) (hk : s.awaiting.literal.start ≠ none →
    s.cursor.mark ≤ s.cursor.pos) :
    s.markStart.cursor.mark ≤ s.cursor.pos ∧ s.markStart.cursor.pos = s.cursor.pos ∧
      s.markStart.cursor.chars = s.cursor.chars ∧ s.markStart.honourRadix = s.honourRadix ∧
      s.markStart.awaiting = s.awaiting ∧ Reading.ofScanner s.markStart = .ofScanner s := by
  unfold markStart
  split
  · exact ⟨Int.le_refl _, rfl, rfl, rfl, rfl, rfl⟩
  · next h => exact ⟨hk h, rfl, rfl, rfl, rfl, rfl⟩

/-- The turn in which a character of a literal is collected. -/
theorem turn_gather {m : Mode} (h : Stands radix size r (c :: t) s)
    (hk : s.awaiting.literal.start ≠ none → s.cursor.mark ≤ s.cursor.pos)
    (e : s.react c = .ok ((s.gather c).enter m)) :
    ∃ u, s.turn = .ok u ∧ Stands radix size r t u ∧ u.mode = m ∧
      u.awaiting = s.awaiting.gather [c] s.pos ∧ u.cursor.mark ≤ u.cursor.pos := by
  obtain ⟨hmark, hpos, hchars, hx, haw, hr⟩ := stands_markStart s hk
  refine ⟨_, turn_react h e, h.past (hr.trans h.reading) hx hchars hpos, rfl, ?_, ?_⟩
  · show s.markStart.awaiting.gather [c] s.markStart.cursor.pos = _
    rw [haw, hpos]
    rfl
  · show s.markStart.cursor.mark ≤ s.markStart.cursor.pos + 1
    omega

/-- A character of a literal is collected. -/
theorem stands_gather {m : Mode} (h : Stands radix size r (c :: t) s)
    (hk : s.awaiting.literal.start ≠ none → s.cursor.mark ≤ s.cursor.pos)
    (e : s.react c = .ok ((s.gather c).enter m)) :
    ∃ u, s.finish = u.finish ∧ Stands radix size r t u ∧ u.mode = m ∧
      u.awaiting = s.awaiting.gather [c] s.pos ∧ u.cursor.mark ≤ u.cursor.pos :=
  (turn_gather h hk e).imp fun _ hu => ⟨finish_of_turn h.isDone hu.1, hu.2⟩

/-- The turn in which a semicolon ends a literal. -/
theorem turn_endLiteral {m : Mode} (h : Stands radix size r (c :: t) s)
    (hk : s.awaiting.literal.start ≠ none → s.cursor.mark ≤ s.cursor.pos)
    (e : s.react c = .ok (s.markStart.enter m)) :
    ∃ u, s.turn = .ok u ∧ Stands radix size r t u ∧ u.mode = m ∧
      u.awaiting = s.awaiting ∧ u.cursor.mark ≤ u.cursor.pos := by
  obtain ⟨hmark, hpos, hchars, hx, haw, hr⟩ := stands_markStart s hk
  refine ⟨_, turn_react h e, h.past (hr.trans h.reading) hx hchars hpos, rfl, haw, ?_⟩
  show s.markStart.cursor.mark ≤ s.markStart.cursor.pos + 1
  omega

/-- A semicolon ends a literal. -/
theorem stands_endLiteral {m : Mode} (h : Stands radix size r (c :: t) s)
    (hk : s.awaiting.literal.start ≠ none → s.cursor.mark ≤ s.cursor.pos)
    (e : s.react c = .ok (s.markStart.enter m)) :
    ∃ u, s.finish = u.finish ∧ Stands radix size r t u ∧ u.mode = m ∧
      u.awaiting = s.awaiting ∧ u.cursor.mark ≤ u.cursor.pos :=
  (turn_endLiteral h hk e).imp fun _ hu => ⟨finish_of_turn h.isDone hu.1, hu.2⟩

/-- A semicolon ends a literal, and the parameter it makes is delivered. -/
theorem stands_endParameter {a : Address} {o : Parameter} {g m : Mode}
    (h : Stands radix size r (c :: t) s) (ha : s.awaiting.target = some a)
    (hk : s.awaiting.literal.start ≠ none → s.cursor.mark ≤ s.cursor.pos)
    (e : s.react c = .ok (s.markStart.enter g))
    (ho : ∀ u : Scanner, u.mode = g → u.awaiting = s.awaiting → u.honourRadix = radix →
      u.complete? = some (o, m)) :
    ∃ u, s.finish = u.finish ∧ Stands radix size (r.give o a) t u ∧
      u.awaiting = s.awaiting.delivered ∧ u.mode = if s.awaiting.hasMore then m else .rest := by
  obtain ⟨u, hu, hst, hum, haw, hk'⟩ := stands_endLiteral h hk e
  obtain ⟨v, hv, hst', hvaw, hvm⟩ :=
    stands_deliver hst (ho u hum haw hst.radix) (haw ▸ ha) hk'
  rw [haw] at hvaw hvm
  exact ⟨v, hu.trans hv, hst', hvaw, hvm⟩

/-- A number with too many digits is not delivered, and stops the run. -/
theorem finish_unread {f : Fault} (h : Stands radix size r t s) (hm : s.mode = .gotNumber)
    (hn : s.awaiting.literal.asNumber radix = .error f) :
    ∃ k, s.finish = .error k ∧ k.fault = f := by
  have e : s.settle = .error ⟨f, s⟩ := by
    unfold settle
    rw [hm]
    show s.onGotNumber = _
    unfold onGotNumber
    rw [h.radix, hn]
  exact ⟨_, finish_settle_error h (by rw [hm]; rfl) e, rfl⟩

/-- A number is collected up to the next semicolon and delivered, unless it has too many digits. -/
theorem stands_number {a : Address} (h : Stands radix size r t s) (hm : s.mode = .waitNumber)
    (ha : s.awaiting.target = some a) (hz : s.awaiting.literal.startsNumber = true)
    (hk : s.cursor.mark ≤ s.cursor.pos) :
    match Forward.cutNumber t with
    | none => Returns radix size r [] s
    | some (l, rest) =>
      match readNumber radix (s.awaiting.literal.text ++ l) with
      | .error f => ∃ k, s.finish = .error k ∧ k.fault = f
      | .ok v => ∃ u, s.finish = u.finish ∧ Stands radix size (r.give (.number v) a) rest u ∧
          u.awaiting = s.awaiting.delivered ∧
          u.mode = if s.awaiting.hasMore then .waitNumber else .rest := by
  induction t generalizing s with
  | nil => exact Returns.of_nil h (by rw [hm]; rfl)
  | cons c t ih =>
      unfold Forward.cutNumber
      by_cases hc : c = ';'
      · subst hc
        rw [if_pos rfl]
        dsimp only
        rw [List.append_nil]
        cases hn : readNumber radix s.awaiting.literal.text with
        | error f =>
            obtain ⟨u, hu, hst, hum, haw, -⟩ :=
              stands_endLiteral h (fun _ => hk) (react_endNumber hm hz)
            obtain ⟨k, hstop, hf⟩ := finish_unread hst hum (haw ▸ hn)
            exact ⟨k, hu.trans hstop, hf⟩
        | ok v =>
            refine stands_endParameter h ha (fun _ => hk) (react_endNumber hm hz) ?_
            intro u hum haw hx
            exact complete?_number hum (by rw [haw, hx]; exact hn)
      · rw [if_neg hc]
        have hz' : (s.awaiting.literal.push [c] s.cursor.pos).startsNumber = true := by
          unfold Literal.startsNumber Literal.push at *
          simp only [List.head?_append, decide_eq_true_eq] at hz ⊢
          rw [hz]
          rfl
        obtain ⟨u, hu, hst, hum, haw, hk'⟩ := stands_gather h (fun _ => hk)
          (react_number hm hc (literal_gather s c ▸ hz'))
        have hih := ih hst hum (by rw [haw]; exact ha) (by rw [haw]; exact hz') hk'
        rw [haw] at hih
        cases hcut : Forward.cutNumber t with
        | none =>
            rw [hcut] at hih
            exact hih.of_finish hu
        | some p =>
            have hl : s.awaiting.literal.text ++ c :: p.1 =
                s.awaiting.literal.text ++ [c] ++ p.1 := by simp
            rw [hcut] at hih
            show match readNumber radix (s.awaiting.literal.text ++ c :: p.1) with
              | .error f => ∃ k, s.finish = .error k ∧ k.fault = f
              | .ok v => _
            rw [hl]
            change match readNumber radix (s.awaiting.literal.text ++ [c] ++ p.1) with
              | .error f => ∃ k, u.finish = .error k ∧ k.fault = f
              | .ok v => _ at hih
            rw [hu]
            exact hih

theorem onNoNumber_of_le (hk : s.cursor.mark ≤ s.cursor.pos - 1) :
    s.onNoNumber = .ok { s with
      cursor := { s.cursor with pos := s.cursor.pos - 2 }
      awaiting := .idle
      mode := .rest
      trace := s.trace ++ line "There is no parameter." } := by
  have hb : (s.tellLine "There is no parameter.").cursor.mark ≤
      (s.tellLine "There is no parameter.").cursor.pos - 2 + 1 := by
    show s.cursor.mark ≤ s.cursor.pos - 2 + 1
    omega
  unfold onNoNumber
  rw [goBack_of_le hb]
  rfl

/-- A missing number: its first character is left, and no parameter is awaited any more. -/
theorem returns_noNumber (h : Stands radix size r (c :: t) s) (hm : s.mode = .waitNumber)
    (hl : s.awaiting.literal = .empty) (hc : c ≠ '0') :
    Returns radix size (r.tell (line "There is no parameter.")) (c :: t) s := by
  obtain ⟨u, e, hum, huc, hux, hur⟩ := react_noNumber hm hl hc
  have hst : Stands radix size r t (u.past c) :=
    h.past (hur.trans h.reading) hux (by rw [huc]; rfl) (by rw [huc]; rfl)
  -- the scanner has passed the character, and goes back in front of it in the next turn
  have hmode : (u.past c).mode = .noNumber := hum
  have hset : (u.past c).settle = (u.past c).onNoNumber := by
    unfold settle
    rw [hmode]
  have hk : (u.past c).cursor.mark ≤ (u.past c).cursor.pos - 1 := by
    show u.cursor.mark ≤ u.cursor.pos + 1 - 1
    rw [huc]
    show s.cursor.pos ≤ s.cursor.pos + 1 - 1
    omega
  obtain ⟨q, hq⟩ :=
    finish_settle hst (by rw [hmode]; rfl) (hset.trans (onNoNumber_of_le hk))
  refine ⟨_, (finish_react h e).trans hq, h.congr ?_ hux ?_ ?_, .inl rfl⟩
  · rw [← h.reading, ← hur]
    rfl
  · show u.cursor.chars = s.cursor.chars
    rw [huc]
    rfl
  · show u.cursor.pos + 1 - 2 + 1 = s.cursor.pos
    rw [huc]
    show s.cursor.pos + 1 - 2 + 1 = s.cursor.pos
    omega

/-- After a parameter of so many has been delivered. -/
theorem mode_delivered {n : Nat} {a : Address} {m : Mode} (hu : u.awaiting = s.awaiting.delivered)
    (hm : u.mode = if s.awaiting.hasMore then m else .rest)
    (ha : s.awaiting.pending = n + 1) (ht : s.awaiting.target = some a) :
    (u.mode = if 0 < n then m else .rest) ∧ (0 < n → u.awaiting = .expect n (some a)) := by
  have hmore : s.awaiting.hasMore = decide (0 < n) := by
    unfold Awaiting.hasMore
    rw [ha, decide_eq_decide]
    omega
  rw [hmore] at hm
  refine ⟨by simpa using hm, fun hn => ?_⟩
  rw [hu]
  unfold Awaiting.delivered Awaiting.expect
  rw [hmore, ha, ht, if_pos (by simpa using hn), Int.add_sub_cancel]

/-- Numbers are read like the forward reader reads them. -/
theorem follows_numbers {n : Nat} {a : Address} (h : Stands radix size r t s)
    (hm : s.mode = if 0 < n then .waitNumber else .rest)
    (ha : 0 < n → s.awaiting = .expect n (some a)) :
    Follows radix size s (Forward.numbers radix a n r t) := by
  induction n generalizing r t s with
  | zero => exact ⟨s, rfl, h, .inl hm⟩
  | succ n ih =>
      have hm : s.mode = .waitNumber := hm
      have ha : s.awaiting = .expect (n + 1) (some a) := ha (Nat.succ_pos n)
      have hl : s.awaiting.literal = .empty := by rw [ha]; rfl
      cases t with
      | nil => exact Returns.of_nil h (by rw [hm]; rfl)
      | cons c t =>
          unfold Forward.numbers
          by_cases hc : c = '0'
          · subst hc
            have hz : (s.awaiting.literal.push ['0'] s.cursor.pos).startsNumber = true := by
              rw [hl]
              rfl
            have hstart : s.awaiting.literal.start = none := by rw [hl]; rfl
            obtain ⟨u, hu, hst, hum, haw, hk⟩ := stands_gather h (fun hs => absurd hstart hs)
              (react_number hm (by decide) (literal_gather s '0' ▸ hz))
            rw [ha] at haw
            have hnum := stands_number (a := a) hst hum (by rw [haw]; rfl) (by rw [haw]; rfl) hk
            rw [if_neg (by simp)]
            simp only [Forward.cutNumber, if_neg (show '0' ≠ ';' by decide)]
            cases hcut : Forward.cutNumber t with
            | none =>
                rw [hcut] at hnum
                exact hnum.of_finish hu
            | some p =>
                rw [hcut] at hnum
                have hl : u.awaiting.literal.text ++ p.1 = '0' :: p.1 := by rw [haw]; rfl
                dsimp only [Option.map] at hnum ⊢
                rw [hl] at hnum
                cases hn : readNumber radix ('0' :: p.1) with
                | error f =>
                    rw [hn] at hnum
                    obtain ⟨k, hk, hf⟩ := hnum
                    exact ⟨k, hu.trans hk, hf⟩
                | ok v =>
                    rw [hn] at hnum
                    obtain ⟨w, hw, hst', hwaw, hwm⟩ := hnum
                    obtain ⟨hwm, hwaw⟩ := mode_delivered (n := n) (a := a) hwaw hwm
                      (by rw [haw]; rfl) (by rw [haw]; rfl)
                    exact (ih hst' hwm hwaw).of_finish (hu.trans hw)
          · rw [if_pos hc]
            exact returns_noNumber h hm hl hc

/-! ### Text parameters -/

/-- One more character of a text. -/
theorem react_text (hm : s.mode = .waitText)
    (hc : ¬(c = ';' ∧ s.awaiting.literal.quoted = false)) :
    s.react c = .ok ((s.gather c).enter .waitText) := by
  unfold react
  rw [hm]
  simp only [onWaitText, upper_eq_semicolon, if_neg hc]

/-- The end of a text. -/
theorem react_endText (hm : s.mode = .waitText) (hq : s.awaiting.literal.quoted = false) :
    s.react ';' = .ok (s.markStart.enter .gotText) := by
  unfold react
  rw [hm]
  simp only [onWaitText, upper_eq_semicolon, hq, and_self, if_true]

/-- A text is collected up to the next semicolon outside of double quotes and delivered. -/
theorem stands_text {a : Address} (h : Stands radix size r t s) (hm : s.mode = .waitText)
    (ha : s.awaiting.target = some a)
    (hk : s.awaiting.literal.start ≠ none → s.cursor.mark ≤ s.cursor.pos) :
    match Forward.cutText s.awaiting.literal.quoted t with
    | none => Returns radix size r [] s
    | some (l, rest) => ∃ u, s.finish = u.finish ∧
        Stands radix size
          (r.give (.text (stripQuotes (s.awaiting.literal.text ++ l))) a) rest u ∧
        u.awaiting = s.awaiting.delivered ∧
        u.mode = if s.awaiting.hasMore then .waitText else .rest := by
  induction t generalizing s with
  | nil => exact Returns.of_nil h (by rw [hm]; rfl)
  | cons c t ih =>
      unfold Forward.cutText
      by_cases hc : c = ';' ∧ s.awaiting.literal.quoted = false
      · obtain ⟨rfl, hq⟩ := hc
        rw [if_pos ⟨rfl, hq⟩]
        show ∃ u, _
        rw [List.append_nil]
        refine stands_endParameter h ha hk (react_endText hm hq) ?_
        intro u hum haw _
        rw [complete?_text hum, haw]
        rfl
      · rw [if_neg hc]
        obtain ⟨u, hu, hst, hum, haw, hk'⟩ := stands_gather h hk (react_text hm hc)
        have hih := ih hst hum (by rw [haw]; exact ha) (fun _ => hk')
        have hq : u.awaiting.literal.quoted =
            if c = '"' then !s.awaiting.literal.quoted else s.awaiting.literal.quoted := by
          rw [haw]
          simp [Awaiting.gather, Literal.push]
        rw [hq, haw] at hih
        cases hcut : Forward.cutText
            (if c = '"' then !s.awaiting.literal.quoted else s.awaiting.literal.quoted) t with
        | none =>
            rw [hcut] at hih
            exact hih.of_finish hu
        | some p =>
            rw [hcut] at hih
            obtain ⟨v, hv, hst', hvaw, hvm⟩ := hih
            refine ⟨v, hu.trans hv, ?_, hvaw, hvm⟩
            have hl : s.awaiting.literal.text ++ [c] ++ p.1 =
                s.awaiting.literal.text ++ c :: p.1 := by simp
            rw [← hl]
            exact hst'

/-- Texts are read like the forward reader reads them. -/
theorem returns_texts {n : Nat} {a : Address} (h : Stands radix size r t s)
    (hm : s.mode = if 0 < n then .waitText else .rest)
    (ha : 0 < n → s.awaiting = .expect n (some a)) :
    Returns radix size (Forward.texts a n r t).1 (Forward.texts a n r t).2 s := by
  induction n generalizing r t s with
  | zero => exact ⟨s, rfl, h, .inl hm⟩
  | succ n ih =>
      have hm : s.mode = .waitText := hm
      have ha : s.awaiting = .expect (n + 1) (some a) := ha (Nat.succ_pos n)
      have hstart : s.awaiting.literal.start = none := by rw [ha]; rfl
      have htext :=
        stands_text (a := a) h hm (by rw [ha]; rfl) (fun hs => absurd hstart hs)
      rw [ha] at htext
      unfold Forward.texts
      have hq : (Awaiting.expect (n + 1) (some a)).literal.quoted = false := rfl
      rw [hq] at htext
      cases hcut : Forward.cutText false t with
      | none =>
          rw [hcut] at htext
          exact htext
      | some p =>
          rw [hcut] at htext
          obtain ⟨v, hv, hst', hvaw, hvm⟩ := htext
          rw [← ha] at hvaw hvm
          obtain ⟨hvm, hvaw⟩ :=
            mode_delivered (n := n) (a := a) hvaw hvm (by rw [ha]; rfl) (by rw [ha]; rfl)
          exact (ih hst' hvm hvaw).of_finish hv

end Scanner

end StageCues
