import StageCues.Proofs.Scan.Move

/-!
# Scan — every scan ends

The cursor goes backwards when a parameter is settled, so neither its position nor the text ahead
of it shows that a scan ends.  The `load` of a scanner does: two turns for every character ahead,
and a few more that depend on the mode.  Every turn lowers it (`load_turn`), whatever state the
scanner is in, and a scanner at the front of a text has a load of twice the length of the text.

A run with at least as many turns as the load never runs short, and it does not matter how many
more there are (`run_eq_finish`).  `finish` is that run; it satisfies the equations of the loop
(`finish_of_isDone`, `finish_of_turn`, `finish_of_halt`).  What holds at the end of every run is
proved by induction along the turns (`turn_induction`); what every turn keeps holds there, and where
a run fails as well (`keep_finish`, `keep_halt`).
-/

namespace StageCues

/-- The turns a mode may still need beyond two for every character ahead, when so many characters
of a literal have been collected.  A collected character has used one of its two turns; a complete
parameter is delivered in one more turn, a missing one in three, of which two read its first
character again. -/
def Mode.slack (collected : Nat) : Mode → Nat
  | .rest | .quotation => 0
  | .waitNumber | .waitText => collected + 2
  | .gotNumber | .gotText => collected + 3
  | .noNumber => 3
  | _ => 1

namespace Scanner

/-- The number of characters ahead of the cursor. -/
def ahead (s : Scanner) : Nat := (s.cursor.chars.size - s.cursor.pos).toNat

/-- A bound on the turns still to come. -/
def load (s : Scanner) : Nat := 2 * s.ahead + s.mode.slack s.awaiting.literal.text.length

variable {s t : Scanner} {c : Char}

theorem ahead_pos_iff : 0 < s.ahead ↔ s.cursor.atEnd = false := by
  unfold ahead Cursor.atEnd
  rw [decide_eq_false_iff_not]
  omega

theorem ahead_next (s : Scanner) : s.next.ahead = s.ahead - 1 := by
  show (s.cursor.chars.size - (s.cursor.pos + 1)).toNat =
    (s.cursor.chars.size - s.cursor.pos).toNat - 1
  omega

/-- Outside of parameters a mode needs at most one turn more than the characters ahead. -/
theorem slack_le_of_leads {m m' : Mode} (h : m.Leads c m') (l : Nat) :
    m'.slack l ≤ m.slack l + 1 := by
  cases h with
  | start h =>
      unfold Mode.ofLeading? at h
      split at h <;> cases h <;> simp [Mode.slack]
  | marked h =>
      unfold Mode.ofMarker? at h
      split at h <;> cases h <;> simp [Mode.slack]
  | _ => simp [Mode.slack]

/-- A move that leaves the cursor where it is and adds at most one turn lowers the load when the
cursor advances. -/
theorem load_next_lt (e : t.ahead = s.ahead) (ha : 0 < s.ahead)
    (hw : t.mode.slack t.awaiting.literal.text.length ≤
      s.mode.slack s.awaiting.literal.text.length + 1) : t.next.load < s.load := by
  have hn := ahead_next t
  show 2 * t.next.ahead + t.mode.slack t.awaiting.literal.text.length < _
  unfold load
  omega

/-- A mode that is entered for a new literal. -/
theorem load_expect_lt (e : t.ahead = s.ahead) (ha : 0 < s.ahead) (hs : s.mode.slack 0 = 1)
    (hl : t.awaiting.literal.text = []) (ht : t.mode = .waitNumber ∨ t.mode = .waitText) :
    t.next.load < s.load := by
  refine load_next_lt e ha ?_
  have hs' : ∀ l, s.mode.slack l = 1 := by
    intro l
    cases hm : s.mode <;> simp_all [Mode.slack]
  rw [hl, hs']
  rcases ht with h | h <;> simp [h, Mode.slack]

theorem ahead_markStart (s : Scanner) : s.markStart.ahead = s.ahead := by
  unfold markStart
  split <;> rfl

theorem length_literal_gather (s : Scanner) (c : Char) :
    (s.gather c).awaiting.literal.text.length = s.awaiting.literal.text.length + 1 := by
  simp [literal_gather, Literal.push]

/-- Settling a parameter lowers the load: the characters that are read again have been paid for. -/
theorem load_settles (h : Settles s t) : t.next.load < s.load := by
  cases h with
  | @deliver p m a hp _ _ =>
      -- the same characters are ahead, and of the turns kept for the literal at most two are needed
      obtain ⟨hmode, hagain⟩ := mode_of_complete hp
      have hm : (if s.awaiting.hasMore then m else .rest : Mode).slack 0 ≤ 2 := by
        rcases hagain with rfl | rfl <;> split <;> simp [Mode.slack]
      have hs : s.mode.slack s.awaiting.literal.text.length =
          s.awaiting.literal.text.length + 3 := by
        rcases hmode with e | e <;> rw [e] <;> rfl
      show 2 * (s.cursor.chars.size - (s.cursor.pos - 1 + 1)).toNat +
        (if s.awaiting.hasMore then m else .rest : Mode).slack 0 < _
      unfold load ahead
      omega
  | cancel hm _ =>
      -- one character more is ahead afterwards, and it takes two turns
      have hs : s.mode.slack s.awaiting.literal.text.length = 3 := by rw [hm]; rfl
      show 2 * (s.cursor.chars.size - (s.cursor.pos - 2 + 1)).toNat + 0 < _
      unfold load ahead
      omega

/-- Every move on a character ahead of the cursor lowers the load. -/
theorem load_move (h : Move s c t) (ha : 0 < s.ahead) : t.next.load < s.load := by
  cases h with
  | quiet h => exact load_next_lt rfl ha (slack_le_of_leads h _)
  | iteration h => exact load_next_lt rfl ha (by simp [Mode.slack])
  | document h => exact load_next_lt rfl ha (by simp [Mode.slack])
  | endFrame h => exact load_next_lt rfl ha (by simp [Mode.slack])
  | addFrame h => exact load_expect_lt rfl ha (by rw [h]; rfl) rfl (.inl rfl)
  | addWrite h => exact load_expect_lt rfl ha (by rw [h]; rfl) rfl (.inl rfl)
  | head h _ _ hm =>
      refine load_expect_lt rfl ha (by rw [h]; rfl) rfl ?_
      rcases hm with ⟨-, rfl⟩ | ⟨-, rfl⟩
      · exact .inl rfl
      · exact .inr rfl
  | @gather m l h =>
      refine load_next_lt (ahead_markStart s) ha ?_
      show m.slack (s.gather c).awaiting.literal.text.length ≤ _
      rw [length_literal_gather]
      rcases h with ⟨hm, -, rfl⟩ | ⟨hm, -, rfl⟩
      · rw [hm]
        split <;> simp [Mode.slack]
      · rw [hm]
        simp [Mode.slack]
  | @finish m l _ h =>
      refine load_next_lt (ahead_markStart s) ha ?_
      show m.slack s.markStart.awaiting.literal.text.length ≤ _
      rw [markStart_awaiting]
      rcases h with ⟨hm, rfl⟩ | ⟨hm, -, rfl⟩
      · rw [hm]
        split <;> simp [Mode.slack]
      · rw [hm]
        simp [Mode.slack]
  | settle h => exact load_settles h

/-- **Every turn lowers the load.** -/
theorem load_turn (hd : s.isDone = false) (e : s.turn = .ok t) : t.load < s.load := by
  rcases turn_cases hd e with ⟨ha, c, u, -, hm, rfl⟩ | ⟨-, -, u, hs, rfl⟩
  · have hu : u.next.load < s.load := load_move hm (ahead_pos_iff.mpr ha)
    exact hu
  · exact load_settles hs

/-- A scanner with something left to do has turns to come. -/
theorem load_pos (hd : s.isDone = false) : 0 < s.load := by
  cases ha : s.cursor.atEnd with
  | false =>
      have := ahead_pos_iff.mpr ha
      unfold load
      omega
  | true =>
      have hp : s.mode.isPending = true := by simpa [isDone, ha] using hd
      unfold load
      cases hm : s.mode <;> simp [hm, Mode.isPending] at hp <;> simp only [Mode.slack] <;> omega

/-! ### The run to the end -/

/-- The run to the end. -/
def finish (s : Scanner) : Except Halt Scanner := run s.load s

/-- What holds of a finished scanner, of one that cannot take its turn, and before every turn that
leads to where it holds, holds of every scanner. -/
theorem turn_induction {P : Scanner → Prop} (done : ∀ s, s.isDone = true → P s)
    (halt : ∀ s h, s.isDone = false → s.turn = .error h → P s)
    (more : ∀ s t, s.isDone = false → s.turn = .ok t → P t → P s) (s : Scanner) : P s := by
  induction hn : s.load using Nat.strongRecOn generalizing s with
  | ind n ih =>
      cases hd : s.isDone with
      | true => exact done s hd
      | false =>
          cases ht : s.turn with
          | error h => exact halt s h hd ht
          | ok t => exact more s t hd ht (ih _ (hn ▸ load_turn hd ht) t rfl)

theorem run_succ_of_turn (hd : s.isDone = false) (e : s.turn = .ok t) (n : Nat) :
    run (n + 1) s = run n t := by
  simp [run, hd, e]

theorem run_succ_of_halt {h : Halt} (hd : s.isDone = false) (e : s.turn = .error h) (n : Nat) :
    run (n + 1) s = .error h := by
  simp [run, hd, e]

/-- **Enough turns are enough**: with at least as many turns as its load, the end of a run does not
depend on their number. -/
theorem run_eq_finish {n : Nat} (hn : s.load ≤ n) : run n s = s.finish := by
  suffices h : ∀ m n, s.load ≤ m → s.load ≤ n → run m s = run n s from h _ _ hn (Nat.le_refl _)
  clear hn
  induction s using turn_induction with
  | done s hd => intro m n _ _; rw [run_of_isDone hd, run_of_isDone hd]
  | halt s h hd e =>
      intro m n hm hn
      have hp := load_pos hd
      obtain ⟨m, rfl⟩ := Nat.exists_eq_add_of_lt (Nat.lt_of_lt_of_le hp hm)
      obtain ⟨n, rfl⟩ := Nat.exists_eq_add_of_lt (Nat.lt_of_lt_of_le hp hn)
      rw [run_succ_of_halt hd e, run_succ_of_halt hd e]
  | more s t hd e ih =>
      intro m n hm hn
      have hl := load_turn hd e
      obtain ⟨m, rfl⟩ := Nat.exists_eq_add_of_lt (Nat.lt_of_lt_of_le (load_pos hd) hm)
      obtain ⟨n, rfl⟩ := Nat.exists_eq_add_of_lt (Nat.lt_of_lt_of_le (load_pos hd) hn)
      rw [run_succ_of_turn hd e, run_succ_of_turn hd e]
      exact ih _ _ (by omega) (by omega)

theorem finish_of_isDone (hd : s.isDone = true) : s.finish = .ok s := run_of_isDone hd _

theorem finish_of_halt {h : Halt} (hd : s.isDone = false) (e : s.turn = .error h) :
    s.finish = .error h := by
  rw [← run_eq_finish (Nat.le_succ _), run_succ_of_halt hd e]

theorem finish_of_turn (hd : s.isDone = false) (e : s.turn = .ok t) : s.finish = t.finish := by
  rw [← run_eq_finish (Nat.le_succ _), run_succ_of_turn hd e,
    run_eq_finish (Nat.le_of_lt (load_turn hd e))]

/-- What every turn keeps holds at the end of a run. -/
theorem keep_finish {P : Scanner → Prop}
    (keep : ∀ s t, s.isDone = false → s.turn = .ok t → P s → P t) (h : P s)
    (e : s.finish = .ok t) : P t := by
  induction s using turn_induction with
  | done s hd =>
      rw [finish_of_isDone hd] at e
      obtain rfl := Except.ok.inj e
      exact h
  | halt s k hd hk =>
      rw [finish_of_halt hd hk] at e
      cases e
  | more s u hd hu ih =>
      rw [finish_of_turn hd hu] at e
      exact ih (keep s u hd hu h) e

/-- What every turn keeps holds of the scanner that cannot take its turn, where a run fails. -/
theorem keep_halt {P : Scanner → Prop} {k : Halt}
    (keep : ∀ s t, s.isDone = false → s.turn = .ok t → P s → P t) (h : P s)
    (e : s.finish = .error k) : ∃ u, P u ∧ u.isDone = false ∧ u.turn = .error k := by
  induction s using turn_induction with
  | done s hd =>
      rw [finish_of_isDone hd] at e
      cases e
  | halt s k' hd hk =>
      rw [finish_of_halt hd hk] at e
      obtain rfl := Except.error.inj e
      exact ⟨s, h, hd, hk⟩
  | more s u hd hu ih =>
      rw [finish_of_turn hd hu] at e
      exact ih (keep s u hd hu h) e

/-- Before the first character the load is twice the length of the text. -/
theorem load_start (honourRadix : Bool) (t : Text) : (start honourRadix t).load = budget t := by
  simp [load, ahead, start, Cursor.ofText, budget, Mode.slack]

/-- A scan is the run to the end from the front of the text. -/
theorem scan_eq_finish (honourRadix : Bool) (t : Text) :
    scan honourRadix t =
      (fun s => s.keep (.done s.frames.length)) <$> (start honourRadix t).finish := by
  unfold scan
  rw [run_eq_finish (Nat.le_of_eq (load_start honourRadix t))]

end Scanner

end StageCues
