import StageCues.Proofs.Scan.Load

/-!
# Scan — what a run depends on

A turn reads little of a scanner: the character at the cursor, but no other character of the text;
the character before only when a frame token is being completed; the notes never.  `gist` keeps the
rest.  Scanners with the same gist do the same with the same character (`react_congr`), so they take
the same turn on it (`turn_alike`); a pending parameter is settled without a character, so the end
of the text and any character at all make the same turn there (`turn_alike_settle`).
-/

namespace StageCues.Scanner

/-- The scanner without the text, the character before and the notes. -/
def bare (s : Scanner) : Scanner :=
  { s with cursor := { s.cursor with chars := #[] }, previous := '\x00', notes := [] }

/-- What the rest of a run depends on, apart from the text: a frame token that is being completed
depends on the character before, no other mode does. -/
def gist (s : Scanner) : Scanner :=
  { s.bare with previous := if s.mode = .letterK then s.previous else '\x00' }

/-- What is left of a run when the scanner at its end is seen through a function. -/
def through (f : Scanner → Scanner) : Except Halt Scanner → Except Halt Scanner
  | .ok s => .ok (f s)
  | .error h => .error ⟨h.fault, f h.scanner⟩

variable {s t : Scanner} {c : Char}

theorem bare_onRest (s : Scanner) (c : Char) : (s.onRest c).bare = (s.gist.onRest c).bare := by
  unfold onRest
  split <;> rfl

theorem bare_onLetterC (s : Scanner) (c : Char) :
    (s.onLetterC c).bare = (s.gist.onLetterC c).bare := by
  unfold onLetterC
  split <;> rfl

theorem through_tellLines (s t : Scanner) (lines : List (Except Fault Text))
    (h : s.bare = t.bare) :
    through bare (s.tellLines lines) = through bare (t.tellLines lines) := by
  induction lines generalizing s t with
  | nil => exact congrArg Except.ok h
  | cons x lines ih =>
      cases x with
      | error f => exact congrArg (fun u => Except.error (⟨f, u⟩ : Halt)) h
      | ok u =>
          refine ih _ _ ?_
          have htold := congrArg (tellLine · u) h
          exact htold

theorem through_endFrame (s : Scanner) :
    through bare s.endFrame = through bare s.gist.endFrame := by
  have hrest : ∀ x : Except Halt Scanner, through bare ((fun t => t.enter .rest) <$> x) =
      (fun t => t.enter .rest) <$> through bare x := by
    intro x
    cases x <;> rfl
  have ho : CueList.lastOpenIndex s.gist.frames = CueList.lastOpenIndex s.frames := rfl
  unfold endFrame openFrame
  rw [ho]
  cases CueList.lastOpenIndex s.frames with
  | error f => rfl
  | ok i =>
      cases i with
      | none => rfl
      | some i =>
          show through bare (_ <$> _) = through bare (_ <$> _)
          rw [hrest, hrest]
          exact congrArg _ (through_tellLines _ _ _ rfl)

theorem through_onLetterK (h : s.mode = .letterK) :
    through bare (s.onLetterK c) = through bare (s.gist.onLetterK c) := by
  have hp : s.gist.previous = s.previous := if_pos h
  have ho : CueList.lastOpenIndex s.gist.frames = CueList.lastOpenIndex s.frames := rfl
  unfold onLetterK requireClosed
  rw [hp, ho]
  split
  · rfl
  · split
    · cases CueList.lastOpenIndex s.frames with
      | error f => rfl
      | ok i => cases i <;> rfl
    · split
      · cases CueList.lastOpenIndex s.frames with
        | error f => rfl
        | ok i => cases i <;> rfl
      · exact through_endFrame s

theorem through_onLetterB (s : Scanner) (c : Char) :
    through bare (s.onLetterB c) = through bare (s.gist.onLetterB c) := by
  unfold onLetterB addWrite openFrame
  simp only [tell, gist, bare]
  split
  · cases CueList.lastOpenIndex s.frames with
    | error f => rfl
    | ok i => cases i <;> rfl
  · rfl

theorem bare_onLetterW (s : Scanner) (c : Char) :
    (s.onLetterW c).bare = (s.gist.onLetterW c).bare := by
  unfold onLetterW
  split
  · rfl
  · split <;> rfl

theorem bare_onLetterF (s : Scanner) (c : Char) :
    (s.onLetterF c).bare = (s.gist.onLetterF c).bare := by
  unfold onLetterF
  split
  · rfl
  · split <;> rfl

theorem bare_onLetterI (s : Scanner) (c : Char) :
    (s.onLetterI c).bare = (s.gist.onLetterI c).bare := by
  unfold onLetterI
  split <;> rfl

theorem bare_onNumber (s : Scanner) (c : Char) :
    (s.onNumber c).bare = (s.gist.onNumber c).bare := by
  unfold onNumber
  split <;> rfl

theorem bare_onDigits (s : Scanner) (c : Char) :
    (s.onDigits c).bare = (s.gist.onDigits c).bare := by
  unfold onDigits
  split <;> rfl

theorem through_onCommand (s : Scanner) (c : Char) :
    through bare (s.onCommand c) = through bare (s.gist.onCommand c) := by
  unfold onCommand withHead
  simp only [tellLine, tell, gist, bare]
  split
  · rfl
  · split
    · cases s.document <;> rfl
    · split
      · cases s.document <;> rfl
      · rfl

theorem bare_onWaitNumber (s : Scanner) (c : Char) :
    (s.onWaitNumber c).bare = (s.gist.onWaitNumber c).bare := by
  unfold onWaitNumber gather markStart
  -- whether the literal has begun decides where the mark is, what is in it decides the mode
  by_cases hs : s.awaiting.literal.start = none
  · simp only [gist, bare, hs, if_true, enter, keep, pos, Cursor.markHere]
    split
    · split <;> rfl
    · split <;> rfl
  · simp only [gist, bare, hs, if_false, enter, keep, pos]
    split
    · split <;> rfl
    · split <;> rfl

theorem bare_onWaitText (s : Scanner) (c : Char) :
    (s.onWaitText c).bare = (s.gist.onWaitText c).bare := by
  unfold onWaitText gather markStart
  by_cases hs : s.awaiting.literal.start = none
  · simp only [gist, bare, hs, if_true]
    split <;> rfl
  · simp only [gist, bare, hs, if_false]
    split <;> rfl

theorem recipient_gist (s : Scanner) :
    s.gist.recipient = s.recipient.mapError fun h => (⟨h.fault, h.scanner.gist⟩ : Halt) := by
  unfold recipient openFrame
  simp only [gist, bare]
  cases s.awaiting.target with
  | some a => rfl
  | none =>
      cases CueList.lastOpenIndex s.frames with
      | error f => rfl
      | ok i => cases i <;> rfl

theorem through_deliver (s : Scanner) (p : Parameter) (m : Mode) :
    through bare (s.deliver p m) = through bare (s.gist.deliver p m) := by
  have hg := recipient_gist s
  cases hr : s.recipient with
  | error h =>
      rw [hr] at hg
      rw [deliver_of_error hr, deliver_of_error hg]
      rfl
  | ok a =>
      rw [hr] at hg
      by_cases hm : s.cursor.mark ≤ s.cursor.pos
      · rw [deliver_of_le hr hm, deliver_of_le hg hm]
        cases a <;> rfl
      · have hm : s.cursor.pos < s.cursor.mark := by omega
        rw [deliver_of_lt hr hm, deliver_of_lt hg hm]
        cases a <;> rfl

theorem through_onGotNumber (s : Scanner) :
    through bare s.onGotNumber = through bare s.gist.onGotNumber := by
  have hread : s.gist.awaiting.literal.asNumber s.gist.honourRadix =
      s.awaiting.literal.asNumber s.honourRadix := rfl
  unfold onGotNumber
  rw [hread]
  cases s.awaiting.literal.asNumber s.honourRadix with
  | error f => rfl
  | ok n => exact through_deliver s _ _

theorem through_onNoNumber (s : Scanner) :
    through bare s.onNoNumber = through bare s.gist.onNoNumber := by
  unfold onNoNumber
  by_cases hb : s.cursor.pos - 2 + 1 < s.cursor.mark
  · rw [goBack_of_lt (s := s.tellLine _) hb, goBack_of_lt (s := s.gist.tellLine _) hb]
    rfl
  · have hb : s.cursor.mark ≤ s.cursor.pos - 2 + 1 := by omega
    rw [goBack_of_le (s := s.tellLine _) hb, goBack_of_le (s := s.gist.tellLine _) hb]
    rfl

/-- What a character does to a scanner is what it does to its gist. -/
theorem through_react (s : Scanner) (c : Char) :
    through bare (s.react c) = through bare (s.gist.react c) := by
  have hm : s.gist.mode = s.mode := rfl
  unfold react
  rw [hm]
  split
  · exact congrArg Except.ok (bare_onRest s c)
  · exact congrArg Except.ok (bare_onLetterC s c)
  · next h => exact through_onLetterK h
  · exact through_onLetterB s c
  · exact congrArg Except.ok (bare_onLetterW s c)
  · exact congrArg Except.ok (bare_onLetterF s c)
  · exact congrArg Except.ok (bare_onLetterI s c)
  · rfl
  · exact congrArg Except.ok (bare_onNumber s c)
  · exact congrArg Except.ok (bare_onDigits s c)
  · exact congrArg Except.ok (bare_onDigits s c)
  · exact congrArg Except.ok (bare_onDigits s c)
  · exact through_onCommand s c
  · exact congrArg Except.ok (bare_onWaitNumber s c)
  · exact congrArg Except.ok (bare_onWaitText s c)
  · exact through_onGotNumber s
  · exact through_deliver s _ _
  · exact through_onNoNumber s

/-- Scanners with the same gist do the same with the same character. -/
theorem react_congr (h : s.gist = t.gist) (c : Char) :
    through bare (s.react c) = through bare (t.react c) := by
  rw [through_react, through_react t, h]

/-! ### Turns of scanners with the same gist -/

/-- A pending mode does not look at the character it is given. -/
theorem settle_eq_react (h : s.mode.isPending = true) (c : Char) : s.settle = s.react c := by
  unfold settle react
  cases hm : s.mode <;> simp_all [Mode.isPending]

theorem mode_settles (h : Settles s t) : t.mode ≠ .letterK := by
  cases h with
  | deliver hp =>
      rcases (mode_of_complete hp).2 with rfl | rfl <;>
        (show (if _ then _ else _ : Mode) ≠ _; split <;> nofun)
  | cancel => nofun

theorem mode_eq_of_gist (h : s.gist = t.gist) : s.mode = t.mode := by
  have hm : s.gist.mode = t.gist.mode := congrArg mode h
  exact hm

theorem pos_eq_of_gist (h : s.gist = t.gist) : s.cursor.pos = t.cursor.pos := by
  have hp : s.gist.cursor.pos = t.gist.cursor.pos := congrArg (fun u => u.cursor.pos) h
  exact hp

theorem bare_eq_of_gist (h : s.gist = t.gist) : s.bare = t.bare := by
  have hb : s.gist.bare = t.gist.bare := congrArg bare h
  exact hb

/-- Scanners that are the same but for the character before keep their gist when the cursor
advances, if they are given the same character or complete no frame token. -/
theorem gist_next {u v : Scanner} {p q : Char} (h : u.bare = v.bare)
    (hp : p = q ∨ u.mode ≠ .letterK) :
    ({ u with previous := p }.next).gist = ({ v with previous := q }.next).gist := by
  have hm : u.bare.mode = v.bare.mode := congrArg mode h
  have key : ∀ w : Scanner, ∀ r, ({ w with previous := r }.next).gist =
      { w.bare with
        cursor := w.bare.cursor.next
        previous := if w.mode = .letterK then r else '\x00' } := fun _ _ => rfl
  rw [key, key, h]
  rcases hp with rfl | hk
  · rw [show u.mode = v.mode from hm]
  · rw [if_neg hk, if_neg (show v.mode ≠ .letterK from fun e => hk (hm.trans e))]

/-- Two results of a turn that go on in the same way, or stop for the same cause with the same
elements built. -/
inductive Alike : Except Halt Scanner → Except Halt Scanner → Prop where
  | ok {u v : Scanner} : u.gist = v.gist → Alike (.ok u) (.ok v)
  | error {h k : Halt} : h.fault = k.fault → h.scanner.bare = k.scanner.bare →
      Alike (.error h) (.error k)

/-- Results that are the same but for the character before are alike after the cursor advances. -/
theorem alike_next {x y : Except Halt Scanner} {f g : Scanner → Char}
    (h : through bare x = through bare y)
    (hp : ∀ u v, x = .ok u → y = .ok v → f u = g v ∨ u.mode ≠ .letterK) :
    Alike ((fun u => { u with previous := f u }.next) <$> x)
      ((fun v => { v with previous := g v }.next) <$> y) := by
  cases x with
  | ok u =>
      cases y with
      | ok v => exact .ok (gist_next (Except.ok.inj h) (hp u v rfl rfl))
      | error k => cases h
  | error h' =>
      cases y with
      | ok v => cases h
      | error k =>
          have he : (⟨h'.fault, h'.scanner.bare⟩ : Halt) = ⟨k.fault, k.scanner.bare⟩ :=
            Except.error.inj h
          injection he with hf hb
          exact .error hf hb

theorem turn_of_atEnd (h : s.cursor.atEnd = true) : s.turn = next <$> s.settle := by
  unfold turn
  rw [if_pos h]

theorem turn_of_char (h : s.cursor.atEnd = false) (hc : s.cursor.char? = some c) :
    s.turn = (fun u => { u with previous := c }.next) <$> s.react c := by
  unfold turn
  rw [if_neg (by simp [h]), Cursor.read_eq_ok_iff.mpr hc]

/-- Scanners with the same gist that are given the same character take the same turn. -/
theorem turn_alike (hg : s.gist = t.gist) (hs : s.cursor.atEnd = false)
    (ht : t.cursor.atEnd = false) (hc : s.cursor.char? = some c) (hc' : t.cursor.char? = some c) :
    Alike s.turn t.turn := by
  rw [turn_of_char hs hc, turn_of_char ht hc']
  exact alike_next (react_congr hg c) fun _ _ _ _ => .inl rfl

/-- Settling a parameter at the end of the text is the same turn as settling it on a character,
and on any. -/
theorem turn_alike_settle (hg : s.gist = t.gist) (hp : s.mode.isPending = true)
    (hs : s.cursor.atEnd = true)
    (ht : t.cursor.atEnd = true ∨ t.cursor.atEnd = false ∧ t.cursor.char? = some c) :
    Alike s.turn t.turn := by
  have hpt : t.mode.isPending = true := mode_eq_of_gist hg ▸ hp
  have hr : through bare s.settle = through bare t.settle := by
    rw [settle_eq_react hp c, settle_eq_react hpt c]
    exact react_congr hg c
  have hm : ∀ u, s.settle = .ok u → u.mode ≠ .letterK := fun u hu =>
    mode_settles (settles_settle hp hu)
  rw [turn_of_atEnd hs]
  rcases ht with ht | ⟨ht, hc⟩
  · rw [turn_of_atEnd ht]
    exact alike_next (f := previous) (g := previous) hr fun u _ hu _ => .inr (hm u hu)
  · rw [turn_of_char ht hc, ← settle_eq_react hpt c]
    exact alike_next (f := previous) (g := fun _ => c) hr fun u _ hu _ => .inr (hm u hu)

end StageCues.Scanner
