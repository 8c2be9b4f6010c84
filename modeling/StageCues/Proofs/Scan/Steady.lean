import StageCues.Proofs.Scan.Load

/-!
# Scan — what holds between two turns

`Steady s` is the invariant of a scan: the cursor stands in the text and not before the mark, a
token of which the first character was read has that character right before the cursor, and while a
parameter is collected, complete or missing there is a target for it.  It holds at the front of a
text (`steady_start`) and every turn keeps it (`steady_turn`).
-/

namespace StageCues

open Text

/-- Whether the mode waits for the second character of a token. -/
def Mode.isBegun : Mode → Bool
  | .letterC | .letterK | .letterB | .letterW | .letterF | .letterI | .number | .command => true
  | _ => false

/-- A mode that waits for a character has nothing to settle. -/
theorem Mode.not_isPending_of_isBegun {m : Mode} (h : m.isBegun = true) : m.isPending = false := by
  cases m <;> first | rfl | cases h

namespace Scanner

/-- The invariant of a scan. -/
structure Steady (s : Scanner) : Prop where
  mark_nonneg : 0 ≤ s.cursor.mark
  mark_le : s.cursor.mark ≤ s.cursor.pos
  pos_le : s.cursor.pos ≤ s.cursor.chars.size
  /-- The first character of a token stands right before the cursor. -/
  begun : s.mode.isBegun = true → ∃ n : Nat, s.cursor.pos = n + 1 ∧
    s.cursor.chars[n]? = some s.previous ∧ Mode.ofLeading? (upper s.previous) = some s.mode
  target : s.mode.isParameter = true → s.awaiting.target.isSome = true

variable {s t : Scanner} {c : Char}

theorem steady_start (honourRadix : Bool) (t : Text) : Steady (start honourRadix t) where
  mark_nonneg := Int.le_refl 0
  mark_le := Int.le_refl 0
  pos_le := Int.natCast_nonneg _
  begun := nofun
  target := nofun

theorem Steady.pos_nonneg (h : Steady s) : 0 ≤ s.cursor.pos :=
  Int.le_trans h.mark_nonneg h.mark_le

/-- The character at the cursor is the one at its position. -/
theorem Steady.char?_eq (h : Steady s) : s.cursor.char? = s.cursor.chars[s.cursor.pos.toNat]? :=
  if_pos h.pos_nonneg

/-- Before the end of the text there is a character at the cursor. -/
theorem Steady.exists_char (h : Steady s) (ha : s.cursor.atEnd = false) :
    ∃ c, s.cursor.char? = some c := by
  have h₀ := h.pos_nonneg
  have h₁ := ahead_pos_iff.mpr ha
  unfold ahead at h₁
  rw [h.char?_eq]
  exact ⟨_, Array.getElem?_eq_getElem (by omega)⟩

/-! ### Every turn keeps the invariant -/

/-- Only a character that starts a token leads to a mode that waits for the second one. -/
theorem ofLeading?_of_leads {m m' : Mode} (h : m.Leads c m') (hb : m'.isBegun = true) :
    Mode.ofLeading? (upper c) = some m' := by
  cases h with
  | start h => exact h
  | marked h =>
      unfold Mode.ofMarker? at h
      split at h <;> cases h <;> cases hb
  | digit h => rcases h with rfl | rfl | rfl <;> cases hb
  | _ => cases hb

/-- Parameters are begun by building something only. -/
theorem isParameter_of_leads {m m' : Mode} (h : m.Leads c m') : m'.isParameter = false := by
  cases h with
  | start h =>
      unfold Mode.ofLeading? at h
      split at h <;> cases h <;> rfl
  | marked h =>
      unfold Mode.ofMarker? at h
      split at h <;> cases h <;> rfl
  | digit h => rcases h with rfl | rfl | rfl <;> rfl
  | _ => rfl

/-- No parameter is left by building nothing. -/
theorem not_isParameter_of_leads {m m' : Mode} (h : m.Leads c m') : m.isParameter = false := by
  cases h with
  | digit h => rcases h with rfl | rfl | rfl <;> rfl
  | close _ h => exact h
  | _ => rfl

/-- Only a parameter can be complete, and only a parameter can follow it. -/
theorem isParameter_of_complete {p : Parameter} {m : Mode} (h : s.complete? = some (p, m)) :
    s.mode.isParameter = true ∧ m.isParameter = true := by
  obtain ⟨hmode, hagain⟩ := mode_of_complete h
  constructor
  · rcases hmode with e | e <;> rw [e] <;> rfl
  · rcases hagain with rfl | rfl <;> rfl

/-- Characters are collected for parameters only. -/
theorem isParameter_of_waits {P Q : Prop} (h : s.mode = .waitNumber ∧ P ∨ s.mode = .waitText ∧ Q) :
    s.mode.isParameter = true := by
  rcases h with ⟨e, -⟩ | ⟨e, -⟩ <;> rw [e] <;> rfl

/-- A number goes on, is complete or is missing. -/
theorem isParameter_number {b : Prop} [Decidable b] {m : Mode} (h : m.isParameter = true) :
    (if b then m else .noNumber : Mode).isParameter = true := by
  split
  · exact h
  · rfl

/-- No token is begun while parameters are taken. -/
theorem isBegun_of_isParameter {m : Mode} (h : m.isParameter = true) : m.isBegun = false := by
  cases m <;> first | rfl | cases h

/-- A move that leaves the cursor where it is, but for the mark, keeps the invariant when the cursor
advances. -/
theorem Steady.advance (h : Steady s) (hc : s.cursor.char? = some c)
    (ha : s.cursor.atEnd = false)
    (hu : t.cursor = s.cursor ∨ t.cursor = s.cursor.markHere)
    (hb : t.mode.isBegun = true → Mode.ofLeading? (upper c) = some t.mode)
    (ht : t.mode.isParameter = true → t.awaiting.target.isSome = true) :
    Steady ({ t with previous := c }.next) := by
  have h₀ := h.pos_nonneg
  have h₁ : s.cursor.pos < s.cursor.chars.size := by
    have := ahead_pos_iff.mpr ha
    unfold ahead at this
    omega
  obtain ⟨hpos, hchars⟩ :
      t.cursor.pos = s.cursor.pos ∧ t.cursor.chars = s.cursor.chars := by
    rcases hu with e | e <;> exact e ▸ ⟨rfl, rfl⟩
  have hmark : 0 ≤ t.cursor.mark ∧ t.cursor.mark ≤ s.cursor.pos := by
    rcases hu with e | e <;> rw [e]
    · exact ⟨h.mark_nonneg, h.mark_le⟩
    · exact ⟨h₀, Int.le_refl _⟩
  constructor
  · exact hmark.1
  · show t.cursor.mark ≤ t.cursor.pos + 1
    omega
  · show t.cursor.pos + 1 ≤ t.cursor.chars.size
    rw [hpos, hchars]
    omega
  · intro hm
    refine ⟨s.cursor.pos.toNat, ?_, ?_, hb hm⟩
    · show t.cursor.pos + 1 = _
      omega
    · show t.cursor.chars[_]? = some c
      rw [hchars, ← h.char?_eq, hc]
  · exact ht

theorem Steady.settle (h : Steady s) (hs : Settles s t) (p : Char) :
    Steady ({ t with previous := p }.next) := by
  cases hs with
  | @deliver q m a hq _ hm =>
      obtain ⟨hmode, hnext⟩ := isParameter_of_complete hq
      constructor
      · exact h.mark_nonneg
      · show s.cursor.mark ≤ s.cursor.pos - 1 + 1
        omega
      · show s.cursor.pos - 1 + 1 ≤ s.cursor.chars.size
        have := h.pos_le
        omega
      · show (if s.awaiting.hasMore then m else .rest : Mode).isBegun = true → _
        split
        · rw [isBegun_of_isParameter hnext]; nofun
        · nofun
      · show (if s.awaiting.hasMore then m else .rest : Mode).isParameter = true →
          (if s.awaiting.hasMore then s.awaiting.target else none).isSome = true
        split
        · exact fun _ => h.target hmode
        · nofun
  | cancel _ hm =>
      constructor
      · exact h.mark_nonneg
      · show s.cursor.mark ≤ s.cursor.pos - 2 + 1
        omega
      · show s.cursor.pos - 2 + 1 ≤ s.cursor.chars.size
        have := h.pos_le
        omega
      · nofun
      · nofun

theorem cursor_markStart (s : Scanner) :
    s.markStart.cursor = s.cursor ∨ s.markStart.cursor = s.cursor.markHere := by
  unfold markStart
  split
  · exact .inr rfl
  · exact .inl rfl

/-- A move inside of a parameter keeps its target. -/
theorem Steady.collect (h : Steady s) (hc : s.cursor.char? = some c)
    (ha : s.cursor.atEnd = false) (hp : s.mode.isParameter = true) (hb : t.mode.isBegun = false)
    (hu : t.cursor = s.markStart.cursor) (hw : t.awaiting.target = s.awaiting.target) :
    Steady ({ t with previous := c }.next) :=
  h.advance hc ha (hu ▸ cursor_markStart s) (fun e => absurd e (by simp [hb]))
    fun _ => hw ▸ h.target hp

/-- **A turn keeps the invariant.** -/
theorem steady_turn (h : Steady s) (hd : s.isDone = false) (e : s.turn = .ok t) : Steady t := by
  rcases turn_cases hd e with ⟨ha, c, u, hc, hm, rfl⟩ | ⟨-, -, u, hs, rfl⟩
  · cases hm with
    | quiet hl =>
        refine h.advance hc ha (.inl rfl) (ofLeading?_of_leads hl) ?_
        intro hp
        exact absurd hp (by simp [isParameter_of_leads hl])
    | iteration => exact h.advance hc ha (.inl rfl) nofun nofun
    | document => exact h.advance hc ha (.inl rfl) nofun nofun
    | endFrame => exact h.advance hc ha (.inl rfl) nofun nofun
    | addFrame => exact h.advance hc ha (.inl rfl) nofun fun _ => rfl
    | addWrite => exact h.advance hc ha (.inl rfl) nofun fun _ => rfl
    | head _ _ _ hm =>
        refine h.advance hc ha (.inl rfl) ?_ fun _ => rfl
        rcases hm with ⟨-, rfl⟩ | ⟨-, rfl⟩ <;> nofun
    | @gather m l hm =>
        have hw : s.markStart.awaiting.target = s.awaiting.target :=
          congrArg Awaiting.target (markStart_awaiting s)
        have hnext : m.isParameter = true := by
          rcases hm with ⟨-, -, rfl⟩ | ⟨-, -, rfl⟩
          · exact isParameter_number rfl
          · rfl
        exact h.collect hc ha (isParameter_of_waits hm) (isBegun_of_isParameter hnext) rfl hw
    | @finish m l _ hm =>
        have hw : s.markStart.awaiting.target = s.awaiting.target :=
          congrArg Awaiting.target (markStart_awaiting s)
        have hnext : m.isParameter = true := by
          rcases hm with ⟨-, rfl⟩ | ⟨-, -, rfl⟩
          · exact isParameter_number rfl
          · rfl
        exact h.collect hc ha (isParameter_of_waits hm) (isBegun_of_isParameter hnext) rfl hw
    | settle hs => exact h.settle hs c
  · exact h.settle hs u.previous

/-- A run that ends keeps the invariant. -/
theorem steady_finish (h : Steady s) (e : s.finish = .ok t) : Steady t :=
  keep_finish (fun _ _ hd e h => steady_turn h hd e) h e

/-- A finished scanner stands at the end of its text. -/
theorem Steady.pos_of_isDone (h : Steady s) (hd : s.isDone = true) :
    s.cursor.pos = s.cursor.chars.size := by
  unfold isDone Cursor.atEnd at hd
  have h₁ := h.pos_le
  simp at hd
  omega

end Scanner

end StageCues
