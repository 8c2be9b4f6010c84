import StageCues.Proofs.Forward.Reader
import StageCues.Proofs.Scan.Gist

/-!
# Forward — where the scanner stands

`Stands` relates a scanner to the forward reader: what was read so far and the text that is left.
Of the mark, the character before and the notes it says nothing, and of the awaited parameters only
what the mode needs: each round of the reader sets them up anew.

A run comes to such a place character by character (`finish_react`), and by settling a parameter,
which takes the next character or none (`finish_settle`).  `Returns` says that it comes to where the
forward reader goes on with the rest of the text, and `Follows` that it does so or stops with the
fault that the forward reader stops with.
-/

namespace StageCues

namespace Scanner

/-- What was read, or the fault. -/
def outcome : Except Halt Scanner → Except Fault Reading
  | .ok s => .ok (.ofScanner s)
  | .error h => .error h.fault

/-- The scanner after a character has been handled. -/
def past (s : Scanner) (c : Char) : Scanner := { s with previous := c }.next

/-- The scanner has read `r`, and the text `t` is left of a text of the given size. -/
structure Stands (radix : Bool) (size : Nat) (r : Reading) (t : Text) (s : Scanner) : Prop where
  radix : s.honourRadix = radix
  size : s.cursor.chars.size = size
  reading : Reading.ofScanner s = r
  ahead : ∃ front : Text, s.cursor.text = front ++ t ∧ s.cursor.pos = front.length

/-- The run of the scanner comes to where `r` was read and `t` is left: between two tokens, or at
the end of the text with nothing to settle. -/
def Returns (radix : Bool) (size : Nat) (r : Reading) (t : Text) (s : Scanner) : Prop :=
  ∃ u, s.finish = u.finish ∧ Stands radix size r t u ∧
    (u.mode = .rest ∨ t = [] ∧ u.mode.isPending = false)

/-- The run of the scanner follows a step of the forward reader: it stops with its fault, or it
returns to where the step ends. -/
def Follows (radix : Bool) (size : Nat) (s : Scanner) : Except Fault (Reading × Text) → Prop
  | .error f => ∃ k, s.finish = .error k ∧ k.fault = f
  | .ok p => Returns radix size p.1 p.2 s

variable {radix : Bool} {size : Nat} {r r' : Reading} {t : Text} {s u : Scanner} {c : Char}

theorem Stands.char? (h : Stands radix size r (c :: t) s) : s.cursor.char? = some c := by
  obtain ⟨front, htext, hpos⟩ := h.ahead
  rw [Cursor.char?_eq_signedGet?, htext, hpos, signedGet?_ofNat]
  simp

theorem Stands.atEnd (h : Stands radix size r (c :: t) s) : s.cursor.atEnd = false := by
  obtain ⟨front, htext, hpos⟩ := h.ahead
  have : ¬s.cursor.atEnd = true := by
    rw [Cursor.atEnd_iff, htext, hpos]
    simp only [List.length_append, List.length_cons]
    omega
  simpa using this

theorem Stands.atEnd_nil (h : Stands radix size r [] s) : s.cursor.atEnd = true := by
  obtain ⟨front, htext, hpos⟩ := h.ahead
  rw [Cursor.atEnd_iff, htext, hpos]
  simp

/-- The cursor stands so far from the end as there is text left. -/
theorem Stands.pos_eq (h : Stands radix size r t s) : s.cursor.pos = size - t.length := by
  obtain ⟨front, htext, hpos⟩ := h.ahead
  have hl : s.cursor.text.length = size := by
    rw [← h.size]
    exact Array.length_toList
  rw [htext, List.length_append] at hl
  rw [hpos]
  omega

/-- A scanner that only differs in what nothing depends on stands at the same place. -/
theorem Stands.congr (h : Stands radix size r t s) (hr : Reading.ofScanner u = r')
    (hx : u.honourRadix = s.honourRadix) (hc : u.cursor.chars = s.cursor.chars)
    (hp : u.cursor.pos = s.cursor.pos) : Stands radix size r' t u where
  radix := hx.trans h.radix
  size := by rw [hc, h.size]
  reading := hr
  ahead := by
    obtain ⟨front, htext, hpos⟩ := h.ahead
    refine ⟨front, ?_, hp.trans hpos⟩
    unfold Cursor.text at htext ⊢
    rw [hc, htext]

/-- After a character that left the cursor where it was. -/
theorem Stands.past (h : Stands radix size r (c :: t) s) (hr : Reading.ofScanner u = r')
    (hx : u.honourRadix = s.honourRadix) (hc : u.cursor.chars = s.cursor.chars)
    (hp : u.cursor.pos = s.cursor.pos) : Stands radix size r' t (u.past c) where
  radix := hx.trans h.radix
  size := by
    show u.cursor.chars.size = size
    rw [hc, h.size]
  reading := hr
  ahead := by
    obtain ⟨front, htext, hpos⟩ := h.ahead
    refine ⟨front ++ [c], ?_, ?_⟩
    · show u.cursor.chars.toList = _
      unfold Cursor.text at htext
      rw [hc, htext]
      simp
    · show u.cursor.pos + 1 = _
      rw [hp, hpos]
      simp

/-! ### Turns -/

/-- There is something left to do before the end of the text. -/
theorem Stands.isDone (h : Stands radix size r (c :: t) s) : s.isDone = false := by
  simp [Scanner.isDone, h.atEnd]

theorem turn_react (h : Stands radix size r (c :: t) s) (e : s.react c = .ok u) :
    s.turn = .ok (u.past c) := by
  rw [turn_of_char h.atEnd h.char?, e]
  rfl

theorem finish_react (h : Stands radix size r (c :: t) s) (e : s.react c = .ok u) :
    s.finish = (u.past c).finish :=
  finish_of_turn h.isDone (turn_react h e)

theorem finish_react_error {k : Halt} (h : Stands radix size r (c :: t) s)
    (e : s.react c = .error k) : s.finish = .error k := by
  refine finish_of_halt h.isDone ?_
  rw [turn_of_char h.atEnd h.char?, e]
  rfl

/-- A pending mode settles on the next character or at the end of the text, and it makes no
difference. -/
theorem turn_settle (h : Stands radix size r t s) (hp : s.mode.isPending = true)
    (e : s.settle = .ok u) : ∃ q, s.turn = .ok (u.past q) := by
  cases t with
  | nil =>
      refine ⟨u.previous, ?_⟩
      rw [turn_of_atEnd h.atEnd_nil, e]
      rfl
  | cons c t => exact ⟨c, turn_react h (settle_eq_react hp c ▸ e)⟩

theorem isDone_of_isPending (h : s.mode.isPending = true) : s.isDone = false := by
  simp [Scanner.isDone, h]

theorem finish_settle (h : Stands radix size r t s) (hp : s.mode.isPending = true)
    (e : s.settle = .ok u) : ∃ q, s.finish = (u.past q).finish :=
  (turn_settle h hp e).imp fun _ he => finish_of_turn (isDone_of_isPending hp) he

/-- A parameter that does not settle stops the run. -/
theorem finish_settle_error {k : Halt} (h : Stands radix size r t s)
    (hp : s.mode.isPending = true) (e : s.settle = .error k) : s.finish = .error k := by
  refine finish_of_halt (isDone_of_isPending hp) ?_
  cases t with
  | nil =>
      rw [turn_of_atEnd h.atEnd_nil, e]
      rfl
  | cons c t =>
      rw [turn_of_char h.atEnd h.char?, ← settle_eq_react hp c, e]
      rfl

/-- A scanner at the end of the text with nothing to settle is finished. -/
theorem finish_of_nil (h : Stands radix size r [] s) (hp : s.mode.isPending = false) :
    s.finish = .ok s :=
  finish_of_isDone (by simp [isDone, h.atEnd_nil, hp])

theorem Returns.of_finish (e : s.finish = u.finish) (h : Returns radix size r t u) :
    Returns radix size r t s := by
  obtain ⟨v, hv, hs, hm⟩ := h
  exact ⟨v, e.trans hv, hs, hm⟩

theorem Follows.of_finish {x : Except Fault (Reading × Text)} (e : s.finish = u.finish)
    (h : Follows radix size u x) : Follows radix size s x := by
  cases x with
  | error f =>
      obtain ⟨k, hk, hf⟩ := h
      exact ⟨k, e.trans hk, hf⟩
  | ok p => exact Returns.of_finish e h

/-- Where the text is left in the middle of something, nothing is left of it. -/
theorem Returns.of_nil (h : Stands radix size r [] s) (hp : s.mode.isPending = false) :
    Returns radix size r [] s :=
  ⟨s, rfl, h, .inr ⟨rfl, hp⟩⟩

end Scanner

end StageCues
