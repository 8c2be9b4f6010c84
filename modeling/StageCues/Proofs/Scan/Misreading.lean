import StageCues.Proofs.Scan.Resume
import StageCues.Proofs.Text.Capital

/-!
# Scan — where a misreading is found

A text is misread at the second character of a token: the text before that character can be read,
and nothing is built for the token that fails (`scan_misread`).

The scan of the text up to that character ends in the middle of the token, and by taking it up again
the longer scan arrives there with the same elements built.  That it fails right there, and not at
the same character on a later visit, is because a character that is read again is read at the start
of a token: a misreading can only come at or behind `earliest`, which no turn lowers.
-/

namespace StageCues

open Text

namespace Scanner

/-- The first position at which a scan can still fail: a token that is begun fails at the next
character, and a missing parameter has its first character read again before that. -/
def earliest (s : Scanner) : Int :=
  if s.mode.isBegun = true ∨ s.mode = .noNumber then s.cursor.pos else s.cursor.pos + 1

variable {s t : Scanner} {c : Char} {h : Halt} {m : Misreading} {p : Int}

theorem le_earliest (s : Scanner) : s.cursor.pos ≤ s.earliest := by
  unfold earliest
  split <;> omega

theorem earliest_le (s : Scanner) : s.earliest ≤ s.cursor.pos + 1 := by
  unfold earliest
  split <;> omega

/-- A move that leaves the cursor where it is. -/
theorem earliest_next (hp : t.cursor.pos = s.cursor.pos) (q : Char) :
    s.cursor.pos + 1 ≤ ({ t with previous := q }.next).earliest := by
  have h₁ := le_earliest ({ t with previous := q }.next)
  have e : ({ t with previous := q }.next).cursor.pos = t.cursor.pos + 1 := rfl
  omega

/-- Settling a parameter does not lead before the character that is read again. -/
theorem earliest_settles (hs : Settles s t) (q : Char) :
    s.earliest ≤ ({ t with previous := q }.next).earliest := by
  cases hs with
  | @deliver o w a hc =>
      have hw : (if s.awaiting.hasMore then w else .rest : Mode).isBegun = false ∧
          (if s.awaiting.hasMore then w else .rest : Mode) ≠ .noNumber := by
        rcases (mode_of_complete hc).2 with rfl | rfl <;> split <;> exact ⟨rfl, nofun⟩
      refine Int.le_trans (earliest_le s) (Int.le_of_eq ?_)
      refine Eq.symm ((if_neg ?_).trans ?_)
      · show ¬((if s.awaiting.hasMore then w else .rest : Mode).isBegun = true ∨
          (if s.awaiting.hasMore then w else .rest : Mode) = .noNumber)
        simp only [hw.1, hw.2, or_self, Bool.false_eq_true, not_false_eq_true]
      · show s.cursor.pos - 1 + 1 + 1 = s.cursor.pos + 1
        omega
  | cancel hm =>
      have hs : s.earliest = s.cursor.pos := if_pos (.inr hm)
      rw [hs]
      show s.cursor.pos ≤ s.cursor.pos - 2 + 1 + 1
      omega

/-- A turn outside of the pending modes moves on; no turn lowers the first position at which a scan
can fail. -/
theorem earliest_turn (hd : s.isDone = false) (e : s.turn = .ok t) :
    s.earliest ≤ t.earliest ∧ (s.mode.isPending = false → s.cursor.pos + 1 ≤ t.earliest) := by
  have hset : ∀ {u}, Settles s u → s.mode.isPending = true := by
    intro u hs
    cases hs with
    | deliver hc => exact (settle_of_complete hc).1
    | cancel hm => rw [hm]; rfl
  rcases turn_cases hd e with ⟨-, c, u, -, hm, rfl⟩ | ⟨-, -, u, hs, rfl⟩
  · have hmove : u.cursor.pos = s.cursor.pos →
        s.earliest ≤ ({ u with previous := c }.next).earliest ∧ (s.mode.isPending = false →
          s.cursor.pos + 1 ≤ ({ u with previous := c }.next).earliest) := fun hp =>
      ⟨Int.le_trans (earliest_le s) (earliest_next hp c), fun _ => earliest_next hp c⟩
    cases hm with
    | settle hs => exact ⟨earliest_settles hs c, fun hp => by rw [hset hs] at hp; cases hp⟩
    | gather => exact hmove (pos_markStart s)
    | finish => exact hmove (pos_markStart s)
    | _ => exact hmove rfl
  · exact ⟨earliest_settles hs u.previous, fun hp => by rw [hset hs] at hp; cases hp⟩

/-- A misreading is found at the second character of a token. -/
theorem begun_of_misread (hs : Steady s) (hd : s.isDone = false) (e : s.turn = .error h)
    (hf : h.fault = .misread m p) :
    p = s.cursor.pos ∧ s.mode.isBegun = true ∧
      ∃ c, Stops s c h ∧ s.cursor.atEnd = false ∧ s.cursor.char? = some c := by
  obtain ⟨c, hc, hat⟩ := stops_of_turn hs hd e
  have key : ∀ {n}, s.mode.isBegun = true → h.fault = .misread n s.cursor.pos →
      p = s.cursor.pos ∧ s.mode.isBegun = true ∧
        ∃ c, Stops s c h ∧ s.cursor.atEnd = false ∧ s.cursor.char? = some c := by
    intro n hb hp
    rw [hf] at hp
    injection hp with _ hp
    exact ⟨hp, hb, c, hc, hat (Mode.not_isPending_of_isBegun hb)⟩
  -- the others cannot be: a steady scanner meets none of them with a misreading
  cases hc with
  | frameEnd hm => exact key (by rw [hm]; rfl) rfl
  | frameStart hm => exact key (by rw [hm]; rfl) rfl
  | write hm => exact key (by rw [hm]; rfl) rfl
  | number hm => exact key (by rw [hm]; rfl) rfl
  | text hm => exact key (by rw [hm]; rfl) rfl
  | untold | unread => cases hf
  | odd ho => exact absurd hf (lastOpenIndex_ne_misread ho m p)
  | rewound => cases hf
  | lost hp hn ht =>
      have hpar : s.mode.isParameter = true := by
        cases hm : s.mode <;> simp [hm, Mode.isPending] at hp <;> rfl
      have hsome := hs.target hpar
      rw [ht] at hsome
      cases hsome

/-- A run is misread where it can fail first or further on, and at a character of the text. -/
theorem earliest_le_of_misread (hs : Steady s) (e : s.finish = .error h)
    (hf : h.fault = .misread m p) : s.earliest ≤ p ∧ p < s.cursor.chars.size := by
  obtain ⟨u, ⟨hu, hlow, hchars⟩, hd, hturn⟩ :=
    keep_halt (P := fun u => Steady u ∧ s.earliest ≤ u.earliest ∧
        u.cursor.chars = s.cursor.chars)
      (fun _ _ hd e ⟨hs, hl, hc⟩ => ⟨steady_turn hs hd e,
        Int.le_trans hl (earliest_turn hd e).1, (chars_turn hd e).trans hc⟩)
      ⟨hs, Int.le_refl _, rfl⟩ e
  obtain ⟨rfl, hb, c, -, ha, -⟩ := begun_of_misread hu hd hturn hf
  have hpos := ahead_pos_iff.mpr ha
  have he : u.earliest = u.cursor.pos := if_pos (.inl hb)
  unfold ahead at hpos
  rw [hchars] at hpos
  exact ⟨he ▸ hlow, by omega⟩

/-! ### The token that fails -/

/-- What was read, the two characters of a token that fails after it, the message, and what is told
about the token before it fails. -/
inductive Misreads (r : Reading) : Char → Char → Text → Text → Prop where
  | frameEnd :
      CueList.lastOpenIndex r.frames = .ok none → Misreads r 'k' 'f' "no open keyframe" []
  | frameStart {x y : Char} {i : Nat} :
      (x, y) ∈ [('K', 'F'), ('K', 'f'), ('k', 'F')] →
      CueList.lastOpenIndex r.frames = .ok (some i) →
      Misreads r x y "keyframe already open" []
  | write {x y : Char} :
      x = 'B' ∨ x = 'b' → y = 'P' ∨ y = 'p' → CueList.lastOpenIndex r.frames = .ok none →
      Misreads r x y "no open keyframe" "\nLoading channel data..."
  | number {x : Char} :
      x = 'X' ∨ x = 'x' → r.document = none → Misreads r x '@' "no document" "Head\n"
  | text {x : Char} :
      x = 'X' ∨ x = 'x' → r.document = none → Misreads r x '+' "no document" "Title\n"

/-- The first character of a token that can fail. -/
theorem eq_of_leading {x d : Char} {w : Mode} (hx : Mode.ofLeading? (upper x) = some w)
    (hd : (d, w) ∈ [('K', Mode.letterK), ('B', .letterB), ('X', .command)]) :
    x = d ∨ x = d.toLower := by
  have hu : upper x = [d] := by
    unfold Mode.ofLeading? at hx
    split at hx <;> cases hx <;> simp at hd <;> subst hd <;> assumption
  simp only [List.mem_cons, Prod.mk.injEq, List.not_mem_nil, or_false] at hd
  rcases hd with ⟨rfl, -⟩ | ⟨rfl, -⟩ | ⟨rfl, -⟩ <;>
    exact eq_or_eq_of_upper hu rfl

/-- What stops a token at its second character is a misreading of the two. -/
theorem misreads_of_stops {x : Char} (hx : Mode.ofLeading? (upper x) = some s.mode)
    (hp : s.previous = x) (hb : s.mode.isBegun = true) (hs : Stops s c h)
    (hf : h.fault = .misread m p) :
    ∃ u, Misreads (.ofScanner s) x c m.message u ∧
      Reading.ofScanner h.scanner = { Reading.ofScanner s with trace := s.trace ++ u } := by
  have hpend := Mode.not_isPending_of_isBegun hb
  have hsilent : Reading.ofScanner s = { Reading.ofScanner s with trace := s.trace ++ [] } := by
    rw [List.append_nil]
    rfl
  cases hs with
  | frameEnd hm hc hu hv hn =>
      cases hf
      have hx := eq_of_leading (d := 'K') hx (by rw [hm]; decide)
      have hy : c = 'F' ∨ c = 'f' := eq_or_eq_of_upper hc rfl
      obtain rfl : x = 'k' := by
        rcases hx with rfl | h
        · rw [hp] at hu
          cases hu
        · exact h
      obtain rfl : c = 'f' := by
        rcases hy with rfl | h
        · cases hv
        · exact h
      exact ⟨[], .frameEnd hn, hsilent⟩
  | frameStart hm hc hu ho =>
      cases hf
      refine ⟨[], .frameStart ?_ ho, hsilent⟩
      have hx := eq_of_leading (d := 'K') hx (by rw [hm]; decide)
      have hy : c = 'F' ∨ c = 'f' := eq_or_eq_of_upper hc rfl
      rw [hp] at hu
      rcases hx with rfl | rfl
      · rcases hy with rfl | rfl <;> decide
      · rcases hy with rfl | rfl
        · decide
        · exact absurd hu (by decide)
  | write hm hc hn =>
      cases hf
      exact ⟨_, .write (eq_of_leading hx (by rw [hm]; decide))
        (eq_or_eq_of_upper hc rfl) hn, rfl⟩
  | number hm hc hd =>
      cases hf
      obtain rfl := (upper_eq_iff rfl ⟨rfl, rfl⟩).mp hc
      exact ⟨_, .number (eq_of_leading hx (by rw [hm]; decide)) hd, rfl⟩
  | text hm hc hd =>
      cases hf
      obtain rfl := (upper_eq_iff rfl ⟨rfl, rfl⟩).mp hc
      exact ⟨_, .text (eq_of_leading hx (by rw [hm]; decide)) hd, rfl⟩
  | untold | unread => cases hf
  | odd ho => exact absurd hf (lastOpenIndex_ne_misread ho m p)
  | rewound hr => simp [hpend] at hr
  | lost hr => simp [hpend] at hr

/-- The text before a misreading can be read. -/
theorem scan_take_of_misread {r : Bool} {t : Text} {n : Nat} (e : scan r t = .error h)
    (hf : h.fault = .misread m n) : ∃ s, scan r (t.take n) = .ok s := by
  cases ha : scan r (t.take n) with
  | ok s => exact ⟨s, rfl⟩
  | error k =>
      have hstart : (start r t).cursor.chars =
          (start r (t.take n)).cursor.chars ++ (t.drop n).toArray := by
        simp [start, Cursor.ofText]
      have hgist : (start r (t.take n)).gist = (start r t).gist := rfl
      obtain ⟨k', hk, hfk, -⟩ :=
        (finish_append (steady_start r (t.take n)) hgist hstart).2 k (scan_eq_error.mp ha)
      rw [scan_eq_error.mp e] at hk
      cases hk
      have hlt := (earliest_le_of_misread (steady_start r _) (scan_eq_error.mp ha)
        (hfk.trans hf)).2
      have hlen : ((t.take n).toArray.size : Int) ≤ n := by
        simp only [List.size_toArray, List.length_take]
        omega
      have : (n : Int) < n := Int.lt_of_lt_of_le hlt hlen
      omega

/-- A scanner that is misread at its own cursor, with nothing to settle, is so in its next turn: if
it moved on it could not come back to the character. -/
theorem turn_of_misread (hs : Steady s) (hd : s.isDone = false) (hp : s.mode.isPending = false)
    (e : s.finish = .error h) (hf : h.fault = .misread m s.cursor.pos) : s.turn = .error h := by
  cases ht : s.turn with
  | ok u =>
      have h₁ := (earliest_turn hd ht).2 hp
      rw [finish_of_turn hd ht] at e
      have h₂ := (earliest_le_of_misread (steady_turn hs hd ht) e hf).1
      omega
  | error k =>
      rw [finish_of_halt hd ht] at e
      exact e

/-- So its token fails at the cursor, and nothing else has been built. -/
theorem misreads_of_finish (hs : Steady s) (hd : s.isDone = false) (hp : s.mode.isPending = false)
    (e : s.finish = .error h) (hf : h.fault = .misread m s.cursor.pos) :
    ∃ (i : Nat) (x y : Char) (u : Text), s.cursor.pos = i + 1 ∧ s.cursor.chars[i]? = some x ∧
      s.cursor.chars[i + 1]? = some y ∧ Misreads (.ofScanner s) x y m.message u ∧
      Reading.ofScanner h.scanner = { Reading.ofScanner s with trace := s.trace ++ u } := by
  have ht := turn_of_misread hs hd hp e hf
  obtain ⟨-, hb, c, hstop, -, hchar⟩ := begun_of_misread hs hd ht hf
  obtain ⟨i, hi, hprev, hlead⟩ := hs.begun hb
  obtain ⟨u, hu, hread⟩ := misreads_of_stops hlead rfl hb hstop hf
  refine ⟨i, _, c, u, hi, hprev, ?_, hu, hread⟩
  have hpos : s.cursor.pos.toNat = i + 1 := by omega
  rw [← hpos, ← hs.char?_eq, hchar]

/-- **Misreadings are exact.**  A text that is misread is misread at the second character of a
token: the text before that character can be read, the two characters are those of a token that
fails after what was read there, and at the moment of the misreading nothing else has been built;
what has been told is what was told for the text before, and the announcement of the token. -/
theorem scan_misread {r : Bool} {t : Text} (e : scan r t = .error h)
    (hf : h.fault = .misread m p) :
    ∃ (n : Nat) (x y : Char) (s : Scanner) (u : Text), p = n ∧ 1 ≤ n ∧ n < t.length ∧
      t[n - 1]? = some x ∧ t[n]? = some y ∧ scan r (t.take n) = .ok s ∧
      Misreads (.ofScanner s) x y m.message u ∧
      Reading.ofScanner h.scanner = { Reading.ofScanner s with trace := s.trace ++ u } := by
  obtain ⟨hlow, hhigh⟩ := earliest_le_of_misread (steady_start r t) (scan_eq_error.mp e) hf
  have hlow : 1 ≤ p := hlow
  have hhigh : p < t.length := by simpa [start, Cursor.ofText] using hhigh
  obtain ⟨n, rfl⟩ : ∃ n : Nat, p = n := ⟨p.toNat, by omega⟩
  -- the scan of the text before the misreading is taken up again over the whole text
  obtain ⟨s, ha⟩ := scan_take_of_misread e hf
  obtain ⟨-, -, -, hs, hd, hc, hp⟩ := scan_eq_ok ha
  have hlen : (t.take n).length = n := by
    rw [List.length_take]
    omega
  have hsteady := steady_withText (b := t.drop n) hs hc hp
  have happ := ending_scan_append (b := t.drop n) ha
  rw [List.take_append_drop, hlen] at hsteady happ
  rw [e] at happ
  have hpend : s.mode.isPending = false := by
    unfold isDone at hd
    rw [Bool.and_eq_true, Bool.not_eq_true'] at hd
    exact hd.2
  have hat : (s.withText t n).cursor.atEnd = false := by
    have hsize : ¬(t.toArray.size : Int) ≤ n := by
      rw [List.size_toArray]
      omega
    simpa [Cursor.atEnd, withText] using hsize
  cases hfin : (s.withText t n).finish with
  | ok u => rw [hfin] at happ; cases happ
  | error k =>
      rw [hfin] at happ
      injection happ with h₁ h₂
      rw [Option.some.inj h₁] at hf
      obtain ⟨i, x, y, u, hi, hx, hy, hu, hread⟩ :=
        misreads_of_finish hsteady (by simp [isDone, hat]) hpend hfin hf
      have hi : (n : Int) = i + 1 := hi
      obtain rfl : n = i + 1 := by omega
      refine ⟨i + 1, x, y, s, u, rfl, by omega, by omega, ?_, ?_, ha, hu, ?_⟩
      · simpa [withText] using hx
      · simpa [withText] using hy
      · exact Eq.trans h₂ hread

/-- A frame inside a frame is misread at its second letter. -/
theorem scan_misread_nested :
    ∃ h : Halt, scan true "KF0H05;kF" = .error h ∧ h.fault = .misread .frameAlreadyOpen 8 ∧
      ∃ (n : Nat) (x y : Char) (s : Scanner) (u : Text), (8 : Int) = n ∧ 1 ≤ n ∧ n < 9 ∧
        ("KF0H05;kF" : Text)[n - 1]? = some x ∧ ("KF0H05;kF" : Text)[n]? = some y ∧
        scan true (("KF0H05;kF" : Text).take n) = .ok s ∧
        Misreads (.ofScanner s) x y "keyframe already open" u ∧
        Reading.ofScanner h.scanner = { Reading.ofScanner s with trace := s.trace ++ u } := by
  obtain ⟨h, e, hf⟩ : ∃ h : Halt, scan true "KF0H05;kF" = .error h ∧
      h.fault = .misread .frameAlreadyOpen 8 := ⟨_, rfl, rfl⟩
  exact ⟨h, e, hf, scan_misread e hf⟩

end Scanner

end StageCues
