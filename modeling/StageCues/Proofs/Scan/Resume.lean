import StageCues.Proofs.Scan.Stop
import StageCues.Reading

/-!
# Scan — taking up a scan again

At the end of a text a pending parameter is settled without a character; if the text went on, the
same would happen on the next character, which is then read again.  So a scan of `a` leaves the
scanner in the state a scan of `a ++ b` passes through, but for the character before and the notes,
on which nothing depends.

* `finish_append`: a scanner and one with the same gist and more text either stop for the same
  cause, or the second runs on from where the first ends.
* `scan_append`: scanning `a ++ b` is scanning `a` and running the scanner that is left on over
  `a ++ b`; a misreading of `a` is a misreading of `a ++ b` at the same position.
-/

namespace StageCues

/-- What is to be seen of a run at its end: the fault, if there was one, and what had been read. -/
structure Ending where
  fault? : Option Fault
  reading : Reading

namespace Scanner

/-- What is to be seen of the result of a run. -/
def ending : Except Halt Scanner → Ending
  | .ok s => ⟨none, .ofScanner s⟩
  | .error h => ⟨some h.fault, .ofScanner h.scanner⟩

/-- The scanner with another text under its cursor, which stands at the position. -/
def withText (s : Scanner) (t : Text) (pos : Nat) : Scanner :=
  { s with cursor := { s.cursor with chars := t.toArray, pos := pos } }

variable {s t : Scanner} {b : Text}

/-- Every turn leaves the text alone. -/
theorem chars_turn (hd : s.isDone = false) (e : s.turn = .ok t) :
    t.cursor.chars = s.cursor.chars := by
  have hset : ∀ {u}, Settles s u → u.cursor.chars = s.cursor.chars := by
    intro u h
    cases h <;> rfl
  have hmark : s.markStart.cursor.chars = s.cursor.chars := by
    unfold markStart
    split <;> rfl
  rcases turn_cases hd e with ⟨-, c, u, -, hm, rfl⟩ | ⟨-, -, u, hs, rfl⟩
  · show u.cursor.chars = _
    cases hm with
    | settle h => exact hset h
    | gather => exact hmark
    | finish => exact hmark
    | _ => rfl
  · show u.cursor.chars = _
    exact hset hs

theorem chars_finish (e : s.finish = .ok t) : t.cursor.chars = s.cursor.chars :=
  keep_finish (P := fun u => u.cursor.chars = s.cursor.chars)
    (fun _ _ hd e h => (chars_turn hd e).trans h) rfl e

/-- And whether radices are honoured. -/
theorem radix_turn (hd : s.isDone = false) (e : s.turn = .ok t) :
    t.honourRadix = s.honourRadix := by
  have hset : ∀ {u}, Settles s u → u.honourRadix = s.honourRadix := by
    intro u h
    cases h with
    | @deliver p m a =>
        show (s.give p a).honourRadix = s.honourRadix
        cases a <;> rfl
    | cancel => rfl
  have hmark : s.markStart.honourRadix = s.honourRadix := by
    unfold markStart
    split <;> rfl
  rcases turn_cases hd e with ⟨-, c, u, -, hm, rfl⟩ | ⟨-, -, u, hs, rfl⟩
  · show u.honourRadix = _
    cases hm with
    | settle h => exact hset h
    | gather => exact hmark
    | finish => exact hmark
    | _ => rfl
  · show u.honourRadix = _
    exact hset hs

theorem radix_finish (e : s.finish = .ok t) : t.honourRadix = s.honourRadix :=
  keep_finish (P := fun u => u.honourRadix = s.honourRadix)
    (fun _ _ hd e h => (radix_turn hd e).trans h) rfl e

/-- A scanner with something left to do and one with the same gist and more text take the same
turn. -/
theorem turn_alike_append (hs : Steady s) (hd : s.isDone = false) (hg : s.gist = t.gist)
    (hc : t.cursor.chars = s.cursor.chars ++ b.toArray) :
    t.isDone = false ∧ Alike s.turn t.turn := by
  have hpos := pos_eq_of_gist hg
  have hmode := mode_eq_of_gist hg
  have h₀ := hs.pos_nonneg
  have hchar : t.cursor.char? = t.cursor.chars[s.cursor.pos.toNat]? := by
    unfold Cursor.char?
    rw [← hpos, if_pos h₀]
  cases ha : s.cursor.atEnd with
  | false =>
      have h₁ : s.cursor.pos.toNat < s.cursor.chars.size := by
        have := ahead_pos_iff.mpr ha
        unfold ahead at this
        omega
      have hat : t.cursor.atEnd = false := by
        rw [← ahead_pos_iff]
        unfold ahead
        simp only [hc, Array.size_append]
        omega
      obtain ⟨c, hs'⟩ := hs.exists_char ha
      have ht' : t.cursor.char? = some c := by
        rw [hchar, hc, Array.getElem?_append_left h₁, ← hs.char?_eq, hs']
      exact ⟨by simp [isDone, hat], turn_alike hg ha hat hs' ht'⟩
  | true =>
      have hp : s.mode.isPending = true := by simpa [isDone, ha] using hd
      refine ⟨by simp [isDone, ← hmode, hp], ?_⟩
      cases hat : t.cursor.atEnd with
      | true => exact turn_alike_settle (c := '\x00') hg hp ha (.inl hat)
      | false =>
          have h₁ : s.cursor.pos.toNat < t.cursor.chars.size := by
            have := ahead_pos_iff.mpr hat
            unfold ahead at this
            omega
          exact turn_alike_settle hg hp ha
            (.inr ⟨hat, hchar.trans (Array.getElem?_eq_getElem h₁)⟩)

/-- A run over a text and one from the same gist over a longer text stop for the same cause, or the
second goes on from where the first ends. -/
theorem finish_append (hs : Steady s) (hg : s.gist = t.gist)
    (hc : t.cursor.chars = s.cursor.chars ++ b.toArray) :
    (∀ u, s.finish = .ok u → ∃ v : Scanner, u.gist = v.gist ∧
        v.cursor.chars = u.cursor.chars ++ b.toArray ∧ t.finish = v.finish) ∧
      ∀ h, s.finish = .error h → ∃ k : Halt, t.finish = .error k ∧ h.fault = k.fault ∧
        h.scanner.bare = k.scanner.bare := by
  induction s using turn_induction generalizing t with
  | done s hd =>
      refine ⟨fun u hu => ?_, fun h hh => ?_⟩
      · rw [finish_of_isDone hd] at hu
        obtain rfl := Except.ok.inj hu
        exact ⟨t, hg, hc, rfl⟩
      · rw [finish_of_isDone hd] at hh
        cases hh
  | halt s h hd e =>
      -- the longer run stops in the same turn
      obtain ⟨hd', ha⟩ := turn_alike_append hs hd hg hc
      refine ⟨fun u hu => ?_, fun h' hh => ?_⟩
      · rw [finish_of_halt hd e] at hu
        cases hu
      · rw [finish_of_halt hd e] at hh
        obtain rfl := Except.error.inj hh
        rw [e] at ha
        generalize ht : t.turn = r at ha
        cases ha with
        | error hf hb => exact ⟨_, finish_of_halt hd' ht, hf, hb⟩
  | more s u hd e ih =>
      -- it takes the same turn, and both go on with the same gist
      obtain ⟨hd', ha⟩ := turn_alike_append hs hd hg hc
      rw [finish_of_turn hd e]
      rw [e] at ha
      generalize ht : t.turn = r at ha
      cases ha with
      | @ok _ v hv =>
          have hcv : v.cursor.chars = u.cursor.chars ++ b.toArray := by
            rw [chars_turn hd' ht, chars_turn hd e, hc]
          rw [finish_of_turn hd' ht]
          exact ih (steady_turn hs hd e) hv hcv

/-- **Runs from the same gist over the same text end alike.** -/
theorem finish_congr (hs : Steady s) (hg : s.gist = t.gist)
    (hc : s.cursor.chars = t.cursor.chars) :
    through bare s.finish = through bare t.finish := by
  have hc' : t.cursor.chars = s.cursor.chars ++ ([] : Text).toArray := by simp [hc]
  obtain ⟨hok, herr⟩ := finish_append hs hg hc'
  cases e : s.finish with
  | error h =>
      obtain ⟨k, hk, hf, hb⟩ := herr h e
      rw [hk]
      simp only [through, hf, hb]
  | ok u =>
      obtain ⟨v, hv, hcv, ht⟩ := hok u e
      have hd := isDone_of_run e
      have hd' : v.isDone = true := by
        unfold isDone Cursor.atEnd at hd ⊢
        rw [← mode_eq_of_gist hv, ← pos_eq_of_gist hv, hcv]
        simpa using hd
      rw [ht, finish_of_isDone hd']
      exact congrArg Except.ok (bare_eq_of_gist hv)

/-! ### What is told is never taken back -/

theorem trace_turn (hd : s.isDone = false) (e : s.turn = .ok t) : s.trace <+: t.trace := by
  have hset : ∀ {u}, Settles s u → s.trace <+: u.trace := by
    intro u h
    cases h with
    | @deliver _ _ a =>
        show s.trace <+: (s.give _ a).trace
        cases a <;> exact List.prefix_rfl
    | cancel => exact List.prefix_append _ _
  have hmark : s.markStart.trace = s.trace := by
    unfold markStart
    split <;> rfl
  rcases turn_cases hd e with ⟨-, c, u, -, hm, rfl⟩ | ⟨-, -, u, hs, rfl⟩
  · show s.trace <+: u.trace
    cases hm with
    | settle h => exact hset h
    | gather => exact hmark ▸ List.prefix_rfl
    | finish => exact hmark ▸ List.prefix_rfl
    | _ => exact List.prefix_append _ _
  · show s.trace <+: u.trace
    exact hset hs

/-- What a scanner has told stands at the front of what is told at the end of its run. -/
theorem trace_prefix_finish (hs : Steady s) :
    s.trace <+: (ending s.finish).reading.trace := by
  induction s using turn_induction with
  | done s hd =>
      rw [finish_of_isDone hd]
      exact List.prefix_rfl
  | halt s h hd e =>
      rw [finish_of_halt hd e]
      obtain ⟨c, hc, -⟩ := stops_of_turn hs hd e
      exact hc.trace_prefix
  | more s u hd e ih =>
      rw [finish_of_turn hd e]
      exact (trace_turn hd e).trans (ih (steady_turn hs hd e))

/-! ### The scanner that a text leaves behind -/

/-- What is to be seen does not depend on the character before and on the notes. -/
theorem ending_through (r : Except Halt Scanner) : ending (through bare r) = ending r := by
  cases r <;> rfl

theorem load_finish (e : s.finish = .ok t) : t.load ≤ s.load :=
  keep_finish (P := fun u => u.load ≤ s.load)
    (fun _ _ hd e h => Nat.le_trans (Nat.le_of_lt (load_turn hd e)) h) (Nat.le_refl _) e

/-- More text behind the end of the text keeps the invariant. -/
theorem steady_withText {a : Text} (h : Steady s) (hc : s.cursor.chars = a.toArray)
    (hp : s.cursor.pos = a.length) : Steady (s.withText (a ++ b) a.length) where
  mark_nonneg := h.mark_nonneg
  mark_le := by
    show s.cursor.mark ≤ a.length
    rw [← hp]
    exact h.mark_le
  pos_le := by
    show (a.length : Int) ≤ (a ++ b).toArray.size
    simp only [List.size_toArray, List.length_append]
    omega
  begun := by
    intro hb
    obtain ⟨n, hn, hx, hl⟩ := h.begun hb
    refine ⟨n, ?_, ?_, hl⟩
    · show (a.length : Int) = n + 1
      rw [← hp]
      exact hn
    · show (a ++ b).toArray[n]? = some s.previous
      rw [hc] at hx
      simp only [List.getElem?_toArray] at hx ⊢
      rw [List.getElem?_append_left (by omega), hx]
  target := h.target

/-- A scan that ends leaves a steady scanner at the end of the text it was given. -/
theorem scan_eq_ok {r : Bool} {a : Text} (e : scan r a = .ok s) :
    ∃ u, (start r a).finish = .ok u ∧ s = u.keep (.done u.frames.length) ∧ Steady s ∧
      s.isDone = true ∧ s.cursor.chars = a.toArray ∧ s.cursor.pos = a.length := by
  rw [scan_eq_finish] at e
  cases hu : (start r a).finish with
  | error h => rw [hu] at e; cases e
  | ok u =>
      rw [hu] at e
      obtain rfl := Except.ok.inj e
      have hs : Steady u := steady_finish (steady_start r a) hu
      have hd : u.isDone = true := isDone_of_run hu
      have hc : u.cursor.chars = a.toArray := chars_finish hu
      refine ⟨u, rfl, rfl, ⟨hs.1, hs.2, hs.3, hs.4, hs.5⟩, hd, hc, ?_⟩
      show u.cursor.pos = _
      rw [hs.pos_of_isDone hd, hc]
      simp

theorem scan_eq_error {r : Bool} {a : Text} {h : Halt} :
    scan r a = .error h ↔ (start r a).finish = .error h := by
  rw [scan_eq_finish]
  cases (start r a).finish with
  | error k => exact ⟨id, id⟩
  | ok u => exact ⟨nofun, nofun⟩

theorem ending_scan (r : Bool) (a : Text) : ending (scan r a) = ending (start r a).finish := by
  rw [scan_eq_finish]
  cases (start r a).finish <;> rfl

/-- Running on from the end of `a` takes no more turns than a scan of `a ++ b` from the front. -/
theorem load_withText {r : Bool} {a : Text} (e : scan r a = .ok s) :
    (s.withText (a ++ b) a.length).load ≤ budget (a ++ b) := by
  obtain ⟨u, hu, rfl, -, -, -, -⟩ := scan_eq_ok e
  have hl := load_finish hu
  rw [load_start] at hl
  have hw : u.mode.slack u.awaiting.literal.text.length ≤ 2 * a.length := by
    unfold load budget at hl
    omega
  show 2 * (((a ++ b).toArray.size : Int) - a.length).toNat + _ ≤ 2 * (a ++ b).length
  simp only [List.size_toArray, List.length_append]
  show 2 * (((a.length + b.length : Nat) : Int) - a.length).toNat +
    u.mode.slack u.awaiting.literal.text.length ≤ _
  omega

/-- A scan of more text goes on from where the scan of its front ends. -/
theorem ending_scan_append {r : Bool} {a : Text} (e : scan r a = .ok s) :
    ending (scan r (a ++ b)) = ending (s.withText (a ++ b) a.length).finish := by
  obtain ⟨u, hu, rfl, hs, -, hc, hp⟩ := scan_eq_ok e
  have hstart : (start r (a ++ b)).cursor.chars = (start r a).cursor.chars ++ b.toArray := by
    simp [start, Cursor.ofText]
  have hgist : (start r a).gist = (start r (a ++ b)).gist := rfl
  obtain ⟨v, hv, hcv, hf⟩ := (finish_append (steady_start r a) hgist hstart).1 u hu
  have hg : ((u.keep (.done u.frames.length)).withText (a ++ b) a.length).gist = v.gist := by
    rw [← hv]
    show { u.gist with cursor := { u.gist.cursor with pos := (a.length : Int) } } = u.gist
    rw [← hp]
    rfl
  have hchars : v.cursor.chars = (a ++ b).toArray := by
    rw [hcv, show u.cursor.chars = a.toArray from hc]
    simp
  rw [ending_scan, hf, ← ending_through v.finish,
    ← finish_congr (steady_withText hs hc hp) hg hchars.symm, ending_through]

/-- **Taking a scan up again.**  To scan `a ++ b` is to scan `a` and, unless that fails, to run the
scanner it leaves on over `a ++ b` from the end of `a`, for as many turns as it takes: what is to be
seen at the end is the same, and what stops the scan of `a` stops that of `a ++ b` in the same
state.  What is told for `a` is told first for `a ++ b`. -/
theorem scan_append (honourRadix : Bool) (a b : Text) (n : Nat) :
    ending (scan honourRadix (a ++ b)) =
        (match scan honourRadix a with
          | .ok s => ending (run (budget (a ++ b) + n) (s.withText (a ++ b) a.length))
          | .error h => ending (.error h)) ∧
      (ending (scan honourRadix a)).reading.trace <+:
        (ending (scan honourRadix (a ++ b))).reading.trace := by
  cases e : scan honourRadix a with
  | ok s =>
      have hl : (s.withText (a ++ b) a.length).load ≤ budget (a ++ b) + n :=
        Nat.le_trans (load_withText e) (Nat.le_add_right _ _)
      obtain ⟨-, -, -, hs, -, hc, hp⟩ := scan_eq_ok e
      have happ := ending_scan_append (b := b) e
      refine ⟨by rw [happ, ← run_eq_finish hl], ?_⟩
      rw [happ]
      exact trace_prefix_finish (steady_withText hs hc hp)
  | error h =>
      have hstart : (start honourRadix (a ++ b)).cursor.chars =
          (start honourRadix a).cursor.chars ++ b.toArray := by
        simp [start, Cursor.ofText]
      have hgist : (start honourRadix a).gist = (start honourRadix (a ++ b)).gist := rfl
      obtain ⟨k, hk, hf, hb⟩ :=
        (finish_append (steady_start honourRadix a) hgist hstart).2 h (scan_eq_error.mp e)
      have happ : ending (scan honourRadix (a ++ b)) = ending (.error h) := by
        rw [ending_scan, hk, ← ending_through, ← ending_through (.error h)]
        simp only [through, hf, hb]
      exact ⟨happ, happ ▸ List.prefix_rfl⟩

end Scanner

end StageCues
