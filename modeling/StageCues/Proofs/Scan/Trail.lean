import StageCues.Proofs.Scan.Load

/-!
# Scan — between the turns

`states` are the scanners of a scan between its turns: the one at the front of the text and the one
after each turn that is taken.  What holds at the front and is kept by every turn holds of all of
them (`keep_states`).  None is left out: the last one has nothing left to do, or cannot take its
turn, and this is how the scan ends (`last_of_scan_ok`, `last_of_scan_error`).
-/

namespace StageCues.Scanner

/-- The scanners of a scan: before the first turn, and after each turn that is taken. -/
def states (honourRadix : Bool) (t : Text) : List Scanner :=
  start honourRadix t :: scanTrail honourRadix t

variable {s t : Scanner} {h : Halt}

theorem trail_of_isDone (hd : s.isDone = true) (n : Nat) : trail n s = [] := by
  cases n <;> simp [trail, hd]

theorem trail_succ_of_halt (hd : s.isDone = false) (e : s.turn = .error h) (n : Nat) :
    trail (n + 1) s = [] := by
  simp [trail, hd, e]

theorem trail_succ_of_turn (hd : s.isDone = false) (e : s.turn = .ok t) (n : Nat) :
    trail (n + 1) s = t :: trail n t := by
  simp [trail, hd, e]

/-- What every turn keeps holds after every turn of a run. -/
theorem keep_trail {P : Scanner → Prop}
    (keep : ∀ s t, s.isDone = false → s.turn = .ok t → P s → P t) {n : Nat} (h : P s)
    (ht : t ∈ trail n s) : P t := by
  induction n generalizing s with
  | zero => exact absurd ht List.not_mem_nil
  | succ n ih =>
      cases hd : s.isDone with
      | true =>
          rw [trail_of_isDone hd] at ht
          exact absurd ht List.not_mem_nil
      | false =>
          cases e : s.turn with
          | error k =>
              rw [trail_succ_of_halt hd e] at ht
              exact absurd ht List.not_mem_nil
          | ok u =>
              rw [trail_succ_of_turn hd e] at ht
              have hu := keep s u hd e h
              rcases List.mem_cons.mp ht with rfl | ht
              · exact hu
              · exact ih hu ht

/-- **What holds at the front of a text and is kept by every turn holds between all turns of the
scan.** -/
theorem keep_states {P : Scanner → Prop} {honourRadix : Bool} {a : Text}
    (keep : ∀ s t, s.isDone = false → s.turn = .ok t → P s → P t)
    (hp : P (start honourRadix a)) (hs : s ∈ states honourRadix a) : P s := by
  rcases List.mem_cons.mp hs with rfl | hs
  · exact hp
  · exact keep_trail keep hp hs

/-! ### The last state -/

/-- A run ends in the last of its states. -/
theorem last_of_run_ok {n : Nat} (e : run n s = .ok t) :
    (s :: trail n s).getLast? = some t := by
  induction n generalizing s with
  | zero =>
      unfold run at e
      split at e <;> cases e
      rfl
  | succ n ih =>
      cases hd : s.isDone with
      | true =>
          rw [run_of_isDone hd] at e
          cases e
          rw [trail_of_isDone hd]
          rfl
      | false =>
          cases ht : s.turn with
          | error k => rw [run_succ_of_halt hd ht] at e; cases e
          | ok u =>
              rw [run_succ_of_turn hd ht] at e
              rw [trail_succ_of_turn hd ht, List.getLast?_cons_cons]
              exact ih e

/-- A run with enough turns stops where the last of its states cannot take its turn. -/
theorem last_of_run_error {n : Nat} (hn : s.load ≤ n) (e : run n s = .error h) :
    ∃ u, (s :: trail n s).getLast? = some u ∧ u.isDone = false ∧ u.turn = .error h := by
  induction n generalizing s with
  | zero =>
      unfold run at e
      split at e
      · cases e
      · next hd =>
        have := load_pos (by simpa using hd)
        omega
  | succ n ih =>
      cases hd : s.isDone with
      | true => rw [run_of_isDone hd] at e; cases e
      | false =>
          cases ht : s.turn with
          | error k =>
              rw [run_succ_of_halt hd ht] at e
              cases e
              rw [trail_succ_of_halt hd ht]
              exact ⟨s, rfl, hd, ht⟩
          | ok u =>
              have hl := load_turn hd ht
              rw [run_succ_of_turn hd ht] at e
              rw [trail_succ_of_turn hd ht, List.getLast?_cons_cons]
              exact ih (by omega) e

/-- A scan that succeeds ends in its last state, which has nothing left to do. -/
theorem last_of_scan_ok {honourRadix : Bool} {a : Text} (e : scan honourRadix a = .ok s) :
    ∃ u, (states honourRadix a).getLast? = some u ∧ u.isDone = true ∧
      s = u.keep (.done u.frames.length) := by
  unfold scan at e
  cases hr : run (budget a) (start honourRadix a) with
  | error k => rw [hr] at e; cases e
  | ok u =>
      rw [hr] at e
      exact ⟨u, last_of_run_ok hr, isDone_of_run hr, (Except.ok.inj e).symm⟩

/-- A scan that fails stops in the turn that its last state cannot take. -/
theorem last_of_scan_error {honourRadix : Bool} {a : Text} (e : scan honourRadix a = .error h) :
    ∃ u, (states honourRadix a).getLast? = some u ∧ u.isDone = false ∧ u.turn = .error h := by
  unfold scan at e
  cases hr : run (budget a) (start honourRadix a) with
  | error k =>
      rw [hr] at e
      cases e
      exact last_of_run_error (Nat.le_of_eq (load_start honourRadix a)) hr
  | ok u => rw [hr] at e; cases e

end StageCues.Scanner
