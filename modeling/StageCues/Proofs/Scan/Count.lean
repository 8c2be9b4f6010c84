import StageCues.Proofs.Scan.Sound

/-!
# Scan — how many turns a scan takes

`Takes s n r` says that the loop from `s`, with no limit on its turns, ends in `r` after `n` of
them.  The turn that fails is counted, and so are the turns at the end of the text.  Nothing in it
bounds the turns, so that there is such an `n` has to be shown: every turn lowers the load, and the
load bounds the turns that are left (`exists_takes`).

A run with a limit is that loop as long as the limit is no less than the turns it takes
(`Takes.run_of_le`), and stops short if it is less (`Takes.run_of_lt`).  A scan takes at most two
turns for every character, and its limit is just that, so it never stops short (`scan_turns`).
-/

namespace StageCues.Scanner

/-- The loop from a scanner takes so many turns and ends in the result. -/
inductive Takes : Scanner → Nat → Except Halt Scanner → Prop where
  | done {s : Scanner} : s.isDone = true → Takes s 0 (.ok s)
  | halt {s : Scanner} {h : Halt} :
      s.isDone = false → s.turn = .error h → Takes s 1 (.error h)
  | more {s t : Scanner} {n : Nat} {r : Except Halt Scanner} :
      s.isDone = false → s.turn = .ok t → Takes t n r → Takes s (n + 1) r

variable {s : Scanner} {n k : Nat} {r q : Except Halt Scanner}

/-- **The loop ends**, after no more turns than the load. -/
theorem exists_takes (s : Scanner) : ∃ n r, s.Takes n r ∧ n ≤ s.load := by
  induction s using turn_induction with
  | done s hd => exact ⟨0, _, .done hd, Nat.zero_le _⟩
  | halt s h hd e => exact ⟨1, _, .halt hd e, load_pos hd⟩
  | more s t hd e ih =>
      obtain ⟨n, r, ht, hn⟩ := ih
      have hl := load_turn hd e
      exact ⟨n + 1, r, .more hd e ht, by omega⟩

/-- With a limit that is not exceeded, a run ends as the loop does. -/
theorem Takes.run_of_le (h : s.Takes n r) (hk : n ≤ k) : run k s = r := by
  induction h generalizing k with
  | done hd => exact run_of_isDone hd k
  | halt hd e =>
      obtain ⟨k, rfl⟩ := Nat.exists_eq_add_of_le' hk
      exact run_succ_of_halt hd e k
  | more hd e _ ih =>
      obtain ⟨k, rfl⟩ := Nat.exists_eq_add_of_le' hk
      rw [← Nat.add_assoc, run_succ_of_turn hd e]
      exact ih (Nat.le_add_left _ _)

/-- With a lower limit it stops short. -/
theorem Takes.run_of_lt (h : s.Takes n r) (hk : k < n) :
    ∃ u, run k s = .error ⟨.outOfSteps, u⟩ := by
  have stopped : ∀ {u : Scanner}, u.isDone = false → run 0 u = .error ⟨.outOfSteps, u⟩ := by
    intro u hd
    simp [run, hd]
  induction h generalizing k with
  | done => exact absurd hk (Nat.not_lt_zero k)
  | halt hd =>
      obtain rfl : k = 0 := by omega
      exact ⟨_, stopped hd⟩
  | more hd e _ ih =>
      cases k with
      | zero => exact ⟨_, stopped hd⟩
      | succ k =>
          rw [run_succ_of_turn hd e]
          exact ih (Nat.lt_of_succ_lt_succ hk)

/-- The loop ends in one way only. -/
theorem Takes.unique (h : s.Takes n r) (h' : s.Takes k q) : k = n ∧ q = r := by
  induction h generalizing k q with
  | done hd =>
      cases h' with
      | done => exact ⟨rfl, rfl⟩
      | halt hd' | more hd' => simp [hd] at hd'
  | halt hd e =>
      cases h' with
      | done hd' => simp [hd] at hd'
      | halt _ e' =>
          rw [e] at e'
          cases e'
          exact ⟨rfl, rfl⟩
      | more _ e' =>
          rw [e] at e'
          cases e'
  | more hd e _ ih =>
      cases h' with
      | done hd' => simp [hd] at hd'
      | halt _ e' =>
          rw [e] at e'
          cases e'
      | more _ e' ht =>
          rw [e] at e'
          cases e'
          obtain ⟨rfl, rfl⟩ := ih ht
          exact ⟨rfl, rfl⟩

/-- The loop of a scan does not fail for want of turns. -/
theorem Takes.ne_outOfSteps {honourRadix : Bool} {a : Text} {h : Halt}
    (ht : (start honourRadix a).Takes n (.error h)) : h.fault ≠ .outOfSteps := by
  have hrun : run (n + budget a) (start honourRadix a) = .error h :=
    ht.run_of_le (Nat.le_add_right _ _)
  have hload := Nat.le_of_eq (load_start honourRadix a)
  rw [run_eq_finish (Nat.le_add_left_of_le hload)] at hrun
  obtain ⟨u, hu, hd, e⟩ :=
    keep_halt (fun _ _ hd e hs => sound_turn hs hd e) (sound_start honourRadix a) hrun
  cases hu.fails_of_turn hd e <;> nofun

/-- **A scan ends after at most two turns for every character.**  Of any text, with radices honoured
or not, the loop ends after a number of turns that is at most twice the length of the text.  A run
that is allowed as many turns ends as the loop does, and only one that is allowed fewer stops short
of that, so a scan never does. -/
theorem scan_turns (honourRadix : Bool) (t : Text) :
    ∃ n r, (start honourRadix t).Takes n r ∧ n ≤ 2 * t.length ∧
      (∀ k q, (start honourRadix t).Takes k q → k = n ∧ q = r) ∧
      (∀ k, n ≤ k → run k (start honourRadix t) = r) ∧
      (∀ k, k < n → ∃ u, run k (start honourRadix t) = .error ⟨.outOfSteps, u⟩) ∧
      (∀ h, r = .error h → h.fault ≠ .outOfSteps) ∧
      scan honourRadix t = (fun s => s.keep (.done s.frames.length)) <$> r := by
  obtain ⟨n, r, ht, hn⟩ := exists_takes (start honourRadix t)
  rw [load_start] at hn
  refine ⟨n, r, ht, hn, fun k q => ht.unique, fun k => ht.run_of_le, fun k => ht.run_of_lt, ?_, ?_⟩
  · rintro h rfl
    exact ht.ne_outOfSteps
  · unfold scan
    rw [ht.run_of_le hn]

/-- Where every frame but the first is taken for the number of the one before, only one turn of
those allowed is left over. -/
example : (scanTrail true "kFkFk").length = 9 := rfl

end StageCues.Scanner
