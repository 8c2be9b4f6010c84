import StageCues.Scanner.Turn

/-!
# Scanner — runs

A run takes turns until nothing is left to do.  The scan moves backwards at times, but twice as
many turns as there are characters are always enough.
-/

namespace StageCues.Scanner

/-- The state when nothing is left to do, after at most so many turns. -/
def run : Nat → Scanner → Except Halt Scanner
  | 0, s => if s.isDone then .ok s else .error ⟨.outOfSteps, s⟩
  | n + 1, s =>
    if s.isDone then .ok s
    else match s.turn with
      | .error h => .error h
      | .ok t => run n t

/-- The states after each of at most so many turns. -/
def trail : Nat → Scanner → List Scanner
  | 0, _ => []
  | n + 1, s =>
    if s.isDone then []
    else match s.turn with
      | .error _ => []
      | .ok t => t :: trail n t

/-- How many turns are enough for a text. -/
def budget (t : Text) : Nat := 2 * t.length

/-- The state after the whole text has been read. -/
def scan (honourRadix : Bool) (t : Text) : Except Halt Scanner :=
  (fun s => s.keep (.done s.frames.length)) <$> run (budget t) (start honourRadix t)

/-- The states after each turn of reading a text. -/
def scanTrail (honourRadix : Bool) (t : Text) : List Scanner :=
  trail (budget t) (start honourRadix t)

/-- A run that has nothing left to do takes no turn. -/
theorem run_of_isDone {s : Scanner} (h : s.isDone = true) (n : Nat) : run n s = .ok s := by
  cases n <;> simp [run, h]

/-- A run is finished when it ends without a fault. -/
theorem isDone_of_run {n : Nat} {s t : Scanner} (h : run n s = .ok t) : t.isDone = true := by
  induction n generalizing s with
  | zero =>
    unfold run at h
    split at h
    · next hs => cases h; exact hs
    · cases h
  | succ n ih =>
    unfold run at h
    split at h
    · next hs => cases h; exact hs
    · split at h
      · cases h
      · exact ih h

end StageCues.Scanner
