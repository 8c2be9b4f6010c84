import StageCues.Proofs.Forward.Stands
import StageCues.Proofs.Text.Capital

/-!
# Forward — tokens

The second character of a token makes of the scanner what the table of tokens says of the reading,
and leaves it waiting for the parameters the token asks for (`obeys_react`).  Quoted text and the
digits of a number outside of any parameter are passed character by character up to their end
(`returns_quotation`, `returns_digits`).
-/

namespace StageCues

open Text

namespace Scanner

variable {radix : Bool} {size : Nat} {r : Reading} {t : Text} {s u : Scanner} {c : Char}

/-! ### The table of tokens -/

/-- The scanner waits for what a token asks for. -/
def Waits (s : Scanner) : Wanted → Prop
  | .nothing => s.mode = .rest
  | .numbers n a => s.mode = .waitNumber ∧ s.awaiting = .expect n (some a) ∧ 0 < n
  | .texts n a => s.mode = .waitText ∧ s.awaiting = .expect n (some a) ∧ 0 < n

/-- What a character makes of the scanner is what a token says. -/
def Obeys (s : Scanner) (x : Except Halt Scanner) : Except Fault (Reading × Wanted) → Prop
  | .error f => ∃ k, x = .error k ∧ k.fault = f
  | .ok p => ∃ u, x = .ok u ∧ u.honourRadix = s.honourRadix ∧ u.cursor = s.cursor ∧
      Reading.ofScanner u = p.1 ∧ Waits u p.2

variable {x y : Char}

/-- A character that leaves nothing to be waited for. -/
theorem obeys_quiet (hm : u.mode = .rest) (hx : u.honourRadix = s.honourRadix)
    (hc : u.cursor = s.cursor) (hr : Reading.ofScanner u = r) :
    Obeys s (.ok u) (.ok (r, .nothing)) :=
  ⟨u, rfl, hx, hc, hr, hm⟩

theorem obeys_letterC (hx : upper x = ['C']) :
    Obeys s (.ok (s.onLetterC y)) (Forward.token (.ofScanner s) x y s.cursor.pos) := by
  unfold Forward.token onLetterC
  rw [hx]
  split <;> exact obeys_quiet rfl rfl rfl rfl

theorem obeys_letterW (hx : upper x = ['W']) :
    Obeys s (.ok (s.onLetterW y)) (Forward.token (.ofScanner s) x y s.cursor.pos) := by
  unfold Forward.token onLetterW
  rw [hx]
  split
  · exact obeys_quiet rfl rfl rfl rfl
  · split <;> exact obeys_quiet rfl rfl rfl rfl

theorem obeys_letterF (hx : upper x = ['F']) :
    Obeys s (.ok (s.onLetterF y)) (Forward.token (.ofScanner s) x y s.cursor.pos) := by
  unfold Forward.token onLetterF
  rw [hx]
  split
  · exact obeys_quiet rfl rfl rfl rfl
  · split <;> exact obeys_quiet rfl rfl rfl rfl

theorem obeys_letterI (hx : upper x = ['I']) :
    Obeys s (.ok (s.onLetterI y)) (Forward.token (.ofScanner s) x y s.cursor.pos) := by
  unfold Forward.token onLetterI
  rw [hx]
  split <;> exact obeys_quiet rfl rfl rfl rfl

/-- A new frame is started. -/
theorem obeys_startFrame (empty : Bool) (told : Text) :
    Obeys s (.ok ((s.tellLine told).addFrame empty))
      (.ok (Forward.startFrame (.ofScanner s) empty told)) :=
  ⟨_, rfl, rfl, rfl, rfl, rfl, rfl, Nat.one_pos⟩

/-- The scanner tells what the forward reader tells, or stops at the same line. -/
theorem tellLines_alike (s : Scanner) (lines : List (Except Fault Text)) :
    (∃ k, s.tellLines lines = .error k ∧
        (Reading.ofScanner s).tellLines lines = .error k.fault) ∨
      ∃ u, s.tellLines lines = .ok (s.tell u) ∧
        (Reading.ofScanner s).tellLines lines = .ok ((Reading.ofScanner s).tell u) := by
  induction lines generalizing s with
  | nil => exact .inr ⟨[], by simp [tellLines, tell], by simp [Reading.tellLines]⟩
  | cons x lines ih =>
      cases x with
      | error f => exact .inl ⟨_, rfl, rfl⟩
      | ok v =>
          rcases ih (s.tellLine v) with h | ⟨u, hs, hr⟩
          · exact .inl h
          · refine .inr ⟨line v ++ u, hs.trans ?_, hr.trans ?_⟩
            · simp [tellLine, tell]
            · simp [Reading.ofScanner, Reading.tell, tellLine, tell]

/-- The end of a frame is told line by line. -/
theorem obeys_endFrame {i : Nat} (ho : CueList.lastOpenIndex s.frames = .ok (some i)) :
    Obeys s s.endFrame ((·, .nothing) <$> Forward.endFrame (.ofScanner s) i) := by
  have hlines : Forward.endFrame (.ofScanner s) i =
      (Reading.ofScanner (s.closeFrame i)).tellLines
        ((s.closeFrame i).frames[i]?.elim [] closingCaptions) := rfl
  rw [hlines]
  unfold endFrame openFrame
  rw [ho]
  dsimp only
  rcases tellLines_alike (s.closeFrame i)
    ((s.closeFrame i).frames[i]?.elim [] closingCaptions) with ⟨k, hs, hr⟩ | ⟨u, hs, hr⟩
  · rw [hs, hr]
    exact ⟨k, rfl, rfl⟩
  · rw [hs, hr]
    exact obeys_quiet rfl rfl rfl rfl

theorem obeys_letterK (hx : upper s.previous = ['K']) :
    Obeys s (s.onLetterK y) (Forward.token (.ofScanner s) s.previous y s.cursor.pos) := by
  unfold Forward.token onLetterK
  rw [hx]
  by_cases hy : upper y = ['F']
  · rw [if_neg (not_not_intro hy)]
    simp only [if_pos hy]
    unfold Forward.frame requireClosed
    have hfr : (Reading.ofScanner s).frames = s.frames := rfl
    rw [hfr]
    cases ho : CueList.lastOpenIndex s.frames with
    | error f =>
        refine ⟨⟨f, s⟩, ?_, rfl⟩
        split
        · rfl
        · split
          · rfl
          · unfold endFrame openFrame
            rw [ho]
    | ok o =>
        cases o with
        | none =>
            dsimp only
            split
            · exact obeys_startFrame false "\nNEW KeyFrame!"
            · split
              · exact obeys_startFrame true "\nEmpty KeyFrame."
              · unfold endFrame openFrame
                rw [ho]
                exact ⟨_, rfl, rfl⟩
        | some i =>
            dsimp only
            by_cases hu : s.previous.isUpper = true
            · rw [if_pos hu, hu]
              exact ⟨_, rfl, rfl⟩
            · rw [if_neg hu]
              simp only [hu, Bool.false_or]
              by_cases hv : y.isUpper = true
              · rw [if_pos hv, if_pos hv]
                exact ⟨_, rfl, rfl⟩
              · rw [if_neg hv, if_neg hv]
                exact obeys_endFrame ho
  · rw [if_pos hy]
    simp only [if_neg hy]
    exact obeys_quiet rfl rfl rfl rfl

theorem obeys_letterB (hx : upper x = ['B']) :
    Obeys s (s.onLetterB y) (Forward.token (.ofScanner s) x y s.cursor.pos) := by
  unfold Forward.token onLetterB
  rw [hx]
  by_cases hy : upper y = ['P']
  · rw [if_pos hy]
    simp only [if_pos hy]
    unfold Forward.write addWrite openFrame
    have hfr : (Reading.ofScanner s).frames = s.frames := rfl
    have hfr' : (s.tell "\nLoading channel data...").frames = s.frames := rfl
    rw [hfr, hfr']
    cases ho : CueList.lastOpenIndex s.frames with
    | error f => exact ⟨_, rfl, rfl⟩
    | ok o =>
        cases o with
        | none => exact ⟨_, rfl, rfl⟩
        | some i => exact ⟨_, rfl, rfl, rfl, rfl, rfl, rfl, Nat.two_pos⟩
  · rw [if_neg hy]
    simp only [if_neg hy]
    exact obeys_quiet rfl rfl rfl rfl

theorem obeys_command (hx : upper x = ['X']) :
    Obeys s (s.onCommand y) (Forward.token (.ofScanner s) x y s.cursor.pos) := by
  unfold Forward.token onCommand
  rw [hx]
  dsimp only
  have hdoc : (Reading.ofScanner s).document = s.document := rfl
  split
  · exact obeys_quiet rfl rfl rfl rfl
  · split
    · unfold Forward.head withHead
      have hdoc' : (s.tellLine "Head").document = s.document := rfl
      rw [hdoc, hdoc']
      cases s.document with
      | none => exact ⟨_, rfl, rfl⟩
      | some d => exact ⟨_, rfl, rfl, rfl, rfl, rfl, rfl, Nat.one_pos⟩
    · split
      · unfold Forward.head withHead
        have hdoc' : (s.tellLine "Title").document = s.document := rfl
        rw [hdoc, hdoc']
        cases s.document with
        | none => exact ⟨_, rfl, rfl⟩
        | some d =>
            refine ⟨_, rfl, rfl, rfl, rfl, rfl, ?_, ?_⟩
            · show Awaiting.expect (if _ then (2 : Int) else 1) _ =
                Awaiting.expect ((if _ then 2 else 1 : Nat) : Int) _
              split <;> rfl
            · split <;> decide
      · exact obeys_quiet rfl rfl rfl rfl

/-- **The second character of a token does what the table says.** -/
theorem obeys_react (hl : Mode.ofLeading? (upper s.previous) = some s.mode)
    (hq : s.mode ≠ .quotation) (hn : s.mode ≠ .number) :
    Obeys s (s.react y) (Forward.token (.ofScanner s) s.previous y s.cursor.pos) := by
  unfold react
  unfold Mode.ofLeading? at hl
  split at hl <;> (try injection hl with hl) <;> (try rw [← hl]) <;> rename_i hx
  · exact obeys_letterC hx
  · exact obeys_letterK hx
  · exact obeys_letterB hx
  · exact obeys_letterW hx
  · exact obeys_letterF hx
  · exact obeys_letterI hx
  · exact absurd hl.symm hq
  · exact absurd hl.symm hn
  · exact obeys_command hx
  · cases hl

/-! ### Quoted text and digits -/

/-- Quoted text is told up to the next double quote. -/
theorem returns_quotation (h : Stands radix size r t s) (hm : s.mode = .quotation) :
    Returns radix size (r.tell (t.takeWhile (· ≠ '"') ++ (t.dropWhile (· ≠ '"')).take 1))
      ((t.dropWhile (· ≠ '"')).drop 1) s := by
  induction t generalizing r s with
  | nil =>
      have hret := Returns.of_nil h (by rw [hm]; rfl)
      simpa using hret
  | cons c t ih =>
      have e : s.react c = .ok (s.onQuotation c) := by
        unfold react
        rw [hm]
      have hst : Stands radix size (r.tell [c]) t ((s.onQuotation c).past c) :=
        h.past (by rw [← h.reading]; rfl) rfl rfl rfl
      refine Returns.of_finish (finish_react h e) ?_
      by_cases hc : c = '"'
      · subst hc
        have hmode : ((s.onQuotation '"').past '"').mode = .rest := by
          show (if upper '"' = ['"'] then Mode.rest else .quotation) = .rest
          rw [if_pos (upper_eq_quote.mpr rfl)]
        refine ⟨_, rfl, ?_, .inl hmode⟩
        simpa using hst
      · have hmode : ((s.onQuotation c).past c).mode = .quotation :=
          if_neg (mt upper_eq_quote.mp hc)
        have hih := ih hst hmode
        simpa [hc] using hih

/-- The digits of a number outside of any parameter are told up to the next semicolon. -/
theorem returns_digits (h : Stands radix size r t s)
    (hm : s.mode = .hexDigits ∨ s.mode = .decDigits ∨ s.mode = .binDigits) :
    Returns radix size (r.tell (uppercase (t.takeWhile (· ≠ ';'))))
      ((t.dropWhile (· ≠ ';')).drop 1) s := by
  induction t generalizing r s with
  | nil =>
      have hp : s.mode.isPending = false := by
        rcases hm with hm | hm | hm <;> rw [hm] <;> rfl
      have hret := Returns.of_nil h hp
      simpa using hret
  | cons c t ih =>
      have e : s.react c = .ok (s.onDigits c) := by
        unfold react
        rcases hm with hm | hm | hm <;> rw [hm]
      refine Returns.of_finish (finish_react h e) ?_
      by_cases hc : c = ';'
      · subst hc
        have hon : s.onDigits ';' = s.enter .rest := if_pos (upper_eq_semicolon.mpr rfl)
        rw [hon]
        refine ⟨_, rfl, ?_, .inl rfl⟩
        have hst : Stands radix size r t ((s.enter .rest).past ';') :=
          h.past h.reading rfl rfl rfl
        simpa using hst
      · have hon : s.onDigits c = s.tell (upper c) := if_neg (mt upper_eq_semicolon.mp hc)
        rw [hon]
        have hst : Stands radix size (r.tell (upper c)) t ((s.tell (upper c)).past c) :=
          h.past (by rw [← h.reading]; rfl) rfl rfl rfl
        have hih := ih hst hm
        simpa [hc] using hih

end Scanner

end StageCues
