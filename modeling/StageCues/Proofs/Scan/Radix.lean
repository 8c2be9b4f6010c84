import StageCues.Proofs.Meaning.Frames
import StageCues.Proofs.Scan.Numbers
import StageCues.Proofs.Scan.Trail
import StageCues.Proofs.Text.Capital
import StageCues.Reading

/-!
# Scan — numbers never steer

Whether radices are honoured decides what number a literal stands for, and nothing else.  Scanners
that are the same but for numbers take the same turn but for numbers (`turn_congr`), so two scans of
a text with radices honoured and without go side by side: the same turns, from the same positions in
the same modes with the same literals, to the same end.  Only the limit of base ten can part them,
by stopping one of them where the other goes on (`sideBySide_run`).

They differ in a number only where a literal has one of the markers `D` and `B`.  Without any, the
two scans are the same but for their setting (`run_withRadix`).
-/

namespace StageCues

open Text

namespace Scanner

variable {s t : Scanner}

theorem settle_congr (h : s.unnumbered = t.unnumbered) : Abreast s.settle t.settle := by
  obtain ⟨-, hm, -⟩ := unnumbered_eq_iff.mp h
  unfold settle
  rw [hm]
  split
  · exact onGotNumber_congr h
  · exact .same (onGotText_congr h)
  · exact .same (onNoNumber_congr h)
  · exact .same (congrArg Except.ok h)

/-! ### Two scans side by side -/

/-- What is done behind two results that are the same but for numbers. -/
theorem through_map_congr {x y : Except Halt Scanner} {f : Scanner → Scanner}
    (hf : ∀ u, (f u).unnumbered = (f u.unnumbered).muted)
    (h : through unnumbered x = through unnumbered y) :
    through unnumbered (f <$> x) = through unnumbered (f <$> y) := by
  cases x with
  | error k =>
      cases y with
      | error k' => exact h
      | ok v => cases h
  | ok u =>
      cases y with
      | error k' => cases h
      | ok v => exact congrArg Except.ok (congr_of_muted hf (Except.ok.inj h))

theorem overlong_map (f : Scanner → Scanner) (x : Except Halt Scanner) :
    overlong (f <$> x) = overlong x := by
  cases x <;> rfl

/-- The same of two results that the limit may have stopped. -/
theorem Abreast.map {x y : Except Halt Scanner} {f : Scanner → Scanner} (h : Abreast x y)
    (hf : ∀ u, (f u).unnumbered = (f u.unnumbered).muted) : Abreast (f <$> x) (f <$> y) := by
  cases h with
  | same h => exact .same (through_map_congr hf h)
  | left h => exact .left (by rwa [overlong_map])
  | right h => exact .right (by rwa [overlong_map])

/-- **Scanners that are the same but for numbers take the same turn, but for numbers**, unless the
limit stops one of them. -/
theorem turn_congr (h : s.unnumbered = t.unnumbered) : Abreast s.turn t.turn := by
  have hc : s.cursor = t.cursor := (unnumbered_eq_iff.mp h).1
  unfold turn
  rw [hc]
  split
  · exact (settle_congr h).map (f := next) fun _ => rfl
  · split
    · exact .same (error_congr h _)
    · next c _ =>
      exact (react_unnumbered_congr h c).map (f := fun u => { u with previous := c }.next)
        fun _ => rfl

theorem isDone_congr (h : s.unnumbered = t.unnumbered) : s.isDone = t.isDone := by
  obtain ⟨hc, hm, -⟩ := unnumbered_eq_iff.mp h
  unfold isDone
  rw [hc, hm]

/-- Two runs that go side by side: the same turns to the same end, but for numbers; or the limit of
base ten stops one of them, and the turns that it took are the first ones of the other. -/
inductive SideBySide (as bs : List Scanner) (x y : Except Halt Scanner) : Prop where
  | same : as.map unnumbered = bs.map unnumbered → through unnumbered x = through unnumbered y →
      SideBySide as bs x y
  | left : overlong x = true → as.map unnumbered <+: bs.map unnumbered → SideBySide as bs x y
  | right : overlong y = true → bs.map unnumbered <+: as.map unnumbered → SideBySide as bs x y

theorem SideBySide.symm {as bs : List Scanner} {x y : Except Halt Scanner}
    (h : SideBySide as bs x y) : SideBySide bs as y x := by
  cases h with
  | same hl he => exact .same hl.symm he.symm
  | left ho hl => exact .right ho hl
  | right ho hl => exact .left ho hl

/-- One more turn in front. -/
theorem SideBySide.cons {as bs : List Scanner} {x y : Except Halt Scanner}
    (h : s.unnumbered = t.unnumbered) (hs : SideBySide as bs x y) :
    SideBySide (s :: as) (t :: bs) x y := by
  cases hs with
  | same hl he => exact .same (by rw [List.map_cons, List.map_cons, h, hl]) he
  | left ho hl => exact .left ho (by simpa [h] using hl)
  | right ho hl => exact .right ho (by simpa [h] using hl)

theorem SideBySide.map {as bs : List Scanner} {x y : Except Halt Scanner} {f : Scanner → Scanner}
    (h : SideBySide as bs x y) (hf : ∀ u, (f u).unnumbered = (f u.unnumbered).muted) :
    SideBySide as bs (f <$> x) (f <$> y) := by
  cases h with
  | same hl he => exact .same hl (through_map_congr hf he)
  | left ho hl => exact .left (by rwa [overlong_map]) hl
  | right ho hl => exact .right (by rwa [overlong_map]) hl

/-- Runs of which the first fails at once, while the limit may have stopped either. -/
theorem sideBySide_of_halt {k : Halt} {n : Nat} (hds : s.isDone = false) (hdt : t.isDone = false)
    (hs : s.turn = .error k) (h : Abreast s.turn t.turn) :
    SideBySide (trail (n + 1) s) (trail (n + 1) t) (run (n + 1) s) (run (n + 1) t) := by
  have htrail : trail (n + 1) s = [] := trail_succ_of_halt hds hs n
  rw [run_succ_of_halt hds hs, htrail]
  rw [hs] at h
  cases hv : t.turn with
  | error k' =>
      rw [run_succ_of_halt hdt hv, trail_succ_of_halt hdt hv]
      rw [hv] at h
      cases h with
      | same he => exact .same rfl he
      | left ho => exact .left ho List.nil_prefix
      | right ho => exact .right ho List.nil_prefix
  | ok v =>
      rw [hv] at h
      cases h with
      | same he => cases he
      | left ho => exact .left ho List.nil_prefix
      | right ho => cases ho

/-- **Scanners that are the same but for numbers run side by side.** -/
theorem sideBySide_run (h : s.unnumbered = t.unnumbered) (n : Nat) :
    SideBySide (trail n s) (trail n t) (run n s) (run n t) := by
  induction n generalizing s t with
  | zero =>
      refine .same rfl ?_
      unfold run
      rw [isDone_congr h]
      split
      · exact congrArg Except.ok h
      · exact error_congr h _
  | succ n ih =>
      have hd := isDone_congr h
      cases hdt : t.isDone with
      | true =>
          have hds := hd.trans hdt
          refine .same ?_ ?_
          · rw [trail, trail, if_pos hds, if_pos hdt]
          · rw [run_of_isDone hds, run_of_isDone hdt]
            exact congrArg Except.ok h
      | false =>
          have hds := hd.trans hdt
          have hturns := turn_congr h
          cases hs : s.turn with
          | error k => exact sideBySide_of_halt hds hdt hs hturns
          | ok u =>
              cases ht : t.turn with
              | error k => exact (sideBySide_of_halt hdt hds ht hturns.symm).symm
              | ok v =>
                  rw [hs, ht] at hturns
                  cases hturns with
                  | same he =>
                      have huv : u.unnumbered = v.unnumbered := Except.ok.inj he
                      rw [run_succ_of_turn hds hs, run_succ_of_turn hdt ht,
                        trail_succ_of_turn hds hs, trail_succ_of_turn hdt ht]
                      exact (ih huv).cons huv
                  | left ho => cases ho
                  | right ho => cases ho

/-! ### Numbers that are the same -/

/-- The scanner with another setting for radices. -/
def withRadix (b : Bool) (s : Scanner) : Scanner := { s with honourRadix := b }

/-- What is done behind a result that is seen through a function. -/
theorem map_through {f g : Scanner → Scanner} (h : ∀ u, f (g u) = g (f u))
    (x : Except Halt Scanner) : f <$> through g x = through g (f <$> x) := by
  cases x with
  | error k => rfl
  | ok u => exact congrArg Except.ok (h u)

theorem recipient_withRadix (b : Bool) (s : Scanner) :
    (s.withRadix b).recipient =
      s.recipient.mapError fun h => (⟨h.fault, h.scanner.withRadix b⟩ : Halt) := by
  unfold recipient openFrame
  simp only [withRadix]
  cases s.awaiting.target with
  | some a => rfl
  | none =>
      cases CueList.lastOpenIndex s.frames with
      | error f => rfl
      | ok i => cases i <;> rfl

/-- What is delivered is all that the setting can matter to. -/
theorem deliver_withRadix (b : Bool) (s : Scanner) (p : Parameter) (m : Mode) :
    (s.withRadix b).deliver p m = through (withRadix b) (s.deliver p m) := by
  have hb := recipient_withRadix b s
  cases hr : s.recipient with
  | error h =>
      rw [hr] at hb
      rw [deliver_of_error hr, deliver_of_error hb]
      rfl
  | ok a =>
      rw [hr] at hb
      by_cases hm : s.cursor.mark ≤ s.cursor.pos
      · rw [deliver_of_le hr hm, deliver_of_le hb hm]
        cases a <;> rfl
      · have hm : s.cursor.pos < s.cursor.mark := by omega
        rw [deliver_of_lt hr hm, deliver_of_lt hb hm]
        cases a <;> rfl

theorem onNoNumber_withRadix (b : Bool) (s : Scanner) :
    (s.withRadix b).onNoNumber = through (withRadix b) s.onNoNumber := by
  unfold onNoNumber
  by_cases hb : s.cursor.pos - 2 + 1 < s.cursor.mark
  · rw [goBack_of_lt (s := s.tellLine _) hb, goBack_of_lt (s := (s.withRadix b).tellLine _) hb]
    rfl
  · have hb : s.cursor.mark ≤ s.cursor.pos - 2 + 1 := by omega
    rw [goBack_of_le (s := s.tellLine _) hb, goBack_of_le (s := (s.withRadix b).tellLine _) hb]
    rfl

theorem tellLines_withRadix (b : Bool) (s : Scanner) (lines : List (Except Fault Text)) :
    (s.withRadix b).tellLines lines = through (withRadix b) (s.tellLines lines) := by
  induction lines generalizing s with
  | nil => rfl
  | cons x lines ih =>
      cases x with
      | error f => rfl
      | ok u => exact ih (s.tellLine u)

theorem endFrame_withRadix (b : Bool) (s : Scanner) :
    (s.withRadix b).endFrame = through (withRadix b) s.endFrame := by
  have ho : CueList.lastOpenIndex (s.withRadix b).frames = CueList.lastOpenIndex s.frames := rfl
  unfold endFrame openFrame
  rw [ho]
  cases CueList.lastOpenIndex s.frames with
  | error f => rfl
  | ok i =>
      cases i with
      | none => rfl
      | some i =>
          show _ <$> ((s.closeFrame i).withRadix b).tellLines _ = through (withRadix b) (_ <$> _)
          rw [tellLines_withRadix]
          exact map_through (f := fun t => t.enter .rest) (g := withRadix b) (fun _ => rfl) _

theorem onLetterK_withRadix (b : Bool) (s : Scanner) (c : Char) :
    (s.withRadix b).onLetterK c = through (withRadix b) (s.onLetterK c) := by
  have hp : (s.withRadix b).previous = s.previous := rfl
  have ho : CueList.lastOpenIndex (s.withRadix b).frames = CueList.lastOpenIndex s.frames := rfl
  unfold onLetterK requireClosed
  rw [hp, ho]
  split
  · rfl
  · split
    · cases CueList.lastOpenIndex s.frames with
      | error f => rfl
      | ok i => cases i <;> rfl
    · split
      · cases CueList.lastOpenIndex s.frames with
        | error f => rfl
        | ok i => cases i <;> rfl
      · exact endFrame_withRadix b s

theorem onLetterB_withRadix (b : Bool) (s : Scanner) (c : Char) :
    (s.withRadix b).onLetterB c = through (withRadix b) (s.onLetterB c) := by
  unfold onLetterB addWrite openFrame
  simp only [tell, withRadix]
  split
  · cases CueList.lastOpenIndex s.frames with
    | error f => rfl
    | ok i => cases i <;> rfl
  · rfl

theorem onCommand_withRadix (b : Bool) (s : Scanner) (c : Char) :
    (s.withRadix b).onCommand c = through (withRadix b) (s.onCommand c) := by
  unfold onCommand withHead
  simp only [tellLine, tell, withRadix]
  split
  · rfl
  · split
    · cases s.document <;> rfl
    · split
      · cases s.document <;> rfl
      · rfl

theorem onWaitNumber_withRadix (b : Bool) (s : Scanner) (c : Char) :
    (s.withRadix b).onWaitNumber c = (s.onWaitNumber c).withRadix b := by
  unfold onWaitNumber gather markStart
  by_cases hs : s.awaiting.literal.start = none
  · simp only [withRadix, hs, if_true, enter, keep, pos]
    split
    · split <;> rfl
    · split <;> rfl
  · simp only [withRadix, hs, if_false, enter, keep, pos]
    split
    · split <;> rfl
    · split <;> rfl

theorem onWaitText_withRadix (b : Bool) (s : Scanner) (c : Char) :
    (s.withRadix b).onWaitText c = (s.onWaitText c).withRadix b := by
  unfold onWaitText gather markStart
  by_cases hs : s.awaiting.literal.start = none
  · simp only [withRadix, hs, if_true]
    split <;> rfl
  · simp only [withRadix, hs, if_false]
    split <;> rfl

/-- **A character does the same with both settings, if the number of the literal is the same.** -/
theorem react_withRadix (b : Bool) (c : Char) (h : s.mode = .gotNumber →
      s.awaiting.literal.asNumber b = s.awaiting.literal.asNumber s.honourRadix) :
    (s.withRadix b).react c = through (withRadix b) (s.react c) := by
  have hm : (s.withRadix b).mode = s.mode := rfl
  unfold react
  rw [hm]
  split
  · unfold onRest
    split <;> rfl
  · unfold onLetterC
    split <;> rfl
  · exact onLetterK_withRadix b s c
  · exact onLetterB_withRadix b s c
  · unfold onLetterW
    split
    · rfl
    · split <;> rfl
  · unfold onLetterF
    split
    · rfl
    · split <;> rfl
  · unfold onLetterI
    split <;> rfl
  · rfl
  · unfold onNumber
    split <;> rfl
  · unfold onDigits
    split <;> rfl
  · unfold onDigits
    split <;> rfl
  · unfold onDigits
    split <;> rfl
  · exact onCommand_withRadix b s c
  · exact congrArg Except.ok (onWaitNumber_withRadix b s c)
  · exact congrArg Except.ok (onWaitText_withRadix b s c)
  · next hg =>
    have hread : (s.withRadix b).awaiting.literal.asNumber (s.withRadix b).honourRadix =
        s.awaiting.literal.asNumber s.honourRadix := h hg
    unfold onGotNumber
    rw [hread]
    cases s.awaiting.literal.asNumber s.honourRadix with
    | error f => rfl
    | ok n => exact deliver_withRadix b s _ _
  · exact deliver_withRadix b s _ _
  · exact onNoNumber_withRadix b s

/-- **A turn is the same with both settings, if the number of the literal is the same.** -/
theorem turn_withRadix (b : Bool) (hd : s.isDone = false) (h : s.mode = .gotNumber →
      s.awaiting.literal.asNumber b = s.awaiting.literal.asNumber s.honourRadix) :
    (s.withRadix b).turn = through (withRadix b) s.turn := by
  have hc : (s.withRadix b).cursor = s.cursor := rfl
  cases ha : s.cursor.atEnd with
  | true =>
      -- at the end of the text a turn is left only if a parameter is pending, and no character
      -- matters to that
      have hp : s.mode.isPending = true := by simpa [isDone, ha] using hd
      rw [turn_of_atEnd (s := s.withRadix b) ha, turn_of_atEnd ha,
        settle_eq_react (s := s.withRadix b) hp '\x00', settle_eq_react hp '\x00',
        react_withRadix b _ h]
      exact map_through (f := next) (g := withRadix b) (fun _ => rfl) _
  | false =>
      unfold turn
      rw [hc, ha]
      split
      · next hf => cases hf
      · split
        · rfl
        · next c _ =>
          rw [react_withRadix b c h]
          exact map_through (f := fun u => { u with previous := c }.next) (g := withRadix b)
            (fun _ => rfl) _

/-- Scans with different settings are the same as long as the numbers of their literals are. -/
theorem run_withRadix (b : Bool) (n : Nat) (h : ∀ u ∈ s :: trail n s, u.mode = .gotNumber →
      u.awaiting.literal.asNumber b = u.awaiting.literal.asNumber u.honourRadix) :
    run n (s.withRadix b) = through (withRadix b) (run n s) := by
  induction n generalizing s with
  | zero =>
      unfold run
      split <;> rename_i hd
      · rw [if_pos (show s.isDone = true from hd)]
        rfl
      · rw [if_neg (show ¬s.isDone = true from hd)]
        rfl
  | succ n ih =>
      cases hd : s.isDone with
      | true =>
          rw [run_of_isDone (s := s.withRadix b) hd, run_of_isDone hd]
          rfl
      | false =>
          have ht := turn_withRadix b hd (h s List.mem_cons_self)
          cases hs : s.turn with
          | error k =>
              rw [hs] at ht
              rw [run_succ_of_halt (s := s.withRadix b) hd ht, run_succ_of_halt hd hs]
              rfl
          | ok u =>
              rw [hs] at ht
              rw [trail_succ_of_turn hd hs] at h
              rw [run_succ_of_turn (s := s.withRadix b) hd ht, run_succ_of_turn hd hs]
              exact ih fun v hv => h v (List.mem_cons_of_mem s hv)

end Scanner

/-- Without one of the markers that select another base, the same is read of a literal with radices
honoured and without. -/
theorem Text.readNumber_of_unmarked {t : Text}
    (h : ∀ c, t[1]? = some c → c ∉ ['d', 'D', 'b', 'B']) (a b : Bool) :
    readNumber a t = readNumber b t := by
  have hbase : markedBase ((t.drop 1).take 1) = 16 := by
    unfold markedBase
    cases hc : t[1]? with
    | none =>
        have hdrop : t.drop 1 = [] := List.drop_eq_nil_of_le (List.getElem?_eq_none_iff.mp hc)
        rw [hdrop]
        rfl
    | some c =>
        have hmark : (t.drop 1).take 1 = [c] := by
          rw [List.take_one, List.head?_drop, hc]
          rfl
        have hnot := h c hc
        rw [hmark, uppercase_cons, uppercase_nil, List.append_nil]
        split
        · next hu =>
          rcases eq_or_eq_of_upper hu rfl with rfl | rfl <;> exact absurd hnot (by decide)
        · next hu =>
          rcases eq_or_eq_of_upper hu rfl with rfl | rfl <;> exact absurd hnot (by decide)
        · rfl
  have hsame : ∀ a : Bool, literalBase a t = 16 := by
    intro a
    unfold literalBase
    rw [hbase, ite_self]
  unfold readNumber numberValue literalDigits
  rw [hsame a, hsame b]

namespace Scanner

/-- **Numbers never steer**, up to the limit of base ten.  With radices honoured and without, a scan
of the same text takes the same turns, with the same positions, modes and literals after each, and
the same elements but for their numbers, and it comes to the same end, with the same fault if it
fails; or else a number that is too long stops one of the two scans, and it has taken the same turns
as the other up to there.  And if no number is delivered with one of the markers `D` and `B`, the
two readings are the same, with all numbers and all that is told, or with the same fault. -/
theorem scan_radix (t : Text) :
    SideBySide (scanTrail true t) (scanTrail false t) (scan true t) (scan false t) ∧
    ((∀ s ∈ scanTrail true t, s.mode = .gotNumber →
        ∀ c, s.awaiting.literal.text[1]? = some c → c ∉ ['d', 'D', 'b', 'B']) →
      Reading.ofCompact true t = Reading.ofCompact false t) := by
  have hstart : (start true t).unnumbered = (start false t).unnumbered := rfl
  refine ⟨?_, fun h => ?_⟩
  · have hkeep : ∀ u : Scanner, (u.keep (.done u.frames.length)).unnumbered =
        (u.unnumbered.keep (.done u.unnumbered.frames.length)).muted := by
      intro u
      simp only [keep, unnumbered, muted, List.length_map]
    exact (sideBySide_run hstart _).map hkeep
  · -- no number is delivered at the front, so the front itself needs no premise
    have hsame : ∀ u ∈ start true t :: trail (budget t) (start true t), u.mode = .gotNumber →
        u.awaiting.literal.asNumber false = u.awaiting.literal.asNumber u.honourRadix := by
      intro u hu hm
      rcases List.mem_cons.mp hu with rfl | hu
      · cases hm
      · exact readNumber_of_unmarked (h u hu hm) false _
    have hrun : run (budget t) (start false t) =
        through (withRadix false) (run (budget t) (start true t)) :=
      run_withRadix false (budget t) hsame
    unfold Reading.ofCompact scan
    rw [hrun]
    cases run (budget t) (start true t) <;> rfl

/-- One digit too many in base ten, and the one scan fails where the other succeeds. -/
theorem scan_radix_overlong :
    Reading.ofCompact true ("KF0D".toList ++ List.replicate 4301 '1' ++ ";".toList) =
      .error (.tooManyDigits 4301) ∧
    ∃ r, Reading.ofCompact false ("KF0D".toList ++ List.replicate 4301 '1' ++ ";".toList) =
      .ok r :=
  ⟨Reading.ofCompact_ones (by decide) [], Reading.ofCompact_ones_unmarked 4301⟩

end Scanner

end StageCues
