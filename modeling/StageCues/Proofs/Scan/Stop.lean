import StageCues.Proofs.Scan.Gist
import StageCues.Proofs.Scan.Steady
import StageCues.Proofs.Text.Numeral

/-!
# Scan — what can stop a turn

A turn fails in four handlers only, each of which may have told something before it looks: a frame
token finds a frame open or none open, a channel write finds none, a head finds no document; and a
number goes beyond the limit of base ten, be it one that is to be told at the end of a frame or one
that is to be read.  `Stops s c h` lists these, together with the failures that a scan never meets:
a frame that is neither open nor closed, a cursor that may not go back, a parameter without a
target.

* `stops_of_react`: whatever stops a character is one of them.
* `stops_of_turn`: the same of a turn, which outside of the pending modes stops at a character.
-/

namespace StageCues

open Text

namespace Scanner

/-- What stops the scanner on a character. -/
inductive Stops (s : Scanner) (c : Char) : Halt → Prop where
  /-- The end of a frame, and none is open. -/
  | frameEnd :
      s.mode = .letterK → upper c = ['F'] → s.previous.isUpper = false → c.isUpper = false →
      CueList.lastOpenIndex s.frames = .ok none → Stops s c (s.misread .noOpenFrame)
  /-- The start of a frame inside a frame. -/
  | frameStart {i : Nat} :
      s.mode = .letterK → upper c = ['F'] → s.previous.isUpper = true ∨ c.isUpper = true →
      CueList.lastOpenIndex s.frames = .ok (some i) → Stops s c (s.misread .frameAlreadyOpen)
  /-- A channel write outside of any frame. -/
  | write :
      s.mode = .letterB → upper c = ['P'] → CueList.lastOpenIndex s.frames = .ok none →
      Stops s c ((s.tell "\nLoading channel data...").misread .noOpenFrame)
  /-- A number for the head of no document. -/
  | number :
      s.mode = .command → upper c = ['@'] → s.document = none →
      Stops s c ((s.tellLine "Head").misread .noDocument)
  /-- A text for the head of no document. -/
  | text :
      s.mode = .command → upper c = ['+'] → s.document = none →
      Stops s c ((s.tellLine "Title").misread .noDocument)
  /-- The end of a frame with a number that is too long to be told; the frame is closed by then. -/
  | untold {i : Nat} {f : Node} {u : Text} :
      s.mode = .letterK → upper c = ['F'] → s.previous.isUpper = false → c.isUpper = false →
      CueList.lastOpenIndex s.frames = .ok (some i) → s.frames[i]? = some f →
      .error .tooLong ∈ closingCaptions f.close →
      Stops s c ⟨.tooLong, (s.closeFrame i).tell u⟩
  /-- A number that has too many digits to be read. -/
  | unread {n : Nat} :
      s.mode = .gotNumber → s.awaiting.literal.asNumber s.honourRadix = .error (.tooManyDigits n) →
      Stops s c ⟨.tooManyDigits n, s⟩
  /-- A frame that is neither open nor closed. -/
  | odd {f : Fault} {u : Text} :
      CueList.lastOpenIndex s.frames = .error f → Stops s c ⟨f, s.tell u⟩
  /-- A cursor that may not go back. -/
  | rewound {t : Scanner} :
      s.mode.isPending = true → s.trace <+: t.trace → Stops s c ⟨.rewound, t⟩
  /-- A parameter without a target, and no frame is open. -/
  | lost :
      s.mode.isPending = true → s.mode ≠ .noNumber → s.awaiting.target = none →
      Stops s c (s.misread .noOpenFrame)

variable {s t : Scanner} {c : Char} {h : Halt}

theorem openFrame_eq_error (e : s.openFrame = .error h) :
    CueList.lastOpenIndex s.frames = .ok none ∧ h = s.misread .noOpenFrame ∨
      CueList.lastOpenIndex s.frames = .error h.fault ∧ h.scanner = s := by
  unfold openFrame at e
  split at e
  · next f hf =>
    cases e
    exact .inr ⟨hf, rfl⟩
  · next hn =>
    cases e
    exact .inl ⟨hn, rfl⟩
  · cases e

theorem requireClosed_eq_error (e : s.requireClosed = .error h) :
    (∃ i, CueList.lastOpenIndex s.frames = .ok (some i)) ∧ h = s.misread .frameAlreadyOpen ∨
      CueList.lastOpenIndex s.frames = .error h.fault ∧ h.scanner = s := by
  unfold requireClosed at e
  split at e
  · next f hf =>
    cases e
    exact .inr ⟨hf, rfl⟩
  · cases e
  · next i hi =>
    cases e
    exact .inl ⟨⟨i, hi⟩, rfl⟩

/-- A frame that is neither open nor closed stops a scanner that has told nothing. -/
theorem Stops.odd_silent (hf : CueList.lastOpenIndex s.frames = .error h.fault)
    (hs : h.scanner = s) : Stops s c h := by
  have ho := Stops.odd (c := c) (u := []) hf
  obtain ⟨f, t⟩ := h
  obtain rfl : t = s := hs
  simpa [tell] using ho

theorem stops_endFrame (hm : s.mode = .letterK) (hc : upper c = ['F'])
    (hu : s.previous.isUpper = false) (hv : c.isUpper = false) (e : s.endFrame = .error h) :
    Stops s c h := by
  unfold endFrame at e
  split at e
  · next k ho =>
    cases e
    rcases openFrame_eq_error ho with ⟨hn, rfl⟩ | ⟨hf, hs⟩
    · exact .frameEnd hm hc hu hv hn
    · exact .odd_silent hf hs
  · next i ho =>
    obtain ⟨hmem, u, hs⟩ := tellLines_eq_error (map_eq_error.mp e)
    obtain ⟨fault, t⟩ := h
    obtain rfl : t = (s.closeFrame i).tell u := hs
    cases hf : s.frames[i]? with
    | none =>
        have hclosed : (s.closeFrame i).frames[i]? = none := by
          show (s.frames.modify i Node.close)[i]? = none
          rw [List.getElem?_modify_eq, hf]
          rfl
        rw [hclosed] at hmem
        cases hmem
    | some f =>
        rw [frame_closeFrame hf] at hmem
        obtain rfl : fault = .tooLong := failsByLength_closingCaptions hmem _ rfl
        exact .untold hm hc hu hv (openFrame_eq_ok ho) hf hmem

theorem stops_onLetterK (hm : s.mode = .letterK) (e : s.onLetterK c = .error h) :
    Stops s c h := by
  unfold onLetterK at e
  split at e
  · cases e
  · next hc =>
    have hc : upper c = ['F'] := by simpa using hc
    have start : (s.previous.isUpper = true ∨ c.isUpper = true) →
        s.requireClosed = .error h → Stops s c h := by
      intro hu hr
      rcases requireClosed_eq_error hr with ⟨⟨i, hi⟩, rfl⟩ | ⟨hf, hs⟩
      · exact .frameStart hm hc hu hi
      · exact .odd_silent hf hs
    split at e
    · next hu =>
      cases hr : s.requireClosed with
      | ok u => rw [hr] at e; cases e
      | error k =>
          rw [hr] at e
          cases e
          exact start (.inl hu) hr
    · next hu =>
      split at e
      · next hv =>
        cases hr : s.requireClosed with
        | ok u => rw [hr] at e; cases e
        | error k =>
            rw [hr] at e
            cases e
            exact start (.inr hv) hr
      · next hv =>
        exact stops_endFrame hm hc (by simpa using hu) (by simpa using hv) e

theorem stops_onLetterB (hm : s.mode = .letterB) (e : s.onLetterB c = .error h) :
    Stops s c h := by
  unfold onLetterB at e
  split at e
  · next hc =>
    unfold addWrite at e
    split at e
    · next k ho =>
      cases e
      rcases openFrame_eq_error ho with ⟨hn, rfl⟩ | ⟨hf, hs⟩
      · exact .write hm hc hn
      · have hs' := Stops.odd (s := s) (c := c) (u := "\nLoading channel data...") hf
        rw [← hs] at hs'
        exact hs'
    · cases e
  · cases e

theorem withHead_eq_error {k : Kind} (e : s.withHead k = .error h) :
    s.document = none ∧ h = s.misread .noDocument := by
  unfold withHead at e
  split at e
  · next hd =>
    cases e
    exact ⟨hd, rfl⟩
  · cases e

theorem stops_onCommand (hm : s.mode = .command) (e : s.onCommand c = .error h) :
    Stops s c h := by
  unfold onCommand at e
  split at e
  · cases e
  · split at e
    · next hc =>
      cases hw : (s.tellLine "Head").withHead (.newPredefinedHead 0) with
      | ok r => rw [hw] at e; cases e
      | error k =>
          rw [hw] at e
          cases e
          obtain ⟨hd, rfl⟩ := withHead_eq_error hw
          exact .number hm hc hd
    · split at e
      · next hc =>
        cases hw : (s.tellLine "Title").withHead .newLinkedHead with
        | ok r => rw [hw] at e; cases e
        | error k =>
            rw [hw] at e
            cases e
            obtain ⟨hd, rfl⟩ := withHead_eq_error hw
            exact .text hm hc hd
      · cases e

theorem recipient_eq_error (e : s.recipient = .error h) :
    s.awaiting.target = none ∧ s.openFrame = .error h := by
  unfold recipient at e
  split at e
  · cases e
  · next ht =>
    cases ho : s.openFrame with
    | ok i => rw [ho] at e; cases e
    | error k =>
        rw [ho] at e
        cases e
        exact ⟨ht, rfl⟩

theorem stops_deliver {p : Parameter} {m : Mode} (hp : s.mode.isPending = true)
    (hn : s.mode ≠ .noNumber) (e : s.deliver p m = .error h) : Stops s c h := by
  cases hr : s.recipient with
  | error k =>
      rw [deliver_of_error hr] at e
      cases e
      obtain ⟨ht, ho⟩ := recipient_eq_error hr
      rcases openFrame_eq_error ho with ⟨-, rfl⟩ | ⟨hf, hs⟩
      · exact .lost hp hn ht
      · exact .odd_silent hf hs
  | ok a =>
      by_cases hm : s.cursor.mark ≤ s.cursor.pos
      · rw [deliver_of_le hr hm] at e
        cases e
      · rw [deliver_of_lt hr (by omega)] at e
        cases e
        refine .rewound hp ?_
        show s.trace <+: (s.give p a).trace
        cases a <;> exact List.prefix_rfl

theorem stops_onGotNumber (hm : s.mode = .gotNumber) (e : s.onGotNumber = .error h) :
    Stops s c h := by
  unfold onGotNumber at e
  split at e
  · next f hf =>
    cases e
    obtain ⟨-, -, rfl⟩ := readNumber_eq_error hf
    exact .unread hm hf
  · exact stops_deliver (by rw [hm]; rfl) (by rw [hm]; nofun) e

theorem stops_onNoNumber (hp : s.mode.isPending = true) (e : s.onNoNumber = .error h) :
    Stops s c h := by
  unfold onNoNumber at e
  by_cases hm : s.cursor.mark ≤ s.cursor.pos - 2 + 1
  · rw [goBack_of_le (s := s.tellLine _) hm] at e
    cases e
  · rw [goBack_of_lt (s := s.tellLine _) (by simpa [tellLine, tell] using hm)] at e
    cases e
    exact .rewound hp (List.prefix_append _ _)

/-- **What can stop a character.** -/
theorem stops_of_react (e : s.react c = .error h) : Stops s c h := by
  unfold react at e
  split at e <;> rename_i hm
  · cases e
  · cases e
  · exact stops_onLetterK hm e
  · exact stops_onLetterB hm e
  · cases e
  · cases e
  · cases e
  · cases e
  · cases e
  · cases e
  · cases e
  · cases e
  · exact stops_onCommand hm e
  · cases e
  · cases e
  · exact stops_onGotNumber hm e
  · exact stops_deliver (by rw [hm]; rfl) (by rw [hm]; nofun) e
  · exact stops_onNoNumber (by rw [hm]; rfl) e

/-- **What can stop a turn**, at a character or, in a pending mode, at the end of the text. -/
theorem stops_of_turn (hs : Steady s) (hd : s.isDone = false) (e : s.turn = .error h) :
    ∃ c, Stops s c h ∧ (s.mode.isPending = false →
      s.cursor.atEnd = false ∧ s.cursor.char? = some c) := by
  cases ha : s.cursor.atEnd with
  | true =>
      have hp : s.mode.isPending = true := by simpa [isDone, ha] using hd
      rw [turn_of_atEnd ha] at e
      cases hr : s.settle with
      | ok u => rw [hr] at e; cases e
      | error k =>
          rw [hr] at e
          cases e
          rw [settle_eq_react hp '\x00'] at hr
          exact ⟨_, stops_of_react hr, by simp [hp]⟩
  | false =>
      obtain ⟨c, hc⟩ := hs.exists_char ha
      rw [turn_of_char ha hc] at e
      cases hr : s.react c with
      | ok u => rw [hr] at e; cases e
      | error k =>
          rw [hr] at e
          cases e
          exact ⟨c, stops_of_react hr, fun _ => ⟨rfl, hc⟩⟩

/-- Whatever stops a turn, nothing that was told is taken back. -/
theorem Stops.trace_prefix (e : Stops s c h) : s.trace <+: h.scanner.trace := by
  cases e with
  | rewound _ ht => exact ht
  | write | number | text | odd => exact List.prefix_append _ _
  | untold => exact (List.prefix_append _ _).trans (List.prefix_append _ _)
  | _ => exact List.prefix_rfl

/-- The search for an open frame fails on what cannot be asked, never for a misreading. -/
theorem lastOpenIndex_ne_misread {frames : List Node} {f : Fault}
    (e : CueList.lastOpenIndex frames = .error f) (m : Misreading) (p : Int) :
    f ≠ .misread m p := by
  unfold CueList.lastOpenIndex at e
  generalize frames.map Node.kind = ks at e
  induction ks with
  | nil => cases e
  | cons k ks ih =>
      unfold lastOpenIndexBy at e
      split at e
      · next g hg =>
        cases e
        exact ih hg
      · cases e
      · split at e
        · next g hg =>
          cases e
          unfold Kind.closed at hg
          split at hg
          · cases hg
          · cases hg
            nofun
        · cases e
        · cases e

end Scanner

end StageCues
