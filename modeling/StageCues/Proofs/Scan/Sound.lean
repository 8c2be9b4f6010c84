import StageCues.Proofs.Built.Heads
import StageCues.Proofs.Meaning.Frames
import StageCues.Proofs.Scan.Resume
import StageCues.Proofs.Scan.Trail

/-!
# Scan — nothing but misreadings and numbers that are too long

A scan fails at a misreading of the text, or at a number beyond the limit of base ten, and for no
other cause.  The other causes a turn could fail for are a cursor that may not go back, a position
without a character, a frame that is neither open nor closed, and a parameter without a target;
`Sound` is the invariant that excludes them.

* A missing number has a character before the cursor and behind the mark, so the cursor may go back
  by two; a complete parameter needs to go back by one.
* While a parameter is collected, complete or missing, an element that was built stands at the
  address of the target (`Aimed`).

So a pending mode can take its turn unless its number has too many digits (`turn_of_pending`), and
a turn that fails finds the frames or the document in the wrong state for a token, or such a number,
or a time that is too long to be told at the end of its frame (`stopped_of_turn`).
-/

namespace StageCues

open Text

/-- There are three misreadings, with a wording each. -/
theorem Misreading.message_mem (m : Misreading) :
    m.message ∈ (["no open keyframe", "keyframe already open", "no document"] : List Text) := by
  cases m <;> decide

namespace Scanner

/-- The awaited parameters are for an element that was built. -/
def Aimed (s : Scanner) : Prop :=
  ∃ a n, s.awaiting.target = some a ∧ s.nodeAt? a = some n ∧ n.cls.isElement = true

/-- The invariant of a scan that excludes every failure but a misreading. -/
structure Sound (s : Scanner) : Prop where
  steady : Steady s
  framed : WellFramed s.frames
  headed : Headed s
  /-- The mark is before the character that shows that a number is missing. -/
  missing : s.mode = .noNumber → s.cursor.mark < s.cursor.pos
  aimed : s.mode.isParameter = true → s.Aimed

/-- How many digits the number that is collected has. -/
def digitCount (s : Scanner) : Nat :=
  (literalDigits s.honourRadix s.awaiting.literal.text).length

/-- The number that is complete has too many digits in base ten. -/
def Unread (s : Scanner) : Prop :=
  s.mode = .gotNumber ∧ literalBase s.honourRadix s.awaiting.literal.text = 10 ∧
    digitLimit < s.digitCount

/-- A frame has been ended with a time that is too long to be told. -/
def Untold (s : Scanner) : Prop :=
  ∃ (i : Nat) (d : Int) (ws : List Node),
    s.frames[i]? = some ⟨.keyFrame d false true, ws⟩ ∧ isShort d = false

theorem sound_start (honourRadix : Bool) (t : Text) : Sound (start honourRadix t) where
  steady := steady_start honourRadix t
  framed := .closed nofun
  headed := headed_start honourRadix t
  missing := nofun
  aimed := nofun

variable {s t : Scanner} {c : Char} {a : Address} {n : Node} {p : Parameter}

/-! ### The target -/

/-- The node at an address receives what is given to it. -/
theorem nodeAt?_give (h : s.nodeAt? a = some n) : (s.give p a).nodeAt? a = some (n.receive p) := by
  cases a with
  | frame i =>
      have h : s.frames[i]? = some n := h
      show (s.frames.modify i _)[i]? = _
      rw [List.getElem?_modify_eq, h]
      rfl
  | write i j =>
      obtain ⟨f, hf, hw⟩ := Option.bind_eq_some_iff.mp h
      show (s.frames.modify i _)[i]?.bind _ = _
      rw [List.getElem?_modify_eq, hf]
      show (f.children.modify j _)[j]? = _
      rw [List.getElem?_modify_eq, hw]
      rfl
  | head =>
      obtain ⟨d, hd, hn⟩ := Option.bind_eq_some_iff.mp h
      show (s.document.map _).bind _ = _
      rw [hd]
      show d.head.map _ = _
      rw [hn]
      rfl

/-- A target that is named is the recipient. -/
theorem recipient_of_target (h : s.awaiting.target = some a) : s.recipient = .ok a := by
  unfold recipient
  rw [h]

/-- The target depends on the elements and on what is awaited only. -/
theorem Aimed.congr (h : s.Aimed) (ht : t.awaiting.target = s.awaiting.target)
    (hf : t.frames = s.frames) (hd : t.document = s.document) : t.Aimed := by
  obtain ⟨a, n, ha, hn, he⟩ := h
  refine ⟨a, n, ht.trans ha, ?_, he⟩
  rw [← hn]
  cases a with
  | frame i => exact congrArg (fun fs : List Node => fs[i]?) hf
  | write i j => exact congrArg (fun fs : List Node => fs[i]?.bind fun f => f.children[j]?) hf
  | head => exact congrArg (fun d : Option Document => d.bind fun d => d.head) hd

/-- An element is still one after it has received a parameter. -/
theorem Aimed.give (h : s.Aimed) (ha : s.recipient = .ok a) :
    ∃ n, s.awaiting.target = some a ∧ (s.give p a).nodeAt? a = some n ∧
      n.cls.isElement = true := by
  obtain ⟨b, n, hb, hn, he⟩ := h
  rw [recipient_of_target hb] at ha
  obtain rfl := Except.ok.inj ha
  exact ⟨_, hb, nodeAt?_give hn, by rw [Node.cls_receive, he]⟩

/-- A parameter for which there is one more leaves the target in place. -/
theorem aimed_settles (h : s.mode.isParameter = true → s.Aimed) (hs : Settles s t)
    (ht : t.mode.isParameter = true) : t.Aimed := by
  cases hs with
  | @deliver q m a hq ha =>
      have hp := (isParameter_of_complete hq).1
      obtain ⟨n, htarget, hn, he⟩ := (h hp).give (p := q) ha
      have hmore : s.awaiting.hasMore = true := by
        by_contra hmore
        rw [Bool.not_eq_true] at hmore
        simp [hmore, Mode.isParameter] at ht
      refine ⟨a, n, ?_, ?_, he⟩
      · show (if s.awaiting.hasMore then s.awaiting.target else none) = some a
        rw [if_pos hmore, htarget]
      · rw [← hn]
        cases a <;> rfl
  | cancel => cases ht

/-- **The element that a token makes, or finds in the document, is what it asks parameters for.** -/
theorem Sound.aimed_move (h : Sound s) (hm : Move s c t) (ht : t.mode.isParameter = true) :
    t.Aimed := by
  have hmark : s.mode.isParameter = true → s.markStart.Aimed := by
    intro hp
    refine (h.aimed hp).congr (by rw [markStart_awaiting]) ?_ ?_
    · unfold markStart
      split <;> rfl
    · unfold markStart
      split <;> rfl
  cases hm with
  | quiet hl => exact absurd ht (by simp [isParameter_of_leads hl])
  | iteration | document | endFrame => cases ht
  | addFrame => exact ⟨_, _, rfl, List.getElem?_concat_length, rfl⟩
  | @addWrite i j u _ ho hj =>
      obtain ⟨gs, f, hfs, rfl, -, -⟩ := h.framed.last_open ho
      obtain rfl := hj f (by rw [hfs, List.getElem?_concat_length])
      refine ⟨_, .leaf (.newChannelData 0 0), rfl, ?_, rfl⟩
      show (s.frames.modify gs.length _)[gs.length]?.bind _ = _
      rw [hfs, modify_length, List.getElem?_concat_length]
      exact List.getElem?_concat_length
  | @head d k n m u _ hd _ hk =>
      refine ⟨_, d.head.getD (.leaf k), rfl, rfl, ?_⟩
      cases hh : d.head with
      | some n => exact ((h.headed.document d hd).head n hh).isElement
      | none => exact (isHead_fresh (hk.imp And.left And.left)).isElement
  | gather hm => exact (hmark (isParameter_of_waits hm)).congr rfl rfl rfl
  | finish _ hm => exact (hmark (isParameter_of_waits hm)).congr rfl rfl rfl
  | settle hs => exact aimed_settles h.aimed hs ht

/-! ### The mark of a missing number -/

/-- After a settled parameter another one is awaited, or a token. -/
theorem mode_of_settles (hs : Settles s t) :
    t.mode = .rest ∨ t.mode = .waitNumber ∨ t.mode = .waitText := by
  cases hs with
  | @deliver q m a hq =>
      have hm := (mode_of_complete hq).2
      show (if s.awaiting.hasMore then m else .rest : Mode) = _ ∨ _
      split
      · exact .inr hm
      · exact .inl rfl
  | cancel => exact .inl rfl

/-- A settled parameter is not missing any more. -/
theorem mode_ne_noNumber_of_settles (hs : Settles s t) : t.mode ≠ .noNumber := by
  rcases mode_of_settles hs with h | h | h <;> rw [h] <;> nofun

/-- The character that shows that a number is missing is not before the mark. -/
theorem Steady.mark_le_of_missing (h : Steady s) (hm : Move s c t) (ht : t.mode = .noNumber) :
    t.cursor.mark ≤ t.cursor.pos := by
  have hmark : s.markStart.cursor.mark ≤ s.markStart.cursor.pos := by
    rcases cursor_markStart s with e | e <;> rw [e]
    · exact h.mark_le
    · exact Int.le_refl _
  cases hm with
  | gather => exact hmark
  | finish => exact hmark
  | settle hs => exact absurd ht (mode_ne_noNumber_of_settles hs)
  | quiet => exact h.mark_le
  | iteration | document | endFrame | addFrame | addWrite | head => exact h.mark_le

/-- **A turn keeps the invariant.** -/
theorem sound_turn (h : Sound s) (hd : s.isDone = false) (e : s.turn = .ok t) : Sound t := by
  have hsteady := steady_turn h.steady hd e
  have hframed := wellFramed_turn h.framed hd e
  have hheaded := headed_turn h.headed hd e
  rcases turn_cases hd e with ⟨-, c, u, -, hm, rfl⟩ | ⟨-, -, u, hs, rfl⟩
  · refine ⟨hsteady, hframed, hheaded, fun hu => ?_, fun hu => ?_⟩
    · have hle := h.steady.mark_le_of_missing hm hu
      show u.cursor.mark < u.cursor.pos + 1
      omega
    · exact (h.aimed_move hm hu).congr rfl rfl rfl
  · refine ⟨hsteady, hframed, hheaded, fun hu => ?_, fun hu => ?_⟩
    · have hu : u.mode = .noNumber := hu
      exact absurd hu (mode_ne_noNumber_of_settles hs)
    · exact (aimed_settles h.aimed hs hu).congr rfl rfl rfl

/-! ### What stops a turn -/

/-- A parameter that is complete has a recipient, and the cursor may go back. -/
theorem Sound.deliver_eq_ok (h : Sound s) (hm : s.mode.isParameter = true) (p : Parameter)
    (m : Mode) : ∃ u, s.deliver p m = .ok u := by
  obtain ⟨a, n, ha, -, -⟩ := h.aimed hm
  exact ⟨_, deliver_of_le (recipient_of_target ha) h.steady.mark_le⟩

/-- **A pending mode can take its turn**, unless its number has too many digits. -/
theorem Sound.turn_of_pending (h : Sound s) (hp : s.mode.isPending = true) :
    (∃ u, s.turn = .ok u) ∨ s.Unread ∧ s.turn = .error ⟨.tooManyDigits s.digitCount, s⟩ := by
  have hset : (∃ u, s.settle = .ok u) ∨
      s.Unread ∧ s.settle = .error ⟨.tooManyDigits s.digitCount, s⟩ := by
    unfold settle
    split
    · next hm =>
      cases hn : s.awaiting.literal.asNumber s.honourRadix with
      | error f =>
          obtain ⟨hb, hl, rfl⟩ := readNumber_eq_error hn
          refine .inr ⟨⟨hm, hb, hl⟩, ?_⟩
          unfold onGotNumber
          rw [hn]
          rfl
      | ok n =>
          unfold onGotNumber
          rw [hn]
          exact .inl (h.deliver_eq_ok (by rw [hm]; rfl) _ _)
    · next hm => exact .inl (h.deliver_eq_ok (by rw [hm]; rfl) _ _)
    · next hm =>
      have hmark := h.missing hm
      have hle : (s.tellLine "There is no parameter.").cursor.mark ≤
          (s.tellLine "There is no parameter.").cursor.pos - 2 + 1 := by
        show s.cursor.mark ≤ s.cursor.pos - 2 + 1
        omega
      unfold onNoNumber
      rw [goBack_of_le hle]
      exact .inl ⟨_, rfl⟩
    · exact .inl ⟨s, rfl⟩
  cases ha : s.cursor.atEnd with
  | true =>
      rw [turn_of_atEnd ha]
      rcases hset with ⟨u, hu⟩ | ⟨hun, hu⟩
      · exact .inl ⟨_, by rw [hu]; rfl⟩
      · exact .inr ⟨hun, by rw [hu]; rfl⟩
  | false =>
      obtain ⟨c, hc⟩ := h.steady.exists_char ha
      rw [turn_of_char ha hc, ← settle_eq_react hp c]
      rcases hset with ⟨u, hu⟩ | ⟨hun, hu⟩
      · exact .inl ⟨_, by rw [hu]; rfl⟩
      · exact .inr ⟨hun, by rw [hu]; rfl⟩

/-- What is searched for an open frame can be asked. -/
theorem Sound.lastOpenIndex_ok (h : Sound s) (f : Fault) :
    CueList.lastOpenIndex s.frames ≠ .error f := by
  intro hf
  generalize hfs : s.frames = fs at hf
  cases hfs ▸ h.framed with
  | closed hall =>
      rw [lastOpenIndex_closed hall] at hf
      cases hf
  | opened hall ho =>
      rw [lastOpenIndex_opened hall ho] at hf
      cases hf

/-- How a turn of a scan can fail: at a misreading, at a number that is not read, or at a time that
is not told, with its frame closed by then. -/
inductive Fails (s : Scanner) : Halt → Prop where
  | misread {m : Misreading} {u : Text} : Fails s ((s.tell u).misread m)
  | unread : s.Unread → Fails s ⟨.tooManyDigits s.digitCount, s⟩
  | untold {i : Nat} {d : Int} {ws : List Node} {u : Text} :
      s.mode = .letterK → CueList.lastOpenIndex s.frames = .ok (some i) →
      s.frames[i]? = some ⟨.keyFrame d false false, ws⟩ → isShort d = false →
      Fails s ⟨.tooLong, (s.closeFrame i).tell u⟩

/-- **A turn fails at a misreading or at a number that is too long only.** -/
theorem Sound.fails_of_turn {h : Halt} (hs : Sound s) (hd : s.isDone = false)
    (e : s.turn = .error h) : Fails s h := by
  have hsilent : s.tell [] = s := by simp [tell]
  obtain ⟨c, hc, -⟩ := stops_of_turn hs.steady hd e
  have hpending : s.mode.isPending = true → Fails s h := by
    intro hp
    rcases hs.turn_of_pending hp with ⟨u, hu⟩ | ⟨hun, hu⟩
    · rw [hu] at e
      cases e
    · rw [hu] at e
      cases e
      exact .unread hun
  have hmisread : ∀ m, Fails s (s.misread m) := by
    intro m
    have hm : Fails s ((s.tell []).misread m) := .misread
    rwa [hsilent] at hm
  cases hc with
  | frameEnd | frameStart => exact hmisread _
  | write | number | text => exact .misread
  | unread hm => exact hpending (by rw [hm]; rfl)
  | @untold i f u hm _ _ _ ho hf hlong =>
      obtain ⟨gs, g, hfs, rfl, -, hg⟩ := hs.framed.last_open ho
      rw [hfs, List.getElem?_concat_length] at hf
      obtain rfl := Option.some.inj hf
      cases hg with
      | @full d _ ws hd hws =>
          refine .untold hm ho (by rw [hfs, List.getElem?_concat_length]) ?_
          cases hshort : isShort d with
          | false => rfl
          | true =>
              obtain ⟨t, ht⟩ :=
                (closingCaptions_ok_iff (b := true) (.full hd hws)).mpr hshort _ hlong
              cases ht
  | odd hf => exact absurd hf (hs.lastOpenIndex_ok _)
  | rewound hp => exact hpending hp
  | lost hp => exact hpending hp

/-- The frame that takes a channel write is one that can have children. -/
theorem Sound.openFrame_keyFrame {i : Nat} (h : Sound s) (ho : s.openFrame = .ok i) :
    ∃ f, s.frames[i]? = some f ∧ f.cls = .keyFrame := by
  obtain ⟨gs, f, hfs, rfl, -, hf⟩ := h.framed.last_open (openFrame_eq_ok ho)
  refine ⟨f, by rw [hfs, List.getElem?_concat_length], ?_⟩
  cases hf
  rfl

/-- Between its turns every scan is sound. -/
theorem sound_of_mem_states {honourRadix : Bool} {a : Text} (hs : s ∈ states honourRadix a) :
    Sound s :=
  keep_states (fun _ _ hd e h => sound_turn h hd e) (sound_start honourRadix a) hs

/-- Between its turns a scan moves in the text it was given. -/
theorem chars_of_mem_states {honourRadix : Bool} {a : Text} (hs : s ∈ states honourRadix a) :
    s.cursor.chars = a.toArray :=
  keep_states (P := fun u => u.cursor.chars = a.toArray)
    (fun _ _ hd e h => (chars_turn hd e).trans h) rfl hs

/-- **A scan fails at a misreading or at a number that is too long only.**  Of any text, with
radices honoured or not: between its turns the cursor stands in the text and not before the mark, so
there is a character to read unless the text is at its end; a frame that is found open is a
keyframe, so a channel write can be added to it; every parameter that is collected has an element
for its target, and every number is made of digits of its base.  A parameter that is complete or
missing is settled in the next turn, unless it is a number of base ten with too many digits.  If the
scan succeeds the whole text has been read.  If it fails, it is at one of the three misreadings at
the cursor, or at such a number, or at a time that is too long to be told at the end of its frame.
-/
theorem scan_sound (honourRadix : Bool) (t : Text) :
    (∀ s ∈ states honourRadix t,
      (0 ≤ s.cursor.mark ∧ s.cursor.mark ≤ s.cursor.pos ∧ s.cursor.pos ≤ t.length) ∧
      (s.cursor.atEnd = false →
        ∃ c, s.cursor.read = .ok c ∧ t[s.cursor.pos.toNat]? = some c) ∧
      (s.mode.isPending = true → (∃ u, s.turn = .ok u) ∨
        s.Unread ∧ s.turn = .error ⟨.tooManyDigits s.digitCount, s⟩) ∧
      (s.mode.isParameter = true → s.Aimed) ∧
      (∀ f, CueList.lastOpenIndex s.frames ≠ .error f) ∧
      (∀ i, s.openFrame = .ok i → ∃ f, s.frames[i]? = some f ∧ f.cls = .keyFrame) ∧
      (literalDigits s.honourRadix s.awaiting.literal.text = [] ∧
          s.awaiting.literal.asNumber s.honourRadix = .ok 0 ∨
        literalDigits s.honourRadix s.awaiting.literal.text ≠ [] ∧
          strictValue? (literalBase s.honourRadix s.awaiting.literal.text)
              (literalDigits s.honourRadix s.awaiting.literal.text) =
            (s.awaiting.literal.asNumber s.honourRadix).toOption)) ∧
    (∀ s, scan honourRadix t = .ok s → s.cursor.pos = t.length) ∧
    ∀ h, scan honourRadix t = .error h →
      (∃ m : Misreading, h.fault = .misread m h.scanner.cursor.pos ∧
        m.message ∈ (["no open keyframe", "keyframe already open", "no document"] : List Text)) ∨
      (h.fault = .tooManyDigits h.scanner.digitCount ∧ h.scanner.Unread) ∨
      (h.fault = .tooLong ∧ h.scanner.Untold) := by
  refine ⟨fun s hs => ?_, fun s e => ?_, fun h e => ?_⟩
  · have h := sound_of_mem_states hs
    have hchars := chars_of_mem_states hs
    have hsize : s.cursor.chars.size = t.length := by rw [hchars, List.size_toArray]
    refine ⟨⟨h.steady.mark_nonneg, h.steady.mark_le, hsize ▸ h.steady.pos_le⟩, fun ha => ?_,
      h.turn_of_pending, h.aimed, h.lastOpenIndex_ok, fun i => h.openFrame_keyFrame,
      readNumber_cases s.honourRadix s.awaiting.literal.text⟩
    obtain ⟨c, hc⟩ := h.steady.exists_char ha
    refine ⟨c, Cursor.read_eq_ok_iff.mpr hc, ?_⟩
    rw [h.steady.char?_eq, hchars] at hc
    simpa using hc
  · obtain ⟨-, -, -, -, -, -, hp⟩ := scan_eq_ok e
    exact hp
  · obtain ⟨u, hu, hd, ht⟩ := last_of_scan_error e
    cases (sound_of_mem_states (List.mem_of_getLast? hu)).fails_of_turn hd ht with
    | @misread m => exact .inl ⟨m, rfl, m.message_mem⟩
    | unread hun => exact .inr (.inl ⟨rfl, hun⟩)
    | untold _ _ hf hlong => exact .inr (.inr ⟨rfl, _, _, _, frame_closeFrame hf, hlong⟩)

/-- One digit too many, and the scan fails at no misreading. -/
theorem scan_unread :
    ∃ h, scan true ("KF0D".toList ++ List.replicate 4301 '1' ++ ";".toList) = .error h ∧
      h.fault = .tooManyDigits 4301 ∧ ∀ m pos, h.fault ≠ .misread m pos := by
  obtain ⟨h, e, hf⟩ := Reading.scan_of_error (Reading.ofCompact_ones (n := 4301) (by decide) [])
  exact ⟨h, e, hf, fun m pos hm => nomatch hf.symm.trans hm⟩

end Scanner

end StageCues
