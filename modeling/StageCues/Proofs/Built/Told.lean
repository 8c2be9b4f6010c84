import StageCues.Proofs.Scan.Sound

/-!
# Built — frames that have been told

The end of a frame is told with its time, so a scan does not get past a frame whose time is too long
to be put down.  No frame is given a time after its end: a number is for the frame that was just
started, which is open or empty, or for no frame at all.  So what a scan has built can be told again
(`Reading.isTellable`).

Of an empty frame nothing is told, whatever its time is.
-/

namespace StageCues

open Text

/-- Whether a node of the kind is a frame that has come to an end of its own. -/
def Kind.isEnded : Kind → Bool
  | .keyFrame _ false true => true
  | _ => false

/-- Whether a node is no frame with an end, or one with a time that is short enough to be told
there.  A negative time is told as zero when it has been written and read. -/
def Node.isTellable (f : Node) : Bool :=
  match f.kind with
  | .keyFrame time false true => isShort time.toNat
  | _ => true

theorem Node.isTellable_of_not_isEnded {f : Node} (h : f.kind.isEnded = false) :
    f.isTellable = true := by
  unfold Node.isTellable
  split
  · next hk =>
    rw [hk] at h
    cases h
  · rfl

theorem Kind.isEnded_receive (k : Kind) (p : Parameter) : (k.receive p).isEnded = k.isEnded := by
  cases p with
  | number n =>
      cases k with
      | keyFrame d e b => cases e <;> cases b <;> rfl
      | predefinedHead v i t b => cases b <;> rfl
      | _ => rfl
  | text t =>
      cases k with
      | predefinedHead v i t b => cases b <;> rfl
      | linkedHead v t p b => cases b <;> rfl
      | _ => rfl

namespace Scanner

/-- The frames that have come to an end can be told, and none of them awaits a number. -/
structure Told (s : Scanner) : Prop where
  frames : ∀ f ∈ s.frames, f.isTellable = true
  target : s.mode.isParameter = true → ∀ i f, s.awaiting.target = some (.frame i) →
    s.frames[i]? = some f → f.kind.isEnded = false

theorem told_start (honourRadix : Bool) (t : Text) : Told (start honourRadix t) := ⟨nofun, nofun⟩

variable {s t : Scanner} {c : Char}

theorem Told.congr (h : Told s) (hf : t.frames = s.frames)
    (ht : t.awaiting.target = s.awaiting.target)
    (hm : t.mode.isParameter = true → s.mode.isParameter = true) : Told t where
  frames := hf ▸ h.frames
  target hp i f := by
    rw [hf, ht]
    exact h.target (hm hp) i f

/-- A number is given to no frame that has come to an end. -/
theorem told_settles (h : Told s) (hs : Sound s) (ht : Settles s t) : Told t := by
  cases ht with
  | cancel => exact ⟨h.frames, nofun⟩
  | @deliver q m a hq ha =>
      have hp := (isParameter_of_complete hq).1
      obtain ⟨b, n, htarget, -, -⟩ := hs.aimed hp
      rw [recipient_of_target htarget] at ha
      obtain rfl := Except.ok.inj ha
      have htarget' : ∀ i, s.awaiting.delivered.target = some (.frame i) →
          s.awaiting.target = some (.frame i) := by
        intro i hi
        unfold Awaiting.delivered at hi
        dsimp only at hi
        split at hi
        · exact hi
        · cases hi
      cases b with
      | frame i =>
          have hnot := fun f hf => h.target hp i f htarget hf
          refine ⟨forall_mem_modify_at h.frames fun f hf => ?_, fun _ j f hj hf => ?_⟩
          · refine Node.isTellable_of_not_isEnded ?_
            rw [← hnot f hf]
            exact f.kind.isEnded_receive q
          · obtain rfl : i = j := by
              have := htarget.symm.trans (htarget' j hj)
              cases this
              rfl
            have hf : (s.frames.modify i fun f => f.receive q)[i]? = some f := hf
            rw [List.getElem?_modify_eq] at hf
            obtain ⟨g, hg, rfl⟩ := Option.map_eq_some_iff.mp hf
            rw [← hnot g hg]
            exact g.kind.isEnded_receive q
      | write i j =>
          refine ⟨?_, fun _ k f hk _ => absurd (htarget.symm.trans (htarget' k hk)) nofun⟩
          refine forall_mem_modify (P := fun f : Node => f.isTellable = true) h.frames ?_ i
          exact fun _ hf => hf
      | head =>
          refine ⟨h.frames, fun _ k f hk _ => ?_⟩
          exact absurd (htarget.symm.trans (htarget' k hk)) nofun

/-- **A frame comes to its end only if it can be told.** -/
theorem told_move (h : Told s) (hs : Sound s) (hm : Move s c t) : Told t := by
  have hmark : s.markStart.frames = s.frames := by
    unfold markStart
    split <;> rfl
  cases hm with
  | quiet hl => exact ⟨h.frames, fun hp => absurd hp (by simp [isParameter_of_leads hl])⟩
  | iteration | document => exact ⟨h.frames, nofun⟩
  | @addFrame empty u l _ _ =>
      have hnew : (Node.leaf (.newKeyFrame 0 empty)).kind.isEnded = false := by
        cases empty <;> rfl
      refine ⟨List.forall_mem_append.mpr ⟨h.frames, List.forall_mem_singleton.mpr
        (Node.isTellable_of_not_isEnded hnew)⟩, fun _ i f hi hf => ?_⟩
      obtain rfl : s.frames.length = i := by
        cases hi
        rfl
      have hf : (s.frames ++ [Node.leaf (.newKeyFrame 0 empty)])[s.frames.length]? = some f := hf
      rw [List.getElem?_concat_length] at hf
      obtain rfl := Option.some.inj hf
      exact hnew
  | @endFrame i u _ ho hshown =>
      refine ⟨forall_mem_modify_at h.frames fun f hf => ?_, nofun⟩
      obtain ⟨gs, g, hfs, rfl, -, hg⟩ := hs.framed.last_open ho
      rw [hfs, List.getElem?_concat_length] at hf
      obtain rfl := Option.some.inj hf
      have hg' := hg.close
      cases hg with
      | @full d _ ws hd hws =>
          have hshort : isShort d = true := (closingCaptions_ok_iff hg').mp
            (hshown _ (by rw [hfs, List.getElem?_concat_length]))
          show isShort d.toNat = true
          rwa [Int.toNat_of_nonneg hd]
  | addWrite =>
      refine ⟨?_, fun _ k f hk _ => nomatch hk⟩
      refine forall_mem_modify (P := fun f : Node => f.isTellable = true) h.frames ?_ _
      exact fun _ hf => hf
  | head => exact ⟨h.frames, fun _ k f hk _ => nomatch hk⟩
  | gather hw =>
      refine h.congr hmark ?_ fun _ => isParameter_of_waits hw
      show s.markStart.awaiting.target = _
      rw [markStart_awaiting]
  | finish _ hw =>
      refine h.congr hmark ?_ fun _ => isParameter_of_waits hw
      show s.markStart.awaiting.target = _
      rw [markStart_awaiting]
  | settle ht => exact told_settles h hs ht

/-- So it is after each turn. -/
theorem told_turn (h : Told s) (hs : Sound s) (hd : s.isDone = false) (e : s.turn = .ok t) :
    Told t := by
  rcases turn_cases hd e with ⟨-, c, u, -, hm, rfl⟩ | ⟨-, -, u, ht, rfl⟩
  · exact (told_move h hs hm).congr rfl rfl id
  · exact (told_settles h hs ht).congr rfl rfl id

end Scanner

/-- **Every frame that is read from any text can be told again.** -/
theorem Reading.isTellable {honourRadix : Bool} {t : Text} {r : Reading}
    (h : ofCompact honourRadix t = .ok r) : ∀ f ∈ r.frames, f.isTellable = true := by
  unfold ofCompact at h
  cases e : Scanner.scan honourRadix t with
  | error k => rw [e] at h; cases h
  | ok s =>
      rw [e] at h
      obtain rfl := Except.ok.inj h
      obtain ⟨u, hu, -, rfl⟩ := Scanner.last_of_scan_ok e
      have htold : Scanner.Sound u ∧ Scanner.Told u :=
        Scanner.keep_states (P := fun u => Scanner.Sound u ∧ Scanner.Told u)
          (fun _ _ hd e h => ⟨Scanner.sound_turn h.1 hd e, Scanner.told_turn h.2 h.1 hd e⟩)
          ⟨Scanner.sound_start honourRadix t, Scanner.told_start honourRadix t⟩
          (List.mem_of_getLast? hu)
      exact htold.2.frames

end StageCues
