import StageCues.Proofs.Written.Reread

/-!
# Written — cue lists that are made by hand

A cue list that was not read can hold frames with any numbers (`HandFrame`).  All of them have a
written form, but not all of them are read back: a negative number is written with a sign, which is
no digit, and read as zero; a channel or a value out of range is cut; an empty frame is written
without its children and without saying that it is open; and behind a frame that is written open no
other can start (`taken_of_read`).  None of these losses makes up for another, since the frames that
are read back stand where they stood.  A time that is too long to be told at the end of its frame is
not read at all.  So the cue list comes back if and only if its frames are well-formed and can be
told (`survives_iff_wellFramed`).
-/

namespace StageCues

open Text

variable {b : Bool} {f w : Node} {fs : List Node}

/-! ### Frames that are the same when they are read back -/

theorem sameAll_nil_iff : Node.sameAll fs [] = true ↔ fs = [] := by
  cases fs with
  | nil => simp [Node.sameAll]
  | cons n ns => simp [Node.sameAll]

/-- A channel write that comes back is in range. -/
theorem IsRawWrite.isWrite_of_same (h : IsRawWrite w)
    (hs : w.same { w with kind := w.kind.taken } = true) : IsWrite w := by
  obtain @⟨c, v, k⟩ := h
  rw [Node.leaf, Node.same, Bool.and_eq_true] at hs
  have hk := hs.1
  simp only [Kind.taken, Kind.alike, Kind.forget, decide_eq_true_eq, Kind.channelData.injEq] at hk
  obtain ⟨hc, hv, -⟩ := hk
  refine .mk ?_ ?_ ?_ ?_ <;> omega

/-- **A frame comes back if and only if it is one with numbers in range**, and without children and
closed if it is empty. -/
theorem IsRawFrame.same_taken_iff (h : IsRawFrame f) :
    f.same f.taken = true ↔ ∃ b, IsFrame b f := by
  constructor
  · intro hs
    obtain @⟨d, e, b, ws, hws⟩ := h
    rw [Node.taken, Node.same, Bool.and_eq_true] at hs
    obtain ⟨hk, hcs⟩ := hs
    cases e with
    | true =>
        simp only [Kind.taken, Kind.alike, Kind.forget, decide_eq_true_eq, Kind.keyFrame.injEq,
          Bool.true_or, true_and] at hk
        obtain ⟨hd, rfl⟩ := hk
        obtain rfl := sameAll_nil_iff.mp hcs
        exact ⟨true, .empty (by omega)⟩
    | false =>
        simp only [Kind.taken, Kind.alike, Kind.forget, decide_eq_true_eq, Kind.keyFrame.injEq,
          Bool.false_or, and_true] at hk
        have hcs := sameAll_map_iff.mp hcs
        exact ⟨b, .full (by omega) fun w hw => (hws w hw).isWrite_of_same (hcs w hw)⟩
  · rintro ⟨b, hf⟩
    rw [hf.taken_eq]
    exact hf.same_reread

/-! ### Frames behind each other -/

/-- Well-formed frames by the position of the open one. -/
theorem wellFramed_iff :
    WellFramed fs ↔ (∀ f ∈ fs, ∃ b, IsFrame b f) ∧ ∀ f ∈ fs.dropLast, IsFrame true f := by
  constructor
  · intro h
    refine ⟨h.forall_isFrame, ?_⟩
    cases h with
    | closed hfs => exact fun f hf => hfs f ((List.dropLast_sublist fs).subset hf)
    | opened hfs hf =>
        rw [List.dropLast_concat]
        exact hfs
  · rintro ⟨hall, hfront⟩
    rcases List.eq_nil_or_concat fs with rfl | ⟨gs, g, rfl⟩
    · exact .closed nofun
    · rw [List.concat_eq_append] at hall hfront ⊢
      rw [List.dropLast_concat] at hfront
      obtain ⟨b, hg⟩ := hall g (by simp)
      cases b with
      | false => exact .opened hfront hg
      | true =>
          exact .closed (List.forall_mem_append.mpr ⟨hfront, List.forall_mem_singleton.mpr hg⟩)

namespace Forward

variable {r r' : Reading}

/-- Behind an open frame no written frame can be read. -/
theorem read_behind_open (honourRadix : Bool) (size : Nat) (t : Text) (hf : IsRawFrame f)
    {gs : List Node} {g : Node} (hgs : ∀ g ∈ gs, IsFrame true g) (hg : IsFrame false g)
    (hr : r.frames = gs ++ [g]) :
    ∃ e, read honourRadix size r (writtenFrame f ++ t) = .error e := by
  obtain @⟨d, e, b, ws, hws⟩ := hf
  obtain ⟨x, u, hx, htext⟩ : ∃ x u, (x = 'K' ∨ x = 'k') ∧
      writtenFrame ⟨.keyFrame d e b, ws⟩ ++ t = x :: 'F' :: u := by
    cases e with
    | true => exact ⟨'k', _, .inr rfl, by simp [writtenFrame]; rfl⟩
    | false => exact ⟨'K', _, .inl rfl, by simp [writtenFrame]; rfl⟩
  have hupper : x.toUpper = 'K' := by
    rcases hx with rfl | rfl <;> rfl
  rw [htext, read_letter hupper (by decide), token_frame hupper rfl, frame, hr,
    lastOpenIndex_opened hgs hg]
  rcases hx with rfl | rfl <;> exact ⟨_, rfl⟩

/-- **Written frames that can be read** are taken one by one, and all of them but the last are
closed then; what is told at their ends can be told. -/
theorem taken_of_read (honourRadix : Bool) (size : Nat) (hfs : ∀ f ∈ fs, IsRawFrame f)
    (hr : ∀ g ∈ r.frames, IsFrame true g)
    (h : read honourRadix size r (fs.flatMap writtenFrame) = .ok r') :
    r'.frames = r.frames ++ fs.map Node.taken ∧ (∀ f ∈ fs.dropLast, IsFrame true f.taken) ∧
      ∀ f ∈ fs, f.isTellable = true := by
  induction fs generalizing r with
  | nil =>
      rw [List.flatMap_nil, read_nil] at h
      obtain rfl := Except.ok.inj h
      exact ⟨(List.append_nil _).symm, nofun, nofun⟩
  | cons f fs ih =>
      obtain ⟨hf, hfs⟩ := List.forall_mem_cons.mp hfs
      obtain ⟨r₁, h₁, hfr, -⟩ :=
        read_rawFrame honourRadix size (fs.flatMap writtenFrame) hf hr
      rw [List.flatMap_cons, h₁] at h
      obtain ⟨htold, h⟩ := unlessFault_tooLong_eq_ok.mp h
      obtain ⟨b, hb⟩ := hf.isFrame_taken
      cases b with
      | true =>
          have hr₁ : ∀ g ∈ r₁.frames, IsFrame true g :=
            hfr ▸ List.forall_mem_append.mpr ⟨hr, List.forall_mem_singleton.mpr hb⟩
          obtain ⟨hframes, hfront, htolds⟩ := ih hfs hr₁ h
          refine ⟨by rw [hframes, hfr, List.append_assoc]; rfl, ?_,
            List.forall_mem_cons.mpr ⟨htold, htolds⟩⟩
          cases fs with
          | nil => nofun
          | cons g gs =>
              rw [List.dropLast_cons_cons, List.forall_mem_cons]
              exact ⟨hb, hfront⟩
      | false =>
          -- an open frame is the last one, because no other could be read behind it
          cases fs with
          | nil =>
              rw [List.flatMap_nil, read_nil] at h
              obtain rfl := Except.ok.inj h
              exact ⟨hfr, nofun, List.forall_mem_singleton.mpr htold⟩
          | cons g gs =>
              obtain ⟨e, he⟩ := read_behind_open honourRadix size (gs.flatMap writtenFrame)
                (hfs g List.mem_cons_self) hr hb hfr
              rw [List.flatMap_cons, he] at h
              cases h

end Forward

/-- **A cue list comes back if and only if its frames are well-formed and can be told.** -/
theorem survives_iff_wellFramed (honourRadix : Bool) (hfs : ∀ f ∈ fs, IsRawFrame f) :
    (∃ w r, (CueList.node fs).written = .ok w ∧ Reading.ofCompact honourRadix w = .ok r ∧
      (CueList.node fs).same r.cueList = true) ↔
    WellFramed fs ∧ ∀ f ∈ fs, f.isTellable = true := by
  constructor
  · rintro ⟨w, r, hw, hread, hsame⟩
    rw [written_rawNode hfs] at hw
    obtain rfl := Except.ok.inj hw
    rw [Reading.ofCompact_eq_outcome, Scanner.outcome_start] at hread
    obtain ⟨hframes, hfront, htold⟩ :=
      Forward.taken_of_read (r := .blank) honourRadix _ hfs nofun hread
    rw [Reading.cueList, hframes, CueList.node, CueList.node, Node.same, Bool.and_eq_true] at hsame
    have hback := sameAll_map_iff.mp hsame.2
    have hall : ∀ f ∈ fs, ∃ b, IsFrame b f := fun f hf => (hfs f hf).same_taken_iff.mp (hback f hf)
    refine ⟨wellFramed_iff.mpr ⟨hall, fun f hf => ?_⟩, htold⟩
    obtain ⟨b, hb⟩ := hall f ((List.dropLast_sublist fs).subset hf)
    have htaken := hfront f hf
    rw [hb.taken_eq] at htaken
    have hclosed : Except.ok b = Except.ok true := hb.closed_kind.symm.trans htaken.closed_kind
    exact Except.ok.inj hclosed ▸ hb
  · rintro ⟨h, htold⟩
    obtain ⟨r, hr, hframes⟩ := Reading.ofCompact_written h honourRadix
    rw [List.all_eq_true.mpr htold] at hr
    refine ⟨_, r, written_node h, hr, ?_⟩
    rw [Reading.cueList, hframes]
    exact same_reread h

/-! ### Cue lists by their numbers -/

/-- A channel write as it can be made by hand. -/
structure HandWrite where
  channel : Int
  value : Int
  received : Int

/-- A frame as it can be made by hand. -/
structure HandFrame where
  delay : Int
  empty : Bool
  closed : Bool
  writes : List HandWrite

/-- The channel write as a node. -/
def HandWrite.node (w : HandWrite) : Node := .leaf (.channelData w.channel w.value w.received)

/-- The frame as a node. -/
def HandFrame.node (f : HandFrame) : Node :=
  ⟨.keyFrame f.delay f.empty f.closed, f.writes.map HandWrite.node⟩

theorem HandFrame.isRaw (f : HandFrame) : IsRawFrame f.node := by
  refine .mk fun w hw => ?_
  obtain ⟨v, -, rfl⟩ := List.mem_map.mp hw
  exact .mk

theorem HandWrite.isWrite_iff (w : HandWrite) :
    IsWrite w.node ↔ 0 ≤ w.channel ∧ w.channel ≤ 65535 ∧ 0 ≤ w.value ∧ w.value ≤ 255 := by
  constructor
  · rintro ⟨hc, hc', hv, hv'⟩
    exact ⟨hc, hc', hv, hv'⟩
  · rintro ⟨hc, hc', hv, hv'⟩
    exact .mk hc hc' hv hv'

theorem HandFrame.isFrame_iff (f : HandFrame) :
    IsFrame b f.node ↔ f.closed = b ∧ (f.empty = true → f.closed = true ∧ f.writes = []) ∧
      0 ≤ f.delay ∧
      ∀ w ∈ f.writes, 0 ≤ w.channel ∧ w.channel ≤ 65535 ∧ 0 ≤ w.value ∧ w.value ≤ 255 := by
  obtain ⟨d, e, c, ws⟩ := f
  constructor
  · intro h
    obtain ⟨ns, hns⟩ : ∃ ns, ws.map HandWrite.node = ns := ⟨_, rfl⟩
    dsimp only [HandFrame.node] at h ⊢
    rw [hns] at h
    cases h with
    | empty hd =>
        obtain rfl := List.map_eq_nil_iff.mp hns
        exact ⟨rfl, fun _ => ⟨rfl, rfl⟩, hd, nofun⟩
    | full hd hws =>
        refine ⟨rfl, nofun, hd, fun w hw => w.isWrite_iff.mp (hws _ ?_)⟩
        exact hns ▸ List.mem_map_of_mem hw
  · dsimp only
    rintro ⟨rfl, hempty, hd, hws⟩
    cases e with
    | true =>
        obtain ⟨rfl, rfl⟩ := hempty rfl
        exact .empty hd
    | false =>
        refine .full hd fun w hw => ?_
        obtain ⟨v, hv, rfl⟩ := List.mem_map.mp hw
        exact v.isWrite_iff.mpr (hws v hv)

/-- A frame with a time that is not negative can be told if the time is short, or if it has no end
of its own. -/
theorem HandFrame.isTellable_iff {f : HandFrame} (h : 0 ≤ f.delay) : f.node.isTellable = true ↔
    (f.closed = true → f.empty = false → isShort f.delay = true) := by
  obtain ⟨d, e, c, ws⟩ := f
  cases e with
  | true => exact ⟨fun _ _ => nofun, fun _ => rfl⟩
  | false =>
      cases c with
      | false => exact ⟨fun _ => nofun, fun _ => rfl⟩
      | true =>
          show isShort d.toNat = true ↔ _
          rw [Int.toNat_of_nonneg h]
          exact ⟨fun hd _ _ => hd, fun hd => hd rfl rfl⟩

/-- **Exactly which cue lists come back.**  A cue list of frames with channel writes, with any
numbers, is read from its written form as the same cue list if and only if every frame but the last
is closed, an empty frame is closed and has no channel writes, no delay is negative, all channels
and values are in range, and the delay of a closed frame that is not empty is short enough to be
told. -/
theorem survives_iff (honourRadix : Bool) (fs : List HandFrame) :
    (∃ w r, (CueList.node (fs.map HandFrame.node)).written = .ok w ∧
      Reading.ofCompact honourRadix w = .ok r ∧
      (CueList.node (fs.map HandFrame.node)).same r.cueList = true) ↔
    (∀ f ∈ fs.dropLast, f.closed = true) ∧
      ∀ f ∈ fs, (f.empty = true → f.closed = true ∧ f.writes = []) ∧ 0 ≤ f.delay ∧
        (∀ w ∈ f.writes, 0 ≤ w.channel ∧ w.channel ≤ 65535 ∧ 0 ≤ w.value ∧ w.value ≤ 255) ∧
        (f.closed = true → f.empty = false → isShort f.delay = true) := by
  have hraw : ∀ f ∈ fs.map HandFrame.node, IsRawFrame f := by
    intro f hf
    obtain ⟨g, -, rfl⟩ := List.mem_map.mp hf
    exact g.isRaw
  rw [survives_iff_wellFramed honourRadix hraw, wellFramed_iff, ← List.map_dropLast]
  simp only [List.forall_mem_map, HandFrame.isFrame_iff]
  constructor
  · rintro ⟨⟨hall, hfront⟩, htold⟩
    refine ⟨fun f hf => (hfront f hf).1, fun f hf => ?_⟩
    obtain ⟨b, -, hempty, hd, hws⟩ := hall f hf
    exact ⟨hempty, hd, hws, (f.isTellable_iff hd).mp (htold f hf)⟩
  · rintro ⟨hfront, hall⟩
    have hframe : ∀ f ∈ fs, (f.empty = true → f.closed = true ∧ f.writes = []) ∧ 0 ≤ f.delay ∧
        ∀ w ∈ f.writes, 0 ≤ w.channel ∧ w.channel ≤ 65535 ∧ 0 ≤ w.value ∧ w.value ≤ 255 :=
      fun f hf => ⟨(hall f hf).1, (hall f hf).2.1, (hall f hf).2.2.1⟩
    refine ⟨⟨fun f hf => ⟨f.closed, rfl, hframe f hf⟩, fun f hf => ?_⟩, fun f hf => ?_⟩
    · exact ⟨hfront f hf, hframe f ((List.dropLast_sublist fs).subset hf)⟩
    · exact (f.isTellable_iff (hall f hf).2.1).mpr (hall f hf).2.2.2

/-- A closed frame with the first time that is too long has all of its numbers in range and does not
come back. -/
theorem not_survives_longFrame :
    (CueList.node [HandFrame.node ⟨10 ^ 4300, false, true, []⟩]).written =
      .ok ("KF".toList ++ numberLiteral (10 ^ 4300) ++ "kf".toList) ∧
    Reading.ofCompact true ("KF".toList ++ numberLiteral (10 ^ 4300) ++ "kf".toList) =
      .error .tooLong := by
  have hd : (0 : Int) ≤ 10 ^ 4300 := Int.pow_nonneg (by decide)
  exact ⟨written_bareFrame hd, Reading.ofCompact_bareFrame true hd isShort_pow⟩

end StageCues
