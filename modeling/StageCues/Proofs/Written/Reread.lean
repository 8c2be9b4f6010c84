import StageCues.Proofs.Built.Told
import StageCues.Proofs.Written.Frames

/-!
# Written — frames are read back

Written channel writes and written frames are spelt ones.  So the forward reader takes the written
form of a frame as that frame (`read_writtenFrame`), or as what is taken of it if its numbers are
out of range (`read_rawFrame`), whatever was read before and whatever stands behind, unless its time
is too long to be told at its end.  The written form of well-formed frames is read as these frames
(`read_frames`); what is told on the way is left open.  Every text that can be read makes
well-formed frames with times that can be told: reading, writing and reading again comes back to the
same cue list.
-/

namespace StageCues

open Text

/-- The reading `r'` is `r` with other frames, and possibly more told. -/
structure Reading.Framed (r : Reading) (fs : List Node) (r' : Reading) : Prop where
  frames : r'.frames = fs
  document : r'.document = r.document
  iterations : r'.iterations = r.iterations

/-! ### Written frames are spelt -/

namespace Spelt

/-- The literal of a written number. -/
def Number.written (d : Int) : Number where
  rest := 'H' :: paddedHex d
  whole := by
    intro h
    rcases List.mem_cons.mp h with h | h
    · exact absurd h (by decide)
    · exact not_mem_paddedHex d h

theorem Number.text_written (d : Int) : (written d).text = numberLiteral d := by
  simp [text, literal, written, numberLiteral]

/-- Any written number is taken as a number, and a negative one as zero. -/
theorem Number.value_written (honourRadix : Bool) (d : Int) :
    (written d).value honourRadix = d.toNat :=
  congrArg Nat.cast (numberValue_written honourRadix d)

/-- A written number is never too long to be read. -/
@[simp] theorem Number.fault?_written (honourRadix : Bool) (d : Int) :
    (written d).fault? honourRadix = none := by
  have hread : readNumber honourRadix (written d).literal = .ok d.toNat :=
    readNumber_written honourRadix d
  unfold fault?
  rw [hread]

/-- A written channel write. -/
def Write.written (channel value : Int) : Write where
  b := 'B'
  p := 'P'
  isB := rfl
  isP := rfl
  channel := .written channel
  level := .written value

theorem Write.text_written (c v k : Int) :
    (written c v).text = writtenWrite (.leaf (.channelData c v k)) := by
  simp [text, written, Number.text_written, writtenWrite, Node.leaf]

theorem Write.node_written (honourRadix : Bool) (c v : Int) :
    (written c v).node honourRadix = .leaf (.channelData (c.toNat % 65536) (v.toNat % 256) 2) := by
  simp only [node, channelNumber, levelNumber, written, Number.value_written]

theorem Write.fault?_written (honourRadix : Bool) (c v : Int) :
    (written c v).fault? honourRadix = none := by
  simp [fault?, written]

end Spelt

/-- Written channel writes are spelt, and what is taken of them is what is meant. -/
theorem spelt_writes {ws : List Node} (hws : ∀ w ∈ ws, IsRawWrite w) :
    ∃ vs : List Spelt.Write, vs.flatMap Spelt.Write.text = ws.flatMap writtenWrite ∧
      ∀ honourRadix : Bool, vs.findSome? (Spelt.Write.fault? honourRadix) = none ∧
        vs.map (Spelt.Write.node honourRadix) =
          ws.map fun w => { w with kind := w.kind.taken } := by
  induction ws with
  | nil => exact ⟨[], rfl, fun _ => ⟨rfl, rfl⟩⟩
  | cons w ws ih =>
      obtain ⟨vs, htext, hnode⟩ := ih fun v hv => hws v (List.mem_cons_of_mem w hv)
      obtain @⟨c, v, k⟩ := hws w List.mem_cons_self
      refine ⟨.written c v :: vs, ?_, fun honourRadix => ⟨?_, ?_⟩⟩
      · rw [List.flatMap_cons, List.flatMap_cons, htext, Spelt.Write.text_written]
      · rw [List.findSome?_cons, Spelt.Write.fault?_written]
        exact (hnode honourRadix).1
      · rw [List.map_cons, List.map_cons, (hnode honourRadix).2, Spelt.Write.node_written]
        rfl

namespace Forward

variable {b : Bool} {r : Reading} {f : Node} {fs : List Node}

/-! ### Frames -/

section

variable (honourRadix : Bool) (size : Nat) (t : Text)

/-- **A written frame is read as a frame**, with what is taken of it, if its end can be told. -/
theorem read_rawFrame (hf : IsRawFrame f) (hfs : ∀ g ∈ r.frames, IsFrame true g) :
    ∃ r', read honourRadix size r (writtenFrame f ++ t) =
        unlessFault (tooLongUnless f.isTellable) (read honourRadix size r' t) ∧
      r.Framed (r.frames ++ [f.taken]) r' := by
  obtain @⟨d, e, b, ws, hws⟩ := hf
  cases e with
  | true =>
      have htext : writtenFrame ⟨.keyFrame d true b, ws⟩ ++ t =
          'k' :: 'F' :: ((Spelt.Number.written d).text ++ t) := by
        simp [writtenFrame, Spelt.Number.text_written]
      rw [htext, read_start hfs rfl rfl (.inr rfl), Spelt.Number.fault?_written,
        Spelt.Number.value_written]
      exact ⟨_, rfl, rfl, rfl, rfl⟩
  | false =>
      obtain ⟨vs, htexts, hnodes⟩ := spelt_writes hws
      have htext : writtenFrame ⟨.keyFrame d false b, ws⟩ ++ t = 'K' :: 'F' ::
          ((Spelt.Number.written d).text ++
            (vs.flatMap Spelt.Write.text ++ (textIf b "kf" ++ t))) := by
        simp [writtenFrame, Spelt.Number.text_written, htexts]
      have hstart : IsFrame false ⟨.keyFrame d.toNat false false, []⟩ :=
        .full (Int.natCast_nonneg _) fun _ hw => absurd hw List.not_mem_nil
      obtain ⟨hfault, hnodes⟩ := hnodes honourRadix
      rw [htext, read_start hfs rfl rfl (.inl rfl), Spelt.Number.fault?_written, unlessFault_none,
        Spelt.Number.value_written, read_writes hfs hstart rfl, hfault, unlessFault_none, hnodes,
        Reading.go_go]
      cases b with
      | false => exact ⟨_, rfl, rfl, rfl, rfl⟩
      | true =>
          -- a closed frame is written as an open one with its end behind it
          have hwrites :
              ∀ w ∈ [] ++ ws.map fun w => { w with kind := w.kind.taken }, IsWrite w := by
            intro w hw
            obtain ⟨v, hv, rfl⟩ := List.mem_map.mp hw
            exact (hws v hv).isWrite_taken
          obtain ⟨us, hus⟩ := exists_captions hwrites
          have hopen : IsFrame false ⟨.keyFrame d.toNat false false,
              [] ++ ws.map fun w => { w with kind := w.kind.taken }⟩ :=
            .full (Int.natCast_nonneg _) hwrites
          exact ⟨_, read_end hfs hopen rfl hus t, rfl, rfl, rfl⟩

/-- **A written frame with numbers in range is read as that frame**, if its end can be told. -/
theorem read_writtenFrame (hf : IsFrame b f) (hfs : ∀ g ∈ r.frames, IsFrame true g) :
    ∃ r', read honourRadix size r (writtenFrame f ++ t) =
        unlessFault (tooLongUnless f.isTellable) (read honourRadix size r' t) ∧
      r.Framed (r.frames ++ [f.reread]) r' := by
  rw [← hf.taken_eq]
  exact read_rawFrame honourRadix size t hf.isRaw hfs

/-- Written closed frames are read one after the other. -/
theorem read_closed (hfs : ∀ f ∈ fs, IsFrame true f) (hr : ∀ g ∈ r.frames, IsFrame true g) :
    ∃ r', read honourRadix size r (fs.flatMap writtenFrame ++ t) =
        unlessFault (tooLongUnless (fs.all Node.isTellable)) (read honourRadix size r' t) ∧
      r.Framed (r.frames ++ fs.map Node.reread) r' := by
  induction fs generalizing r with
  | nil => exact ⟨r, rfl, (List.append_nil _).symm, rfl, rfl⟩
  | cons f fs ih =>
      have hf := hfs f List.mem_cons_self
      obtain ⟨r₁, h₁, hfr₁, hdoc₁, hit₁⟩ :=
        read_writtenFrame honourRadix size (fs.flatMap writtenFrame ++ t) hf hr
      have hr₁ : ∀ g ∈ r₁.frames, IsFrame true g :=
        hfr₁ ▸ List.forall_mem_append.mpr ⟨hr, List.forall_mem_singleton.mpr hf.reread⟩
      obtain ⟨r₂, h₂, hfr₂, hdoc₂, hit₂⟩ :=
        ih (fun g hg => hfs g (List.mem_cons_of_mem f hg)) hr₁
      refine ⟨r₂, ?_, ?_, hdoc₂.trans hdoc₁, hit₂.trans hit₁⟩
      · rw [List.flatMap_cons, List.append_assoc, h₁, h₂, List.all_cons, tooLongUnless_and,
          unlessFault_or]
      · rw [hfr₂, hfr₁, List.map_cons, List.append_assoc]
        rfl

/-- **Written frames are read as these frames**, behind closed ones and in front of anything, if the
ends of all can be told. -/
theorem read_frames (hfs : WellFramed fs) (hr : ∀ g ∈ r.frames, IsFrame true g) :
    ∃ r', read honourRadix size r (fs.flatMap writtenFrame ++ t) =
        unlessFault (tooLongUnless (fs.all Node.isTellable)) (read honourRadix size r' t) ∧
      r.Framed (r.frames ++ fs.map Node.reread) r' := by
  cases hfs with
  | closed hfs => exact read_closed honourRadix size t hfs hr
  | @opened gs f hgs hf =>
      obtain ⟨r₁, h₁, hfr₁, hdoc₁, hit₁⟩ :=
        read_closed honourRadix size (writtenFrame f ++ t) hgs hr
      have hr₁ : ∀ g ∈ r₁.frames, IsFrame true g :=
        hfr₁ ▸ List.forall_mem_append.mpr
          ⟨hr, List.forall_mem_map.mpr fun h hh => (hgs h hh).reread⟩
      obtain ⟨r₂, h₂, hfr₂, hdoc₂, hit₂⟩ := read_writtenFrame honourRadix size t hf hr₁
      refine ⟨r₂, ?_, ?_, hdoc₂.trans hdoc₁, hit₂.trans hit₁⟩
      · rw [List.flatMap_append, List.append_assoc, List.flatMap_singleton, h₁, h₂,
          List.all_append, tooLongUnless_and, unlessFault_or, List.all_cons, List.all_nil,
          Bool.and_true]
      · rw [hfr₂, hfr₁, List.map_append, List.append_assoc]
        rfl

end

end Forward

/-- The end of a frame with a time that is too long cannot be told. -/
theorem isTellable_bareFrame {d : Int} (hd : 0 ≤ d) (h : isShort d = false) :
    [Node.mk (.keyFrame d false true) []].all Node.isTellable = false := by
  have hf : (Node.mk (.keyFrame d false true) []).isTellable = isShort d.toNat := rfl
  rw [List.all_cons, List.all_nil, Bool.and_true, hf, Int.toNat_of_nonneg hd, h]

namespace Reading

/-- The written form of well-formed frames is read as these frames, if the ends of all can be
told. -/
theorem ofCompact_written {fs : List Node} (h : WellFramed fs) (honourRadix : Bool) :
    ∃ r, ofCompact honourRadix (fs.flatMap writtenFrame) =
        unlessFault (tooLongUnless (fs.all Node.isTellable)) (.ok r) ∧
      r.frames = fs.map Node.reread := by
  obtain ⟨r, hr, hfr, -, -⟩ :=
    Forward.read_frames (r := .blank) honourRadix (fs.flatMap writtenFrame).length [] h nofun
  exact ⟨r, ofCompact_unless hr, hfr⟩

/-- A closed frame with a time that is too long to be told cannot be read, although its number can.
-/
theorem ofCompact_bareFrame (honourRadix : Bool) {d : Int} (hd : 0 ≤ d)
    (h : isShort d = false) :
    ofCompact honourRadix ("KF".toList ++ numberLiteral d ++ "kf".toList) = .error .tooLong := by
  obtain ⟨r, hr, -⟩ := ofCompact_written (wellFramed_bareFrame hd) honourRadix
  rw [isTellable_bareFrame hd h, flatMap_bareFrame] at hr
  exact hr

/-- **Reading, writing and reading again.**  The cue list of any text that can be read has a written
form; of that nothing is dropped as source text, and it is read again, with radices honoured or
not, as the same cue list, which has the same written form. -/
theorem written_cueList {honourRadix : Bool} {t : Text} {r : Reading}
    (h : ofCompact honourRadix t = .ok r) :
    ∃ w, r.cueList.written = .ok w ∧ compact w = w ∧
      ∀ again : Bool, ∃ r', ofCompact again w = .ok r' ∧ ofSource again w = .ok r' ∧
        r.cueList.same r'.cueList = true ∧ r'.cueList.same r.cueList = true ∧
        r'.cueList.written = .ok w := by
  have hfs := wellFramed h
  have hcompact := compact_flatMap_writtenFrame hfs
  have htold : r.frames.all Node.isTellable = true := List.all_eq_true.mpr (isTellable h)
  refine ⟨_, written_node hfs, hcompact, fun again => ?_⟩
  obtain ⟨r', hr', hfr⟩ := ofCompact_written hfs again
  rw [htold] at hr'
  change ofCompact again _ = .ok r' at hr'
  have hsource : ofSource again (r.frames.flatMap writtenFrame) = .ok r' := by
    unfold ofSource
    rw [hcompact, hr']
  have hsame : r.cueList.same r'.cueList = true := by
    unfold cueList
    rw [hfr]
    exact same_reread hfs
  refine ⟨r', hr', hsource, hsame, Node.same_symm _ _ hsame, ?_⟩
  unfold cueList
  rw [hfr, written_node hfs.reread, List.flatMap_map]
  simp only [writtenFrame_reread]

/-- A frame that stays open, with a time in base ten and a write without its value, comes back. -/
theorem written_cueList_open :
    ∃ r, ofCompact true "KF0D10;BP0H1;" = .ok r ∧
      r.cueList.written = .ok "KF0H0A;BP0H01;0H00;" ∧
      compact "KF0H0A;BP0H01;0H00;" = "KF0H0A;BP0H01;0H00;" ∧
      ∀ again : Bool, ∃ r', ofCompact again "KF0H0A;BP0H01;0H00;" = .ok r' ∧
        ofSource again "KF0H0A;BP0H01;0H00;" = .ok r' ∧
        r.cueList.same r'.cueList = true ∧ r'.cueList.same r.cueList = true ∧
        r'.cueList.written = .ok "KF0H0A;BP0H01;0H00;" := by
  obtain ⟨r, h, hw⟩ : ∃ r, ofCompact true "KF0D10;BP0H1;" = .ok r ∧
      r.cueList.written = .ok "KF0H0A;BP0H01;0H00;" :=
    ⟨⟨[⟨.keyFrame 10 false false, [.leaf (.channelData 1 0 1)]⟩], none, [],
      "\nNEW KeyFrame!\n\nLoading channel data..."⟩, rfl, rfl⟩
  obtain ⟨w, hw', hrest⟩ := written_cueList h
  rw [hw] at hw'
  obtain rfl := Except.ok.inj hw'
  exact ⟨r, h, hw, hrest⟩

end Reading

end StageCues
