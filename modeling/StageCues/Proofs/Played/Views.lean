import Mathlib.Algebra.Ring.Nat
import Mathlib.Data.List.Basic
import StageCues.Proofs.Played.Levels
import StageCues.Proofs.Text.Lines
import StageCues.Proofs.Written.Reread

/-!
# Played — the views of a cue list

A cue list can be counted, summed up for a reader and played.  Counting searches for channel writes
at any depth; a summary has a line for each frame and a line for each channel write among its
children; playing sends the channel writes among the children.  On a cue list that was read all of
this comes to the same channel writes, in the same order (`Reading.views`), except that there is no
summary when the time of a frame is too long to be put down.

That is because frames have channel writes for their children, which have none themselves, so that
nothing is deeper down and no other child is passed over.  Of a tree in general it is not so.

`shownWrite?` reads the channel and the value from a line of a summary.
-/

namespace StageCues

open Text

/-- The channel and the value that a line of a summary shows, if it is one of a channel write. -/
def shownWrite? : Text → Option (Int × Int)
  | 'C' :: 'h' :: ' ' :: t =>
    match t.dropWhile (· ≠ ':') with
    | ':' :: ' ' :: v => do
      let channel ← decimal? (t.takeWhile (· ≠ ':'))
      let value ← decimal? v
      return (channel, value)
    | _ => none
  | _ => none

/-- Whether a node is no frame, or one with a time that is short enough to be shown. -/
def Node.hasShortTime (f : Node) : Bool :=
  match f.kind with
  | .keyFrame time _ _ => isShort time
  | _ => true

/-- Every view of the frames comes to these channel writes. -/
structure CueList.Views (frames : List Node) (ws : List (Int × Int)) : Prop where
  /-- They are those that are found at any depth. -/
  found : ((node frames).descendantsOf .channelData).map Node.channelWrite? = ws.map some
  counted : writeCount frames = ws.length
  /-- No frame has any other child. -/
  children : (frames.map fun f => f.children.length).sum = ws.length
  /-- If the times of all frames can be shown, there is a summary, which has a line for each of
  them, beside the lines of the frames. -/
  shown : (∀ f ∈ frames, f.hasShortTime = true) → ∃ t, summary frames = .ok t ∧
    (Text.lines t).length = frames.length + ws.length ∧ (Text.lines t).filterMap shownWrite? = ws
  /-- If not, this is why there is none. -/
  unshown : (∃ f ∈ frames, f.hasShortTime = false) → summary frames = .error .tooLong
  /-- An output that keeps what it is sent is sent them. -/
  recorded : Output.recorder.play frames [] = .ok (ws, ws.length)
  /-- Any output is sent them one after the other, as long as it takes them. -/
  played : ∀ {σ : Type} (o : Output σ) (s : σ),
    o.play frames s = (fun t => (t, ws.length)) <$> ws.foldlM (fun s w => o.setChannel s w.1 w.2) s

variable {b : Bool} {d : Int} {f w : Node} {fs ws : List Node} {t : Text}

/-! ### Lines of a summary -/

theorem shownWrite?_writeLine {channel value : Int} (hc : isShort channel = true)
    (hv : isShort value = true) :
    shownWrite? ("Ch " ++ decimal channel ++ ": " ++ decimal value) = some (channel, value) := by
  obtain ⟨htake, hdrop⟩ :=
    takeWhile_append_cons (not_mem_decimal (.inr rfl) channel) (' ' :: decimal value)
  have htext : (("Ch " : Text) ++ decimal channel ++ ": " ++ decimal value) =
      'C' :: 'h' :: ' ' :: (decimal channel ++ ':' :: ' ' :: decimal value) := by
    simp
  rw [htext, shownWrite?, htake, hdrop]
  simp only [decimal?_decimal hc, decimal?_decimal hv]
  rfl

/-- A text that stands on a line of its own. -/
def IsLine (t : Text) : Prop := t ≠ [] ∧ '\n' ∉ t

/-- Lines that are there stand in front of the others. -/
theorem mapM_lines (us : List Text) (lines : List (Except Fault Text)) :
    (us.map Except.ok ++ lines).mapM id = (us ++ ·) <$> lines.mapM id := by
  induction us with
  | nil => exact (id_map _).symm
  | cons u us ih =>
      rw [List.map_cons, List.cons_append, List.mapM_cons, ih]
      cases lines.mapM id <;> rfl

/-- The line of a channel write shows it. -/
theorem IsWrite.exists_line (h : IsWrite w) :
    ∃ t, w.caption = .ok t ∧ IsLine t ∧ shownWrite? t = w.channelWrite? := by
  obtain @⟨channel, value, k, hc, hc', hv, hv'⟩ := h
  have hc : isShort channel = true := isShort_of_le_word (by omega)
  have hv : isShort value = true := isShort_of_le_word (by omega)
  refine ⟨_, caption_write k hc hv, ?_, shownWrite?_writeLine hc hv⟩
  have hchannel := not_mem_decimal (.inl rfl) channel
  have hvalue := not_mem_decimal (.inl rfl) value
  simp [IsLine, hchannel, hvalue]

/-- What a frame is called tells its time, if that can be put down. -/
theorem IsFrame.caption_eq (h : IsFrame b f) :
    ∃ d, f.hasShortTime = isShort d ∧
      f.caption = (do return "KeyFrame lasts for " ++ (← worded d) ++ " ms.") := by
  cases h <;> exact ⟨_, rfl, rfl⟩

/-- The line of a frame with a short time shows no channel write. -/
theorem IsFrame.exists_line (h : IsFrame b f) (hd : f.hasShortTime = true) (count : Nat) :
    ∃ t, (fun caption => CueList.frameLine caption count) <$> f.caption = .ok t ∧ IsLine t ∧
      shownWrite? t = none := by
  obtain ⟨d, hshort, hcaption⟩ := h.caption_eq
  rw [hcaption, worded_of_isShort (hshort.symm.trans hd)]
  have hcount := not_mem_decimal (.inl rfl) count
  have htime := not_mem_decimal (.inl rfl) d
  refine ⟨_, rfl, ?_, rfl⟩
  simp [IsLine, CueList.frameLine, htime, hcount]

/-- A frame with a time that is too long has no line. -/
theorem IsFrame.not_line (h : IsFrame b f) (hd : f.hasShortTime = false) :
    f.caption = .error .tooLong := by
  obtain ⟨d, hshort, hcaption⟩ := h.caption_eq
  rw [hcaption, worded_of_not_isShort (hshort.symm.trans hd)]
  rfl

/-- The lines of channel writes show them in order. -/
theorem exists_writeLines (h : ∀ w ∈ ws, IsWrite w) :
    ∃ us : List Text, ws.map Node.caption = us.map .ok ∧ (∀ u ∈ us, IsLine u) ∧
      us.filterMap shownWrite? = ws.filterMap Node.channelWrite? := by
  induction ws with
  | nil => exact ⟨[], rfl, nofun, rfl⟩
  | cons w ws ih =>
      obtain ⟨hw, hws⟩ := List.forall_mem_cons.mp h
      obtain ⟨u, hu, hline, hshown⟩ := hw.exists_line
      obtain ⟨us, hus, hlines, hshowns⟩ := ih hws
      refine ⟨u :: us, ?_, List.forall_mem_cons.mpr ⟨hline, hlines⟩, ?_⟩
      · rw [List.map_cons, List.map_cons, hu, hus]
      · rw [List.filterMap_cons, List.filterMap_cons, hshown, hshowns]

/-! ### Frames and their writes -/

theorem IsFrame.isWrite_of_mem (h : IsFrame b f) (hw : w ∈ f.children) : IsWrite w := by
  cases h with
  | empty => cases hw
  | full _ hws => exact hws w hw

/-- Channel writes have nothing below them. -/
theorem family_eq_self (h : ∀ w ∈ ws, IsWrite w) : Node.family ws = ws := by
  induction ws with
  | nil => rfl
  | cons w ws ih =>
      have hw : w.descendants = [] := by cases h w List.mem_cons_self; rfl
      rw [Node.family, hw, ih fun x hx => h x (List.mem_cons_of_mem w hx)]
      rfl

/-- So what is below a frame are its children. -/
theorem IsFrame.descendants_eq (h : IsFrame b f) : f.descendants = f.children := by
  obtain ⟨k, cs⟩ := f
  exact family_eq_self fun w hw => h.isWrite_of_mem hw

theorem IsFrame.cls_eq (h : IsFrame b f) : f.cls.isA .channelData = false := by
  cases h <;> rfl

namespace CueList

section

variable (h : ∀ f ∈ fs, ∃ b, IsFrame b f)

include h

/-- A search at any depth finds the children of the frames. -/
theorem descendantsOf_eq : (node fs).descendantsOf .channelData = writeNodes fs := by
  show (Node.family fs).filter (fun m => m.cls.isA .channelData) = writeNodes fs
  induction fs with
  | nil => rfl
  | cons f fs ih =>
      obtain ⟨b, hf⟩ := h f List.mem_cons_self
      have hrest := ih fun g hg => h g (List.mem_cons_of_mem f hg)
      rw [Node.family, List.cons_append, List.filter_cons, hf.cls_eq, if_neg Bool.false_ne_true,
        List.filter_append, hrest, hf.descendants_eq]
      rfl

/-- No child of a frame is anything else. -/
theorem sum_children : (fs.map fun f => f.children.length).sum = (writeNodes fs).length := by
  have hchildren : ∀ f ∈ fs, f.children.length = (f.childrenOf .channelData).length := by
    intro f hf
    obtain ⟨b, hb⟩ := h f hf
    rw [hb.childrenOf_eq]
  rw [writeNodes, List.length_flatMap, List.map_congr_left hchildren]

/-- **The lines of a summary** are there if the times of all frames are short; those of the channel
writes show them, and those of the frames show none. -/
theorem exists_summaryLines (hshort : ∀ f ∈ fs, f.hasShortTime = true) :
    ∃ ts : List Text, summaryLines fs = ts.map .ok ∧ (∀ t ∈ ts, IsLine t) ∧
      ts.filterMap shownWrite? = writes fs := by
  induction fs with
  | nil => exact ⟨[], rfl, nofun, rfl⟩
  | cons f fs ih =>
      obtain ⟨⟨b, hf⟩, hfs⟩ := List.forall_mem_cons.mp h
      obtain ⟨hd, hds⟩ := List.forall_mem_cons.mp hshort
      obtain ⟨t, ht, hline, hnone⟩ := hf.exists_line hd f.children.length
      obtain ⟨us, hus, huline, hushown⟩ := exists_writeLines fun w hw => hf.isWrite_of_mem hw
      obtain ⟨ts, hts, htline, htshown⟩ := ih hfs hds
      refine ⟨t :: us ++ ts, ?_, ?_, ?_⟩
      · rw [summaryLines, List.flatMap_cons, ht, hf.childrenOf_eq, hus, List.map_append,
          List.map_cons, ← hts]
        rfl
      · exact List.forall_mem_append.mpr ⟨List.forall_mem_cons.mpr ⟨hline, huline⟩, htline⟩
      · rw [List.filterMap_append, List.filterMap_cons_none hnone, hushown, htshown]
        rfl

/-- If the time of a frame is too long, that is the first line which is not there. -/
theorem mapM_summaryLines_error (hlong : ∃ f ∈ fs, f.hasShortTime = false) :
    (summaryLines fs).mapM id = .error .tooLong := by
  induction fs with
  | nil => exact absurd hlong (by simp)
  | cons f fs ih =>
      obtain ⟨⟨b, hf⟩, hfs⟩ := List.forall_mem_cons.mp h
      rw [summaryLines, List.flatMap_cons]
      cases hd : f.hasShortTime with
      | false =>
          rw [hf.not_line hd]
          rfl
      | true =>
          obtain ⟨t, ht, -⟩ := hf.exists_line hd f.children.length
          obtain ⟨us, hus, -⟩ := exists_writeLines fun w hw => hf.isWrite_of_mem hw
          have hlong : ∃ g ∈ fs, g.hasShortTime = false := by
            obtain ⟨g, hg, hlong⟩ := hlong
            rcases List.mem_cons.mp hg with rfl | hg
            · exact absurd hlong (by simp [hd])
            · exact ⟨g, hg, hlong⟩
          have hrest : (summaryLines fs).mapM id = .error .tooLong := ih hfs hlong
          rw [ht, hf.childrenOf_eq, hus, ← List.map_cons, mapM_lines]
          exact congrArg _ hrest

end

theorem length_summaryLines (fs : List Node) :
    (summaryLines fs).length = fs.length + (writes fs).length := by
  rw [← length_writeNodes]
  induction fs with
  | nil => rfl
  | cons f fs ih =>
      simp only [summaryLines, writeNodes, List.flatMap_cons, List.length_append,
        List.length_cons, List.length_map] at ih ⊢
      omega

end CueList

/-! ### Playing -/

namespace Output

variable {σ : Type}

/-- Writes are sent one after the other until one fails. -/
theorem send_eq_foldlM (o : Output σ) (s : σ) (ws : List (Int × Int)) :
    o.send s ws = ws.foldlM (fun s w => o.setChannel s w.1 w.2) s := by
  induction ws generalizing s with
  | nil => rfl
  | cons w ws ih =>
      rw [send, List.foldlM_cons]
      cases o.setChannel s w.1 w.2 with
      | error f => rfl
      | ok t => exact ih t

theorem play_eq (o : Output σ) (frames : List Node) (s : σ) :
    o.play frames s = (fun t => (t, (CueList.writes frames).length)) <$>
      (CueList.writes frames).foldlM (fun s w => o.setChannel s w.1 w.2) s := by
  rw [play, send_eq_foldlM]
  cases (CueList.writes frames).foldlM (fun s w => o.setChannel s w.1 w.2) s <;> rfl

theorem send_recorder (sent ws : List (Int × Int)) : recorder.send sent ws = .ok (sent ++ ws) := by
  induction ws generalizing sent with
  | nil => rw [List.append_nil]; rfl
  | cons w ws ih =>
      have hstep : recorder.send sent (w :: ws) = recorder.send (sent ++ [w]) ws := rfl
      rw [hstep, ih, List.append_assoc]
      rfl

end Output

/-! ### The views -/

theorem CueList.views_writes (h : ∀ f ∈ fs, ∃ b, IsFrame b f) : Views fs (writes fs) where
  found := by rw [descendantsOf_eq h, map_channelWrite?_writeNodes]
  counted := by rw [writeCount, descendantsOf_eq h, length_writeNodes]
  children := by rw [sum_children h, length_writeNodes]
  shown hshort := by
    obtain ⟨ts, hts, hlines, hshown⟩ := exists_summaryLines h hshort
    refine ⟨joinWith "\n" ts, ?_, ?_, ?_⟩
    · rw [summary, hts, ← List.append_nil (ts.map _), mapM_lines]
      exact congrArg (fun us => Except.ok (joinWith "\n" us)) (List.append_nil ts)
    · rw [lines_joinWith hlines, ← length_summaryLines, hts, List.length_map]
    · rw [lines_joinWith hlines, hshown]
  unshown hlong := by
    rw [summary, mapM_summaryLines_error h hlong]
    rfl
  recorded := by rw [Output.play, Output.send_recorder]; rfl
  played o s := o.play_eq fs s

/-- **All views of a cue list that was read agree.**  Whatever is read from a text, finished or not,
its channel writes are found at any depth and sent to an output in one and the same order, each with
the same channel and the same value; and there are as many as are counted, as the frames have
children and as are played.  The summary shows the same ones, if there is one: there is none exactly
if the time of a frame is too long to be put down. -/
theorem Reading.views {honourRadix : Bool} {t : Text} {r : Reading}
    (h : ofCompact honourRadix t = .ok r) : ∃ ws, CueList.Views r.frames ws :=
  ⟨CueList.writes r.frames, CueList.views_writes (Reading.wellFramed h).forall_isFrame⟩

/-- The second write lacks its value, the third one stands in a frame without a time and its
parameters are broken off by the end of the text. -/
theorem Reading.views_unfinished :
    ∃ r, ofCompact true "KF0D10;BP0H01;0H1E;BP0B11;Z;kfkF0H14;KFBP0H2;0" = .ok r ∧
      (∀ f ∈ r.frames, f.hasShortTime = true) ∧
      CueList.Views r.frames [(1, 30), (3, 0), (2, 0)] := by
  obtain ⟨r, hr, hshort, hplayed⟩ :
      ∃ r, ofCompact true "KF0D10;BP0H01;0H1E;BP0B11;Z;kfkF0H14;KFBP0H2;0" = .ok r ∧
        (∀ f ∈ r.frames, f.hasShortTime = true) ∧
        Output.recorder.play r.frames [] = .ok ([(1, 30), (3, 0), (2, 0)], 3) :=
    ⟨_, rfl, by decide, rfl⟩
  obtain ⟨ws, h⟩ := views hr
  obtain ⟨rfl, -⟩ := Prod.mk.inj (Except.ok.inj (h.recorded.symm.trans hplayed))
  exact ⟨r, hr, hshort, h⟩

/-- An empty frame with the first time that is too long can be read, and has no summary. -/
theorem Reading.views_longFrame :
    ∃ r, ofCompact true ("kF".toList ++ numberLiteral (10 ^ 4300)) = .ok r ∧
      CueList.summary r.frames = .error .tooLong := by
  have hempty : ∀ d : Int, 0 ≤ d → isShort d = false →
      ∃ r, ofCompact true ("kF".toList ++ numberLiteral d) = .ok r ∧
        CueList.summary r.frames = .error .tooLong := by
    intro d hd h
    have hwell : WellFramed [⟨.keyFrame d true true, []⟩] :=
      .closed (List.forall_mem_singleton.mpr (.empty hd))
    obtain ⟨r, hr, hframes⟩ := ofCompact_written hwell true
    have htext : [Node.mk (.keyFrame d true true) []].flatMap writtenFrame =
        "kF".toList ++ numberLiteral d := by
      simp [writtenFrame]
    rw [htext] at hr
    refine ⟨r, hr, ?_⟩
    rw [hframes]
    exact (CueList.views_writes hwell.reread.forall_isFrame).unshown
      ⟨_, List.mem_singleton_self _, h⟩
  exact hempty _ (Int.pow_nonneg (by decide)) isShort_pow

end StageCues
