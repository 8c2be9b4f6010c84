import StageCues.Proofs.Written.Heads

/-!
# Written — a document with a cue list behind it

A show is put down as the written form of its document and that of its cue list, one behind the
other with nothing between them.  Neither part tells where it ends: how much of the head is written
depends on the head, and the number or text at its end is handed over only when the character behind
is read, which then starts the first frame.

Still the parts do not run into each other.  A document that can be written is read as that document
in front of anything (`Forward.passes_document`), and well-formed frames are read as these frames
behind anything that leaves no frame open (`Forward.read_frames`), if their ends can be told.  So
the two together are read as both (`Forward.read_show`), and a show that was made by hand comes back
unless the time of a frame is too long (`Reading.ofCompact_show`).
-/

namespace StageCues

open Text

variable {d e : Document} {fs : List Node}

/-- It does not matter which of two documents is compared with the other. -/
theorem Document.same_symm (h : d.same e = true) : e.same d = true := by
  have hpart : ∀ {a b : Option Node}, DocumentOf.samePart Node.same a b = true →
      DocumentOf.samePart Node.same b a = true := by
    intro a b hab
    cases a with
    | none =>
        cases b with
        | none => rfl
        | some m => cases hab
    | some n =>
        cases b with
        | none => cases hab
        | some m => exact Node.same_symm n m hab
  rw [Document.same, DocumentOf.sameBy, Bool.and_eq_true] at h ⊢
  exact ⟨hpart h.1, hpart h.2⟩

/-- **A written document with written frames behind it is read as both**, behind closed frames and
in front of anything, if the ends of all frames can be told. -/
theorem Forward.read_show (honourRadix : Bool) (size : Nat) (t : Text) {r : Reading}
    (hb : d.body = none) (hq : ∀ h, d.head = some h → IsQuotable h) (hfs : WellFramed fs)
    (hr : ∀ g ∈ r.frames, IsFrame true g) :
    ∃ r', read honourRadix size r ("X!" ++ d.writtenHead ++ fs.flatMap writtenFrame ++ t) =
        unlessFault (tooLongUnless (fs.all Node.isTellable)) (read honourRadix size r' t) ∧
      r'.frames = r.frames ++ fs.map Node.reread ∧ r'.document = some d.reread ∧
      r'.iterations = r.iterations := by
  have hpasses : Passes honourRadix size r ("X!" ++ d.writtenHead) d.reread :=
    passes_document r hb hq
  obtain ⟨r₁, h₁, hfr₁, hdoc₁, hit₁⟩ := hpasses
  -- the document adds no frame, so that behind it the frames are still closed
  have hr₁ : ∀ g ∈ r₁.frames, IsFrame true g := hfr₁ ▸ hr
  obtain ⟨r₂, h₂, hfr₂, hdoc₂, hit₂⟩ := read_frames honourRadix size t hfs hr₁
  refine ⟨r₂, ?_, ?_, hdoc₂.trans hdoc₁, hit₂.trans hit₁⟩
  · rw [List.append_assoc, h₁, h₂]
  · rw [hfr₂, hfr₁]

namespace Reading

/-- The written form of a document with that of frames behind it is read as both, if the ends of all
frames can be told. -/
theorem ofCompact_written_show (hb : d.body = none) (hq : ∀ h, d.head = some h → IsQuotable h)
    (hfs : WellFramed fs) (honourRadix : Bool) :
    ∃ r, ofCompact honourRadix ("X!" ++ d.writtenHead ++ fs.flatMap writtenFrame) =
        unlessFault (tooLongUnless (fs.all Node.isTellable)) (.ok r) ∧
      r.frames = fs.map Node.reread ∧ r.document = some d.reread ∧ r.iterations = [] := by
  obtain ⟨r, hread, hframes, hd, hloops⟩ := Forward.read_show (r := .blank) honourRadix
    ("X!" ++ d.writtenHead ++ fs.flatMap writtenFrame).length [] hb hq hfs nofun
  exact ⟨r, ofCompact_unless hread, hframes, hd, hloops⟩

/-- **Which shows that were made by hand come back.**  Let a document have no body, and no head or
one with quotable texts and with numbers that are not negative, and let all frames of a cue list be
closed ones with numbers in range.  Then both have a written form.  If the times of all frames that
are not empty are short enough to be told, the one behind the other is read, with radices honoured
or not, as the same document and the same cue list, with nothing else; and if one of them is not,
that is why nothing is read. -/
theorem ofCompact_show (hb : d.body = none) (hq : ∀ h, d.head = some h → IsQuotable h)
    (hfs : ∀ f ∈ fs, IsFrame true f) :
    ∃ w u, d.written = .ok w ∧ (CueList.node fs).written = .ok u ∧
      ∀ honourRadix : Bool,
        ((∀ f ∈ fs, f.isTellable = true) →
          ∃ r e, ofCompact honourRadix (w ++ u) = .ok r ∧
            r.document = some e ∧ d.same e = true ∧ e.same d = true ∧
            (CueList.node fs).same r.cueList = true ∧ r.cueList.same (CueList.node fs) = true ∧
            r.iterations = []) ∧
        ((∃ f ∈ fs, f.isTellable = false) →
          ofCompact honourRadix (w ++ u) = .error .tooLong) := by
  have hwell : WellFramed fs := .closed hfs
  have hdoc : d.written = .ok ("X!" ++ d.writtenHead) :=
    Document.written_eq hb fun h hh => (hq h hh).written
  refine ⟨_, _, hdoc, written_node hwell, fun honourRadix => ?_⟩
  obtain ⟨r, hread, hframes, hd, hloops⟩ := ofCompact_written_show hb hq hwell honourRadix
  constructor
  · intro htold
    have hback : d.same d.reread = true := Document.same_reread hb hq
    have hsame : (CueList.node fs).same r.cueList = true := by
      rw [cueList, hframes]
      exact StageCues.same_reread hwell
    rw [List.all_eq_true.mpr htold] at hread
    exact ⟨r, d.reread, hread, hd, hback, Document.same_symm hback, hsame,
      Node.same_symm _ _ hsame, hloops⟩
  · intro hlong
    have htold : fs.all Node.isTellable = false := by simpa using hlong
    rw [hread, htold]
    rfl

/-- The title has an empty frame between double quotes and ends on a semicolon, and the empty path
stands right before an empty frame. -/
theorem ofCompact_show_quoted :
    ∃ r e, ofCompact true "X!X+\"\"kF\";\";\"\";kF0H14;KF0H3E8;BP0HFFFF;0HFF;kf" = .ok r ∧
      r.document = some e ∧
      Document.same ⟨some (.leaf (.linkedHead (.other 0) "\"kF\";" "" false)), none⟩ e = true ∧
      (CueList.node [⟨.keyFrame 20 true true, []⟩,
        ⟨.keyFrame 1000 false true, [.leaf (.channelData 65535 255 0)]⟩]).same r.cueList =
          true := by
  have hframes : ∀ f ∈ [Node.mk (.keyFrame 20 true true) [],
      ⟨.keyFrame 1000 false true, [.leaf (.channelData 65535 255 0)]⟩], IsFrame true f := by
    refine List.forall_mem_cons.mpr ⟨.empty (by decide), List.forall_mem_singleton.mpr ?_⟩
    exact .full (by decide) (List.forall_mem_singleton.mpr
      (.mk (by decide) (by decide) (by decide) (by decide)))
  have hhead : IsQuotable (.leaf (.linkedHead (.other 0) "\"kF\";" "" false)) :=
    .linked (by decide) rfl rfl
  obtain ⟨w, u, hw, hu, hread⟩ := ofCompact_show (d := ⟨some _, none⟩) rfl
    (fun h hh => Option.some.inj hh ▸ hhead) hframes
  obtain rfl : ("X!X+\"\"kF\";\";\"\";" : Text) = w := Except.ok.inj hw
  obtain rfl : ("kF0H14;KF0H3E8;BP0HFFFF;0HFF;kf" : Text) = u := Except.ok.inj hu
  obtain ⟨r, e, hr, he, hsame, -, hlist, -⟩ := (hread true).1 (by decide)
  exact ⟨r, e, hr, he, hsame, hlist⟩

/-- A document without a head and a closed frame with the first time that is too long have a written
form, and nothing is read of the two. -/
theorem ofCompact_show_longFrame :
    Document.blank.written = .ok "X!" ∧
    (CueList.node [⟨.keyFrame (10 ^ 4300) false true, []⟩]).written =
      .ok ("KF".toList ++ numberLiteral (10 ^ 4300) ++ "kf".toList) ∧
    ∀ honourRadix : Bool, ofCompact honourRadix
      ("X!".toList ++ ("KF".toList ++ numberLiteral (10 ^ 4300) ++ "kf".toList)) =
        .error .tooLong := by
  have hd : (0 : Int) ≤ 10 ^ 4300 := Int.pow_nonneg (by decide)
  refine ⟨rfl, written_bareFrame hd, fun honourRadix => ?_⟩
  obtain ⟨r, hread, -⟩ :=
    ofCompact_written_show (d := .blank) rfl nofun (wellFramed_bareFrame hd) honourRadix
  rw [isTellable_bareFrame hd isShort_pow, flatMap_bareFrame] at hread
  exact hread

end Reading

end StageCues
