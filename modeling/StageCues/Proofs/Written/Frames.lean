import StageCues.Proofs.Built.Frames
import StageCues.Proofs.Source.Layout
import StageCues.Proofs.Text.Numeral

/-!
# Written — frames

The written form of well-formed frames is one frame after the other, without blanks and double
quotes, so that nothing is dropped from it as source text (`compact_flatMap_writtenFrame`).

`Node.reread` is the frame as it is read back; only the memory of the writes differs, which neither
the comparison nor the written form looks at.

A frame that was made by hand can have any numbers, and children although it is empty
(`IsRawFrame`).  It has a written form as well, of which more is lost: `Node.taken` is the frame
that is read back then.
-/

namespace StageCues

open Text

/-- The written form of a channel write. -/
def writtenWrite (w : Node) : Text :=
  match w.kind with
  | .channelData channel value _ => "BP" ++ numberLiteral channel ++ numberLiteral value
  | _ => []

/-- The written form of a frame of channel writes. -/
def writtenFrame (f : Node) : Text :=
  match f.kind with
  | .keyFrame time true _ => "kF" ++ numberLiteral time
  | .keyFrame time false closed =>
    "KF" ++ numberLiteral time ++ f.children.flatMap writtenWrite ++ textIf closed "kf"
  | _ => []

/-- The kind as it is read back: a channel write has received both of its numbers. -/
def Kind.reread : Kind → Kind
  | .channelData channel value _ => .channelData channel value 2
  | k => k

/-- The frame as it is read back. -/
def Node.reread (f : Node) : Node :=
  { f with children := f.children.map fun w => { w with kind := w.kind.reread } }

/-- A channel write with any numbers. -/
inductive IsRawWrite : Node → Prop where
  | mk {c v k : Int} : IsRawWrite (.leaf (.channelData c v k))

/-- A frame of channel writes, with any numbers. -/
inductive IsRawFrame : Node → Prop where
  | mk {d : Int} {e b : Bool} {ws : List Node} :
      (∀ w ∈ ws, IsRawWrite w) → IsRawFrame ⟨.keyFrame d e b, ws⟩

/-- The kind that is read from the written form: a negative number is zero, the numbers of a channel
write are cut to its range, and an empty frame is closed. -/
def Kind.taken : Kind → Kind
  | .channelData channel value _ => .channelData (channel.toNat % 65536) (value.toNat % 256) 2
  | .keyFrame time empty closed => .keyFrame time.toNat empty (empty || closed)
  | k => k

/-- The frame that is read from the written form: an empty one without children. -/
def Node.taken (f : Node) : Node where
  kind := f.kind.taken
  children :=
    if f.kind.hidesChildren then [] else f.children.map fun w => { w with kind := w.kind.taken }

variable {b : Bool} {f w : Node} {fs : List Node}

theorem IsWrite.isRaw (h : IsWrite w) : IsRawWrite w := by
  cases h
  exact .mk

theorem IsFrame.isRaw (h : IsFrame b f) : IsRawFrame f := by
  cases h with
  | empty => exact .mk nofun
  | full _ hws => exact .mk fun w hw => (hws w hw).isRaw

/-! ### The written form -/

theorem IsRawWrite.written_eq (h : IsRawWrite w) : w.written = .ok (writtenWrite w) := by
  cases h
  rfl

/-- Nodes with a written form are written one after the other. -/
theorem writtenAll_eq_flatMap {g : Node → Text} (h : ∀ n ∈ fs, n.written = .ok (g n)) :
    Node.writtenAll fs = .ok (fs.flatMap g) := by
  induction fs with
  | nil => rfl
  | cons n ns ih =>
      rw [Node.writtenAll, h n List.mem_cons_self, ih fun m hm => h m (List.mem_cons_of_mem n hm)]
      rfl

theorem IsRawFrame.written_eq (h : IsRawFrame f) : f.written = .ok (writtenFrame f) := by
  obtain @⟨d, e, b, ws, hws⟩ := h
  cases e with
  | true => rfl
  | false =>
      have hall := writtenAll_eq_flatMap fun w hw => (hws w hw).written_eq
      show Node.writtenAll ws >>= _ = _
      rw [hall]
      rfl

/-- **Frames have a written form.** -/
theorem written_rawNode (h : ∀ f ∈ fs, IsRawFrame f) :
    (CueList.node fs).written = .ok (fs.flatMap writtenFrame) := by
  have hall : Node.writtenAll fs = .ok (fs.flatMap writtenFrame) :=
    writtenAll_eq_flatMap fun f hf => (h f hf).written_eq
  show Node.writtenAll fs >>= _ = _
  rw [hall]
  rfl

/-- Well-formed frames among them. -/
theorem written_node (h : WellFramed fs) :
    (CueList.node fs).written = .ok (fs.flatMap writtenFrame) :=
  written_rawNode fun f hf => (h.forall_isFrame f hf).elim fun _ hf => hf.isRaw

/-! ### A closed frame without channel writes -/

theorem flatMap_bareFrame (d : Int) :
    [Node.mk (.keyFrame d false true) []].flatMap writtenFrame =
      "KF".toList ++ numberLiteral d ++ "kf".toList := by
  simp [writtenFrame, textIf]

theorem wellFramed_bareFrame {d : Int} (hd : 0 ≤ d) :
    WellFramed [⟨.keyFrame d false true, []⟩] :=
  .closed (List.forall_mem_singleton.mpr (.full hd nofun))

theorem written_bareFrame {d : Int} (hd : 0 ≤ d) :
    (CueList.node [⟨.keyFrame d false true, []⟩]).written =
      .ok ("KF".toList ++ numberLiteral d ++ "kf".toList) := by
  rw [written_node (wellFramed_bareFrame hd), flatMap_bareFrame]

/-! ### The frames as they are read back -/

/-- What is taken of a channel write is in range. -/
theorem IsRawWrite.isWrite_taken (h : IsRawWrite w) :
    IsWrite { w with kind := w.kind.taken } := by
  cases h
  refine .mk ?_ ?_ ?_ ?_ <;> omega

/-- What is taken of a frame is one with numbers in range. -/
theorem IsRawFrame.isFrame_taken (h : IsRawFrame f) : ∃ b, IsFrame b f.taken := by
  obtain @⟨d, e, b, ws, hws⟩ := h
  cases e with
  | true => exact ⟨true, .empty (Int.natCast_nonneg _)⟩
  | false =>
      refine ⟨b, .full (Int.natCast_nonneg _) fun w hw => ?_⟩
      obtain ⟨v, hv, rfl⟩ := List.mem_map.mp hw
      exact (hws v hv).isWrite_taken

theorem IsWrite.taken_kind (h : IsWrite w) : w.kind.taken = w.kind.reread := by
  obtain @⟨c, v, k, hc, hc', hv, hv'⟩ := h
  show Kind.channelData _ _ 2 = .channelData _ _ 2
  congr 1 <;> omega

/-- Nothing is lost of a frame with numbers in range. -/
theorem IsFrame.taken_eq (h : IsFrame b f) : f.taken = f.reread := by
  cases h with
  | empty hd =>
      show Node.mk (.keyFrame _ true true) [] = .mk (.keyFrame _ true true) []
      rw [Int.toNat_of_nonneg hd]
  | @full d b ws hd hws =>
      show Node.mk (.keyFrame _ false b) _ = .mk (.keyFrame _ false b) _
      rw [Int.toNat_of_nonneg hd]
      congr 1
      exact List.map_congr_left fun w hw => by rw [(hws w hw).taken_kind]

/-- A channel write that was read back is written as before. -/
theorem writtenWrite_reread (w : Node) :
    writtenWrite { w with kind := w.kind.reread } = writtenWrite w := by
  obtain ⟨k, cs⟩ := w
  cases k <;> rfl

/-- So is a frame. -/
theorem writtenFrame_reread (f : Node) : writtenFrame f.reread = writtenFrame f := by
  unfold writtenFrame Node.reread
  simp only [List.flatMap_map, writtenWrite_reread]

theorem IsWrite.reread (h : IsWrite w) : IsWrite { w with kind := w.kind.reread } := by
  obtain ⟨hc, hc', hv, hv'⟩ := h
  exact .mk hc hc' hv hv'

theorem IsFrame.reread (h : IsFrame b f) : IsFrame b f.reread := by
  cases h with
  | empty hd => exact .empty hd
  | full hd hws =>
      refine .full hd ?_
      intro w hw
      obtain ⟨v, hv, rfl⟩ := List.mem_map.mp hw
      exact (hws v hv).reread

theorem WellFramed.reread (h : WellFramed fs) : WellFramed (fs.map Node.reread) := by
  have hmap : ∀ {gs : List Node}, (∀ g ∈ gs, IsFrame true g) →
      ∀ g ∈ gs.map Node.reread, IsFrame true g := by
    intro gs hgs g hg
    obtain ⟨f, hf, rfl⟩ := List.mem_map.mp hg
    exact (hgs f hf).reread
  cases h with
  | closed hfs => exact .closed (hmap hfs)
  | opened hfs hf =>
      rw [List.map_append]
      exact .opened (hmap hfs) hf.reread

mutual

/-- Every node is the same as itself. -/
theorem Node.same_refl : ∀ n : Node, n.same n = true
  | ⟨k, cs⟩ => by
      rw [Node.same, Bool.and_eq_true]
      exact ⟨Kind.alike_refl k, sameAll_refl cs⟩

/-- And every list of nodes. -/
theorem Node.sameAll_refl : ∀ ns : List Node, Node.sameAll ns ns = true
  | [] => rfl
  | n :: ns => by
      rw [Node.sameAll, Bool.and_eq_true]
      exact ⟨same_refl n, sameAll_refl ns⟩

end

mutual

/-- It does not matter which of two nodes is compared with the other. -/
theorem Node.same_symm : ∀ n m : Node, n.same m = true → m.same n = true
  | ⟨k, cs⟩, ⟨l, ds⟩, h => by
      rw [Node.same, Bool.and_eq_true] at h ⊢
      exact ⟨Kind.alike_symm h.1, sameAll_symm cs ds h.2⟩

/-- Nor does it for lists of nodes. -/
theorem Node.sameAll_symm : ∀ ns ms : List Node, Node.sameAll ns ms = true →
    Node.sameAll ms ns = true
  | [], [], _ => rfl
  | n :: ns, m :: ms, h => by
      rw [Node.sameAll, Bool.and_eq_true] at h ⊢
      exact ⟨same_symm n m h.1, sameAll_symm ns ms h.2⟩

end

/-- Lists of nodes are the same as what they are mapped to if their nodes are. -/
theorem sameAll_map_iff {g : Node → Node} :
    Node.sameAll fs (fs.map g) = true ↔ ∀ n ∈ fs, n.same (g n) = true := by
  induction fs with
  | nil => simp [Node.sameAll]
  | cons n ns ih => rw [List.map_cons, Node.sameAll, Bool.and_eq_true, ih, List.forall_mem_cons]

theorem IsWrite.same_reread (h : IsWrite w) : w.same { w with kind := w.kind.reread } = true := by
  cases h
  simp [Node.same, Node.sameAll, Node.leaf, Kind.reread, Kind.alike, Kind.forget]

theorem IsFrame.same_reread (h : IsFrame b f) : f.same f.reread = true := by
  cases h with
  | empty => simp [Node.same, Node.sameAll, Node.reread, Kind.alike]
  | full _ hws =>
      have hall := sameAll_map_iff.mpr fun w hw => (hws w hw).same_reread
      simp only [Node.reread, Node.same, hall, Kind.alike_refl, Bool.and_self]

/-- **Well-formed frames are the same when they are read back.** -/
theorem same_reread (h : WellFramed fs) :
    (CueList.node fs).same (CueList.node (fs.map Node.reread)) = true := by
  have hall := sameAll_map_iff.mpr fun f hf =>
    (h.forall_isFrame f hf).elim fun _ hf => hf.same_reread
  simp only [CueList.node, Node.same, hall, Kind.alike_refl, Bool.and_self]

/-! ### Nothing is dropped from the written form -/

theorem solid_numberLiteral {n : Int} (hn : 0 ≤ n) : (numberLiteral n).all isSolid = true := by
  obtain ⟨n, rfl⟩ := Int.eq_ofNat_of_zero_le hn
  have hdigits : (paddedHex n).all isSolid = true := List.all_eq_true.mpr fun c hc => by
    obtain ⟨-, -, hq, hb⟩ := hexDigit_facts (isDigitOf_of_mem_paddedHex hc)
    simp [isSolid, hq, hb]
  unfold numberLiteral
  rw [List.all_append, List.all_append, hdigits]
  rfl

theorem IsWrite.solid (h : IsWrite w) : (writtenWrite w).all isSolid = true := by
  obtain ⟨hc, -, hv, -⟩ := h
  show (("BP" : Text) ++ numberLiteral _ ++ numberLiteral _).all isSolid = true
  rw [List.all_append, List.all_append, solid_numberLiteral hc, solid_numberLiteral hv]
  rfl

theorem IsFrame.solid (h : IsFrame b f) : (writtenFrame f).all isSolid = true := by
  cases h with
  | @empty d hd =>
      show (("kF" : Text) ++ numberLiteral d).all isSolid = true
      rw [List.all_append, solid_numberLiteral hd]
      rfl
  | @full d b ws hd hws =>
      have hall : (ws.flatMap writtenWrite).all isSolid = true := by
        rw [List.all_flatMap, List.all_eq_true]
        exact fun w hw => (hws w hw).solid
      show (("KF" : Text) ++ numberLiteral d ++ ws.flatMap writtenWrite ++
        textIf b "kf").all isSolid = true
      rw [List.all_append, List.all_append, List.all_append, solid_numberLiteral hd, hall]
      cases b <;> rfl

/-- **The written form of well-formed frames is source text of which nothing is dropped.** -/
theorem compact_flatMap_writtenFrame (h : WellFramed fs) :
    compact (fs.flatMap writtenFrame) = fs.flatMap writtenFrame := by
  refine compact_of_solid ?_
  rw [List.all_flatMap, List.all_eq_true]
  intro f hf
  obtain ⟨b, hb⟩ := h.forall_isFrame f hf
  exact hb.solid

end StageCues
