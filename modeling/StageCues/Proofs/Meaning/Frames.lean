import StageCues.Proofs.Built.Frames
import StageCues.Proofs.Forward.Agreement
import StageCues.Proofs.Text.Likeness

/-!
# Meaning — frames

What a text says that is spelt frame by frame, each with its time and its channel writes.

* `Spelt.Frame` is a frame as it is spelt: its marks in the letter cases they can have, and the
  literals of its numbers, of which nothing is asked but the zero in front and no semicolon inside.
  The literals can hold whatever looks like a token, and a marker of any radix or of none.
* `Spelt.Frame.node` and `Spelt.Frame.told` are the frame that is meant and what is told of it;
  `Spelt.Frame.fault?` is why it is not read, if a number of it goes beyond the limit of base ten.
* A number, the start of a frame, a write in the open frame and the end of a frame are each read as
  what they are, whatever was read before and whatever stands behind (`read_start`, `read_writes`,
  `read_end`).  So frames are read one after the other, with nothing in between, up to the first
  fault (`ofCompact_frames`).
-/

namespace StageCues

open Text

/-- What comes of something that a fault may be in front of. -/
def unlessFault {α : Type} (e : Option Fault) (x : Except Fault α) : Except Fault α :=
  match e with
  | some f => .error f
  | none => x

@[simp] theorem unlessFault_none {α : Type} (x : Except Fault α) : unlessFault none x = x := rfl

/-- Of two faults the first one counts. -/
theorem unlessFault_or {α : Type} (e₁ e₂ : Option Fault) (x : Except Fault α) :
    unlessFault (e₁.or e₂) x = unlessFault e₁ (unlessFault e₂ x) := by
  cases e₁ <;> rfl

/-- The fault that a number is too long, unless all that are to be told are short. -/
def tooLongUnless (short : Bool) : Option Fault := if short then none else some .tooLong

theorem tooLongUnless_and (a b : Bool) :
    tooLongUnless (a && b) = (tooLongUnless a).or (tooLongUnless b) := by
  cases a <;> rfl

theorem unlessFault_tooLong_eq_ok {α : Type} {b : Bool} {x : Except Fault α} {a : α} :
    unlessFault (tooLongUnless b) x = .ok a ↔ b = true ∧ x = .ok a := by
  cases b with
  | false => exact ⟨nofun, fun h => nomatch h.1⟩
  | true => exact ⟨fun h => ⟨rfl, h⟩, fun h => h.2⟩

namespace Spelt

/-- The literal of a number: a zero, and any characters behind it that are no semicolons. -/
structure Number where
  rest : Text
  whole : ';' ∉ rest

namespace Number

/-- The characters of the literal. -/
def literal (l : Number) : Text := '0' :: l.rest

/-- The literal with the semicolon that ends it. -/
def text (l : Number) : Text := l.literal ++ [';']

/-- The number that is meant. -/
def value (honourRadix : Bool) (l : Number) : Int := numberValue honourRadix l.literal

/-- Why the number is not read, if it has too many digits. -/
def fault? (honourRadix : Bool) (l : Number) : Option Fault :=
  match readNumber honourRadix l.literal with
  | .error f => some f
  | .ok _ => none

/-- A literal of so many ones in base ten. -/
def ones (n : Nat) : Number where
  rest := 'D' :: List.replicate n '1'
  whole := by
    rintro (_ | ⟨_, h⟩)
    exact absurd (List.eq_of_mem_replicate h) (by decide)

/-- More ones than the limit are not read. -/
theorem fault?_ones {n : Nat} (h : digitLimit < n) :
    (ones n).fault? true = some (.tooManyDigits n) := by
  unfold fault? literal ones
  rw [readNumber_ones h]

end Number

/-- A channel write: its mark in any letter case, and the literals of its channel and its value. -/
structure Write where
  b : Char
  p : Char
  isB : b.toUpper = 'B'
  isP : p.toUpper = 'P'
  channel : Number
  level : Number

namespace Write

variable (honourRadix : Bool) (w : Write)

/-- How a channel write is spelt. -/
def text : Text := w.b :: w.p :: (w.channel.text ++ w.level.text)

/-- The channel that is meant, cut to sixteen bits. -/
def channelNumber : Int := w.channel.value honourRadix % 65536

/-- The value that is meant, cut to eight bits. -/
def levelNumber : Int := w.level.value honourRadix % 256

/-- Why a channel write is not read, if one of its numbers is not. -/
def fault? : Option Fault := (w.channel.fault? honourRadix).or (w.level.fault? honourRadix)

/-- The channel write that is meant; it has received both of its numbers. -/
def node : Node := .leaf (.channelData (w.channelNumber honourRadix) (w.levelNumber honourRadix) 2)

/-- What is told of a channel write at the end of its frame. -/
def caption : Text :=
  "Ch " ++ decimal (w.channelNumber honourRadix) ++ ": " ++ decimal (w.levelNumber honourRadix)

/-- The numbers of a channel write are never too long to be told. -/
theorem caption_node : (w.node honourRadix).caption = .ok (w.caption honourRadix) := by
  refine caption_write 2 (isShort_of_le_word ?_) (isShort_of_le_word ?_)
  · unfold channelNumber
    omega
  · unfold levelNumber
    omega

end Write

/-- A frame: an empty one, which is over with its time, or one with channel writes and an end.  The
case of the letters of its marks tells which, but for the `F` that follows a capital `K`. -/
inductive Frame where
  | empty (delay : Number)
  | full (f : Char) (isF : f.toUpper = 'F') (delay : Number) (writes : List Write)

namespace Frame

/-- How a frame is spelt. -/
def text : Frame → Text
  | .empty delay => "kF" ++ delay.text
  | .full f _ delay writes => 'K' :: f :: (delay.text ++ writes.flatMap Write.text ++ "kf")

/-- The frame that is meant. -/
def node (honourRadix : Bool) : Frame → Node
  | .empty delay => ⟨.keyFrame (delay.value honourRadix) true true, []⟩
  | .full _ _ delay writes =>
    ⟨.keyFrame (delay.value honourRadix) false true, writes.map (Write.node honourRadix)⟩

/-- Why a frame is not read: the first of its numbers that is not read, or the time of a frame with
an end, which is told there. -/
def fault? (honourRadix : Bool) : Frame → Option Fault
  | .empty delay => delay.fault? honourRadix
  | .full _ _ delay writes =>
    (delay.fault? honourRadix).or ((writes.findSome? (Write.fault? honourRadix)).or
      (tooLongUnless (isShort (delay.value honourRadix))))

/-- What is told of a frame. -/
def told (honourRadix : Bool) : Frame → Text
  | .empty _ => line "\nEmpty KeyFrame."
  | .full _ _ delay writes =>
    line "\nNEW KeyFrame!" ++ ((writes.flatMap fun _ => "\nLoading channel data...".toList) ++
      (line "\nEnd of the KeyFrame." ++ (writes.map (Write.caption honourRadix) ++
        ["KeyFrame lasts for " ++ decimal (delay.value honourRadix) ++ " ms."]).flatMap line))

theorem text_full (f : Char) (isF : f.toUpper = 'F') (delay : Number) (ws : List Write)
    (t : Text) : (full f isF delay ws).text ++ t =
      'K' :: f :: (delay.text ++ (ws.flatMap Write.text ++ 'k' :: 'f' :: t)) := by
  simp [text]

end Frame

end Spelt

namespace Reading

/-- The reading with other frames, and more told. -/
def go (r : Reading) (fs : List Node) (u : Text) : Reading :=
  { r with frames := fs, trace := r.trace ++ u }

theorem go_self {r : Reading} {fs : List Node} (h : r.frames = fs) : r.go fs [] = r := by
  unfold go
  rw [← h, List.append_nil]

@[simp] theorem go_go (r : Reading) (fs gs : List Node) (u v : Text) :
    (r.go fs u).go gs v = r.go gs (u ++ v) := by
  unfold go
  rw [List.append_assoc]

end Reading

/-! ### Numbers -/

namespace Forward

variable {honourRadix : Bool} {size n : Nat} {a : Address} {r : Reading} {f : Node}
  {fs : List Node} {l t : Text} {x y : Char}


theorem cutNumber_append (t : Text) (h : ';' ∉ l) : cutNumber (l ++ ';' :: t) = some (l, t) := by
  induction l with
  | nil => simp [cutNumber]
  | cons c l ih =>
      rw [List.mem_cons, not_or] at h
      rw [List.cons_append, cutNumber, if_neg (Ne.symm h.1), ih h.2]
      rfl

/-- **A spelt number is taken as the number that is meant**, unless it has too many digits. -/
theorem numbers_text (l : Spelt.Number) (t : Text) :
    numbers honourRadix a (n + 1) r (l.text ++ t) =
      unlessFault (l.fault? honourRadix)
        (numbers honourRadix a n (r.give (.number (l.value honourRadix)) a) t) := by
  have hnot : ';' ∉ l.literal := by
    rintro (_ | ⟨_, h⟩)
    exact l.whole h
  have hcut := cutNumber_append t hnot
  have htext : l.text ++ t = '0' :: (l.rest ++ ';' :: t) := by
    simp [Spelt.Number.text, Spelt.Number.literal]
  rw [Spelt.Number.literal, List.cons_append] at hcut
  rw [htext, numbers, if_neg (not_not_intro rfl), hcut]
  show (match readNumber honourRadix l.literal with
    | .error f => Except.error f
    | .ok v => numbers honourRadix a n (r.give (.number v) a) t) = _
  unfold Spelt.Number.fault? Spelt.Number.value
  cases h : readNumber honourRadix l.literal with
  | error f => rfl
  | ok v =>
      rw [readNumber_eq_ok h]
      rfl

/-- What goes on behind parameters goes on unless one of them is at fault. -/
theorem read_after (e : Option Fault) (p : Reading × Text) :
    (match unlessFault e (.ok p) with
      | .error f => .error f
      | .ok (r, rest) => read honourRadix size r rest) =
    unlessFault e (read honourRadix size p.1 p.2) := by
  cases e <;> rfl

/-! ### Tokens -/

/-- A token with ASCII letters for its capitals is read as the capitals are. -/
theorem token_frame (hx : x.toUpper = 'K') (hy : y.toUpper = 'F') (r : Reading) (pos : Int) :
    token r x y pos = frame r x y pos := by
  have hx := upper_of_toUpper hx (by decide)
  have hy := upper_of_toUpper hy (by decide)
  simp [token, hx, hy]

theorem token_write (hx : x.toUpper = 'B') (hy : y.toUpper = 'P') (r : Reading) (pos : Int) :
    token r x y pos = write r pos := by
  have hx := upper_of_toUpper hx (by decide)
  have hy := upper_of_toUpper hy (by decide)
  simp [token, hx, hy]

/-- A token that begins with one of these letters is looked up in the table. -/
theorem read_letter {d : Char} (hx : x.toUpper = d) (hd : d ∈ ['C', 'K', 'B', 'W', 'F', 'I', 'X'])
    (y : Char) (t : Text) :
    read honourRadix size r (x :: y :: t) =
      match token r x y (size - t.length - 1) with
      | .error f => .error f
      | .ok (r, w) =>
        match parameters honourRadix w r t with
        | .error f => .error f
        | .ok (r, rest) => read honourRadix size r rest := by
  have hall : ['C', 'K', 'B', 'W', 'F', 'I', 'X'].all (·.toNat < 0x80) = true := rfl
  have hascii : d.toNat < 0x80 := of_decide_eq_true (List.all_eq_true.mp hall d hd)
  obtain ⟨hq, h0, hb⟩ := Scanner.begins_of_upper (upper_of_toUpper hx hascii) hd
  exact read_token _ _ _ _ y hq h0 hb

/-- Behind closed frames a frame can be started. -/
theorem frame_of_closed (hfs : ∀ g ∈ r.frames, IsFrame true g)
    (h : x.isUpper = true ∨ y.isUpper = true) (pos : Int) :
    frame r x y pos = .ok (startFrame r (!x.isUpper)
      (if x.isUpper then "\nNEW KeyFrame!" else "\nEmpty KeyFrame.")) := by
  unfold frame
  rw [lastOpenIndex_closed hfs]
  cases hx : x.isUpper with
  | true => rfl
  | false =>
      rw [hx] at h
      simp [h.resolve_left nofun]

/-- An open frame can be ended. -/
theorem frame_of_open (hfs : ∀ g ∈ fs, IsFrame true g) (hf : IsFrame false f)
    (hr : r.frames = fs ++ [f]) (pos : Int) :
    frame r 'k' 'f' pos = (·, .nothing) <$> endFrame r fs.length := by
  unfold frame
  rw [hr, lastOpenIndex_opened hfs hf]
  rfl

/-- A channel write goes to the open frame. -/
theorem write_of_open (hfs : ∀ g ∈ fs, IsFrame true g) (hf : IsFrame false f)
    (hr : r.frames = fs ++ [f]) (pos : Int) :
    write r pos = .ok ({ r with frames := fs ++ [f.push (.leaf (.newChannelData 0 0))] }.tell
      "\nLoading channel data...", .numbers 2 (.write fs.length f.children.length)) := by
  unfold write
  rw [hr, lastOpenIndex_opened hfs hf]
  simp only [List.getElem?_concat_length, modify_length]

/-! ### Pieces of a frame -/

/-- **The start of a frame**, with its time. -/
theorem read_start (hfs : ∀ g ∈ r.frames, IsFrame true g) (hx : x.toUpper = 'K')
    (hy : y.toUpper = 'F') (h : x.isUpper = true ∨ y.isUpper = true) (l : Spelt.Number)
    (t : Text) :
    read honourRadix size r (x :: y :: (l.text ++ t)) =
      unlessFault (l.fault? honourRadix)
        (read honourRadix size
          (r.go (r.frames ++ [⟨.keyFrame (l.value honourRadix) (!x.isUpper) (!x.isUpper), []⟩])
            (line (if x.isUpper then "\nNEW KeyFrame!" else "\nEmpty KeyFrame."))) t) := by
  rw [read_letter hx (by decide), token_frame hx hy, frame_of_closed hfs h]
  simp only [startFrame, parameters, numbers_text, numbers, read_after]
  -- the new frame is the last one when it receives its time
  simp only [Reading.give, Reading.tell, modify_length]
  rfl

/-- **A channel write**, in the open frame. -/
theorem read_write (hfs : ∀ g ∈ fs, IsFrame true g) (hf : IsFrame false f)
    (hr : r.frames = fs ++ [f]) (w : Spelt.Write) (t : Text) :
    read honourRadix size r (w.text ++ t) =
      unlessFault (w.fault? honourRadix)
        (read honourRadix size
          (r.go (fs ++ [f.push (w.node honourRadix)]) "\nLoading channel data...") t) := by
  have htext : w.text ++ t = w.b :: w.p :: (w.channel.text ++ (w.level.text ++ t)) := by
    simp [Spelt.Write.text]
  rw [htext, read_letter w.isB (by decide), token_write w.isB w.isP, write_of_open hfs hf hr]
  simp only [parameters, numbers_text, numbers]
  rw [← unlessFault_or, read_after]
  -- the new write is the last one of the last frame when it receives its numbers
  simp only [Reading.give, Reading.tell, modify_length, Node.push]
  rfl

theorem isWrite_node (w : Spelt.Write) : IsWrite (w.node honourRadix) := by
  refine .mk ?_ ?_ ?_ ?_ <;> simp only [Spelt.Write.channelNumber, Spelt.Write.levelNumber] <;>
    omega

theorem isWrite_nodes (ws : List Spelt.Write) :
    ∀ w ∈ ws.map (Spelt.Write.node honourRadix), IsWrite w :=
  List.forall_mem_map.mpr fun w _ => isWrite_node w

theorem findSome?_cons_or {α β : Type} (f : α → Option β) (a : α) (l : List α) :
    (a :: l).findSome? f = (f a).or (l.findSome? f) := by
  rw [List.findSome?_cons]
  cases f a <;> rfl

/-- **Channel writes**, one after the other. -/
theorem read_writes (hfs : ∀ g ∈ fs, IsFrame true g) (hf : IsFrame false f)
    (hr : r.frames = fs ++ [f]) (ws : List Spelt.Write) (t : Text) :
    read honourRadix size r (ws.flatMap Spelt.Write.text ++ t) =
      unlessFault (ws.findSome? (Spelt.Write.fault? honourRadix))
        (read honourRadix size
          (r.go (fs ++ [⟨f.kind, f.children ++ ws.map (Spelt.Write.node honourRadix)⟩])
            (ws.flatMap fun _ => "\nLoading channel data...".toList)) t) := by
  induction ws generalizing r f with
  | nil =>
      obtain ⟨k, cs⟩ := f
      simp only [List.flatMap_nil, List.map_nil, List.append_nil, List.nil_append,
        Reading.go_self hr, List.findSome?_nil, unlessFault_none]
  | cons w ws ih =>
      rw [List.flatMap_cons, List.append_assoc, read_write hfs hf hr,
        ih (hf.push (isWrite_node w)) rfl, Reading.go_go, List.flatMap_cons, List.map_cons,
        Node.children_push, List.append_assoc, findSome?_cons_or, unlessFault_or]
      rfl

/-- **The end of a frame**, if its time is not too long to be told. -/
theorem read_end {d : Int} {ws : List Node} {us : List Text} (hfs : ∀ g ∈ fs, IsFrame true g)
    (hf : IsFrame false ⟨.keyFrame d false false, ws⟩)
    (hr : r.frames = fs ++ [⟨.keyFrame d false false, ws⟩])
    (hus : ws.map Node.caption = us.map .ok) (t : Text) :
    read honourRadix size r ('k' :: 'f' :: t) =
      unlessFault (tooLongUnless (isShort d))
        (read honourRadix size
          (r.go (fs ++ [⟨.keyFrame d false true, ws⟩]) (line "\nEnd of the KeyFrame." ++
            (us ++ ["KeyFrame lasts for " ++ decimal d ++ " ms."]).flatMap line)) t) := by
  have hclosed : (Node.mk (.keyFrame d false false) ws).close = ⟨.keyFrame d false true, ws⟩ := rfl
  have hwrites : (Node.mk (.keyFrame d false true) ws).childrenOf .channelData = ws :=
    hf.childrenOf_eq
  have hend : endFrame r fs.length = unlessFault (tooLongUnless (isShort d))
      (.ok (r.go (fs ++ [⟨.keyFrame d false true, ws⟩]) (line "\nEnd of the KeyFrame." ++
        (us ++ ["KeyFrame lasts for " ++ decimal d ++ " ms."]).flatMap line))) := by
    unfold endFrame
    simp only [hr, modify_length, List.getElem?_concat_length, hclosed, Option.elim_some, hwrites,
      hus, Reading.tellLines_append]
    have hcaption : (Node.mk (.keyFrame d false true) ws).caption =
        (do return "KeyFrame lasts for " ++ (← worded d) ++ " ms.") := rfl
    rw [hcaption]
    cases hd : isShort d with
    | true =>
        rw [worded_of_isShort hd]
        show Except.ok (Reading.tell _ _) = .ok _
        simp only [Reading.tell, Reading.go, List.flatMap_append, List.flatMap_cons,
          List.flatMap_nil, List.append_nil, List.append_assoc]
    | false =>
        rw [worded_of_not_isShort hd]
        rfl
  rw [read_letter (d := 'K') rfl (by decide), token_frame rfl rfl, frame_of_open hfs hf hr, hend]
  cases isShort d <;> rfl

/-! ### Whole frames -/

/-- The frame that is meant is a closed one. -/
theorem isFrame_node (f : Spelt.Frame) : IsFrame true (f.node honourRadix) := by
  have hnat : ∀ l : Spelt.Number, 0 ≤ l.value honourRadix := fun l => Int.natCast_nonneg _
  cases f with
  | empty delay => exact .empty (hnat delay)
  | full _ _ delay ws => exact .full (hnat delay) (isWrite_nodes ws)

/-- **A spelt frame is read as the frame that is meant**, unless a number of it is too long. -/
theorem read_frame (hfs : ∀ g ∈ r.frames, IsFrame true g) (f : Spelt.Frame) (t : Text) :
    read honourRadix size r (f.text ++ t) =
      unlessFault (f.fault? honourRadix)
        (read honourRadix size
          (r.go (r.frames ++ [f.node honourRadix]) (f.told honourRadix)) t) := by
  cases f with
  | empty delay =>
      have htext : (Spelt.Frame.empty delay).text ++ t = 'k' :: 'F' :: (delay.text ++ t) := by
        simp [Spelt.Frame.text]
      rw [htext, read_start hfs rfl rfl (.inr rfl)]
      rfl
  | full y isF delay ws =>
      rw [Spelt.Frame.text_full]
      have hstart : IsFrame false ⟨.keyFrame (delay.value honourRadix) false false, []⟩ :=
        .full (Int.natCast_nonneg _) nofun
      have hopen : IsFrame false ⟨.keyFrame (delay.value honourRadix) false false,
          [] ++ ws.map (Spelt.Write.node honourRadix)⟩ :=
        .full (Int.natCast_nonneg _) (isWrite_nodes ws)
      have hwrites : ([] ++ ws.map (Spelt.Write.node honourRadix)).map Node.caption =
          (ws.map (Spelt.Write.caption honourRadix)).map .ok := by
        rw [List.nil_append, List.map_map, List.map_map]
        exact List.map_congr_left fun w _ => w.caption_node honourRadix
      rw [read_start hfs rfl isF (.inl rfl), read_writes hfs hstart rfl,
        read_end hfs hopen rfl hwrites, Reading.go_go, Reading.go_go, List.nil_append,
        ← unlessFault_or, ← unlessFault_or, Option.or_assoc]
      rfl

/-- **Spelt frames are read one after the other**, up to the first fault. -/
theorem read_spelt (hr : ∀ g ∈ r.frames, IsFrame true g) (fs : List Spelt.Frame) (t : Text) :
    read honourRadix size r (fs.flatMap Spelt.Frame.text ++ t) =
      unlessFault (fs.findSome? (Spelt.Frame.fault? honourRadix))
        (read honourRadix size
          (r.go (r.frames ++ fs.map (Spelt.Frame.node honourRadix))
            (fs.flatMap (Spelt.Frame.told honourRadix))) t) := by
  induction fs generalizing r with
  | nil =>
      simp only [List.flatMap_nil, List.map_nil, List.append_nil, List.nil_append,
        Reading.go_self rfl, List.findSome?_nil, unlessFault_none]
  | cons f fs ih =>
      have hnext : ∀ g ∈ r.frames ++ [f.node honourRadix], IsFrame true g :=
        List.forall_mem_append.mpr ⟨hr, List.forall_mem_singleton.mpr (isFrame_node f)⟩
      rw [List.flatMap_cons, List.append_assoc, read_frame hr, ih hnext, Reading.go_go,
        List.map_cons, List.flatMap_cons, findSome?_cons_or, unlessFault_or]
      simp only [Reading.go, List.append_assoc, List.singleton_append]

end Forward

namespace Reading

/-- A text of which nothing is left to the forward reader, unless a fault was in front, is read as
what it has read by then. -/
theorem ofCompact_unless {honourRadix : Bool} {t : Text} {e : Option Fault} {r : Reading}
    (h : Forward.read honourRadix t.length .blank (t ++ []) =
      unlessFault e (Forward.read honourRadix t.length r [])) :
    ofCompact honourRadix t = unlessFault e (.ok r) := by
  rw [List.append_nil, Forward.read_nil] at h
  rw [ofCompact_eq_outcome, Scanner.outcome_start, h]

/-- **What a text of frames says.**  A text that spells frames, with nothing between them, is read
as the frames that are meant, with their times and channel writes; there is no document, and what
is told is told of these frames alone.  But it is not read at all if a literal of base ten has too
many digits, or if the time of a frame with an end is too long to be told: then the first such fault
is what comes of it. -/
theorem ofCompact_frames (honourRadix : Bool) (fs : List Spelt.Frame) :
    ofCompact honourRadix (fs.flatMap Spelt.Frame.text) =
      match fs.findSome? (Spelt.Frame.fault? honourRadix) with
      | some f => .error f
      | none => .ok ⟨fs.map (Spelt.Frame.node honourRadix), none, [],
          fs.flatMap (Spelt.Frame.told honourRadix)⟩ :=
  ofCompact_unless (Forward.read_spelt (r := .blank) nofun fs [])

/-- An empty frame, and one with a write whose channel goes beyond sixteen bits and whose value ends
in what looks like the end of a frame. -/
theorem ofCompact_frames_two :
    ofCompact true "kF0H5;Kf0d10;bP0x1FFFF;0b101kf;kf" =
      .ok ⟨[⟨.keyFrame 5 true true, []⟩,
          ⟨.keyFrame 10 false true, [.leaf (.channelData 65535 5 2)]⟩], none, [],
        "\nEmpty KeyFrame.\n\nNEW KeyFrame!\n\nLoading channel data...\nEnd of the KeyFrame.\n" ++
          "Ch 65535: 5\nKeyFrame lasts for 10 ms.\n"⟩ :=
  (ofCompact_frames true [.empty ⟨"H5", by decide⟩, .full 'f' rfl ⟨"d10", by decide⟩
    [⟨'b', 'P', rfl, rfl, ⟨"x1FFFF", by decide⟩, ⟨"b101kf", by decide⟩⟩]]).trans rfl

/-- A frame whose time is so many ones. -/
theorem text_onesFrame (n : Nat) (t : Text) :
    "KF0D".toList ++ List.replicate n '1' ++ ';' :: t =
      'K' :: 'F' :: ((Spelt.Number.ones n).text ++ t) := by
  simp [Spelt.Number.text, Spelt.Number.literal, Spelt.Number.ones]

/-- A time with too many digits stops the reading, whatever stands behind it. -/
theorem ofCompact_ones {n : Nat} (h : digitLimit < n) (t : Text) :
    ofCompact true ("KF0D".toList ++ List.replicate n '1' ++ ';' :: t) =
      .error (.tooManyDigits n) := by
  rw [ofCompact_eq_outcome, Scanner.outcome_start, text_onesFrame,
    Forward.read_start (r := .blank) nofun rfl rfl (.inl rfl), Spelt.Number.fault?_ones h]
  rfl

/-- It does not when radices are not honoured: there is no limit in base sixteen. -/
theorem ofCompact_ones_unmarked (n : Nat) :
    ∃ r, ofCompact false ("KF0D".toList ++ List.replicate n '1' ++ ";".toList) = .ok r := by
  have hbase : literalBase false (Spelt.Number.ones n).literal = 16 := rfl
  have hread : (Spelt.Number.ones n).fault? false = none := by
    unfold Spelt.Number.fault?
    rw [readNumber_of_base (by rw [hbase]; decide)]
  have htext : "KF0D".toList ++ List.replicate n '1' ++ ";".toList =
      'K' :: 'F' :: ((Spelt.Number.ones n).text ++ []) := text_onesFrame n []
  rw [ofCompact_eq_outcome, Scanner.outcome_start, htext,
    Forward.read_start (r := .blank) nofun rfl rfl (.inl rfl), hread, unlessFault_none,
    Forward.read_nil]
  exact ⟨_, rfl⟩

/-- One digit too many in the time of a frame. -/
theorem ofCompact_frame_overlong :
    ofCompact true ("KF0D".toList ++ List.replicate 4301 '1' ++ ";kf".toList) =
      .error (.tooManyDigits 4301) :=
  ofCompact_ones (by decide) "kf"

end Reading

end StageCues
