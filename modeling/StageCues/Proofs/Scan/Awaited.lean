import StageCues.Proofs.Scan.Sound
import StageCues.Proofs.Text.Capital

/-!
# Scan — what is awaited, and what of it was collected

Between its turns a scan either awaits nothing, or one or two parameters for an element that is the
newest of its sort (`Addressed`).  What it has collected of a parameter is a piece of the text that
starts at the mark, and as long as it collects the cursor stands right behind that piece
(`Collected`).  Every turn keeps both.  A turn that is not for a parameter leaves or makes the
literal empty, so only a turn that collects a character (`Spelled.gather`,
`Collected.gather_number`) and one that ends a parameter (`Spelled.finish`,
`Collected.finish_number`) have anything to show for the second.

`Orderly` is what follows for the states of a scan; `scan_orderly` says so of every text.
-/

namespace StageCues

open Text

/-! ### Literals in a text -/

/-- The literal is the piece of the text that starts at the mark, or is empty and starts nowhere. -/
structure Literal.Spells (l : Literal) (t : Text) (mark : Int) : Prop where
  blank : l.start = none → l.text = []
  slice : ∀ p, l.start = some p →
    p = mark ∧ 0 ≤ p ∧ l.text = (t.drop p.toNat).take l.text.length

theorem Literal.spells_empty (t : Text) (mark : Int) : Literal.empty.Spells t mark where
  blank := fun _ => rfl
  slice := nofun

/-- A literal that the character at the cursor is added to still is a piece of the text. -/
theorem Literal.Spells.push {l : Literal} {t : Text} {mark pos : Int} {c : Char}
    (h : l.Spells t mark) (hpos : 0 ≤ pos) (hc : t[pos.toNat]? = some c)
    (hend : l.start ≠ none → pos = mark + l.text.length) :
    (l.push [c] pos).Spells t (if l.start = none then pos else mark) where
  blank := fun hb => absurd hb (Option.some_ne_none _)
  slice := by
    intro p hp
    have htake : ∀ q n : Nat, q + n = pos.toNat →
        (t.drop q).take (n + 1) = (t.drop q).take n ++ [c] := by
      intro q n hq
      rw [List.take_add_one, List.getElem?_drop, hq, hc]
      rfl
    cases hs : l.start with
    | none =>
        obtain rfl : pos = p := by simpa [Literal.push, hs] using hp
        refine ⟨rfl, hpos, ?_⟩
        rw [Literal.push, h.blank hs]
        exact (htake pos.toNat 0 rfl).symm
    | some q =>
        obtain rfl : q = p := by simpa [Literal.push, hs] using hp
        obtain ⟨hmark, hq, hslice⟩ := h.slice q hs
        have hlast := hend (by rw [hs]; exact Option.some_ne_none q)
        refine ⟨hmark, hq, ?_⟩
        show l.text ++ [c] = (t.drop q.toNat).take (l.text ++ [c]).length
        rw [List.length_append, List.length_singleton, htake q.toNat _ (by omega), ← hslice]

namespace Scanner

variable {s t : Scanner} {c : Char} {a : Address} {p : Parameter}

/-! ### The newest elements -/

/-- The address is that of the last frame, of the last channel write of the last frame, or of the
head of the document. -/
def IsNewest (s : Scanner) : Address → Prop
  | .frame i => i + 1 = s.frames.length
  | .write i j => i + 1 = s.frames.length ∧ ∃ f, s.frames[i]? = some f ∧ j + 1 = f.children.length
  | .head => ∃ d n, s.document = some d ∧ d.head = some n

theorem IsNewest.congr (h : s.IsNewest a) (hf : t.frames = s.frames)
    (hd : t.document = s.document) : t.IsNewest a := by
  cases a with
  | frame i => rw [IsNewest, hf]; exact h
  | write i j => rw [IsNewest, hf]; exact h
  | head => rw [IsNewest, hd]; exact h

/-- An element that has received a parameter is as new as it was. -/
theorem IsNewest.give (h : s.IsNewest a) (p : Parameter) : (s.give p a).IsNewest a := by
  cases a with
  | frame i => exact h.trans (List.length_modify _ s.frames i).symm
  | write i j =>
      obtain ⟨hi, f, hf, hj⟩ := h
      refine ⟨hi.trans (List.length_modify _ s.frames i).symm,
        { f with children := f.children.modify j fun w => w.receive p }, ?_,
        hj.trans (List.length_modify _ f.children j).symm⟩
      show (s.frames.modify i _)[i]? = _
      rw [List.getElem?_modify_eq, hf]
      rfl
  | head =>
      obtain ⟨d, n, hd, hn⟩ := h
      refine ⟨{ d with head := d.head.map fun h => h.receive p }, n.receive p, ?_, ?_⟩
      · show s.document.map _ = _
        rw [hd]
        rfl
      · show d.head.map _ = _
        rw [hn]
        rfl

/-- Nothing is awaited outside of parameters.  In their modes one parameter or two are awaited, for
an element that is the newest of its sort. -/
structure Addressed (s : Scanner) : Prop where
  idle : s.mode.isParameter = false → s.awaiting = .idle
  pending : s.mode.isParameter = true → s.awaiting.pending = 1 ∨ s.awaiting.pending = 2
  target : s.mode.isParameter = true → ∃ a, s.awaiting.target = some a ∧ s.IsNewest a

theorem addressed_start (honourRadix : Bool) (t : Text) : Addressed (start honourRadix t) where
  idle := fun _ => rfl
  pending := nofun
  target := nofun

/-- Nothing is awaited. -/
theorem Addressed.of_idle (h : s.awaiting = .idle) (hm : s.mode.isParameter = false) :
    Addressed s where
  idle := fun _ => h
  pending := fun hp => absurd hp (by rw [hm]; nofun)
  target := fun hp => absurd hp (by rw [hm]; nofun)

/-- Parameters are awaited for the newest element. -/
theorem Addressed.of_expect {n : Int} (h : s.awaiting = .expect n (some a)) (hn : n = 1 ∨ n = 2)
    (hm : s.mode.isParameter = true) (ha : s.IsNewest a) : Addressed s where
  idle := fun hp => absurd hp (by rw [hm]; nofun)
  pending := fun _ => by rw [h]; exact hn
  target := fun _ => ⟨a, by rw [h]; rfl, ha⟩

/-- The first of two parameters leaves one for the same target. -/
theorem delivered_of_two {w : Awaiting Address} (h : w.pending = 2) :
    w.delivered = .expect 1 w.target := by
  simp [Awaiting.delivered, Awaiting.expect, Awaiting.hasMore, h]

/-- The last parameter leaves nothing to be awaited. -/
theorem delivered_of_one {w : Awaiting Address} (h : w.pending = 1) : w.delivered = .idle := by
  simp [Awaiting.delivered, Awaiting.idle, Awaiting.hasMore, h]

/-- After a parameter one is awaited for the same element, or nothing is. -/
theorem Addressed.settles (h : Addressed s) (hs : Settles s t) : Addressed t := by
  cases hs with
  | @deliver q m a hq ha =>
      obtain ⟨hmode, hnext⟩ := isParameter_of_complete hq
      obtain ⟨b, hb, hnew⟩ := h.target hmode
      rw [recipient_of_target hb] at ha
      obtain rfl := Except.ok.inj ha
      rcases h.pending hmode with hone | htwo
      · have hmore : s.awaiting.hasMore = false := by simp [Awaiting.hasMore, hone]
        refine .of_idle (delivered_of_one hone) ?_
        show (if s.awaiting.hasMore then m else .rest : Mode).isParameter = false
        rw [hmore]
        rfl
      · have hmore : s.awaiting.hasMore = true := by simp [Awaiting.hasMore, htwo]
        refine .of_expect ((delivered_of_two htwo).trans (by rw [hb])) (.inl rfl) ?_
          ((hnew.give q).congr rfl rfl)
        show (if s.awaiting.hasMore then m else .rest : Mode).isParameter = true
        rw [hmore]
        exact hnext
  | cancel => exact .of_idle rfl rfl

/-- What is awaited in a parameter stays awaited while its characters are collected. -/
theorem Addressed.collect (h : Addressed s) (hs : s.mode.isParameter = true)
    (ht : t.mode.isParameter = true) (hp : t.awaiting.pending = s.awaiting.pending)
    (ha : t.awaiting.target = s.awaiting.target) (hf : t.frames = s.frames)
    (hd : t.document = s.document) : Addressed t where
  idle := fun hm => absurd hm (by rw [ht]; nofun)
  pending := fun _ => hp ▸ h.pending hs
  target := fun _ => by
    obtain ⟨a, htarget, hnew⟩ := h.target hs
    exact ⟨a, ha.trans htarget, hnew.congr hf hd⟩

/-- **What a token asks parameters for is an element that it makes**, or the document's head. -/
theorem Addressed.move (h : Addressed s) (hframed : WellFramed s.frames) (hm : Move s c t) :
    Addressed t := by
  have hmark : s.markStart.frames = s.frames ∧ s.markStart.document = s.document := by
    unfold markStart
    split <;> exact ⟨rfl, rfl⟩
  have hpending : s.markStart.awaiting.pending = s.awaiting.pending :=
    congrArg Awaiting.pending (markStart_awaiting s)
  have htarget : s.markStart.awaiting.target = s.awaiting.target :=
    congrArg Awaiting.target (markStart_awaiting s)
  cases hm with
  | quiet hl =>
      exact .of_idle (h.idle (not_isParameter_of_leads hl)) (isParameter_of_leads hl)
  | iteration hk =>
      refine .of_idle (h.idle ?_) rfl
      rcases hk with ⟨hk, -⟩ | ⟨hk, -⟩ <;> rw [hk] <;> rfl
  | document hk => exact .of_idle (h.idle (by rw [hk]; rfl)) rfl
  | endFrame hk => exact .of_idle (h.idle (by rw [hk]; rfl)) rfl
  | addFrame =>
      refine .of_expect rfl (.inl rfl) rfl ?_
      show s.frames.length + 1 = (s.frames ++ [_]).length
      rw [List.length_append, List.length_singleton]
  | @addWrite i j u _ ho hj =>
      obtain ⟨gs, f, hfs, rfl, -, -⟩ := hframed.last_open ho
      have hj' := hj f (by rw [hfs, List.getElem?_concat_length])
      refine .of_expect rfl (.inr rfl) rfl ⟨?_, f.push (.leaf (.newChannelData 0 0)), ?_, ?_⟩
      · show gs.length + 1 = (s.frames.modify gs.length _).length
        rw [List.length_modify, hfs, List.length_append, List.length_singleton]
      · show (s.frames.modify gs.length _)[gs.length]? = _
        rw [hfs, modify_length, List.getElem?_concat_length]
      · show j + 1 = (f.children ++ [_]).length
        rw [hj', List.length_append, List.length_singleton]
  | @head d k n m u _ _ hn hm =>
      refine .of_expect rfl hn ?_ ⟨_, _, rfl, rfl⟩
      rcases hm with ⟨-, rfl⟩ | ⟨-, rfl⟩ <;> rfl
  | @gather m l hm =>
      have hnext : m.isParameter = true := by
        rcases hm with ⟨-, -, rfl⟩ | ⟨-, -, rfl⟩
        · exact isParameter_number rfl
        · rfl
      exact h.collect (isParameter_of_waits hm) hnext hpending htarget hmark.1 hmark.2
  | @finish m l _ hm =>
      have hnext : m.isParameter = true := by
        rcases hm with ⟨-, rfl⟩ | ⟨-, -, rfl⟩
        · exact isParameter_number rfl
        · rfl
      exact h.collect (isParameter_of_waits hm) hnext hpending htarget hmark.1 hmark.2
  | settle hs => exact h.settles hs

/-- The step to the next character changes neither what is awaited nor the elements. -/
theorem Addressed.next (h : Addressed s) (c : Char) : Addressed { s with previous := c }.next :=
  ⟨h.idle, h.pending, fun hp => (h.target hp).imp fun _ ha => ⟨ha.1, ha.2.congr rfl rfl⟩⟩

theorem addressed_turn (h : Addressed s) (hframed : WellFramed s.frames) (hd : s.isDone = false)
    (e : s.turn = .ok t) : Addressed t := by
  rcases turn_cases hd e with ⟨-, c, u, -, hm, rfl⟩ | ⟨-, -, u, hs, rfl⟩
  · exact (h.move hframed hm).next c
  · exact (h.settles hs).next u.previous

/-! ### What was collected -/

theorem mark_markStart (s : Scanner) : s.markStart.cursor.mark =
    if s.awaiting.literal.start = none then s.cursor.pos else s.cursor.mark := by
  unfold markStart
  split <;> rfl

theorem text_markStart (s : Scanner) : s.markStart.cursor.text = s.cursor.text := by
  unfold markStart
  split <;> rfl

/-- What was collected of a parameter is a piece of the text, and the cursor is right behind it
while more is collected.  Without a character the literal would start at the cursor. -/
structure Spelled (s : Scanner) : Prop where
  spells : s.awaiting.literal.Spells s.cursor.text s.cursor.mark
  behind : s.mode = .waitNumber ∨ s.mode = .waitText →
    s.cursor.pos = s.markStart.cursor.mark + s.awaiting.literal.text.length

/-- What a numeric parameter is made of is known by the mode as well. -/
structure Collected (s : Scanner) : Prop extends Spelled s where
  waiting : s.mode = .waitNumber →
    (s.awaiting.literal.text = [] ∨ s.awaiting.literal.text.head? = some '0') ∧
      ';' ∉ s.awaiting.literal.text
  complete : s.mode = .gotNumber →
    s.awaiting.literal.text.head? = some '0' ∧ ';' ∉ s.awaiting.literal.text
  missing : s.mode = .noNumber →
    (s.awaiting.literal.text = [] ∨ ∃ c, c ≠ '0' ∧ s.awaiting.literal.text = [c]) ∧
      s.cursor.pos = s.cursor.mark + 1

/-- Nothing was collected. -/
theorem Collected.of_empty (h : s.awaiting.literal = .empty) (hgot : s.mode ≠ .gotNumber)
    (hno : s.mode ≠ .noNumber) : Collected s where
  spells := by rw [h]; exact Literal.spells_empty _ _
  behind := fun _ => by rw [mark_markStart, h]; exact (Int.add_zero _).symm
  waiting := fun _ => by rw [h]; exact ⟨.inl rfl, List.not_mem_nil⟩
  complete := fun hm => absurd hm hgot
  missing := fun hm => absurd hm hno

theorem collected_start (honourRadix : Bool) (t : Text) : Collected (start honourRadix t) :=
  .of_empty rfl nofun nofun

/-- The literal with the character at the cursor still is a piece of the text, and the cursor that
advances is behind it again. -/
theorem Spelled.gather (h : Spelled s) (hsteady : Steady s) (hc : s.cursor.char? = some c)
    (hmode : s.mode = .waitNumber ∨ s.mode = .waitText)
    (hcursor : t.cursor = s.markStart.cursor.next)
    (hl : t.awaiting.literal = s.awaiting.literal.push [c] s.cursor.pos) : Spelled t where
  spells := by
    rw [hl, hcursor, Cursor.text_next, Cursor.mark_next, mark_markStart, text_markStart]
    refine h.spells.push hsteady.pos_nonneg ?_ fun hstart => ?_
    · rw [← hc, hsteady.char?_eq]
      exact Array.getElem?_toList ..
    · rw [h.behind hmode, mark_markStart, if_neg hstart]
  behind := fun _ => by
    have hpos := h.behind hmode
    rw [mark_markStart, if_neg (by rw [hl]; nofun), hl, hcursor, Cursor.mark_next, Literal.push,
      List.length_append]
    show s.markStart.cursor.pos + 1 = _
    rw [pos_markStart, hpos]
    exact Int.add_assoc ..

/-- A literal that is not added to is the same piece of the text, whether the mark is set now or was
set before. -/
theorem Spelled.finish (h : Spelled s) (hcursor : t.cursor = s.markStart.cursor.next)
    (hl : t.awaiting.literal = s.awaiting.literal)
    (hmode : ¬ (t.mode = .waitNumber ∨ t.mode = .waitText)) : Spelled t where
  spells := by
    rw [hl, hcursor, Cursor.text_next, Cursor.mark_next, mark_markStart, text_markStart]
    refine ⟨h.spells.blank, fun p hp => ?_⟩
    rw [if_neg (by rw [hp]; nofun)]
    exact h.spells.slice p hp
  behind := fun hw => absurd hw hmode

/-- A cursor that advances while a literal is empty stands one behind the mark. -/
theorem Spelled.pos_of_empty (h : Spelled s) (hmode : s.mode = .waitNumber ∨ s.mode = .waitText)
    (hempty : s.awaiting.literal.text = []) (hcursor : t.cursor = s.markStart.cursor.next) :
    t.cursor.pos = t.cursor.mark + 1 := by
  have hpos := h.behind hmode
  rw [hempty, List.length_nil] at hpos
  rw [hcursor, Cursor.mark_next]
  show s.markStart.cursor.pos + 1 = _
  rw [pos_markStart, hpos]
  exact congrArg (· + 1) (Int.add_zero _)

/-- A character that is collected for a number goes on with it, or shows that it is missing. -/
theorem Collected.gather_number (h : Collected s) (hsteady : Steady s)
    (hc : s.cursor.char? = some c) (hs : s.mode = .waitNumber) (hsep : c ≠ ';')
    (hcursor : t.cursor = s.markStart.cursor.next)
    (hl : t.awaiting.literal = s.awaiting.literal.push [c] s.cursor.pos)
    (hmode : t.mode = if t.awaiting.literal.startsNumber then .waitNumber else .noNumber) :
    Collected t := by
  obtain ⟨hbefore, hnone⟩ := h.waiting hs
  have htext : t.awaiting.literal.text = s.awaiting.literal.text ++ [c] := congrArg Literal.text hl
  have hspelled := h.toSpelled.gather hsteady hc (.inl hs) hcursor hl
  cases hstarts : t.awaiting.literal.startsNumber with
  | true =>
      rw [hstarts, if_pos rfl] at hmode
      have hsemi : ';' ∉ t.awaiting.literal.text := by
        rw [htext]
        simp [hnone, Ne.symm hsep]
      exact { hspelled with
        waiting := fun _ => ⟨.inr (of_decide_eq_true hstarts), hsemi⟩
        complete := by rw [hmode]; nofun
        missing := by rw [hmode]; nofun }
  | false =>
      rw [hstarts, if_neg (by nofun)] at hmode
      have hhead : (s.awaiting.literal.text ++ [c]).head? ≠ some '0' := by
        rw [← htext]
        exact of_decide_eq_false hstarts
      have hempty : s.awaiting.literal.text = [] := by
        refine hbefore.resolve_right fun hzero => hhead ?_
        rw [List.head?_append, hzero]
        rfl
      have hpos := h.toSpelled.pos_of_empty (.inl hs) hempty hcursor
      rw [hempty] at htext hhead
      exact { hspelled with
        waiting := by rw [hmode]; nofun
        complete := by rw [hmode]; nofun
        missing := fun _ => ⟨.inr ⟨c, fun hzero => hhead (by rw [hzero]; rfl), htext⟩, hpos⟩ }

/-- At its end a number is complete, or it was missing and nothing was collected. -/
theorem Collected.finish_number (h : Collected s) (hs : s.mode = .waitNumber)
    (hcursor : t.cursor = s.markStart.cursor.next)
    (hl : t.awaiting.literal = s.awaiting.literal)
    (hmode : t.mode = if s.awaiting.literal.startsNumber then .gotNumber else .noNumber) :
    Collected t := by
  obtain ⟨hbefore, hnone⟩ := h.waiting hs
  cases hstarts : s.awaiting.literal.startsNumber with
  | true =>
      rw [hstarts, if_pos rfl] at hmode
      have hspelled := h.toSpelled.finish hcursor hl (by rw [hmode]; nofun)
      exact { hspelled with
        waiting := by rw [hmode]; nofun
        complete := fun _ => by rw [hl]; exact ⟨of_decide_eq_true hstarts, hnone⟩
        missing := by rw [hmode]; nofun }
  | false =>
      rw [hstarts, if_neg (by nofun)] at hmode
      have hspelled := h.toSpelled.finish hcursor hl (by rw [hmode]; nofun)
      have hempty : s.awaiting.literal.text = [] :=
        hbefore.resolve_right (of_decide_eq_false hstarts)
      have hpos := h.toSpelled.pos_of_empty (.inl hs) hempty hcursor
      exact { hspelled with
        waiting := by rw [hmode]; nofun
        complete := by rw [hmode]; nofun
        missing := fun _ => ⟨.inl (by rw [hl]; exact hempty), hpos⟩ }

/-- A parameter that is complete or missing leaves nothing of its characters. -/
theorem empty_of_settles (hs : Settles s t) :
    t.awaiting.literal = .empty ∧ t.mode ≠ .gotNumber ∧ t.mode ≠ .noNumber := by
  refine ⟨by cases hs <;> rfl, ?_, mode_ne_noNumber_of_settles hs⟩
  rcases mode_of_settles hs with h | h | h <;> rw [h] <;> nofun

/-- **A turn collects at most the character at the cursor.** -/
theorem collected_turn (h : Collected s) (ha : Addressed s) (hsteady : Steady s)
    (hd : s.isDone = false) (e : s.turn = .ok t) : Collected t := by
  have hidle : s.mode.isParameter = false → s.awaiting.literal = .empty :=
    fun hm => congrArg Awaiting.literal (ha.idle hm)
  rcases turn_cases hd e with ⟨-, c, u, hc, hm, rfl⟩ | ⟨-, -, u, hs, rfl⟩
  · cases hm with
    | quiet hl =>
        have hmode := isParameter_of_leads hl
        refine .of_empty (hidle (not_isParameter_of_leads hl)) ?_ ?_ <;>
          (rintro rfl; cases hmode)
    | iteration hk =>
        refine .of_empty (hidle ?_) nofun nofun
        rcases hk with ⟨hk, -⟩ | ⟨hk, -⟩ <;> rw [hk] <;> rfl
    | document hk => exact .of_empty (hidle (by rw [hk]; rfl)) nofun nofun
    | endFrame hk => exact .of_empty (hidle (by rw [hk]; rfl)) nofun nofun
    | addFrame => exact .of_empty rfl nofun nofun
    | addWrite => exact .of_empty rfl nofun nofun
    | head _ _ _ hm =>
        rcases hm with ⟨-, rfl⟩ | ⟨-, rfl⟩ <;> exact .of_empty rfl nofun nofun
    | gather hm =>
        rcases hm with ⟨hs, hsep, rfl⟩ | ⟨hs, -, rfl⟩
        · have hsemi : c ≠ ';' := fun hsemi => hsep (upper_eq_semicolon.mpr hsemi)
          exact h.gather_number hsteady hc hs hsemi rfl (literal_gather s c)
            (by rw [← literal_gather]; rfl)
        · exact ⟨h.toSpelled.gather hsteady hc (.inr hs) rfl (literal_gather s c), nofun, nofun,
            nofun⟩
    | finish _ hm =>
        have hl : s.markStart.awaiting.literal = s.awaiting.literal :=
          congrArg Awaiting.literal (markStart_awaiting s)
        rcases hm with ⟨hs, rfl⟩ | ⟨-, -, rfl⟩
        · exact h.finish_number hs rfl hl rfl
        · exact ⟨h.toSpelled.finish rfl hl nofun, nofun, nofun, nofun⟩
    | settle hs =>
        obtain ⟨hl, hgot, hno⟩ := empty_of_settles hs
        exact .of_empty hl hgot hno
  · obtain ⟨hl, hgot, hno⟩ := empty_of_settles hs
    exact .of_empty hl hgot hno

/-! ### Every state of a scan -/

/-- What is awaited and what was collected of it, between two turns on a text. -/
structure Orderly (t : Text) (s : Scanner) : Prop where
  /-- Outside of parameters none is pending and there is no target and no literal. -/
  idle : s.mode.isParameter = false → s.awaiting = ⟨0, none, ⟨[], none, false⟩⟩
  pending : s.mode.isParameter = true → s.awaiting.pending = 1 ∨ s.awaiting.pending = 2
  target : s.mode.isParameter = true → ∃ a, s.awaiting.target = some a ∧ s.IsNewest a
  /-- A literal that starts nowhere has no characters. -/
  blank : s.awaiting.literal.start = none → s.awaiting.literal.text = []
  /-- The literal starts at the mark and is as much of the text from there on as its length. -/
  slice : ∀ p, s.awaiting.literal.start = some p → p = s.cursor.mark ∧ 0 ≤ p ∧
    s.awaiting.literal.text = (t.drop p.toNat).take s.awaiting.literal.text.length
  quoted : s.awaiting.literal.quoted = true ↔ s.awaiting.literal.text.count '"' % 2 = 1
  waiting : s.mode = .waitNumber →
    s.awaiting.literal.text = [] ∨ s.awaiting.literal.text.head? = some '0'
  complete : s.mode = .gotNumber →
    s.awaiting.literal.text.head? = some '0' ∧ ';' ∉ s.awaiting.literal.text
  missing : s.mode = .noNumber →
    (s.awaiting.literal.text = [] ∨ ∃ c, c ≠ '0' ∧ s.awaiting.literal.text = [c]) ∧
      s.cursor.pos = s.cursor.mark + 1
  begun : s.mode = .letterK → s.previous = 'k' ∨ s.previous = 'K'

/-- Only a K begins a frame token, in either case. -/
theorem Steady.previous_of_letterK (h : Steady s) (hm : s.mode = .letterK) :
    s.previous = 'k' ∨ s.previous = 'K' := by
  obtain ⟨-, -, -, hleading⟩ := h.begun (by rw [hm]; rfl)
  rw [hm] at hleading
  have hupper : upper s.previous = ['K'] := by
    unfold Mode.ofLeading? at hleading
    split at hleading <;> cases hleading
    assumption
  exact (eq_or_eq_of_upper hupper rfl).symm

/-- What is told and noted does not matter. -/
theorem Orderly.told {x u : Text} {l : List Note} (h : Orderly x s) :
    Orderly x { s with trace := u, notes := l } :=
  ⟨h.idle, h.pending, fun hm => (h.target hm).imp fun _ ha => ⟨ha.1, ha.2.congr rfl rfl⟩, h.blank,
    h.slice, h.quoted, h.waiting, h.complete, h.missing, h.begun⟩

/-- Outside of parameters the frames do not matter either. -/
theorem Orderly.closeFrame {x : Text} (h : Orderly x s) (hm : s.mode.isParameter = false)
    (i : Nat) : Orderly x (s.closeFrame i) :=
  ⟨h.idle, h.pending, fun hp => absurd hp (by show ¬s.mode.isParameter = true; simp [hm]), h.blank,
    h.slice, h.quoted, h.waiting, h.complete, h.missing, h.begun⟩

/-- Between its turns every scan is orderly. -/
theorem orderly_of_mem_states {honourRadix : Bool} {t : Text} (hs : s ∈ states honourRadix t) :
    Orderly t s := by
  have hkept : Sound s ∧ Addressed s ∧ Collected s :=
    keep_states (P := fun u => Sound u ∧ Addressed u ∧ Collected u)
      (fun _ _ hd e h => ⟨sound_turn h.1 hd e, addressed_turn h.2.1 h.1.framed hd e,
        collected_turn h.2.2 h.2.1 h.1.steady hd e⟩)
      ⟨sound_start honourRadix t, addressed_start honourRadix t, collected_start honourRadix t⟩ hs
  obtain ⟨hsound, haddressed, hcollected⟩ := hkept
  have htext : s.cursor.text = t := congrArg Array.toList (chars_of_mem_states hs)
  exact
    { idle := haddressed.idle
      pending := haddressed.pending
      target := haddressed.target
      blank := hcollected.spells.blank
      slice := htext ▸ hcollected.spells.slice
      quoted := by rw [hsound.headed.quoted, oddQuotes, decide_eq_true_eq]
      waiting := fun hm => (hcollected.waiting hm).1
      complete := hcollected.complete
      missing := hcollected.missing
      begun := hsound.steady.previous_of_letterK }

/-- **What is awaited and collected, in every state of a scan**, of any text and with radices
honoured or not: between its turns, at the end of a scan that succeeds, and where a scan fails.
Outside of parameters nothing is awaited.  In them one parameter or two are, for the last frame, the
last channel write of the last frame, or the head of the document.  The characters of a parameter
are a piece of the text that starts at the mark, and it is known whether a double quote is open
among them.  A number that is complete starts with a zero and has no semicolon; one that is missing
was no character or another one than a zero, and the cursor is one behind the mark.  A frame token
was begun by a small or a capital K. -/
theorem scan_orderly (honourRadix : Bool) (t : Text) :
    (∀ s ∈ states honourRadix t, Orderly t s) ∧
    (∀ s, scan honourRadix t = .ok s → Orderly t s) ∧
    ∀ h, scan honourRadix t = .error h → Orderly t h.scanner := by
  refine ⟨fun s hs => orderly_of_mem_states hs, fun s e => ?_, fun h e => ?_⟩
  · obtain ⟨u, hu, -, rfl⟩ := last_of_scan_ok e
    exact (orderly_of_mem_states (List.mem_of_getLast? hu)).told
  · obtain ⟨u, hu, hd, ht⟩ := last_of_scan_error e
    have hs := List.mem_of_getLast? hu
    have ho := orderly_of_mem_states hs
    cases (sound_of_mem_states hs).fails_of_turn hd ht with
    | misread => exact ho.told
    | unread => exact ho
    | untold hm => exact (ho.closeFrame (by rw [hm]; rfl) _).told

end Scanner

end StageCues
