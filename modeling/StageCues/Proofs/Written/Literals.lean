import StageCues.Proofs.Forward.Parameters
import StageCues.Proofs.Scan.Trail
import StageCues.Proofs.Written.Heads

/-!
# Written — which texts are read back

Any text can be written as a literal, but not every text is received from what is written.  The
scanner stops at the first semicolon outside of double quotes, so the literal ends too early, or too
late, or never, unless the text is quotable (`cutText_textLiteral_iff`).

`Delivers` is the first parameter that a run delivers, and where the run is then.  For a text it is
the one that the forward reader cuts off (`delivers_text`), and `delivers_textLiteral_iff` says
which texts are delivered from their literals.
-/

namespace StageCues

open Text

namespace Text

/-- A text is quotable when it has an even number of double quotes, and an even number of them
before each of its semicolons. -/
theorem quotable_iff_count {u : Text} : quotable u = true ↔
    u.count '"' % 2 = 0 ∧ ∀ a b, u = a ++ ';' :: b → a.count '"' % 2 = 0 := by
  have heven : ∀ x : Text, oddQuotes x = false ↔ x.count '"' % 2 = 0 := by
    intro x
    rw [oddQuotes, decide_eq_false_iff_not]
    omega
  simp only [quotable_iff, heven]

end Text

theorem textLiteral_append (u t : Text) : textLiteral u ++ t = '"' :: (u ++ ['"']) ++ ';' :: t := by
  simp [textLiteral]

theorem length_textLiteral (u : Text) : (textLiteral u).length = u.length + 3 := by
  simp [textLiteral]

namespace Forward

/-- **The literal of a text is cut off whole if and only if the text is quotable.** -/
theorem cutText_textLiteral_iff {u t : Text} :
    cutText false (textLiteral u ++ t) = some ('"' :: (u ++ ['"']), t) ↔ quotable u = true := by
  constructor
  · intro h
    obtain ⟨-, hguarded, hodd⟩ := cutText_eq_some_iff.mp h
    rw [Bool.false_xor, oddQuotes_cons, oddQuotes_concat] at hodd
    have hinner : guarded true (u ++ ['"']) = true := hguarded
    rw [guarded_append, Bool.and_eq_true] at hinner
    have heven : oddQuotes u = false := by simpa using hodd
    rw [quotable, heven, hinner.1]
    rfl
  · intro h
    rw [← Spelt.Word.text_written h]
    exact cutText_word (Spelt.Word.written u h) t

end Forward

namespace Scanner

/-- The first parameter that the run of a scanner delivers, and the scanner behind the turn that
does so. -/
inductive Delivers : Scanner → Parameter → Scanner → Prop where
  | now {s u : Scanner} {p : Parameter} {m : Mode} :
      s.complete? = some (p, m) → s.turn = .ok u → Delivers s p u
  | later {s t u : Scanner} {p : Parameter} :
      s.isDone = false → s.complete? = none → s.turn = .ok t → Delivers t p u → Delivers s p u

variable {radix : Bool} {size : Nat} {r : Reading} {t : Text} {s u v : Scanner} {c : Char}
  {p : Parameter} {a : Address}

theorem complete?_waitText (h : s.mode = .waitText) : s.complete? = none := by
  unfold complete?
  rw [h]

/-- Without a complete parameter the run delivers what it delivers one turn later. -/
theorem delivers_iff_of_turn (hd : s.isDone = false) (hc : s.complete? = none)
    (e : s.turn = .ok u) : s.Delivers p v ↔ u.Delivers p v := by
  refine ⟨fun h => ?_, .later hd hc e⟩
  cases h with
  | now hp => rw [hc] at hp; cases hp
  | later _ _ e' h =>
      rw [e] at e'
      cases e'
      exact h

/-- A complete parameter is delivered in the next turn. -/
theorem delivers_iff_of_complete {q : Parameter} {m : Mode} (hc : s.complete? = some (q, m))
    (e : s.turn = .ok u) : s.Delivers p v ↔ p = q ∧ v = u := by
  constructor
  · intro h
    cases h with
    | now hp e' =>
        rw [hc] at hp
        rw [e] at e'
        cases hp
        cases e'
        exact ⟨rfl, rfl⟩
    | later _ hp => rw [hc] at hp; cases hp
  · rintro ⟨rfl, rfl⟩
    exact .now hc e

/-- A scanner with nothing left to do delivers nothing. -/
theorem not_delivers_of_isDone (hd : s.isDone = true) (hc : s.complete? = none) :
    ¬s.Delivers p v := by
  intro h
  cases h with
  | now hp => rw [hc] at hp; cases hp
  | later hd' => rw [hd] at hd'; cases hd'

/-- The recipient stays the same while characters are collected. -/
theorem recipient_kept (h : s.recipient = .ok a) (ht : u.awaiting.target = s.awaiting.target)
    (hf : u.frames = s.frames) : u.recipient = .ok a := by
  unfold recipient at h ⊢
  rw [ht]
  cases htarget : s.awaiting.target with
  | some b => rwa [htarget] at h
  | none =>
      rw [htarget] at h
      cases ho : s.openFrame with
      | error k => rw [ho] at h; cases h
      | ok i =>
          have hu : u.openFrame = .ok i := by
            unfold openFrame
            rw [hf, openFrame_eq_ok ho]
          rw [ho] at h
          rw [hu]
          exact h

/-- **The text that is delivered is the one that the forward reader cuts off**, and without a cut
none is delivered. -/
theorem delivers_text (h : Stands radix size r t s) (hm : s.mode = .waitText)
    (ha : s.recipient = .ok a)
    (hk : s.awaiting.literal.start ≠ none → s.cursor.mark ≤ s.cursor.pos) :
    match Forward.cutText s.awaiting.literal.quoted t with
    | none => ∀ p v, ¬s.Delivers p v
    | some (l, rest) => ∃ u,
        (∀ p v, s.Delivers p v ↔
          p = .text (stripQuotes (s.awaiting.literal.text ++ l)) ∧ v = u) ∧
        Stands radix size
          (r.give (.text (stripQuotes (s.awaiting.literal.text ++ l))) a) rest u := by
  induction t generalizing s with
  | nil =>
      have hdone : s.isDone = true := by
        simp [isDone, h.atEnd_nil, hm, Mode.isPending]
      exact fun p v => not_delivers_of_isDone hdone (complete?_waitText hm)
  | cons c t ih =>
      unfold Forward.cutText
      by_cases hc : c = ';' ∧ s.awaiting.literal.quoted = false
      · obtain ⟨rfl, hq⟩ := hc
        rw [if_pos ⟨rfl, hq⟩]
        obtain ⟨u, hu, hst, hum, haw, hk'⟩ := turn_endLiteral h hk (react_endText hm hq)
        have hcomplete : u.complete? =
            some (.text (stripQuotes (s.awaiting.literal.text ++ [])), .waitText) := by
          unfold complete?
          rw [hum, haw, List.append_nil]
          rfl
        have hr := recipient_kept ha (congrArg Awaiting.target haw)
          (congrArg Reading.frames (hst.reading.trans h.reading.symm))
        obtain ⟨-, w, hw, hst', -⟩ := turn_deliver hst hcomplete hr hk'
        exact ⟨w, fun p v => (delivers_iff_of_turn h.isDone (complete?_waitText hm) hu).trans
          (delivers_iff_of_complete hcomplete hw), hst'⟩
      · rw [if_neg hc]
        obtain ⟨u, hu, hst, hum, haw, hk'⟩ := turn_gather h hk (react_text hm hc)
        have hturn := fun p v =>
          delivers_iff_of_turn (p := p) (v := v) h.isDone (complete?_waitText hm) hu
        have hr := recipient_kept ha (by rw [haw]; rfl)
          (congrArg Reading.frames (hst.reading.trans h.reading.symm))
        have hih := ih hst hum hr fun _ => hk'
        have hq : u.awaiting.literal.quoted =
            if c = '"' then !s.awaiting.literal.quoted else s.awaiting.literal.quoted := by
          rw [haw]
          simp [Awaiting.gather, Literal.push]
        have htext : u.awaiting.literal.text = s.awaiting.literal.text ++ [c] := by
          rw [haw]
          rfl
        rw [hq, htext] at hih
        cases hcut : Forward.cutText
            (if c = '"' then !s.awaiting.literal.quoted else s.awaiting.literal.quoted) t with
        | none =>
            rw [hcut] at hih
            exact fun p v hv => hih p v ((hturn p v).mp hv)
        | some q =>
            rw [hcut] at hih
            obtain ⟨w, hw, hst'⟩ := hih
            rw [List.append_assoc, List.singleton_append] at hw hst'
            exact ⟨w, fun p v => (hturn p v).trans (hw p v), hst'⟩

/-- **Exactly the quotable texts are read back from their literals.**  A scanner that awaits a text
has collected nothing yet, and its cursor is in front of the literal of the text, whatever stands
before and behind.  It delivers the text, and is right behind the literal then, if and only if the
text has an even number of double quotes and an even number of them before each of its semicolons.
Whatever it delivers is given to the recipient, and nothing else is built. -/
theorem delivers_textLiteral_iff {front u rest : Text} (hm : s.mode = .waitText)
    (hl : s.awaiting.literal = .empty) (ha : s.recipient = .ok a)
    (htext : s.cursor.text = front ++ (textLiteral u ++ rest))
    (hpos : s.cursor.pos = front.length) :
    ((∃ v, s.Delivers (.text u) v ∧ v.cursor.pos = s.cursor.pos + (u.length + 3)) ↔
      u.count '"' % 2 = 0 ∧ ∀ b d, u = b ++ ';' :: d → b.count '"' % 2 = 0) ∧
    ∀ p v, s.Delivers p v → Reading.ofScanner v = (Reading.ofScanner s).give p a := by
  have hst : Stands s.honourRadix s.cursor.chars.size (.ofScanner s) (textLiteral u ++ rest) s :=
    ⟨rfl, rfl, rfl, front, htext, hpos⟩
  have hstart := hst.pos_eq
  rw [List.length_append, length_textLiteral] at hstart
  have hdelivers := delivers_text hst hm ha fun hs => absurd (by rw [hl]; rfl) hs
  have hquoted : s.awaiting.literal.quoted = false := by rw [hl]; rfl
  have hblank : s.awaiting.literal.text = [] := by rw [hl]; rfl
  rw [hquoted, hblank] at hdelivers
  rw [← quotable_iff_count, ← Forward.cutText_textLiteral_iff (t := rest)]
  cases hcut : Forward.cutText false (textLiteral u ++ rest) with
  | none =>
      rw [hcut] at hdelivers
      exact ⟨⟨fun ⟨v, hv, _⟩ => absurd hv (hdelivers _ v), nofun⟩,
        fun p v hv => absurd hv (hdelivers p v)⟩
  | some q =>
      obtain ⟨l, behind⟩ := q
      rw [hcut] at hdelivers
      obtain ⟨w, hw, hstw⟩ := hdelivers
      have hend := hstw.pos_eq
      refine ⟨⟨fun ⟨v, hv, hpast⟩ => ?_, fun h => ?_⟩, fun p v hv => ?_⟩
      · obtain ⟨-, rfl⟩ := (hw _ v).mp hv
        -- as much of the text is left as there is behind the literal, so the cut is at its end
        have hleft : rest.length = behind.length := by omega
        obtain ⟨hwhole, -, -⟩ := Forward.cutText_eq_some_iff.mp hcut
        rw [textLiteral_append] at hwhole
        obtain ⟨hsame, hbehind⟩ := List.append_inj' hwhole (congrArg (· + 1) hleft)
        cases hbehind
        rw [← hsame]
      · cases h
        refine ⟨w, (hw _ w).mpr ⟨congrArg Parameter.text (stripQuotes_enclosed u).symm, rfl⟩, ?_⟩
        omega
      · obtain ⟨rfl, rfl⟩ := (hw p v).mp hv
        exact hstw.reading

/-- A title with semicolons outside of its own double quotes is delivered to the head. -/
theorem delivers_title :
    let u : Text := "a;\"b\"c;"
    ∃ s ∈ states true "X!X+\"a;\"b\"c;\";KF",
      s.mode = .waitText ∧ s.awaiting.literal = .empty ∧ s.recipient = .ok .head ∧
      s.cursor.text = "X!X+" ++ (textLiteral u ++ "KF") ∧ s.cursor.pos = 4 ∧
      ∃ v, s.Delivers (.text u) v ∧ v.cursor.pos = 14 ∧
        v.document = some ⟨some (.leaf (.linkedHead .empty u .blank true)), none⟩ := by
  intro u
  let s : Scanner :=
    { start true "X!X+\"a;\"b\"c;\";KF" with
      cursor := ⟨("X!X+\"a;\"b\"c;\";KF" : Text).toArray, 4, 0⟩
      mode := .waitText
      previous := '+'
      awaiting := .expect 2 (some .head)
      document := some ⟨some (.leaf .newLinkedHead), none⟩
      trace := "Document\nTitle\n" }
  have hmem : (states true "X!X+\"a;\"b\"c;\";KF")[4]? = some s := rfl
  have hrecipient : s.recipient = .ok .head := rfl
  have htext : s.cursor.text = "X!X+" ++ (textLiteral u ++ "KF") := rfl
  have hpos : s.cursor.pos = ("X!X+" : Text).length := rfl
  obtain ⟨hread, hgiven⟩ := delivers_textLiteral_iff rfl rfl hrecipient htext hpos
  obtain ⟨v, hv, hend⟩ := hread.mpr (quotable_iff_count.mp (by decide))
  exact ⟨s, List.mem_of_getElem? hmem, rfl, rfl, hrecipient, htext, hpos, v, hv, hend,
    congrArg Reading.document (hgiven _ v hv)⟩

end Scanner

end StageCues
