import StageCues.Node.Label
import StageCues.Proofs.Text.Lines

/-!
# Text — labels on one line

A label stays on its line, whatever the node was given: in a quoted text the line ends are escapes
(`newline_not_mem_quoted`), numbers have none, and neither has what is left of a text or a number
whose middle is left out.  Nor do the pieces of a drawing have any, so each line of a drawing is the
line of one node.
-/

namespace StageCues

namespace Text

variable {q c : Char} {w n : Nat}

theorem newline_not_mem_codeHex (w n : Nat) : '\n' ∉ codeHex w n := by
  intro h
  have h : '\n' ∈ List.replicate (w - (Nat.toDigits 16 n).length) '0' ++ Nat.toDigits 16 n := h
  rcases List.mem_append.mp h with h | h
  · exact absurd (List.mem_replicate.mp h).2 (by decide)
  · have hdigit : '\n' ∈ numeral 16 n := List.mem_map.mpr ⟨'\n', h, rfl⟩
    exact absurd (isDigitOf_of_mem_numeral (by decide) (by decide) hdigit) (by decide)

theorem newline_not_mem_codeEscape (c : Char) : '\n' ∉ codeEscape c := by
  unfold codeEscape
  split
  · exact List.not_mem_append (by decide) (newline_not_mem_codeHex 2 _)
  · split
    · exact List.not_mem_append (by decide) (newline_not_mem_codeHex 4 _)
    · exact List.not_mem_append (by decide) (newline_not_mem_codeHex 8 _)

/-- Between quotes a line end is an escape. -/
theorem newline_not_mem_escaped (hq : q ≠ '\n') (c : Char) : '\n' ∉ escaped q c := by
  unfold escaped
  split
  · next h =>
      have hc : '\n' ≠ c := by
        rintro rfl
        rcases h with h | h
        · exact hq h.symm
        · exact absurd h (by decide)
      simp [hc]
  · split
    · decide
    · next hc =>
        split
        · decide
        · split
          · decide
          · split
            · exact fun h => hc (List.mem_singleton.mp h).symm
            · exact newline_not_mem_codeEscape c

/-- **A quoted text stays on its line.** -/
theorem newline_not_mem_quoted (t : Text) : '\n' ∉ quoted t := by
  have hq : quoteFor t ≠ '\n' := by
    unfold quoteFor
    split <;> decide
  intro h
  rcases List.mem_append.mp h with h | h
  · rcases List.mem_cons.mp h with h | h
    · exact hq h.symm
    · obtain ⟨c, -, hc⟩ := List.mem_flatMap.mp h
      exact newline_not_mem_escaped hq c hc
  · exact hq (List.mem_singleton.mp h).symm

/-- What is left of a text stays on its line without what was in the middle. -/
theorem newline_not_mem_ends {t : Text} (h : '\n' ∉ t) (front back : Nat) :
    '\n' ∉ t.take front ++ "..." ++ t.drop back :=
  List.not_mem_append
    (List.not_mem_append (fun hc => h (List.mem_of_mem_take hc)) (by decide))
    fun hc => h (List.mem_of_mem_drop hc)

theorem newline_not_mem_abbreviated (t : Text) : '\n' ∉ abbreviated t := by
  simp only [abbreviated]
  split
  · exact newline_not_mem_quoted _
  · exact newline_not_mem_ends (newline_not_mem_quoted _) _ _

theorem newline_not_mem_abbreviatedMiddle {t : Text} (h : '\n' ∉ t) :
    '\n' ∉ abbreviatedMiddle t := by
  unfold abbreviatedMiddle
  split
  · exact h
  · exact newline_not_mem_ends h _ _

end Text

open Text

theorem newline_not_mem_worded {n : Int} {t : Text} (h : worded n = .ok t) : '\n' ∉ t :=
  (worded_eq_ok.mp h).2 ▸ not_mem_decimal (.inl rfl) n

theorem PlainValue.newline_not_mem_shown {v : PlainValue} {t : Text} (h : v.shown = .ok t) :
    '\n' ∉ t := by
  cases v with
  | text u => exact Except.ok.inj h ▸ newline_not_mem_abbreviated u
  | number n =>
      obtain ⟨u, hu, rfl⟩ := map_eq_ok.mp h
      exact newline_not_mem_abbreviatedMiddle (newline_not_mem_worded hu)
  | truth b => cases b <;> exact Except.ok.inj h ▸ by decide
  | nothing => exact Except.ok.inj h ▸ by decide

/-- What a kind is known by stays on its line. -/
theorem Kind.newline_not_mem_detail {k : Kind} {d : Text} (h : k.detail? = .ok (some d)) :
    '\n' ∉ d := by
  have hhead : ∀ (version : SchemaVersion) (title : PlainValue),
      (do return some ((← worded version.number) ++ " " ++ (← title.shown))) =
        (.ok (some d) : Except Fault (Option Text)) → '\n' ∉ d := by
    intro version title h
    obtain ⟨number, hnumber, h⟩ := bind_eq_ok.mp h
    obtain ⟨shown, hshown, h⟩ := bind_eq_ok.mp h
    obtain rfl := Option.some.inj (Except.ok.inj h)
    simp [newline_not_mem_worded hnumber, title.newline_not_mem_shown hshown]
  cases k with
  | forIteration start target direction closed =>
      obtain ⟨front, hfront, h⟩ := bind_eq_ok.mp h
      obtain ⟨back, hback, h⟩ := bind_eq_ok.mp h
      obtain rfl := Option.some.inj (Except.ok.inj h)
      split <;> simp [newline_not_mem_worded hfront, newline_not_mem_worded hback]
  | keyFrame time empty closed =>
      obtain ⟨number, hnumber, h⟩ := bind_eq_ok.mp h
      obtain rfl := Option.some.inj (Except.ok.inj h)
      cases empty <;> simp [newline_not_mem_worded hnumber]
  | delay mode ms =>
      simp only [detail?] at h
      split at h
      · obtain rfl := Option.some.inj (Except.ok.inj h)
        decide
      · obtain ⟨number, hnumber, h⟩ := bind_eq_ok.mp h
        obtain rfl := Option.some.inj (Except.ok.inj h)
        simp [newline_not_mem_worded hnumber]
  | channelData channel value received =>
      obtain ⟨front, hfront, h⟩ := bind_eq_ok.mp h
      obtain ⟨back, hback, h⟩ := bind_eq_ok.mp h
      obtain rfl := Option.some.inj (Except.ok.inj h)
      simp [newline_not_mem_worded hfront, newline_not_mem_worded hback]
  | head version title => exact hhead version title h
  | predefinedHead version id title versioned => exact hhead version title h
  | linkedHead version title path titled => exact hhead version title h
  | _ => cases h

/-- **A label stays on its line.** -/
theorem Kind.newline_not_mem_label {k : Kind} {count : Nat} {t : Text}
    (h : k.label count = .ok t) : '\n' ∉ t := by
  have hname : '\n' ∉ k.cls.name := by
    generalize k.cls = cls
    cases cls <;> decide
  have hcount : '\n' ∉ childCount count := by
    have hnumber := not_mem_decimal (c := '\n') (.inl rfl) count
    unfold childCount
    split <;> simp [hnumber]
  unfold label at h
  split at h
  · obtain ⟨detail, hdetail, h⟩ := bind_eq_ok.mp h
    obtain rfl := Except.ok.inj h
    have hfront : '\n' ∉ detail.elim [] fun d => " ".toList ++ d := by
      cases detail with
      | none => exact List.not_mem_nil
      | some d => simp [newline_not_mem_detail hdetail]
    have hback : '\n' ∉ if count = 0 then [] else " ".toList ++ childCount count := by
      split <;> simp [hcount]
    have hopening : '\n' ∉ "<elements.".toList ++ k.cls.name :=
      List.not_mem_append (by decide) hname
    exact List.not_mem_append (List.not_mem_append (List.not_mem_append hopening hfront) hback)
      (by decide)
  · obtain rfl := Except.ok.inj h
    simp [hname, hcount]

/-- A frame with a time that is too long has no label. -/
theorem Kind.label_longFrame {d : Int} {empty closed : Bool} (h : isShort d = false) (count : Nat) :
    (Kind.keyFrame d empty closed).label count = .error .tooLong := by
  have hdetail : (Kind.keyFrame d empty closed).detail? = .error .tooLong := by
    simp only [Kind.detail?, worded_of_not_isShort h]
    rfl
  unfold Kind.label
  rw [hdetail]
  rfl
namespace Style

/-- The pieces of a style stay on their line. -/
structure OnLine (style : Style) : Prop where
  stem : ∀ b, '\n' ∉ style.stem b
  tip : ∀ b, '\n' ∉ style.tip b

/-- The pieces of every style do. -/
theorem onLine_of_name {name : Option Text} {style : Style} (h : ofName? name = .ok style) :
    style.OnLine := by
  have hascii : ascii.OnLine := ⟨by decide, by decide⟩
  have hround : round.OnLine := ⟨by decide, by decide⟩
  unfold ofName? at h
  split at h
  · exact Except.ok.inj h ▸ hround
  · exact Except.ok.inj h ▸ hround
  · split at h
    · exact Except.ok.inj h ▸ hascii
    · split at h
      · exact Except.ok.inj h ▸ hround
      · cases h

end Style

end StageCues
