import StageCues.Folder
import StageCues.Proofs.Source.Layout

/-!
# Source — line ends of a file

The universal mode turns every carriage return of a file, with or without a line feed after it, into
a line feed; the other modes leave the text as it is.  Outside of double quotes a carriage return
and a line feed are both blanks and go, so the mode matters only for a carriage return that stands
inside of double quotes: exactly then another text is left (`compact_unify_eq_iff`).

The bytes of a file are decoded first and its line ends are read after that (`fileText_newline`), so
a file without such a carriage return is read as one and the same under every mode
(`Reading.ofFile_newline`).
-/

namespace StageCues

open Text

variable {q : Bool} {t : Text}

namespace NewlineMode

theorem unify_other {c : Char} (hc : c ≠ '\r') (t : Text) : unify (c :: t) = c :: unify t :=
  unify.eq_4 c t (fun _ h => absurd h hc) hc

/-- Every carriage return becomes something else. -/
theorem return_not_mem_unify (t : Text) : '\r' ∉ unify t := by
  induction t using unify.induct with
  | case1 => exact List.not_mem_nil
  | case2 t ih => simpa [unify] using ih
  | case3 t ht ih =>
      rw [unify.eq_3 t ht]
      simpa using ih
  | case4 c t _ hc ih =>
      rw [unify_other hc]
      simpa [Ne.symm hc] using ih

end NewlineMode

/-! ### What is left of line ends -/

/-- What is left of a text is part of it. -/
theorem compactFrom_sublist (q : Bool) (t : Text) : (compactFrom q t).Sublist t := by
  induction t generalizing q with
  | nil => exact .slnil
  | cons c t ih =>
      by_cases h : isBlank c = true ∧ q = false
      · obtain ⟨hb, rfl⟩ := h
        rw [compactFrom_blank hb]
        exact (ih false).cons c
      · rw [compactFrom_keep h]
        exact (ih _).cons_cons c

/-- A carriage return is left of a text exactly if it stands inside of double quotes. -/
theorem return_mem_compactFrom (q : Bool) (t : Text) :
    '\r' ∈ compactFrom q t ↔ ∃ a b, t = a ++ '\r' :: b ∧ (q ^^ oddQuotes a) = true := by
  constructor
  · intro h
    induction t generalizing q with
    | nil => exact absurd h List.not_mem_nil
    | cons c t ih =>
        by_cases hc : isBlank c = true ∧ q = false
        · obtain ⟨hb, rfl⟩ := hc
          rw [compactFrom_blank hb] at h
          obtain ⟨a, b, rfl, ha⟩ := ih false h
          exact ⟨c :: a, b, rfl, by rw [oddQuotes_split, oddQuotes_blank hb, Bool.false_xor, ha]⟩
        · rw [compactFrom_keep hc] at h
          rcases List.mem_cons.mp h with rfl | h
          · have hq : q = true := by simpa [isBlank_return] using hc
            exact ⟨[], t, rfl, by rw [hq]; rfl⟩
          · obtain ⟨a, b, rfl, ha⟩ := ih _ h
            exact ⟨c :: a, b, rfl, by rw [oddQuotes_split, ← Bool.xor_assoc, ha]⟩
  · rintro ⟨a, b, rfl, ha⟩
    have hkeep : ¬(isBlank '\r' = true ∧ (q ^^ oddQuotes a) = false) := by simp [ha]
    rw [compactFrom_append, compactFrom_keep hkeep]
    exact List.mem_append_right _ List.mem_cons_self

/-- Where a carriage return is not left, nothing is inside of double quotes. -/
theorem outside_of_return (h : '\r' ∉ compactFrom q ('\r' :: t)) : q = false := by
  rw [← Bool.not_eq_true]
  rintro rfl
  rw [compactFrom_keep (by simp)] at h
  exact h List.mem_cons_self

/-- Outside of double quotes, line ends go in whichever way they are put. -/
theorem compactFrom_unify (h : '\r' ∉ compactFrom q t) :
    compactFrom q (NewlineMode.unify t) = compactFrom q t := by
  induction t using NewlineMode.unify.induct generalizing q with
  | case1 => rfl
  | case2 t ih =>
      obtain rfl := outside_of_return h
      rw [compactFrom_blank isBlank_return, compactFrom_blank isBlank_newline] at h ⊢
      rw [NewlineMode.unify, compactFrom_blank isBlank_newline, ih h]
  | case3 t ht ih =>
      obtain rfl := outside_of_return h
      rw [compactFrom_blank isBlank_return] at h ⊢
      rw [NewlineMode.unify.eq_3 t ht, compactFrom_blank isBlank_newline, ih h]
  | case4 c t _ hc ih =>
      rw [NewlineMode.unify_other hc]
      by_cases hb : isBlank c = true ∧ q = false
      · obtain ⟨hb, rfl⟩ := hb
        rw [compactFrom_blank hb] at h ⊢
        rw [compactFrom_blank hb, ih h]
      · rw [compactFrom_keep hb] at h ⊢
        rw [compactFrom_keep hb, ih fun hmem => h (List.mem_cons_of_mem c hmem)]

/-- **Line ends matter only inside of double quotes.**  The same is left of a text and of the text
with every line end as a line feed exactly if each carriage return has an even number of double
quotes before it. -/
theorem compact_unify_eq_iff :
    compact (NewlineMode.unify t) = compact t ↔
      ∀ a b, t = a ++ '\r' :: b → oddQuotes a = false := by
  have hleft : '\r' ∉ compact t ↔ ∀ a b, t = a ++ '\r' :: b → oddQuotes a = false := by
    unfold compact
    simp only [return_mem_compactFrom, Bool.false_xor, not_exists, not_and, Bool.not_eq_true]
  rw [← hleft]
  constructor
  · intro h hmem
    rw [← h] at hmem
    exact NewlineMode.return_not_mem_unify t ((compactFrom_sublist false _).subset hmem)
  · exact compactFrom_unify

/-! ### Files -/

/-- The names of the line end modes. -/
def newlineNames : List (Option Text) := [none, some "", some "\n", some "\r", some "\r\n"]

theorem decodeFile_mode (e : Encoding) (policy : DamagePolicy) (mode : NewlineMode) (bs : Bytes) :
    decodeFile e policy mode bs = mode.apply <$> decodeFile e policy .verbatim bs := by
  unfold decodeFile
  cases policy.resolve (e.pieces bs) <;> rfl

/-- **Line ends are read after everything else.**  The text of a file under a mode is the text that
it has as it stands, under that mode. -/
theorem fileText_newline (settings : FileSettings) (content : Except Fault Bytes)
    {newline : Option Text} (h : newline ∈ newlineNames) :
    ∃ mode : NewlineMode, fileText { settings with newline := newline } content =
      mode.apply <$> fileText { settings with newline := some "" } content := by
  obtain ⟨mode, hmode, hnull⟩ : ∃ mode, NewlineMode.ofName? newline = some mode ∧
      hasNull (newline.getD []) = false := by
    simp only [newlineNames, List.mem_cons, List.not_mem_nil, or_false] at h
    rcases h with rfl | rfl | rfl | rfl | rfl <;> exact ⟨_, rfl, rfl⟩
  refine ⟨mode, ?_⟩
  unfold fileText FileSettings.holdsNull
  simp only [hmode, hnull]
  cases settings.encoding.hasNull || settings.damage.hasNull with
  | true => rfl
  | false =>
      cases content with
      | error f => rfl
      | ok bytes =>
          cases Encoding.ofName? settings.encoding with
          | none => rfl
          | some e => exact decodeFile_mode e _ mode bytes

namespace NewlineMode

/-- What is left of a text under any mode. -/
theorem compact_apply {t : Text} (h : ∀ a b, t = a ++ '\r' :: b → oddQuotes a = false)
    (mode : NewlineMode) : compact (mode.apply t) = compact t := by
  cases mode with
  | universal => exact compact_unify_eq_iff.mpr h
  | _ => rfl

end NewlineMode

/-- **A line end mode matters only inside of double quotes.**  If the bytes of a file stand for a
text in which each carriage return has an even number of double quotes before it, the file is read
alike, or misread alike at the same position, under all of the line end modes: just as the text is
read as it stands. -/
theorem Reading.ofFile_newline {settings : FileSettings} {content : Except Fault Bytes} {t : Text}
    (ht : fileText { settings with newline := some "" } content = .ok t)
    (hquotes : ∀ a b, t = a ++ '\r' :: b → oddQuotes a = false) (honourRadix : Bool) :
    ∀ newline ∈ newlineNames,
      ofFile { settings with newline := newline } honourRadix content = ofSource honourRadix t := by
  intro newline hnewline
  obtain ⟨mode, hmode⟩ := fileText_newline settings content hnewline
  rw [ht] at hmode
  have hread : ofFile { settings with newline := newline } honourRadix content =
      ofSource honourRadix (mode.apply t) := by
    unfold ofFile
    rw [hmode]
    rfl
  rw [hread, ofSource, ofSource, NewlineMode.compact_apply hquotes]

/-- A line feed inside of double quotes and line ends of every sort outside of them; the second
frame start is misread. -/
theorem Reading.ofFile_newline_mixed :
    ∃ (bytes : Bytes) (t : Text), t = "X!X+\"a\nb\";\r\r\"\";\r\nKF\rKF".toList ∧
      bytes = t.map (fun c => UInt8.ofNat c.toNat) ∧
      fileText { FileSettings.usual with newline := some "" } (.ok bytes) = .ok t ∧
      (∀ a b, t = a ++ '\r' :: b → oddQuotes a = false) ∧
      ∀ newline ∈ newlineNames,
        ofFile { FileSettings.usual with newline := newline } true (.ok bytes) =
          .error (.misread .frameAlreadyOpen 16) := by
  refine ⟨_, _, rfl, rfl, ?_⟩
  have hquotes := (compact_unify_eq_iff (t := "X!X+\"a\nb\";\r\r\"\";\r\nKF\rKF")).mp (by decide)
  have htext : fileText { FileSettings.usual with newline := some "" }
      (.ok ("X!X+\"a\nb\";\r\r\"\";\r\nKF\rKF".toList.map fun c => UInt8.ofNat c.toNat)) =
        .ok "X!X+\"a\nb\";\r\r\"\";\r\nKF\rKF".toList := rfl
  refine ⟨htext, hquotes, fun newline hnewline => ?_⟩
  rw [ofFile_newline htext hquotes true newline hnewline]
  rfl

end StageCues
