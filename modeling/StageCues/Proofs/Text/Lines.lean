import StageCues.Proofs.Text.Numeral

/-!
# Text — lines, and the numbers on them

A text is cut at the first character of a kind that it does not have itself
(`takeWhile_append_cons`).  Texts that are put one below the other can be told apart again, if there
is something in each of them and no line end (`lines_joinWith`).  A whole number in base ten is read
back with its sign, if it is within the limit (`decimal?_decimal`).
-/

namespace StageCues.Text

variable {c : Char} {n : Int} {ts : List Text}

/-- A text is cut at the character it does not have itself. -/
theorem takeWhile_append_cons {c : Char} {l : Text} (h : c ∉ l) (t : Text) :
    (l ++ c :: t).takeWhile (· ≠ c) = l ∧ (l ++ c :: t).dropWhile (· ≠ c) = c :: t := by
  have hl : ∀ d ∈ l, decide (d ≠ c) = true := by
    intro d hd
    exact decide_eq_true fun e => h (e ▸ hd)
  rw [List.takeWhile_append_of_pos hl, List.dropWhile_append_of_pos hl]
  simp

/-- The lines of a text; an empty text has none. -/
def lines (t : Text) : List Text := if t = [] then [] else t.splitOn '\n'

theorem joinWith_eq_intercalate (sep : Text) (ts : List Text) :
    joinWith sep ts = sep.intercalate ts := by
  induction ts with
  | nil => rfl
  | cons t ts ih =>
      cases ts with
      | nil => exact List.intercalate_singleton.symm
      | cons u us => rw [joinWith, ih, List.intercalate_cons_cons]

/-- **Joined texts are the lines of what they are joined to.** -/
theorem lines_joinWith (h : ∀ t ∈ ts, t ≠ [] ∧ '\n' ∉ t) : lines (joinWith "\n" ts) = ts := by
  have hsep : ("\n" : Text) = ['\n'] := rfl
  cases ts with
  | nil => rfl
  | cons t ts =>
      have hne : joinWith "\n" (t :: ts) ≠ [] := by
        cases ts with
        | nil => exact (h t List.mem_cons_self).1
        | cons u us => simp [joinWith, (h t List.mem_cons_self).1]
      rw [lines, if_neg hne, joinWith_eq_intercalate, hsep]
      exact List.splitOn_intercalate '\n' (fun u hu => (h u hu).2) (List.cons_ne_nil t ts)

/-! ### Numbers in base ten -/

/-- The number that a text is in base ten, with a sign if it is negative. -/
def decimal? : Text → Option Int
  | '-' :: t => (strictValue? 10 t).map fun n => -n
  | t => (strictValue? 10 t).map fun n => n

theorem numeral_ne_nil (n : Nat) : numeral 10 n ≠ [] := by
  rcases Nat.lt_or_ge n 10 with h | h
  · rw [numeral_of_lt h]
    exact List.cons_ne_nil _ _
  · rw [numeral_of_le (by decide) h]
    simp

theorem strictValue?_numeral {n : Nat} (h : (numeral 10 n).length ≤ digitLimit) :
    strictValue? 10 (numeral 10 n) = some n := by
  have hread : isReadable 10 (numeral 10 n) = true := by simpa [isReadable] using h
  have hdigits : (numeral 10 n).all (isDigitOf 10) = true :=
    List.all_eq_true.mpr fun c hc => isDigitOf_of_mem_numeral (by decide) (by decide) hc
  rw [strictValue?, if_pos ⟨by decide, by decide, numeral_ne_nil n, hdigits, hread⟩,
    digitsValue_numeral (by decide) (by decide)]

/-- **A whole number is read back.** -/
theorem decimal?_decimal (h : isShort n = true) : decimal? (decimal n) = some n := by
  cases n with
  | negSucc n =>
      have h : (numeral 10 (n + 1)).length ≤ digitLimit := of_decide_eq_true h
      rw [decimal, decimal?, strictValue?_numeral h]
      rfl
  | ofNat n =>
      have h : (numeral 10 n).length ≤ digitLimit := of_decide_eq_true h
      have hsign : ∀ t, numeral 10 n ≠ '-' :: t := by
        intro t ht
        have hdigit : isDigitOf 10 '-' = true :=
          isDigitOf_of_mem_numeral (by decide) (by decide) (ht ▸ List.mem_cons_self)
        exact absurd hdigit (by decide)
      show decimal? (numeral 10 n) = _
      unfold decimal?
      split
      · next t ht => exact absurd ht (hsign t)
      · rw [strictValue?_numeral h]
        rfl

/-- A whole number is put down with digits and a sign. -/
theorem of_mem_decimal (h : c ∈ decimal n) : c = '-' ∨ isDigitOf 10 c = true := by
  cases n with
  | ofNat n => exact .inr (isDigitOf_of_mem_numeral (by decide) (by decide) h)
  | negSucc n =>
      rcases List.mem_cons.mp h with h | h
      · exact .inl h
      · exact .inr (isDigitOf_of_mem_numeral (by decide) (by decide) h)

/-- So it ends no line, and no number that it is the first of. -/
theorem not_mem_decimal (hc : c = '\n' ∨ c = ':') (n : Int) : c ∉ decimal n := by
  intro h
  rcases hc with rfl | rfl <;> exact absurd (of_mem_decimal h) (by decide)

end StageCues.Text
