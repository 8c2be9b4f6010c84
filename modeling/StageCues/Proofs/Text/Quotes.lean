import StageCues.Parameter.Literal

/-!
# Text — double quotes in pairs

A text literal is over at a semicolon outside of double quotes, so of the characters before it only
their double quotes count, and of these only whether they are odd in number (`oddQuotes`).  Taking
one enclosing pair away changes nothing in that (`oddQuotes_stripQuotes`).

`guarded` says that a text goes on at each of its semicolons: all of them stand inside of double
quotes.  A text that is guarded between double quotes, and has its own in pairs, is `quotable`.
-/

namespace StageCues

namespace Text

/-- Whether the text holds an odd number of double quotes. -/
def oddQuotes (t : Text) : Bool := t.count '"' % 2 = 1

/-- Whether all semicolons of the text stand inside of double quotes; `quoted` says that the text
starts inside of them. -/
def guarded (quoted : Bool) : Text → Bool
  | [] => true
  | c :: t => (c ≠ ';' || quoted) && guarded (if c = '"' then !quoted else quoted) t

/-- Whether the text is all of what stands between the double quotes when it is put between two of
them: its own are in pairs, and no semicolon is outside of the ones around it. -/
def quotable (t : Text) : Bool := !oddQuotes t && guarded true t

variable {t a b : Text}

@[simp] theorem oddQuotes_nil : oddQuotes [] = false := rfl

theorem oddQuotes_cons (c : Char) (t : Text) :
    oddQuotes (c :: t) = if c = '"' then !oddQuotes t else oddQuotes t := by
  unfold oddQuotes
  by_cases hc : c = '"'
  · rw [if_pos hc, hc, List.count_cons_self, Bool.eq_iff_iff]
    simp only [Bool.not_eq_true', decide_eq_true_eq, decide_eq_false_iff_not]
    omega
  · rw [if_neg hc, List.count_cons_of_ne hc]

@[simp] theorem oddQuotes_append (t u : Text) :
    oddQuotes (t ++ u) = (oddQuotes t ^^ oddQuotes u) := by
  induction t with
  | nil => rw [List.nil_append, oddQuotes_nil, Bool.false_xor]
  | cons c t ih =>
      rw [List.cons_append, oddQuotes_cons, oddQuotes_cons, ih]
      split
      · rw [Bool.not_xor]
      · rfl

/-- The double quote behind a text changes what it is inside of. -/
theorem oddQuotes_concat (t : Text) (c : Char) :
    oddQuotes (t ++ [c]) = if c = '"' then !oddQuotes t else oddQuotes t := by
  rw [oddQuotes_append, oddQuotes_cons, oddQuotes_nil]
  split
  · rw [Bool.not_false, Bool.xor_true]
  · rw [Bool.xor_false]

/-- A text has no enclosing pair, or it is the pair around the rest. -/
theorem stripQuotes_cases (t : Text) :
    stripQuotes t = t ∨ t = '"' :: (stripQuotes t ++ ['"']) := by
  unfold stripQuotes
  split
  · next h =>
    obtain ⟨hl, hh, hg⟩ := h
    obtain ⟨u, rfl⟩ := List.getLast?_eq_some_iff.mp hg
    cases u with
    | nil => exact absurd hl (by decide)
    | cons c u =>
        obtain rfl := Option.some.inj hh
        rw [List.cons_append, List.tail_cons, List.dropLast_concat]
        exact .inr rfl
  · exact .inl rfl

/-- **One pair around a text is taken away.** -/
theorem stripQuotes_enclosed (t : Text) : stripQuotes ('"' :: (t ++ ['"'])) = t := by
  have hh : ('"' :: (t ++ ['"'])).getLast? = some '"' := by
    rw [← List.cons_append, List.getLast?_concat]
  unfold stripQuotes
  rw [if_pos ⟨by simp, rfl, hh⟩, List.tail_cons, List.dropLast_concat]

/-- Double quotes are taken away in pairs only. -/
theorem oddQuotes_stripQuotes (t : Text) : oddQuotes (stripQuotes t) = oddQuotes t := by
  rcases stripQuotes_cases t with h | h
  · rw [h]
  · have hodd := congrArg oddQuotes h
    rw [oddQuotes_cons, oddQuotes_concat] at hodd
    simpa using hodd.symm

/-- What is left of a text is a part of it. -/
theorem stripQuotes_sublist (t : Text) : (stripQuotes t).Sublist t := by
  have hinner : ∀ u, t = '"' :: (u ++ ['"']) → u.Sublist t := by
    rintro u rfl
    exact (List.sublist_append_left _ _).cons _
  rcases stripQuotes_cases t with h | h
  · exact h.symm ▸ List.Sublist.refl t
  · exact hinner _ h

/-! ### Semicolons -/

/-- A text is guarded when its front is, and its rest behind that. -/
theorem guarded_append (quoted : Bool) (a b : Text) :
    guarded quoted (a ++ b) = (guarded quoted a && guarded (quoted ^^ oddQuotes a) b) := by
  induction a generalizing quoted with
  | nil => rw [List.nil_append, guarded, oddQuotes_nil, Bool.true_and, Bool.xor_false]
  | cons c a ih =>
      rw [List.cons_append, guarded, guarded, ih, oddQuotes_cons, Bool.and_assoc]
      congr 3
      split <;> simp

/-- **A guarded text has each of its semicolons inside of double quotes.** -/
theorem guarded_iff {quoted : Bool} :
    guarded quoted t = true ↔ ∀ a b, t = a ++ ';' :: b → (quoted ^^ oddQuotes a) = true := by
  induction t generalizing quoted with
  | nil => exact ⟨fun _ a b h => absurd h (by simp), fun _ => rfl⟩
  | cons c t ih =>
      rw [guarded, Bool.and_eq_true, ih]
      constructor
      · rintro ⟨hc, ht⟩ a b h
        cases a with
        | nil =>
            obtain ⟨rfl, -⟩ := List.cons.inj h
            simpa using hc
        | cons d a =>
            obtain ⟨rfl, h'⟩ := List.cons.inj h
            have ha := ht a b h'
            rw [oddQuotes_cons]
            split at ha <;> simp_all
      · intro h
        refine ⟨?_, fun a b ht => ?_⟩
        · by_cases hc : c = ';'
          · have := h [] t (by rw [hc]; rfl)
            simpa [hc] using this
          · simp [hc]
        · have ha := h (c :: a) b (by rw [ht]; rfl)
          rw [oddQuotes_cons] at ha
          split at ha <;> simp_all

/-- **A text is quotable when it has an even number of double quotes, and so has the part of it
before each of its semicolons.** -/
theorem quotable_iff :
    quotable t = true ↔ oddQuotes t = false ∧ ∀ a b, t = a ++ ';' :: b → oddQuotes a = false := by
  unfold quotable
  rw [Bool.and_eq_true, guarded_iff, Bool.not_eq_true']
  simp only [Bool.true_xor, Bool.not_eq_true']

/-- A text that is not guarded has a first semicolon outside of double quotes. -/
theorem exists_of_not_guarded {quoted : Bool} (h : guarded quoted t = false) :
    ∃ a b, t = a ++ ';' :: b ∧ guarded quoted a = true ∧ (quoted ^^ oddQuotes a) = false := by
  induction t generalizing quoted with
  | nil => cases h
  | cons c t ih =>
      rw [guarded] at h
      by_cases hc : c = ';' ∧ quoted = false
      · obtain ⟨rfl, rfl⟩ := hc
        exact ⟨[], t, rfl, rfl, rfl⟩
      · have hfirst : (c ≠ ';' || quoted) = true := by
          cases quoted <;> simp_all
        rw [hfirst, Bool.true_and] at h
        obtain ⟨a, b, rfl, ha, ho⟩ := ih h
        refine ⟨c :: a, b, rfl, ?_, ?_⟩
        · rw [guarded, hfirst, ha]
          rfl
        · rw [oddQuotes_cons]
          split at ho <;> simp_all

end Text

end StageCues
