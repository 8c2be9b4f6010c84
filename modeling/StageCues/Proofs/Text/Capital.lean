import StageCues.Text.Upper

/-!
# Text — which characters have an ASCII capital

Upper casing leads into ASCII from outside twice: the dotless i has the capital `I` and the long s
the capital `S`.  So a character of which the capital is another ASCII character (`isSole`) is that
character in one of its two cases (`eq_or_eq_of_upper`), and one of which the capital is no letter
is that character itself (`upper_eq_iff`).
-/

namespace StageCues.Text

/-- A run of capitals stays outside of ASCII, or is one of the two characters with an ASCII
capital. -/
theorem capitalRuns_wide : ∀ r ∈ capitalRuns, 0x80 ≤ (r.1 : Int) + r.2.2.2 ∨
    r.1 = r.2.1 ∧ ((r.1 : Int) + r.2.2.2 = 'I'.toNat ∨ (r.1 : Int) + r.2.2.2 = 'S'.toNat) := by
  decide +kernel

theorem longCapitals_long : ∀ e ∈ longCapitals, 2 ≤ e.2.length := by decide +kernel

/-- The code of the capital of a character outside ASCII. -/
theorem capitalShift_wide {n : Nat} (h : 0x80 ≤ n) :
    0x80 ≤ n + capitalShift n ∨ n + capitalShift n = 'I'.toNat ∨
      n + capitalShift n = 'S'.toNat := by
  unfold capitalShift
  split
  · next r hr =>
    have hm := List.mem_of_find?_eq_some hr
    have hp := List.find?_some hr
    simp only [Bool.and_eq_true, decide_eq_true_eq] at hp
    obtain ⟨⟨h₁, h₂⟩, -⟩ := hp
    rcases capitalRuns_wide r hm with h' | ⟨he, h'⟩
    · exact .inl (by omega)
    · have : n = r.1 := by omega
      subst this
      exact .inr h'
  · exact .inl (by omega)

/-- A code outside ASCII is that of a character outside ASCII, or of no character. -/
theorem ofNat_wide {n : Nat} (h : 0x80 ≤ n) :
    0x80 ≤ (Char.ofNat n).toNat ∨ Char.ofNat n = '\x00' := by
  unfold Char.ofNat
  by_cases hv : n.isValidChar
  · rw [dif_pos hv]
    exact .inl h
  · rw [dif_neg hv]
    exact .inr rfl

/-- Whether the character is an ASCII character that none outside ASCII has for its capital. -/
def isSole (d : Char) : Bool := d.toNat < 0x80 && d ≠ 'I' && d ≠ 'S' && d ≠ '\x00'

theorem isSole_iff {d : Char} :
    isSole d = true ↔ d.toNat < 0x80 ∧ d ≠ 'I' ∧ d ≠ 'S' ∧ d ≠ '\x00' := by
  simp [isSole, and_assoc]

/-- The capital of a character outside ASCII is not one of these. -/
theorem not_isSole_of_wideUpper {c d : Char} (hc : 0x80 ≤ c.toNat) (h : wideUpper c = [d]) :
    isSole d = false := by
  rw [← Bool.not_eq_true, isSole_iff]
  rintro ⟨hd, hI, hS, h0⟩
  unfold wideUpper at h
  split at h
  · next e he =>
    have h₁ := longCapitals_long e (List.mem_of_find?_eq_some he)
    have h₂ := congrArg List.length h
    simp only [List.length_map, List.length_singleton] at h₂
    omega
  · simp only [List.cons.injEq, and_true] at h
    rcases capitalShift_wide hc with hw | hw | hw
    · rcases ofNat_wide (n := (c.toNat + capitalShift c.toNat).toNat) (by omega) with h' | h'
      · rw [h] at h'
        omega
      · exact h0 (h.symm.trans h')
    · rw [hw] at h
      exact hI h.symm
    · rw [hw] at h
      exact hS h.symm

/-- A character with such a capital is an ASCII character. -/
theorem toUpper_eq_of_upper {c d : Char} (h : upper c = [d]) (hd : isSole d = true) :
    c.toNat < 0x80 ∧ c.toUpper = d := by
  unfold upper at h
  split at h
  · next hc =>
    simp only [List.cons.injEq, and_true] at h
    exact ⟨hc, h⟩
  · next hc =>
    have hwide := not_isSole_of_wideUpper (by omega) h
    rw [hd] at hwide
    cases hwide

/-- An ASCII character by its code. -/
theorem forall_ascii {P : Char → Prop} (h : ∀ n < 0x80, P (Char.ofNat n)) {c : Char}
    (hc : c.toNat < 0x80) : P c := by
  have := h c.toNat hc
  rwa [Char.ofNat_toNat] at this

/-- A character with a capital letter for its capital, `I` and `S` apart, is that letter or its
small form. -/
theorem eq_or_eq_of_upper {c d : Char} (h : upper c = [d]) (hd : isSole d = true) :
    c = d ∨ c = d.toLower := by
  obtain ⟨hc, rfl⟩ := toUpper_eq_of_upper h hd
  exact forall_ascii (P := fun c => c = c.toUpper ∨ c = c.toUpper.toLower) (by decide) hc

/-- A character without case is the capital of itself alone. -/
theorem upper_eq_iff {c d : Char} (hd : isSole d = true) (hcase : d.toUpper = d ∧ d.toLower = d) :
    upper c = [d] ↔ c = d := by
  obtain ⟨hu, hl⟩ := hcase
  constructor
  · intro h
    rcases eq_or_eq_of_upper h hd with rfl | e
    · rfl
    · rw [e, hl]
  · rintro rfl
    rw [upper_of_ascii (isSole_iff.mp hd).1, hu]

theorem upper_eq_semicolon {c : Char} : upper c = [';'] ↔ c = ';' :=
  upper_eq_iff rfl ⟨rfl, rfl⟩

theorem upper_eq_quote {c : Char} : upper c = ['"'] ↔ c = '"' :=
  upper_eq_iff rfl ⟨rfl, rfl⟩

theorem upper_eq_zero {c : Char} : upper c = ['0'] ↔ c = '0' :=
  upper_eq_iff rfl ⟨rfl, rfl⟩

end StageCues.Text
