import Mathlib.Data.List.Forall2
import StageCues.Parameter.Literal
import StageCues.Proofs.Text.Capital

/-!
# Text — alike texts

Two characters that need not be told apart have the same capital, and are the same character where
the case of a letter decides, which it does in a frame token only.  A relation of such characters is
a likeness (`IsLikeness`).  Texts that are alike character by character have their double quotes and
semicolons at the same places (`IsLikeness.takeWhile_ne`), the same capitals
(`IsLikeness.uppercase_eq`) and the same numbers in their literals (`IsLikeness.numberValue_eq`).

Every character is like itself (`isLikeness_eq`).  A letter is like the same letter in its other
case, `K` and `F` apart (`isLikeness_recased`).
-/

namespace StageCues.Text

/-- A relation of characters that need not be told apart. -/
structure IsLikeness (σ : Char → Char → Prop) : Prop where
  upper_eq {c d : Char} : σ c d → upper c = upper d
  /-- The letters of a frame token are told apart. -/
  eq_of_frame {c d : Char} : σ c d → upper c = ['K'] ∨ upper c = ['F'] → c = d

/-- The same character, or the same ASCII letter in its other case, if it is neither `K` nor `F`. -/
def Recased (c d : Char) : Prop :=
  c.toUpper = d.toUpper ∧ (c.toUpper = 'K' ∨ c.toUpper = 'F' → c = d)

instance (c d : Char) : Decidable (Recased c d) := inferInstanceAs (Decidable (_ ∧ _))

variable {σ : Char → Char → Prop} {t u : Text} {c d e : Char}

theorem isLikeness_eq : IsLikeness Eq where
  upper_eq h := congrArg upper h
  eq_of_frame h _ := h

/-! ### Letters in another case -/

/-- The ASCII capital is the character itself outside of ASCII, and an ASCII character inside. -/
theorem toUpper_cases (c : Char) :
    c.toNat < 0x80 ∧ c.toUpper.toNat < 0x80 ∨ 0x80 ≤ c.toNat ∧ c.toUpper = c := by
  rcases Nat.lt_or_ge c.toNat 0x80 with h | h
  · exact .inl ⟨h, forall_ascii (P := fun c => c.toUpper.toNat < 0x80) (by decide) h⟩
  · refine .inr ⟨h, dif_neg fun hz => ?_⟩
    have hz : c.toNat ≤ 'z'.toNat := hz.2
    have : 'z'.toNat < 0x80 := by decide
    omega

/-- A character with an ASCII character for its ASCII capital has it for its full capital. -/
theorem upper_of_toUpper (h : c.toUpper = d) (hd : d.toNat < 0x80) : upper c = [d] := by
  rcases toUpper_cases c with ⟨hc, -⟩ | ⟨hc, hc'⟩
  · rw [upper_of_ascii hc, h]
  · rw [hc'] at h
    rw [h] at hc
    omega

/-- Characters with the same ASCII capital have the same full capital. -/
theorem upper_eq_of_toUpper (h : c.toUpper = d.toUpper) : upper c = upper d := by
  rcases toUpper_cases c with ⟨hc, hc'⟩ | ⟨hc, hc'⟩ <;>
    rcases toUpper_cases d with ⟨hd, hd'⟩ | ⟨hd, hd'⟩
  · rw [upper_of_ascii hc, upper_of_ascii hd, h]
  · rw [h, hd'] at hc'
    omega
  · rw [← h, hc'] at hd'
    omega
  · rw [← hc', h, hd']

theorem isLikeness_recased : IsLikeness Recased where
  upper_eq h := upper_eq_of_toUpper h.1
  eq_of_frame h hc :=
    h.2 (hc.imp (fun hc => (toUpper_eq_of_upper hc rfl).2) fun hc => (toUpper_eq_of_upper hc rfl).2)

/-! ### Alike texts -/

section

variable (hσ : IsLikeness σ)
include hσ

/-- A character without case is told from every other one. -/
theorem IsLikeness.eq_iff (he : isSole e = true) (hcase : e.toUpper = e ∧ e.toLower = e)
    (h : σ c d) : c = e ↔ d = e := by
  rw [← upper_eq_iff he hcase, ← upper_eq_iff he hcase, hσ.upper_eq h]

theorem IsLikeness.eq_quote_iff (h : σ c d) : c = '"' ↔ d = '"' := hσ.eq_iff rfl ⟨rfl, rfl⟩ h

theorem IsLikeness.eq_semicolon_iff (h : σ c d) : c = ';' ↔ d = ';' := hσ.eq_iff rfl ⟨rfl, rfl⟩ h

theorem IsLikeness.eq_zero_iff (h : σ c d) : c = '0' ↔ d = '0' := hσ.eq_iff rfl ⟨rfl, rfl⟩ h

/-- Alike texts have the same capitals. -/
theorem IsLikeness.uppercase_eq (h : List.Forall₂ σ t u) : uppercase t = uppercase u := by
  induction h with
  | nil => rfl
  | cons hc _ ih => rw [uppercase_cons, uppercase_cons, hσ.upper_eq hc, ih]

/-- Alike literals are read in the same base, and the same digits count. -/
theorem IsLikeness.literalDigits_eq (honourRadix : Bool) (h : List.Forall₂ σ t u) :
    literalBase honourRadix t = literalBase honourRadix u ∧
      literalDigits honourRadix t = literalDigits honourRadix u := by
  have hbase : literalBase honourRadix t = literalBase honourRadix u := by
    unfold literalBase markedBase
    rw [hσ.uppercase_eq (List.forall₂_take 1 (List.forall₂_drop 1 h))]
  unfold literalDigits
  rw [hbase, hσ.uppercase_eq (List.forall₂_drop 2 h)]
  exact ⟨rfl, rfl⟩

/-- **Alike literals have the same number**, or the same number of too many digits. -/
theorem IsLikeness.readNumber_eq (honourRadix : Bool) (h : List.Forall₂ σ t u) :
    readNumber honourRadix t = readNumber honourRadix u := by
  obtain ⟨hbase, hdigits⟩ := hσ.literalDigits_eq honourRadix h
  unfold readNumber numberValue
  rw [hbase, hdigits]

theorem IsLikeness.head?_eq_quote_iff (h : List.Forall₂ σ t u) :
    t.head? = some '"' ↔ u.head? = some '"' := by
  cases h with
  | nil => rfl
  | cons hc _ => simpa using hσ.eq_quote_iff hc

/-- Alike texts lose the same pair of enclosing double quotes. -/
theorem IsLikeness.stripQuotes (h : List.Forall₂ σ t u) :
    List.Forall₂ σ (stripQuotes t) (stripQuotes u) := by
  have hlen := h.length_eq
  have hlast : t.getLast? = some '"' ↔ u.getLast? = some '"' := by
    rw [← List.head?_reverse, ← List.head?_reverse]
    exact hσ.head?_eq_quote_iff (List.forall₂_reverse_iff.mpr h)
  have hinner : List.Forall₂ σ t.tail.dropLast u.tail.dropLast := by
    rw [List.dropLast_eq_take, List.dropLast_eq_take, List.length_tail, List.length_tail, hlen,
      ← List.drop_one, ← List.drop_one]
    exact List.forall₂_take _ (List.forall₂_drop 1 h)
  unfold StageCues.stripQuotes
  simp only [hlen, hσ.head?_eq_quote_iff h, hlast]
  split
  · exact hinner
  · exact h

/-- Alike texts come to a character without case at the same place. -/
theorem IsLikeness.takeWhile_ne (he : isSole e = true) (hcase : e.toUpper = e ∧ e.toLower = e)
    (h : List.Forall₂ σ t u) :
    List.Forall₂ σ (t.takeWhile (· ≠ e)) (u.takeWhile (· ≠ e)) ∧
      List.Forall₂ σ (t.dropWhile (· ≠ e)) (u.dropWhile (· ≠ e)) := by
  induction h with
  | nil => exact ⟨.nil, .nil⟩
  | @cons c d t u hc ht ih =>
      have hiff := hσ.eq_iff he hcase hc
      by_cases hce : c = e
      · have hde := hiff.mp hce
        simp only [hce, hde, ne_eq, not_true_eq_false, decide_false, Bool.false_eq_true,
          not_false_eq_true, List.takeWhile_cons_of_neg, List.dropWhile_cons_of_neg]
        rw [hce, hde] at hc
        exact ⟨.nil, .cons hc ht⟩
      · have hde : d ≠ e := fun h => hce (hiff.mpr h)
        simp only [ne_eq, hce, hde, not_false_eq_true, decide_true, List.takeWhile_cons_of_pos,
          List.dropWhile_cons_of_pos]
        exact ⟨.cons hc ih.1, ih.2⟩

end

end StageCues.Text
