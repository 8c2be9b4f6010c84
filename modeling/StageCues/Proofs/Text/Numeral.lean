import Mathlib.Algebra.Ring.Int.Defs
import Mathlib.Algebra.Ring.Nat
import Mathlib.Data.List.TakeWhile
import StageCues.Parameter.Literal
import StageCues.Proofs.Text.Capital
import StageCues.Text.Blank

/-!
# Text — numerals are read back

The value of a numeral is the number it was made from (`digitsValue_numeral`), leading zeros or not.
A number that is not negative is written in sixteen-valued digits behind a marker that selects base
sixteen, so its literal has its value whether radices are honoured or not (`numberValue_hex`); one
that is negative has no digits then (`numberValue_written`).  Such a literal is never too long, for
the limit is one of base ten (`readNumber_written`): a number can be put down in base ten if it is
less than the power of ten that the limit gives (`isShort_iff`).
-/

namespace StageCues.Text

variable {b n : Nat} {c : Char} {t : Text}

theorem numeral_of_lt (h : n < b) : numeral b n = [n.digitChar.toUpper] := by
  unfold numeral
  rw [Nat.toDigits_of_lt_base h]
  rfl

theorem numeral_of_le (hb : 1 < b) (h : b ≤ n) :
    numeral b n = numeral b (n / b) ++ [(n % b).digitChar.toUpper] := by
  unfold numeral
  rw [Nat.toDigits_of_base_le hb h, List.map_append]
  rfl

/-- **A numeral has as many digits as it takes for the power of its base to get beyond it.** -/
theorem length_numeral_le_iff (hb : 1 < b) {k : Nat} (hk : 0 < k) :
    (numeral b n).length ≤ k ↔ n < b ^ k := by
  induction k generalizing n with
  | zero => cases hk
  | succ k ih =>
      rcases Nat.lt_or_ge n b with h | h
      · rw [numeral_of_lt h]
        have hpow : b ≤ b ^ (k + 1) := Nat.le_self_pow (by omega) b
        exact ⟨fun _ => by omega, fun _ => Nat.le_add_left 1 k⟩
      · have hdiv : 0 < n / b := Nat.div_pos h (by omega)
        have hlength : 0 < (numeral b (n / b)).length := by
          rcases Nat.lt_or_ge (n / b) b with h' | h'
          · rw [numeral_of_lt h']
            exact Nat.zero_lt_one
          · rw [numeral_of_le hb h', List.length_append]
            exact Nat.lt_add_left _ Nat.zero_lt_one
        rw [numeral_of_le hb h, List.length_append, List.length_singleton, Nat.pow_succ,
          ← Nat.div_lt_iff_lt_mul (by omega)]
        rcases Nat.eq_zero_or_pos k with rfl | hk
        · simp only [Nat.pow_zero]
          omega
        · rw [← ih hk]
          omega

/-- The limit of base ten as a bound. -/
theorem isShort_iff {n : Int} : isShort n = true ↔ n.natAbs < 10 ^ digitLimit := by
  unfold isShort
  rw [decide_eq_true_eq]
  exact length_numeral_le_iff (by decide) (by decide)

/-- What is no more than another number has no more digits. -/
theorem isShort_of_le {m n : Int} (h : isShort n = true) (hle : m.natAbs ≤ n.natAbs) :
    isShort m = true :=
  isShort_iff.mpr (Nat.lt_of_le_of_lt hle (isShort_iff.mp h))

/-- The first number beyond the limit. -/
theorem isShort_pow : isShort (10 ^ digitLimit) = false := by
  have hten : (10 : Int).natAbs = 10 := rfl
  rw [← Bool.not_eq_true, isShort_iff, Int.natAbs_pow, hten]
  exact Nat.lt_irrefl _

/-- The digits in order have the values from zero on. -/
theorem digitValue_digitChar {d : Nat} (h : d < 16) : digitValue d.digitChar.toUpper = d := by
  revert d
  decide

/-- **A numeral has the value of its number.** -/
theorem digitsValue_numeral (hb : 1 < b) (hb' : b ≤ 16) (n : Nat) :
    digitsValue b (numeral b n) = n := by
  induction n using Nat.strongRecOn with
  | ind n ih =>
      rcases Nat.lt_or_ge n b with h | h
      · rw [numeral_of_lt h, ← List.nil_append [_], digitsValue_append_singleton,
          digitValue_digitChar (by omega), digitsValue_nil]
        omega
      · have hlt : n / b < n := Nat.div_lt_self (by omega) hb
        have hmod : n % b < 16 := Nat.lt_of_lt_of_le (Nat.mod_lt _ (by omega)) hb'
        rw [numeral_of_le hb h, digitsValue_append_singleton, ih _ hlt,
          digitValue_digitChar hmod, Nat.div_add_mod]

/-- A numeral has digits of its base only. -/
theorem isDigitOf_of_mem_numeral (hb : 1 < b) (hb' : b ≤ 16) (h : c ∈ numeral b n) :
    isDigitOf b c = true := by
  have key : ∀ d < b, isDigitOf b d.digitChar.toUpper = true := by
    intro d hd
    unfold isDigitOf
    rw [digitValue_digitChar (by omega)]
    simp only [decide_eq_true_eq]
    omega
  induction n using Nat.strongRecOn with
  | ind n ih =>
      rcases Nat.lt_or_ge n b with hn | hn
      · rw [numeral_of_lt hn, List.mem_singleton] at h
        exact h ▸ key n hn
      · rw [numeral_of_le hb hn, List.mem_append, List.mem_singleton] at h
        rcases h with h | rfl
        · exact ih _ (Nat.div_lt_self (by omega) hb) h
        · exact key _ (Nat.mod_lt _ (by omega))

/-- Leading zeros do not count. -/
theorem digitsValue_zeros (k : Nat) (t : Text) :
    digitsValue b (List.replicate k '0' ++ t) = digitsValue b t := by
  induction k with
  | zero => rfl
  | succ k ih =>
      rw [← ih]
      simp [digitsValue, List.replicate_succ, digitValue]

/-- The digits of base sixteen are capitals and end nothing. -/
theorem hexDigit_facts (h : isDigitOf 16 c = true) :
    upper c = [c] ∧ c ≠ ';' ∧ c ≠ '"' ∧ isBlank c = false := by
  have hd : digitValue c < 16 := by
    unfold isDigitOf at h
    simpa using h
  have hc : c.toNat < 0x80 := by
    unfold digitValue at hd
    split at hd
    · next hr => exact Nat.lt_of_le_of_lt hr.2 (by decide)
    · split at hd
      · next hr => exact Nat.lt_of_le_of_lt hr.2 (by decide)
      · omega
  rw [upper_of_ascii hc]
  revert hd
  exact forall_ascii (P := fun c => digitValue c < 16 →
    [c.toUpper] = [c] ∧ c ≠ ';' ∧ c ≠ '"' ∧ isBlank c = false) (by decide) hc

theorem uppercase_of_hexDigits (h : ∀ c ∈ t, isDigitOf 16 c = true) : uppercase t = t := by
  induction t with
  | nil => rfl
  | cons c t ih =>
      rw [uppercase_cons, (hexDigit_facts (h c List.mem_cons_self)).1,
        ih fun d hd => h d (List.mem_cons_of_mem c hd)]
      rfl

/-- The field of a number has digits only. -/
theorem isDigitOf_of_mem_paddedHex (h : c ∈ paddedHex n) : isDigitOf 16 c = true := by
  have h : c ∈ List.replicate (2 - (numeral 16 n).length) '0' ++ numeral 16 n := h
  rw [List.mem_append, List.mem_replicate] at h
  rcases h with ⟨-, rfl⟩ | h
  · decide
  · exact isDigitOf_of_mem_numeral (by decide) (by decide) h

theorem digitsValue_paddedHex (n : Nat) : digitsValue 16 (paddedHex n) = n := by
  have h : paddedHex n = List.replicate (2 - (numeral 16 n).length) '0' ++ numeral 16 n := rfl
  rw [h, digitsValue_zeros, digitsValue_numeral (by decide) (by decide)]

/-- A written number is read in base sixteen. -/
theorem literalBase_hex (honourRadix : Bool) (t : Text) :
    literalBase honourRadix ("0H" ++ t) = 16 := by
  cases honourRadix <;> rfl

/-- **A written number is read as itself**, with radices honoured and without. -/
theorem numberValue_hex (honourRadix : Bool) (n : Nat) :
    numberValue honourRadix ("0H" ++ paddedHex n) = n := by
  have htake : (paddedHex n).takeWhile (isDigitOf 16) = paddedHex n :=
    List.takeWhile_eq_self_iff.mpr fun c hc => isDigitOf_of_mem_paddedHex hc
  have hdigits : literalDigits honourRadix ("0H" ++ paddedHex n) = paddedHex n := by
    unfold literalDigits
    rw [literalBase_hex]
    show (uppercase (paddedHex n)).takeWhile (isDigitOf 16) = paddedHex n
    rw [uppercase_of_hexDigits fun c hc => isDigitOf_of_mem_paddedHex hc, htake]
  unfold numberValue
  rw [literalBase_hex, hdigits, digitsValue_paddedHex]

/-- A written number does not end before its end. -/
theorem not_mem_paddedHex (n : Int) : ';' ∉ paddedHex n := by
  intro h
  cases n with
  | ofNat n => exact (hexDigit_facts (isDigitOf_of_mem_paddedHex h)).2.1 rfl
  | negSucc n =>
      rcases List.mem_cons.mp h with h | h
      · exact absurd h (by decide)
      · have hdigit := isDigitOf_of_mem_numeral (by decide) (by decide) h
        exact (hexDigit_facts hdigit).2.1 rfl

/-- Any written number is read as it is, but a negative one as zero: its sign is no digit, and
nothing behind it counts. -/
theorem numberValue_written (honourRadix : Bool) (n : Int) :
    numberValue honourRadix ("0H" ++ paddedHex n) = n.toNat := by
  cases n with
  | ofNat n => exact numberValue_hex honourRadix n
  | negSucc n => cases honourRadix <;> rfl

/-! ### What is read of a literal -/

variable {honourRadix : Bool}

/-- A literal in another base than ten is never too long. -/
theorem readNumber_of_base (h : literalBase honourRadix t ≠ 10) :
    readNumber honourRadix t = .ok (numberValue honourRadix t) := by
  unfold readNumber isReadable
  rw [if_pos (by simp [h])]

/-- A literal within the limit is read as its value. -/
theorem readNumber_of_length (h : (literalDigits honourRadix t).length ≤ digitLimit) :
    readNumber honourRadix t = .ok (numberValue honourRadix t) := by
  unfold readNumber isReadable
  rw [if_pos (by simp [h])]

/-- A literal in base ten is too long from one digit beyond the limit on. -/
theorem readNumber_of_lt (hb : literalBase honourRadix t = 10)
    (h : digitLimit < (literalDigits honourRadix t).length) :
    readNumber honourRadix t = .error (.tooManyDigits (literalDigits honourRadix t).length) := by
  unfold readNumber isReadable
  rw [if_neg (by simp [hb, h])]

/-- **What is read is the value**, if anything is. -/
theorem readNumber_eq_ok {v : Nat} (h : readNumber honourRadix t = .ok v) :
    numberValue honourRadix t = v := by
  unfold readNumber at h
  split at h
  · exact Except.ok.inj h
  · cases h

/-- **A literal that is not read has too many digits in base ten**, and nothing else is wrong. -/
theorem readNumber_eq_error {f : Fault} (h : readNumber honourRadix t = .error f) :
    literalBase honourRadix t = 10 ∧ digitLimit < (literalDigits honourRadix t).length ∧
      f = .tooManyDigits (literalDigits honourRadix t).length := by
  unfold readNumber isReadable at h
  split at h
  · cases h
  · next hr =>
    have hr : literalBase honourRadix t = 10 ∧
        digitLimit < (literalDigits honourRadix t).length := by simpa using hr
    exact ⟨hr.1, hr.2, (Except.error.inj h).symm⟩

/-- A written number is never too long to be read. -/
theorem readNumber_written (honourRadix : Bool) (n : Int) :
    readNumber honourRadix ("0H" ++ paddedHex n) = .ok n.toNat := by
  rw [readNumber_of_base (by rw [literalBase_hex]; decide), ← numberValue_written honourRadix n]

/-- More ones than the limit, in base ten. -/
theorem readNumber_ones {n : Nat} (h : digitLimit < n) :
    readNumber true ('0' :: 'D' :: List.replicate n '1') = .error (.tooManyDigits n) := by
  have hone : ∀ b : Nat, isDigitOf b '1' = true →
      ∀ c ∈ List.replicate n '1', isDigitOf b c = true :=
    fun b hb c hc => List.eq_of_mem_replicate hc ▸ hb
  have hdigits : literalDigits true ('0' :: 'D' :: List.replicate n '1') =
      List.replicate n '1' := by
    show (uppercase (List.replicate n '1')).takeWhile (isDigitOf 10) = _
    rw [uppercase_of_hexDigits (hone 16 rfl),
      List.takeWhile_eq_self_iff.mpr (hone 10 rfl)]
  rw [readNumber_of_lt rfl (by rw [hdigits, List.length_replicate]; exact h), hdigits,
    List.length_replicate]

/-- The number that a text stands for in a base, as a conversion that does not put up with anything
else than digits of the base, with less than one, and with more than the limit in base ten. -/
def strictValue? (base : Nat) (t : Text) : Option Nat :=
  if 2 ≤ base ∧ base ≤ 36 ∧ t ≠ [] ∧ t.all (isDigitOf base) ∧ isReadable base t then
    some (digitsValue base t)
  else none

/-- **What is read of a numeric literal is what the strict conversion makes of its digits**, and
zero without digits. -/
theorem readNumber_cases (honourRadix : Bool) (t : Text) :
    literalDigits honourRadix t = [] ∧ readNumber honourRadix t = .ok 0 ∨
      literalDigits honourRadix t ≠ [] ∧
        strictValue? (literalBase honourRadix t) (literalDigits honourRadix t) =
          (readNumber honourRadix t).toOption := by
  have hbase : 2 ≤ literalBase honourRadix t ∧ literalBase honourRadix t ≤ 36 := by
    unfold literalBase markedBase
    split
    · split <;> decide
    · decide
  have hdigits : (literalDigits honourRadix t).all (isDigitOf (literalBase honourRadix t)) :=
    List.all_takeWhile
  by_cases h : literalDigits honourRadix t = []
  · have hzero : numberValue honourRadix t = 0 := by
      unfold numberValue
      rw [h, digitsValue_nil]
    exact .inl ⟨h, by rw [readNumber_of_length (by rw [h]; exact Nat.zero_le _), hzero]⟩
  · refine .inr ⟨h, ?_⟩
    unfold strictValue? readNumber
    by_cases hr : isReadable (literalBase honourRadix t) (literalDigits honourRadix t)
    · rw [if_pos ⟨hbase.1, hbase.2, h, hdigits, hr⟩, if_pos hr]
      rfl
    · rw [if_neg fun hall => hr hall.2.2.2.2, if_neg hr]
      rfl

end StageCues.Text
