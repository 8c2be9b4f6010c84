import StageCues.Node.Written
import StageCues.Proofs.Text.Numeral

/-!
# Text — numeric literals are read exactly

A numeric literal is a zero, a radix marker, and digits of the base that the marker selects, in
capitals or not.  The marker for base ten is `D`, the one for base two is `B`, and every other
character selects base sixteen, as all of them do where radices are not honoured (`markerBase`).

Whatever number the digits stand for, that is the value of the literal, with any number of zeros in
front of them and anything behind them that does not go on with a digit (`readNumber_numeral`).  But
in base ten every digit counts towards the limit, the zeros in front included.  Capitals are taken
of the whole literal before its digits are counted, so what stands behind the digits is judged by
its capitals as well: `ﬀ` goes on with two digits of base sixteen.
-/

namespace StageCues.Text

/-- The base that a marker selects. -/
def markerBase (honourRadix : Bool) (marker : Char) : Nat :=
  if honourRadix = false then 16
  else if marker = 'D' ∨ marker = 'd' then 10
  else if marker = 'B' ∨ marker = 'b' then 2
  else 16

/-- Whether a text does not go on with a digit of the base: its capitals are empty, or the first of
them is no digit. -/
def endsDigits (base : Nat) (t : Text) : Bool := (uppercase t).head?.all fun c => !isDigitOf base c

variable {b v : Nat} {m : Char} {t digits tail : Text}

/-! ### The base -/

theorem markedBase_marker (m : Char) : markedBase [m] = markerBase true m := by
  have hcapitals : uppercase [m] = upper m := by simp
  unfold markedBase markerBase
  rw [hcapitals, if_neg Bool.noConfusion]
  by_cases hD : m = 'D' ∨ m = 'd'
  · rw [if_pos hD]
    rcases hD with rfl | rfl <;> rfl
  · by_cases hB : m = 'B' ∨ m = 'b'
    · rw [if_neg hD, if_pos hB]
      rcases hB with rfl | rfl <;> rfl
    · rw [if_neg hD, if_neg hB]
      split
      · next h => exact absurd (eq_or_eq_of_upper h rfl) hD
      · next h => exact absurd (eq_or_eq_of_upper h rfl) hB
      · rfl

/-- The base that a literal is read in is the one that its marker selects. -/
theorem literalBase_marker (honourRadix : Bool) (zero m : Char) (t : Text) :
    literalBase honourRadix (zero :: m :: t) = markerBase honourRadix m := by
  cases honourRadix with
  | false => rfl
  | true => exact markedBase_marker m

theorem markerBase_bounds (honourRadix : Bool) (m : Char) :
    1 < markerBase honourRadix m ∧ markerBase honourRadix m ≤ 16 := by
  unfold markerBase
  split
  · decide
  · split
    · decide
    · split <;> decide

/-! ### The digits -/

/-- Digits are counted up to what does not go on with one. -/
theorem takeWhile_digits (hdigits : ∀ c ∈ t, isDigitOf b c = true) (htail : endsDigits b tail) :
    (t ++ uppercase tail).takeWhile (isDigitOf b) = t := by
  have hstop : (uppercase tail).takeWhile (isDigitOf b) = [] := by
    unfold endsDigits at htail
    cases hcapitals : uppercase tail with
    | nil => rfl
    | cons c cs =>
        rw [hcapitals] at htail
        exact List.takeWhile_cons_of_neg (by simpa using htail)
  rw [List.takeWhile_append_of_pos hdigits, hstop, List.append_nil]

theorem uppercase_zeros (k : Nat) : uppercase (List.replicate k '0') = List.replicate k '0' :=
  uppercase_of_hexDigits fun _ hc => List.eq_of_mem_replicate hc ▸ rfl

theorem isDigitOf_zero (hb : 0 < b) : isDigitOf b '0' = true := by
  have hzero : digitValue '0' = 0 := rfl
  unfold isDigitOf
  rw [hzero, decide_eq_true_eq]
  omega

/-- A literal without digits is read as zero. -/
theorem readNumber_of_endsDigits {honourRadix : Bool}
    (h : endsDigits (literalBase honourRadix t) (t.drop 2)) : readNumber honourRadix t = .ok 0 := by
  have hnone : literalDigits honourRadix t = [] := takeWhile_digits (t := []) nofun h
  have hvalue : numberValue honourRadix t = 0 := by
    unfold numberValue
    rw [hnone, digitsValue_nil]
  rw [readNumber_of_length (by rw [hnone]; exact Nat.zero_le _), hvalue]

/-- The digits of a literal count up to its tail, zeros in front of them included. -/
theorem literalDigits_of_digits (honourRadix : Bool) (m : Char) (zeros : Nat)
    (hdigits : uppercase digits = numeral (markerBase honourRadix m) v)
    (htail : endsDigits (markerBase honourRadix m) tail) :
    literalDigits honourRadix ('0' :: m :: (List.replicate zeros '0' ++ digits ++ tail)) =
      List.replicate zeros '0' ++ numeral (markerBase honourRadix m) v := by
  obtain ⟨hlow, hhigh⟩ := markerBase_bounds honourRadix m
  have hall : ∀ c ∈ List.replicate zeros '0' ++ numeral (markerBase honourRadix m) v,
      isDigitOf (markerBase honourRadix m) c = true := by
    intro c hc
    rcases List.mem_append.mp hc with hc | hc
    · exact List.eq_of_mem_replicate hc ▸ isDigitOf_zero (Nat.lt_of_succ_lt hlow)
    · exact isDigitOf_of_mem_numeral hlow hhigh hc
  unfold literalDigits
  rw [literalBase_marker]
  show (uppercase (List.replicate zeros '0' ++ digits ++ tail)).takeWhile
    (isDigitOf (markerBase honourRadix m)) = _
  rw [uppercase_append, uppercase_append, uppercase_zeros, hdigits, takeWhile_digits hall htail]

/-- A literal is read as the number that its digits stand for, unless base ten has too many of
them. -/
theorem readNumber_of_digits (honourRadix : Bool) (m : Char) (zeros : Nat)
    (hdigits : uppercase digits = numeral (markerBase honourRadix m) v)
    (htail : endsDigits (markerBase honourRadix m) tail) :
    readNumber honourRadix ('0' :: m :: (List.replicate zeros '0' ++ digits ++ tail)) =
      if markerBase honourRadix m = 10 ∧ digitLimit < zeros + (numeral 10 v).length then
        .error (.tooManyDigits (zeros + (numeral 10 v).length))
      else .ok v := by
  obtain ⟨hlow, hhigh⟩ := markerBase_bounds honourRadix m
  have hcount := literalDigits_of_digits honourRadix m zeros hdigits htail
  have hbase := literalBase_marker honourRadix '0' m (List.replicate zeros '0' ++ digits ++ tail)
  have hvalue : numberValue honourRadix
      ('0' :: m :: (List.replicate zeros '0' ++ digits ++ tail)) = v := by
    unfold numberValue
    rw [hbase, hcount, digitsValue_zeros, digitsValue_numeral hlow hhigh]
  by_cases hten : markerBase honourRadix m = 10
  · rw [hten] at hcount hbase
    have hlength : (literalDigits honourRadix
        ('0' :: m :: (List.replicate zeros '0' ++ digits ++ tail))).length =
        zeros + (numeral 10 v).length := by
      rw [hcount, List.length_append, List.length_replicate]
    by_cases hlong : digitLimit < zeros + (numeral 10 v).length
    · rw [if_pos ⟨hten, hlong⟩, readNumber_of_lt hbase (hlength ▸ hlong), hlength]
    · rw [if_neg fun h => hlong h.2, readNumber_of_length (by omega), hvalue]
  · rw [if_neg fun h => hten h.1, readNumber_of_base (hbase ▸ hten), hvalue]

/-- **Numeric literals are read exactly, up to the limit of base ten.**  The digits of a number,
with zeros in front of them and with anything behind them that does not go on with a digit, are read
as that number, whichever the marker is and in whatever case the letters are; but in base ten they
are not read at all if they are more than the limit, the zeros included.  A literal without digits
is read as zero, none is read as a negative number, and the literal that a number is written as is
read as that number, with radices honoured and without. -/
theorem readNumber_numeral (honourRadix : Bool) :
    (∀ (m : Char) (v zeros : Nat) (digits tail : Text),
      uppercase digits = numeral (markerBase honourRadix m) v →
      endsDigits (markerBase honourRadix m) tail →
      readNumber honourRadix ('0' :: m :: (List.replicate zeros '0' ++ digits ++ tail)) =
        if markerBase honourRadix m = 10 ∧ digitLimit < zeros + (numeral 10 v).length then
          .error (.tooManyDigits (zeros + (numeral 10 v).length))
        else .ok v) ∧
    (∀ (m : Char) (tail : Text), endsDigits (markerBase honourRadix m) tail →
      readNumber honourRadix ('0' :: m :: tail) = .ok 0) ∧
    (∀ t : Text, endsDigits (literalBase honourRadix t) (t.drop 2) →
      readNumber honourRadix t = .ok 0) ∧
    (∀ (t : Text) (n : Nat), readNumber honourRadix t = .ok n → (0 : Int) ≤ n) ∧
    ∀ v : Nat, numberLiteral v = (numberLiteral v).dropLast ++ ";" ∧
      readNumber honourRadix (numberLiteral v).dropLast = .ok v := by
  refine ⟨fun m v zeros digits tail hdigits htail =>
    readNumber_of_digits honourRadix m zeros hdigits htail, fun m tail h => ?_,
    fun t h => readNumber_of_endsDigits h, fun t n _ => Int.natCast_nonneg n, fun v => ?_⟩
  · exact readNumber_of_endsDigits (by rwa [literalBase_marker])
  · have hbare : (numberLiteral v).dropLast = "0H" ++ paddedHex v := by
      unfold numberLiteral
      exact List.dropLast_concat
    rw [hbare]
    exact ⟨rfl, readNumber_written honourRadix v⟩

/-- The marker `ß` has two capitals and selects base sixteen; the marker `d` selects base ten,
unless radices are not honoured, and behind it `ﬀ` goes on with digits of base sixteen only. -/
theorem readNumber_numeral_marked :
    uppercase "fF" = numeral 16 255 ∧ endsDigits (markerBase true 'ß') "ı0" ∧
    readNumber true "0ß00fFı0" = .ok 255 ∧
    uppercase "12" = numeral 10 12 ∧ endsDigits (markerBase true 'd') "ﬀ" ∧
    readNumber true "0d12ﬀ" = .ok 12 ∧ readNumber false "0d12ﬀ" = .ok 0x12FF ∧
    readNumber true "0B29" = .ok 0 := by
  have hhex : uppercase "fF" = numeral 16 255 := rfl
  have hten : uppercase "12" = numeral 10 12 := rfl
  have hcapitals : uppercase "12ﬀ" = numeral 16 0x12FF := by decide +kernel
  have hend : endsDigits (markerBase true 'ß') "ı0" := by decide +kernel
  have hend' : endsDigits (markerBase true 'd') "ﬀ" := by decide +kernel
  have hread := (readNumber_numeral true).1
  refine ⟨hhex, hend, (hread 'ß' 255 2 "fF" "ı0" hhex hend).trans (if_neg (by decide)), hten, hend',
    (hread 'd' 12 0 "12" "ﬀ" hten hend').trans (if_neg (by decide)), ?_, ?_⟩
  · exact ((readNumber_numeral false).1 'd' 0x12FF 0 "12ﬀ" [] hcapitals rfl).trans
      (if_neg (by decide))
  · exact (readNumber_numeral true).2.1 'B' "29" rfl

/-- So many zeros in front of a five that base ten has one digit too many: what the digits stand for
is five, and they are not read. -/
theorem readNumber_zeros :
    uppercase "5" = numeral 10 5 ∧ endsDigits (markerBase true 'D') [] ∧
    readNumber true ('0' :: 'D' :: (List.replicate 4300 '0' ++ "5".toList ++ [])) =
      .error (.tooManyDigits 4301) := by
  have hfive : uppercase "5" = numeral 10 5 := rfl
  exact ⟨hfive, rfl, (readNumber_of_digits true 'D' 4300 hfive rfl).trans (if_pos (by decide))⟩

end StageCues.Text
