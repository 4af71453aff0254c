import LoadHarness.Text.Number

/-! Numbers are read back from their decimal digits.

    n ≤ limit → readNumber limit (toString n).toList = .ok n        (readNumber_toString)

Reading looks at the limit after every digit.  That is no matter here: what has been read of a
number on the way is never greater than the number (`le_ofDigitChars`). -/

namespace LoadHarness.Text

variable {limit value n : Nat} {digits : List Char}

theorem le_ofDigitChars (digits : List Char) (value : Nat) :
    value ≤ Nat.ofDigitChars 10 digits value := by
  rw [Nat.ofDigitChars_eq_ofDigitChars_zero]
  have hpos : 1 * value ≤ 10 ^ digits.length * value :=
    Nat.mul_le_mul_right value (Nat.pow_pos (by decide))
  omega

theorem digit?_of_isDigit {c : Char} (h : c.isDigit = true) :
    digit? c = some (c.toNat - '0'.toNat) := if_pos h

/-- Digits are read to the number that they stand for, if that is within the limit. -/
theorem readDigits_eq_ok (hdigits : ∀ c ∈ digits, c.isDigit = true)
    (hlimit : Nat.ofDigitChars 10 digits value ≤ limit) :
    readDigits limit value digits = .ok (Nat.ofDigitChars 10 digits value) := by
  induction digits generalizing value with
  | nil => simp [readDigits]
  | cons c rest ih =>
    rw [Nat.ofDigitChars_cons] at hlimit ⊢
    have hle := le_ofDigitChars rest (10 * value + (c.toNat - '0'.toNat))
    have hwithin : ¬ limit < 10 * value + (c.toNat - '0'.toNat) := by omega
    rw [readDigits, digit?_of_isDigit (hdigits c List.mem_cons_self)]
    simp only [if_neg hwithin]
    exact ih (fun d hd => hdigits d (List.mem_cons_of_mem c hd)) hlimit

theorem readNumber_toString (h : n ≤ limit) : readNumber limit (toString n).toList = .ok n := by
  have hdigits : ∀ c ∈ Nat.toDigits 10 n, c.isDigit = true := by
    intro c hc
    exact Nat.isDigit_of_mem_toDigits (by decide) (by decide) hc
  have hplus : '+' ∉ Nat.toDigits 10 n := by
    intro hmem
    exact absurd (hdigits '+' hmem) (by decide)
  have hvalue : Nat.ofDigitChars 10 (Nat.toDigits 10 n) 0 = n := Nat.ofDigitChars_ten_toDigits
  have hread : readDigits limit 0 (Nat.toDigits 10 n) = .ok n := by
    rw [readDigits_eq_ok hdigits (by rw [hvalue]; exact h), hvalue]
  show readNumber limit n.repr.toList = .ok n
  rw [Nat.toList_repr]
  unfold readNumber
  split
  · rename_i heq
    exact absurd heq Nat.toDigits_ne_nil
  · rename_i heq
    exact absurd (heq ▸ List.mem_cons_self) hplus
  · rename_i heq
    exact absurd (heq ▸ List.mem_cons_self) hplus
  · exact hread

/-- A number is known by its digits, as it is read back from them. -/
theorem toString_injective : Function.Injective fun n : Nat => toString n := by
  intro n m heq
  have hn := readNumber_toString (Nat.le_max_left n m)
  have hm := readNumber_toString (Nat.le_max_right n m)
  simp only at heq
  rw [heq, hm] at hn
  exact (Except.ok.inj hn).symm

end LoadHarness.Text
