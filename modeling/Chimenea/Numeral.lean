import Chimenea.Arduino

/-!
Decimal numerals and the decimal reader. A numeral is read as its value where the value
fits a `long`, and as the nearer end of `long` where it does not.
-/

namespace Chimenea.Numeral
open Arduino

/-- The text is a decimal integer, leading zeros allowed. -/
def EsDecimal (text : String) (value : Int) : Prop :=
  ∃ digits : List Char, digits ≠ [] ∧ (∀ c ∈ digits, c.isDigit = true) ∧
    ((text.toList = digits ∧ value = Nat.ofDigitChars 10 digits 0) ∨
      (text.toList = '-' :: digits ∧ value = -(Nat.ofDigitChars 10 digits 0 : Int)))

def acotado (value : Int) : Int := max LONG_MIN (min LONG_MAX value)

theorem esDecimal_toString (value : Int) : EsDecimal (toString value) value := by
  rw [Int.toString_eq_repr, Int.repr_eq_if]
  split_ifs with sign
  · refine ⟨Nat.toDigits 10 value.toNat, Nat.toDigits_ne_nil, ?_, .inl ⟨Nat.toList_repr, ?_⟩⟩
    · intro c member
      exact Nat.isDigit_of_mem_toDigits (by decide) (by decide) member
    · rw [Nat.ofDigitChars_ten_toDigits]
      omega
  · refine ⟨Nat.toDigits 10 (-value).toNat, Nat.toDigits_ne_nil, ?_, .inr ⟨?_, ?_⟩⟩
    · intro c member
      exact Nat.isDigit_of_mem_toDigits (by decide) (by decide) member
    · rw [String.toList_append, Nat.toList_repr]
      rfl
    · rw [Nat.ofDigitChars_ten_toDigits]
      omega

theorem leadingDigits_digits (digits : List Char) (all : ∀ c ∈ digits, c.isDigit = true)
    (value : Nat) : leadingDigits value digits = Nat.ofDigitChars 10 digits value := by
  induction digits generalizing value with
  | nil => rfl
  | cons c rest ih =>
    rw [leadingDigits, if_pos (all c (by simp)), Nat.ofDigitChars_cons]
    exact ih (fun d member => all d (by simp [member])) _

theorem isspace_digit {c : Char} (digit : c.isDigit = true) :
    isspace c = false ∧ c ≠ '-' ∧ c ≠ '+' := by
  have bounds : 48 ≤ c.toNat ∧ c.toNat ≤ 57 := by
    simpa [Char.isDigit, UInt32.le_iff_toNat_le] using digit
  refine ⟨?_, ?_, ?_⟩
  · simp only [isspace, Bool.or_eq_false_iff, decide_eq_false_iff_not, Bool.and_eq_false_iff]
    refine ⟨?_, .inr (by omega)⟩
    intro blank
    rw [blank] at bounds
    exact absurd bounds (by decide)
  · intro minus
    rw [minus] at bounds
    exact absurd bounds (by decide)
  · intro plus
    rw [plus] at bounds
    exact absurd bounds (by decide)

theorem toInt_decimal {text : String} {value : Int} (decimal : EsDecimal text value) :
    toInt text = acotado value := by
  obtain ⟨digits, some, all, ⟨shape, total⟩ | ⟨shape, total⟩⟩ := decimal
  · cases digits with
    | nil => exact absurd rfl some
    | cons c rest =>
      obtain ⟨dark, minus, plus⟩ := isspace_digit (all c (by simp))
      have blank : (c :: rest).dropWhile isspace = c :: rest := by simp [dark]
      have read := leadingDigits_digits (c :: rest) all 0
      rw [toInt, shape, total, atol, blank]
      split
      · next signed => exact absurd (List.cons.inj signed).1 minus
      · next signed => exact absurd (List.cons.inj signed).1 plus
      · rw [read]
        simp only [acotado, LONG_MIN, LONG_MAX]
        omega
  · rw [toInt, shape, total]
    have read := leadingDigits_digits digits all 0
    have blank : ('-' :: digits).dropWhile isspace = '-' :: digits := rfl
    rw [atol, blank]
    simp only [read, acotado, LONG_MIN, LONG_MAX]
    omega

end Chimenea.Numeral
