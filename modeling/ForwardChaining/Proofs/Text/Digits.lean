import Mathlib.Data.List.Basic
import ForwardChaining.Text.Basic

/-!
# The digits of a number

What a number is written with: digits, whose value is the number (`digitsValue_toString`), with a
zero at the beginning only for zero (`toList_toString_eq_of_head`).  Any digits are read as their value,
if that is below the limit (`readNat?_of_digits`).
-/

namespace ForwardChaining.Text

theorem all_isDigit_toString (n : Nat) :
  ∀ c ∈ (toString n).toList, isDigit c = true
  := by
  intro c member
  rw [Nat.toString_eq_repr, Nat.toList_repr] at member
  apply Nat.isDigit_of_mem_toDigits (by decide) (by decide) member

theorem digitsValue_toString (n : Nat) :
  digitsValue (toString n).toList = n
  := by
  rw [digitsValue, ← Nat.ofDigitChars_eq_foldl, Nat.toString_eq_repr, Nat.toList_repr]
  apply Nat.ofDigitChars_toDigits (by decide) (by decide)

theorem toList_toString_ne_nil (n : Nat) :
  (toString n).toList ≠ []
  := by
  rw [Nat.toString_eq_repr, Nat.toList_repr]
  apply Nat.toDigits_ne_nil

/-- Digits are read as their value, if that is below the limit. -/
theorem readNat?_of_digits {digits : List Char} (nonempty : digits ≠ [])
    (all : ∀ c ∈ digits, isDigit c = true) (limit : Nat) :
  readNat? limit digits = if digitsValue digits < limit then some (digitsValue digits) else none
  := by
  have unsigned : ∀ rest, digits = '+' :: rest → False := by
    rintro rest rfl
    cases all '+' List.mem_cons_self
  have read : readDigits? digits = some (digitsValue digits) := by
    rw [readDigits?, List.isEmpty_eq_false_iff.mpr nonempty, List.all_eq_true.mpr all]
    rfl
  rw [readNat?]
  · simp [read, Option.filter_some]
  · exact unsigned

theorem head_toDigits_ne_zero {n : Nat} (positive : n ≠ 0) :
  (Nat.toDigits 10 n).head? ≠ some '0'
  := by
  induction n using Nat.strongRecOn with
  | ind n ih =>
    obtain small | large := Nat.lt_or_ge n 10
    · have digits : ∀ n < 10, n ≠ 0 → [n.digitChar].head? ≠ some '0' := by decide
      rw [Nat.toDigits_of_lt_base small]
      exact digits n small positive
    · rw [Nat.toDigits_of_base_le (by decide) large, List.head?_append_of_ne_nil _
        Nat.toDigits_ne_nil]
      exact ih (n / 10) (by omega) (by omega)

/-- Only zero begins with a zero. -/
theorem toList_toString_eq_of_head {n : Nat} (zero : (toString n).toList.head? = some '0') :
  (toString n).toList = ['0']
  := by
  rw [Nat.toString_eq_repr, Nat.toList_repr] at zero ⊢
  by_cases positive : n = 0
  · rw [positive]
    rfl
  · exact absurd zero (head_toDigits_ne_zero positive)

end ForwardChaining.Text
