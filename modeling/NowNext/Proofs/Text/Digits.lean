import Mathlib.Algebra.Ring.Nat
import NowNext.Text.Decimal

set_option autoImplicit false

namespace NowNext

def EndsDigits (rest : List Char) : Prop := ∀ c tail, rest = c :: tail → isDigit c = false

theorem ends_digits_cons (c : Char) (tail : List Char) (other : isDigit c = false) : EndsDigits (c :: tail) := by
  intro d rest same
  cases same
  exact other

theorem digit_iff (c : Char) : isDigit c = c.isDigit := rfl

theorem digits_all (n : Nat) : ∀ c ∈ digits n, isDigit c = true := by
  intro c member
  rw [digit_iff]
  exact Nat.isDigit_of_mem_toDigits (by decide) (by decide) member

theorem padded_all (width n : Nat) : ∀ c ∈ padded width n, isDigit c = true := by
  intro c member
  rcases List.mem_append.mp member with zero | shown
  · rw [List.eq_of_mem_replicate zero]
    decide
  · exact digits_all n c shown

theorem of_digits_padded (width n : Nat) : ofDigits (padded width n) = n := by
  change Nat.ofDigitChars 10 (List.replicate _ '0' ++ Nat.toDigits 10 n) 0 = n
  rw [Nat.ofDigitChars_append, Nat.ofDigitChars_replicate_zero, Nat.mul_zero, Nat.ofDigitChars_ten_toDigits]

theorem padded_length (width n : Nat) (wide : 0 < width) (fits : n < 10 ^ width) : (padded width n).length = width := by
  have shown := (Nat.length_toDigits_le_iff (by decide) wide).mpr fits
  rw [padded, List.length_append, List.length_replicate]
  exact Nat.sub_add_cancel shown

theorem padded_ne_nil (width n : Nat) : padded width n ≠ [] := by
  intro nothing
  exact Nat.toDigits_ne_nil (List.append_eq_nil_iff.mp nothing).2

theorem take_digits_run (limit : Nat) (run rest : List Char) (some : run ≠ []) (all : ∀ c ∈ run, isDigit c = true)
    (ends : run.length = limit ∨ run.length ≤ limit ∧ EndsDigits rest) :
    takeDigits? limit (run ++ rest) = .some (run, rest) := by
  have stops : (rest.take (limit - run.length)).takeWhile isDigit = [] := by
    rcases ends with whole | ⟨_, ends⟩
    · rw [whole, Nat.sub_self]
      rfl
    · cases rest with
      | nil => rw [List.take_nil]; rfl
      | cons c tail =>
          have other := ends c tail rfl
          cases limit - run.length with
          | zero => rfl
          | succ more => rw [List.take_succ_cons, List.takeWhile_cons_of_neg (by simp [other])]
  have within : run.length ≤ limit := by
    rcases ends with whole | within
    · exact Nat.le_of_eq whole
    · exact within.1
  have taken : ((run ++ rest).take limit).takeWhile isDigit = run := by
    rw [List.take_append, List.take_of_length_le within, List.takeWhile_append_of_pos all, stops, List.append_nil]
  simp only [takeDigits?, taken, List.isEmpty_eq_false_iff.mpr some, List.drop_left]
  rfl

end NowNext
