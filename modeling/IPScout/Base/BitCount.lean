import Mathlib.Data.List.Count
import Mathlib.Data.Nat.Bitwise

/-!
# Counting bits

How many of the low bits of a number are set (`bitsSet`).  The count of two parts of a number is
the sum of their counts (`bitsSet_add`), so that of a field is that of its octets, and a number
whose high bits are set has as many as there are (`bitsSet_high`).
-/

namespace IPScout.Base

/-- How many of the low `w` bits of a number are set. -/
def bitsSet (w n : ℕ) : ℕ := (List.range w).countP fun i => n.testBit i

theorem bitsSet_le (w n : ℕ) : bitsSet w n ≤ w :=
  List.countP_le_length.trans_eq List.length_range

/-- **The bits of a number are those of its two parts.** -/
theorem bitsSet_add (v w n : ℕ) : bitsSet (v + w) n = bitsSet v n + bitsSet w (n / 2 ^ v) := by
  have hhigh : (fun i => n.testBit i) ∘ (v + ·) = fun i => (n / 2 ^ v).testBit i := by
    funext i
    rw [Function.comp_apply, Nat.testBit_div_two_pow, Nat.add_comm]
  rw [bitsSet, List.range_add, List.countP_append, List.countP_map, hhigh]
  rfl

theorem bitsSet_mod (w n : ℕ) : bitsSet w (n % 2 ^ w) = bitsSet w n := by
  refine List.countP_congr ?_
  intro i hi
  rw [Nat.testBit_mod_two_pow, decide_eq_true (List.mem_range.mp hi), Bool.true_and]

/-- **A number whose `n` high bits are set, and no others, has `n` of them.** -/
theorem bitsSet_high (v n : ℕ) : bitsSet (v + n) ((2 ^ n - 1) * 2 ^ v) = n := by
  have hlow : bitsSet v ((2 ^ n - 1) * 2 ^ v) = 0 := by
    rw [bitsSet, List.countP_eq_zero]
    intro i hi
    rw [Nat.testBit_mul_two_pow, decide_eq_false (Nat.not_le.mpr (List.mem_range.mp hi))]
    simp
  have hhigh : bitsSet n (2 ^ n - 1) = n := by
    have hall : (List.range n).countP (fun i => (2 ^ n - 1).testBit i) = (List.range n).length := by
      rw [List.countP_eq_length]
      intro i hi
      rw [Nat.testBit_two_pow_sub_one]
      exact decide_eq_true (List.mem_range.mp hi)
    rwa [List.length_range] at hall
  rw [bitsSet_add, hlow, Nat.mul_div_cancel _ (Nat.two_pow_pos v), hhigh, Nat.zero_add]

theorem count_one_toDigits {n : ℕ} (h : n < 256) : (Nat.toDigits 2 n).count '1' = bitsSet 8 n := by
  revert n
  decide +kernel

end IPScout.Base
