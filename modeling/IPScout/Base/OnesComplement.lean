import Mathlib.Algebra.GroupWithZero.Nat
import Mathlib.Data.List.Induction

/-!
# One's-complement sums

Numbers up to `m` are added with the carry brought round to the low end: what is over
`m` loses `m`.  A list of them sums to the residue of its plain sum (`onesSum_eq`), where
the residue of a positive number is between one and `m` and zero is the residue of
zero alone.

The sum is computed by adding plainly and folding the carries in afterwards, where one
fold leaves the residue alone (`residue_foldCarry`); two leave no carry of a number
below `(m + 1) ^ 2` (`foldCarry_foldCarry_le`).
-/

namespace IPScout.Base

/-- The sum of two numbers, its carry brought round. -/
def carryAdd (m x y : ℕ) : ℕ := if x + y ≤ m then x + y else x + y - m

def onesSum (m : ℕ) (numbers : List ℕ) : ℕ := numbers.foldl (carryAdd m) 0

/-- What is left of a number when `m` is cast out of it, but not of zero alone. -/
def residue (m n : ℕ) : ℕ := if n = 0 then 0 else (n - 1) % m + 1

/-- What is over the digit that `m` fills, added to that digit. -/
def foldCarry (m n : ℕ) : ℕ := n / (m + 1) + n % (m + 1)

variable {m : ℕ}

/-! ### Residues -/

theorem residue_of_le {n : ℕ} (h : n ≤ m) : residue m n = n := by
  rw [residue]
  split
  · omega
  · rw [Nat.mod_eq_of_lt (by omega)]
    omega

theorem residue_le (hm : 0 < m) (n : ℕ) : residue m n ≤ m := by
  rw [residue]
  split
  · exact Nat.zero_le m
  · exact Nat.mod_lt _ hm

/-- Casting out `m` any number of times leaves the residue alone. -/
theorem residue_mul_add {n : ℕ} (h : 0 < n) (k : ℕ) : residue m (m * k + n) = residue m n := by
  rw [residue, residue, if_neg (by omega), if_neg (by omega), Nat.add_sub_assoc h,
    Nat.mul_add_mod]

/-- A number is its residue and a multiple of `m`. -/
theorem exists_eq_mul_add_residue (n : ℕ) : ∃ k, n = m * k + residue m n := by
  by_cases h : n = 0
  · refine ⟨0, ?_⟩
    rw [residue, if_pos h, h]
    rfl
  · refine ⟨(n - 1) / m, ?_⟩
    have hdiv := Nat.div_add_mod (n - 1) m
    rw [residue, if_neg h]
    omega

theorem residue_pos {n : ℕ} (h : 0 < n) : 0 < residue m n := by
  rw [residue, if_neg (by omega)]
  exact Nat.succ_pos _

/-- A positive multiple of `m` leaves `m`. -/
theorem residue_of_dvd {n : ℕ} (h : 0 < n) (hdvd : m ∣ n) : residue m n = m := by
  obtain ⟨k, rfl⟩ := hdvd
  have hm : 0 < m := Nat.pos_of_mul_pos_right h
  have hk : 0 < k := Nat.pos_of_mul_pos_left h
  have hlast : m * k = m * (k - 1) + m := by
    rw [← Nat.mul_succ, Nat.succ_eq_add_one, Nat.sub_add_cancel hk]
  rw [hlast, residue_mul_add hm, residue_of_le (Nat.le_refl m)]

/-- **Adding with the carry brought round keeps residues.** -/
theorem carryAdd_residue (hm : 0 < m) (n : ℕ) {y : ℕ} (hy : y ≤ m) :
    carryAdd m (residue m n) y = residue m (n + y) := by
  by_cases hn : n = 0
  · rw [hn, Nat.zero_add, residue_of_le hy, residue, if_pos rfl, carryAdd, Nat.zero_add,
      if_pos hy]
  · obtain ⟨k, hk⟩ := exists_eq_mul_add_residue (m := m) n
    have hpos : 0 < residue m n := residue_pos (by omega)
    have hle := residue_le hm n
    have hsum : residue m (n + y) = residue m (residue m n + y) := by
      conv_lhs => rw [hk, Nat.add_assoc]
      exact residue_mul_add (by omega) k
    rw [hsum, carryAdd]
    split
    · next hfits => exact (residue_of_le hfits).symm
    · next hover =>
      have hcast : residue m n + y = m * 1 + (residue m n + y - m) := by omega
      conv_rhs => rw [hcast]
      rw [residue_mul_add (show 0 < residue m n + y - m by omega),
        residue_of_le (show residue m n + y - m ≤ m by omega)]

/-- **The sum is the residue of the plain sum.** -/
theorem onesSum_eq (hm : 0 < m) {numbers : List ℕ} (h : ∀ n ∈ numbers, n ≤ m) :
    onesSum m numbers = residue m numbers.sum := by
  induction numbers using List.reverseRecOn with
  | nil => rfl
  | append_singleton numbers n ih =>
    have hrest : ∀ k ∈ numbers, k ≤ m := fun k hk => h k (List.mem_append_left _ hk)
    have hn : n ≤ m := h n (List.mem_append_right _ (List.mem_singleton_self n))
    rw [onesSum, List.foldl_append]
    show carryAdd m (onesSum m numbers) n = _
    rw [ih hrest, carryAdd_residue hm _ hn, List.sum_append_nat, List.sum_singleton]

/-! ### Folding the carries in -/

theorem foldCarry_of_le {n : ℕ} (h : n ≤ m) : foldCarry m n = n := by
  rw [foldCarry, Nat.div_eq_of_lt (by omega), Nat.mod_eq_of_lt (by omega), Nat.zero_add]

/-- **A fold leaves the residue alone.** -/
theorem residue_foldCarry (n : ℕ) : residue m (foldCarry m n) = residue m n := by
  by_cases hn : n = 0
  · rw [hn, foldCarry_of_le (Nat.zero_le m)]
  · have hdiv := Nat.div_add_mod n (m + 1)
    have hcast : n = m * (n / (m + 1)) + foldCarry m n := by
      rw [foldCarry]
      rw [Nat.succ_mul] at hdiv
      omega
    have hpos : 0 < foldCarry m n := by
      by_contra hzero
      have hquotient := (Nat.add_eq_zero_iff.mp (Nat.eq_zero_of_not_pos hzero)).1
      rw [hquotient] at hcast
      omega
    conv_rhs => rw [hcast]
    exact (residue_mul_add hpos _).symm

/-- **Two folds leave no carry** of a number of two digits. -/
theorem foldCarry_foldCarry_le {n : ℕ} (h : n < (m + 1) * (m + 1)) :
    foldCarry m (foldCarry m n) ≤ m := by
  have hquotient : n / (m + 1) < m + 1 := Nat.div_lt_of_lt_mul h
  have hmod : n % (m + 1) < m + 1 := Nat.mod_lt n (Nat.succ_pos m)
  have htwice : foldCarry m n ≤ 2 * m := by
    rw [foldCarry]
    omega
  by_cases hle : foldCarry m n ≤ m
  · rwa [foldCarry_of_le hle]
  · have hsplit : foldCarry m n = (foldCarry m n - (m + 1)) + (m + 1) := by omega
    have hrest : foldCarry m n - (m + 1) < m + 1 := by omega
    rw [hsplit, foldCarry, Nat.add_div_right _ (Nat.succ_pos m), Nat.add_mod_right,
      Nat.div_eq_of_lt hrest, Nat.mod_eq_of_lt hrest]
    omega

/-- The fold that adds what is over without taking it away, once the digit is read. -/
theorem add_div_mod {n : ℕ} (h : foldCarry m n ≤ m) :
    (n + n / (m + 1)) % (m + 1) = foldCarry m n := by
  have hdiv := Nat.div_add_mod n (m + 1)
  have hsum : n + n / (m + 1) = (m + 1) * (n / (m + 1)) + foldCarry m n := by
    rw [foldCarry]
    omega
  rw [hsum, Nat.mul_add_mod, Nat.mod_eq_of_lt (Nat.lt_succ_of_le h)]

end IPScout.Base
