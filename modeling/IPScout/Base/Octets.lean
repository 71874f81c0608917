import Mathlib.Algebra.Ring.Nat
import Mathlib.Data.List.GetD

/-!
# Octet strings

A datagram is a list of octets.  This file has the few readings every wire
format makes of one: the octet at an offset, the slice between two offsets, and
the unsigned number a big-endian field holds.

`octet` and `slice` are total.  Past the end `octet` reads `0` and `slice` is
cut short, as a slice is in the languages these formats are written in; a
reader that must not look past the end checks the length first.
-/

namespace IPScout.Base

abbrev Octets := List UInt8

namespace Octets

/-- The octet at an offset, as a number. -/
def octet (b : Octets) (i : Nat) : Nat := (b.getD i 0).toNat

/-- The octets from `lo` up to and without `hi`. -/
def slice (b : Octets) (lo hi : Nat) : Octets := (b.take hi).drop lo

/-- The unsigned number a field holds, first octet highest. -/
def bigEndian (b : Octets) : Nat := b.foldl (fun n x => n * 256 + x.toNat) 0

/-- The unsigned number a field holds, first octet lowest. -/
def littleEndian (b : Octets) : Nat := bigEndian b.reverse

/-- A field of `n` octets holds a number below `256 ^ n`. -/
theorem bigEndian_lt (b : Octets) : bigEndian b < 256 ^ b.length := by
  have hfold : ∀ (b : Octets) (n : Nat),
      b.foldl (fun n x => n * 256 + x.toNat) n < (n + 1) * 256 ^ b.length := by
    intro b
    induction b with
    | nil =>
      intro n
      simp
    | cons x rest ih =>
      intro n
      have hx : x.toNat < 256 := x.toNat_lt
      calc (x :: rest).foldl (fun n x => n * 256 + x.toNat) n
          < (n * 256 + x.toNat + 1) * 256 ^ rest.length := ih _
        _ ≤ ((n + 1) * 256) * 256 ^ rest.length := Nat.mul_le_mul_right _ (by omega)
        _ = (n + 1) * 256 ^ (x :: rest).length := by
          rw [List.length_cons, Nat.pow_succ, Nat.mul_assoc, Nat.mul_comm 256]
  have := hfold b 0
  rwa [Nat.zero_add, Nat.one_mul] at this

theorem bigEndian_cons (x : UInt8) (b : Octets) :
    bigEndian (x :: b) = x.toNat * 256 ^ b.length + bigEndian b := by
  have hfold : ∀ (b : Octets) (n : Nat), b.foldl (fun n x => n * 256 + x.toNat) n
      = n * 256 ^ b.length + bigEndian b := by
    intro b
    induction b with
    | nil => intro n; simp [bigEndian]
    | cons x b ih =>
      intro n
      have hx : bigEndian (x :: b) = x.toNat * 256 ^ b.length + bigEndian b := by
        rw [bigEndian, List.foldl_cons, ih, Nat.zero_mul, Nat.zero_add]
      rw [List.foldl_cons, ih, hx, List.length_cons, Nat.pow_succ', Nat.add_mul, Nat.mul_assoc,
        Nat.add_assoc]
  rw [bigEndian, List.foldl_cons, hfold, Nat.zero_mul, Nat.zero_add]

theorem bigEndian_append (a b : Octets) :
    bigEndian (a ++ b) = bigEndian a * 256 ^ b.length + bigEndian b := by
  induction a with
  | nil => rw [List.nil_append, show bigEndian [] = 0 from rfl, Nat.zero_mul, Nat.zero_add]
  | cons x a ih =>
    rw [List.cons_append, bigEndian_cons, bigEndian_cons, ih, List.length_append, Nat.pow_add,
      Nat.add_mul, Nat.mul_assoc, Nat.add_assoc]

theorem octet_append_left {a b : Octets} {i : Nat} (h : i < a.length) :
    octet (a ++ b) i = octet a i := by
  rw [octet, octet, List.getD_append _ _ _ _ h]

theorem octet_append_right {a b : Octets} {i : Nat} (h : a.length ≤ i) :
    octet (a ++ b) i = octet b (i - a.length) := by
  rw [octet, octet, List.getD_append_right _ _ _ _ h]

theorem length_slice (b : Octets) (lo hi : Nat) :
    (slice b lo hi).length = min hi b.length - lo := by
  rw [slice, List.length_drop, List.length_take]

theorem slice_take {b : Octets} {lo hi n : Nat} (h : hi ≤ n) :
    slice (b.take n) lo hi = slice b lo hi := by
  rw [slice, slice, List.take_take, Nat.min_eq_left h]

theorem slice_append_left {a b : Octets} {lo hi : Nat} (h : hi ≤ a.length) :
    slice (a ++ b) lo hi = slice a lo hi := by
  rw [slice, slice, List.take_append_of_le_length h]

theorem slice_append_right {a b : Octets} {lo hi : Nat} (h : a.length ≤ lo) :
    slice (a ++ b) lo hi = slice b (lo - a.length) (hi - a.length) := by
  rw [slice, slice, List.take_append, List.drop_append, List.drop_eq_nil_of_le,
    List.nil_append, List.length_take]
  · by_cases hhi : a.length ≤ hi
    · rw [Nat.min_eq_right hhi]
    · rw [show hi - a.length = 0 by omega, List.take_zero, List.drop_nil, List.drop_nil]
  · rw [List.length_take]
    omega

theorem slice_append_add (a b : Octets) (lo hi : Nat) :
    slice (a ++ b) (a.length + lo) (a.length + hi) = slice b lo hi := by
  rw [slice_append_right (Nat.le_add_right _ _), Nat.add_sub_cancel_left, Nat.add_sub_cancel_left]

theorem slice_append_append {before field rest : Octets} {lo hi : Nat} (hlo : before.length = lo)
    (hhi : lo + field.length = hi) : slice (before ++ (field ++ rest)) lo hi = field := by
  subst hlo hhi
  rw [slice_append_right le_rfl, Nat.sub_self, Nat.add_sub_cancel_left,
    slice_append_left le_rfl, slice, List.take_length, List.drop_zero]

theorem slice_append_zero {field : Octets} {hi : Nat} (hhi : field.length = hi) (rest : Octets) :
    slice (field ++ rest) 0 hi = field := by
  subst hhi
  rw [slice_append_left le_rfl, slice, List.take_length, List.drop_zero]

end Octets

end IPScout.Base
