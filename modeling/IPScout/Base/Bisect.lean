import Mathlib.Algebra.Ring.Nat

/-!
# Bisection with unreliable tests

A search for the greatest number that passes a test, between a number that passes and
one above which none is looked for.  `bisect` makes its tests one after another, and
what a test says may depend on how many came before it.

If the numbers above `m` never pass and `m` lies between the two, the search ends at
`m` exactly when no number on the way to it fails that should pass
(`bisect_eq_iff`): a failure below `m` is never made up for.
-/

namespace IPScout.Base

/-- The number half way between two, the upper one of two such. -/
def middle (low high : ℕ) : ℕ := (low + high + 1) / 2

theorem middle_mem {low high : ℕ} (h : low < high) :
    low < middle low high ∧ middle low high ≤ high := by
  rw [middle]
  omega

/-- Search from the `k`th test on. -/
def bisect (test : ℕ → ℕ → Bool) (k low high : ℕ) : ℕ :=
  if h : low < high then
    if test k (middle low high) then bisect test (k + 1) (middle low high) high
    else bisect test (k + 1) low (middle low high - 1)
  else low
termination_by high - low
decreasing_by
  · have := middle_mem h
    omega
  · have := middle_mem h
    omega

/-- The numbers tried on the way to `m`, where exactly the numbers up to `m` pass. -/
def middles (m low high : ℕ) : List ℕ :=
  if h : low < high then
    middle low high ::
      if middle low high ≤ m then middles m (middle low high) high
      else middles m low (middle low high - 1)
  else []
termination_by high - low
decreasing_by
  · have := middle_mem h
    omega
  · have := middle_mem h
    omega

theorem forall_getElem?_cons {α : Type} {P : ℕ → α → Prop} {a : α} {l : List α} :
    (∀ j x, (a :: l)[j]? = some x → P j x) ↔ P 0 a ∧ ∀ j x, l[j]? = some x → P (j + 1) x := by
  constructor
  · intro h
    exact ⟨h 0 a rfl, fun j x hj => h (j + 1) x hj⟩
  · rintro ⟨hfirst, hrest⟩ j x hj
    cases j with
    | zero =>
      obtain rfl := Option.some.inj hj
      exact hfirst
    | succ j => exact hrest j x hj

variable {test : ℕ → ℕ → Bool}

theorem bisect_mem {k low high : ℕ} (h : low ≤ high) :
    low ≤ bisect test k low high ∧ bisect test k low high ≤ high := by
  induction k, low, high using bisect.induct test with
  | case1 k low high hlt htest ih =>
    have hmid := middle_mem hlt
    rw [bisect, dif_pos hlt, if_pos htest]
    have := ih hmid.2
    omega
  | case2 k low high hlt htest ih =>
    have hmid := middle_mem hlt
    rw [bisect, dif_pos hlt, if_neg htest]
    have := ih (by omega)
    omega
  | case3 k low high hlt =>
    rw [bisect, dif_neg hlt]
    omega

/-- **The search ends at the greatest number that passes exactly when every number on the
way to it that should pass does.** -/
theorem bisect_eq_iff {m : ℕ} (hfail : ∀ k n, m < n → test k n = false) {k low high : ℕ}
    (hlow : low ≤ m) (hhigh : m ≤ high) :
    bisect test k low high = m ↔
      ∀ j n, (middles m low high)[j]? = some n → n ≤ m → test (k + j) n = true := by
  induction k, low, high using bisect.induct test with
  | case1 k low high hlt htest ih =>
    -- a test that passes was of a number up to `m`
    have hle : middle low high ≤ m := by
      by_cases hle : middle low high ≤ m
      · exact hle
      · rw [hfail k _ (Nat.lt_of_not_le hle)] at htest
        exact absurd htest (by decide)
    rw [bisect, dif_pos hlt, if_pos htest, middles, dif_pos hlt, if_pos hle, ih hle hhigh,
      forall_getElem?_cons]
    simp only [Nat.add_right_comm k 1, Nat.add_assoc]
    constructor
    · intro hall
      exact ⟨fun _ => htest, hall⟩
    · intro hall
      exact hall.2
  | case2 k low high hlt htest ih =>
    have hmid := middle_mem hlt
    rw [bisect, dif_pos hlt, if_neg htest, middles, dif_pos hlt]
    by_cases hle : middle low high ≤ m
    · -- the number should have passed, and the search is below `m` from here on
      have hend := @bisect_mem test (k + 1) low (middle low high - 1) (by omega)
      constructor
      · intro heq
        omega
      · intro hall
        exact absurd (hall 0 _ rfl hle) htest
    · rw [if_neg hle, ih hlow (by omega), forall_getElem?_cons]
      simp only [Nat.add_right_comm k 1, Nat.add_assoc]
      constructor
      · intro hall
        exact ⟨fun hn => absurd hn hle, hall⟩
      · intro hall
        exact hall.2
  | case3 k low high hlt =>
    rw [bisect, dif_neg hlt, middles, dif_neg hlt]
    constructor
    · intro _ j n hj
      simp at hj
    · intro _
      omega

/-! ### Tests that agree -/

theorem bisect_congr {test' : ℕ → ℕ → Bool} {k low high : ℕ}
    (h : ∀ k n, low < n → n ≤ high → test k n = test' k n) :
    bisect test k low high = bisect test' k low high := by
  induction k, low, high using bisect.induct test with
  | case1 k low high hlt htest ih =>
    have hmid := middle_mem hlt
    have hsame := h k _ hmid.1 hmid.2
    rw [bisect, dif_pos hlt, if_pos htest, ih (fun k n hn hle => h k n (by omega) hle)]
    rw [htest] at hsame
    rw [bisect.eq_def test' k low high, dif_pos hlt, if_pos hsame.symm]
  | case2 k low high hlt htest ih =>
    have hmid := middle_mem hlt
    have hsame := h k _ hmid.1 hmid.2
    rw [bisect, dif_pos hlt, if_neg htest, ih (fun k n hn hle => h k n hn (by omega))]
    rw [hsame] at htest
    rw [bisect.eq_def test' k low high, dif_pos hlt, if_neg htest]
  | case3 k low high hlt =>
    rw [bisect, dif_neg hlt, bisect, dif_neg hlt]

/-- **The search is the same when everything is counted from another number.** -/
theorem bisect_add (o k low high : ℕ) :
    bisect (fun k n => test k (n + o)) k low high + o = bisect test k (low + o) (high + o) := by
  induction k, low, high using bisect.induct (fun k n => test k (n + o)) with
  | case1 k low high hlt htest ih =>
    have hmid : middle (low + o) (high + o) = middle low high + o := by
      rw [middle, middle]
      omega
    rw [bisect, dif_pos hlt, if_pos htest, ih]
    rw [bisect.eq_def test k (low + o) (high + o), dif_pos (by omega), hmid, if_pos htest]
  | case2 k low high hlt htest ih =>
    have hbetween := middle_mem hlt
    have hmid : middle (low + o) (high + o) = middle low high + o := by
      rw [middle, middle]
      omega
    rw [bisect, dif_pos hlt, if_neg htest, ih]
    rw [bisect.eq_def test k (low + o) (high + o), dif_pos (by omega), hmid, if_neg htest]
    rw [show middle low high + o - 1 = middle low high - 1 + o by omega]
  | case3 k low high hlt =>
    rw [bisect, dif_neg hlt, bisect, dif_neg (by omega)]

/-- Where exactly the numbers up to `m` pass, the search ends at `m`. -/
theorem bisect_eq_of_threshold {m k low high : ℕ} (hlow : low ≤ m) (hhigh : m ≤ high)
    (h : ∀ k n, low < n → n ≤ high → (test k n = true ↔ n ≤ m)) :
    bisect test k low high = m := by
  induction k, low, high using bisect.induct test with
  | case1 k low high hlt htest ih =>
    have hmid := middle_mem hlt
    have hle := (h k _ hmid.1 hmid.2).mp htest
    rw [bisect, dif_pos hlt, if_pos htest]
    exact ih hle hhigh (fun k n hn hle => h k n (by omega) hle)
  | case2 k low high hlt htest ih =>
    have hmid := middle_mem hlt
    have hnot := mt (h k _ hmid.1 hmid.2).mpr htest
    rw [bisect, dif_pos hlt, if_neg htest]
    exact ih hlow (by omega) (fun k n hn hle => h k n hn (by omega))
  | case3 k low high hlt =>
    rw [bisect, dif_neg hlt]
    omega

/-! ### The tests made -/

/-- The numbers tried from the `k`th test on, and what the tests said. -/
def tests (test : ℕ → ℕ → Bool) (k low high : ℕ) : List (ℕ × Bool) :=
  if h : low < high then
    (middle low high, test k (middle low high)) ::
      if test k (middle low high) then tests test (k + 1) (middle low high) high
      else tests test (k + 1) low (middle low high - 1)
  else []
termination_by high - low
decreasing_by
  · have := middle_mem h
    omega
  · have := middle_mem h
    omega

theorem tests_mem {k low high : ℕ} {x : ℕ × Bool} (hx : x ∈ tests test k low high) :
    low < x.1 ∧ x.1 ≤ high := by
  induction k, low, high using bisect.induct test with
  | case1 k low high hlt htest ih =>
    have hmid := middle_mem hlt
    rw [tests, dif_pos hlt, if_pos htest, List.mem_cons] at hx
    rcases hx with rfl | hx
    · exact hmid
    · have := ih hx
      omega
  | case2 k low high hlt htest ih =>
    have hmid := middle_mem hlt
    rw [tests, dif_pos hlt, if_neg htest, List.mem_cons] at hx
    rcases hx with rfl | hx
    · exact hmid
    · have := ih hx
      omega
  | case3 k low high hlt =>
    rw [tests, dif_neg hlt] at hx
    simp at hx

/-- **The search ends at its lower bound or at a number that was seen to pass.** -/
theorem bisect_tested (k low high : ℕ) :
    bisect test k low high = low ∨ (bisect test k low high, true) ∈ tests test k low high := by
  induction k, low, high using bisect.induct test with
  | case1 k low high hlt htest ih =>
    rw [bisect, dif_pos hlt, if_pos htest, tests, dif_pos hlt, if_pos htest, List.mem_cons, htest]
    rcases ih with heq | hmem
    · rw [heq]
      exact Or.inr (Or.inl rfl)
    · exact Or.inr (Or.inr hmem)
  | case2 k low high hlt htest ih =>
    rw [bisect, dif_pos hlt, if_neg htest, tests, dif_pos hlt, if_neg htest, List.mem_cons]
    rcases ih with heq | hmem
    · exact Or.inl heq
    · exact Or.inr (Or.inr hmem)
  | case3 k low high hlt =>
    rw [bisect, dif_neg hlt]
    exact Or.inl rfl

theorem length_tests {k low high d : ℕ} (h : high - low < 2 ^ d) :
    (tests test k low high).length ≤ d := by
  induction k, low, high using bisect.induct test generalizing d with
  | case1 k low high hlt htest ih =>
    have hmid : middle low high = (low + high + 1) / 2 := rfl
    obtain ⟨d, rfl⟩ : ∃ e, d = e + 1 := by
      refine ⟨d - 1, ?_⟩
      rcases d with _ | d
      · rw [Nat.pow_zero] at h
        omega
      · rfl
    rw [Nat.pow_succ] at h
    have hrest := ih (d := d) (by omega)
    rw [tests, dif_pos hlt, if_pos htest, List.length_cons]
    omega
  | case2 k low high hlt htest ih =>
    have hmid : middle low high = (low + high + 1) / 2 := rfl
    obtain ⟨d, rfl⟩ : ∃ e, d = e + 1 := by
      refine ⟨d - 1, ?_⟩
      rcases d with _ | d
      · rw [Nat.pow_zero] at h
        omega
      · rfl
    rw [Nat.pow_succ] at h
    have hrest := ih (d := d) (by omega)
    rw [tests, dif_pos hlt, if_neg htest, List.length_cons]
    omega
  | case3 k low high hlt =>
    rw [tests, dif_neg hlt]
    exact Nat.zero_le d

end IPScout.Base
