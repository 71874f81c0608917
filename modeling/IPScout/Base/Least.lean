import Mathlib.Data.List.MinMax

/-!
# The first least element of a list

`List.argmin` scans a list and keeps the first of the least elements.  Where a list is
filtered before it is scanned, the element found stands in the list itself, the wanted elements
before it are greater, and those behind it are no less (`exists_of_argmin_filter`).
-/

namespace IPScout.Base

variable {α β : Type*} [LinearOrder β] {f : α → β}

theorem exists_of_mem_argmin {l : List α} {m : α} (h : m ∈ l.argmin f) :
    ∃ before after, l = before ++ m :: after ∧ (∀ a ∈ before, f m < f a) ∧
      ∀ a ∈ after, f m ≤ f a := by
  induction l generalizing m with
  | nil => cases h
  | cons a l ih =>
    rw [List.argmin_cons] at h
    cases hleast : l.argmin f with
    | none =>
      rw [hleast] at h
      obtain rfl : a = m := Option.some.inj h
      obtain rfl := List.argmin_eq_none.mp hleast
      exact ⟨[], [], rfl, by simp, by simp⟩
    | some c =>
      obtain ⟨before, after, hl, hbefore, hafter⟩ := ih hleast
      rw [hleast] at h
      dsimp only at h
      split at h
      · next hless =>
        obtain rfl : c = m := Option.some.inj h
        refine ⟨a :: before, after, by rw [hl, List.cons_append], ?_, hafter⟩
        intro b hb
        rcases List.mem_cons.mp hb with rfl | hb
        · exact hless
        · exact hbefore b hb
      · next hnot =>
        obtain rfl : a = m := Option.some.inj h
        refine ⟨[], l, rfl, by simp, ?_⟩
        intro b hb
        exact (not_lt.mp hnot).trans (List.le_of_mem_argmin hb hleast)

/-- **The first least of the wanted elements**, by its place in the list. -/
theorem exists_of_argmin_filter {wanted : α → Bool} {l : List α} {m : α}
    (h : m ∈ (l.filter wanted).argmin f) :
    ∃ before after, l = before ++ m :: after ∧ wanted m = true ∧
      (∀ a ∈ before, wanted a = true → f m < f a) ∧ ∀ a ∈ after, wanted a = true → f m ≤ f a := by
  obtain ⟨before, after, hl, hbefore, hafter⟩ := exists_of_mem_argmin h
  obtain ⟨first, second, rfl, rfl, hsecond⟩ := List.filter_eq_append_iff.mp hl
  obtain ⟨skipped, rest, rfl, hskipped, hm, rfl⟩ := List.filter_eq_cons_iff.mp hsecond
  refine ⟨first ++ skipped, rest, by rw [List.append_assoc], hm, ?_, ?_⟩
  · intro a ha hwanted
    rcases List.mem_append.mp ha with ha | ha
    · exact hbefore a (List.mem_filter.mpr ⟨ha, hwanted⟩)
    · exact absurd hwanted (hskipped a ha)
  · intro a ha hwanted
    exact hafter a (List.mem_filter.mpr ⟨ha, hwanted⟩)

end IPScout.Base
