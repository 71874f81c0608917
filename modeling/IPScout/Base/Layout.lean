import IPScout.Base.Octets

/-!
# Fields laid out one after the other

A message of fixed fields is the list of its fields, flattened.  Each field stands behind the
sizes of the fields before it (`slice_fields`), and octets are cut into fields as they are
put together (`drop_eq_slice_append`).
-/

namespace IPScout.Base.Octets

/-- **A field is found behind the sizes of the fields before it.** -/
theorem slice_fields {fields : List Octets} {sizes : List ℕ}
    (hsizes : fields.map List.length = sizes) (rest : Octets) {i lo hi : ℕ}
    (h : i < fields.length) (hlo : (sizes.take i).sum = lo) (hhi : (sizes.take (i + 1)).sum = hi) :
    slice (fields.flatten ++ rest) lo hi = fields[i] := by
  have hsplit : fields.flatten = (fields.take i).flatten ++
      (fields[i] ++ (fields.drop (i + 1)).flatten) := by
    rw [← List.flatten_cons, ← List.drop_eq_getElem_cons h, ← List.flatten_append,
      List.take_append_drop]
  have hsum : ∀ j, ((fields.take j).flatten).length = (sizes.take j).sum := by
    intro j
    rw [List.length_flatten, ← hsizes, List.map_take]
  have hstop : (fields.take (i + 1)).flatten.length =
      (fields.take i).flatten.length + fields[i].length := by
    rw [List.take_succ_eq_append_getElem h, List.flatten_append, List.length_append,
      List.flatten_singleton]
  rw [hsum, hsum, hlo, hhi] at hstop
  rw [hsplit, List.append_assoc, List.append_assoc]
  exact slice_append_append ((hsum i).trans hlo) hstop.symm

theorem drop_eq_slice_append (b : Octets) {lo hi : ℕ} (h : lo ≤ hi) :
    b.drop lo = slice b lo hi ++ b.drop hi := by
  have hrest : (b.drop hi).drop (lo - (b.take hi).length) = b.drop hi := by
    by_cases hlong : hi ≤ b.length
    · rw [List.length_take, Nat.min_eq_left hlong, Nat.sub_eq_zero_of_le h, List.drop_zero]
    · have hnil : b.drop hi = [] := List.drop_eq_nil_of_le (by omega)
      rw [hnil, List.drop_nil]
  calc b.drop lo = (b.take hi ++ b.drop hi).drop lo := by rw [List.take_append_drop]
    _ = slice b lo hi ++ b.drop hi := by rw [List.drop_append, hrest, slice]

end IPScout.Base.Octets
