import IPScout.Base.Dict

/-!
# Grouping in one pass

A walk that keeps one value for each key in an insertion-ordered dictionary: the value of a key
begins with the first element that has it and absorbs each of them.  The keys are the distinct
keys as they are first seen (`keys_grouped`), and the value of a key is what its own elements come
to, in order, wherever the others stand among them (`get?_grouped`).
-/

namespace IPScout.Base

variable {α κ ν : Type} [DecidableEq κ] (key : α → κ) (start : α → ν) (absorb : ν → α → ν)

/-- One element more: the value of its key, begun if there is none yet. -/
def absorbInto (d : Dict κ ν) (a : α) : Dict κ ν :=
  d.set (key a) (absorb ((d.get? (key a)).getD (start a)) a)

def grouped (l : List α) : Dict κ ν := l.foldl (absorbInto key start absorb) .empty

/-- What the elements of a group come to. -/
def groupValue : List α → Option ν
  | [] => none
  | a :: rest => some ((a :: rest).foldl absorb (start a))

theorem grouped_concat (l : List α) (a : α) :
    grouped key start absorb (l ++ [a]) =
      absorbInto key start absorb (grouped key start absorb l) a := by
  rw [grouped, List.foldl_append, List.foldl_cons, List.foldl_nil, grouped]

theorem groupValue_concat (l : List α) (a : α) :
    groupValue start absorb (l ++ [a]) =
      some (absorb ((groupValue start absorb l).getD (start a)) a) := by
  cases l with
  | nil => rfl
  | cons b rest =>
    rw [List.cons_append, groupValue, groupValue, ← List.cons_append, List.foldl_append]
    rfl

/-- **The keys are the distinct keys, in the order they are first seen.** -/
theorem keys_grouped [BEq κ] [LawfulBEq κ] (l : List α) :
    (grouped key start absorb l).keys = (l.map key).eraseDups := by
  induction l using List.reverseRecOn with
  | nil => rfl
  | append_singleton l a ih =>
    rw [grouped_concat, absorbInto, List.map_append, List.map_singleton, eraseDups_concat, ← ih]
    by_cases hkey : key a ∈ (grouped key start absorb l).keys
    · rw [Dict.keys_set_of_mem hkey, if_pos]
      rwa [ih, List.mem_eraseDups] at hkey
    · rw [Dict.keys_set_of_notMem hkey, if_neg]
      rwa [ih, List.mem_eraseDups] at hkey

/-- **The value of a key is that of its own elements, in order.** -/
theorem get?_grouped (l : List α) (k : κ) :
    (grouped key start absorb l).get? k =
      groupValue start absorb (l.filter fun a => key a = k) := by
  induction l using List.reverseRecOn with
  | nil => rfl
  | append_singleton l a ih =>
    have hlast : [a].filter (fun b => key b = k) = if key a = k then [a] else [] := by
      rw [List.filter_cons, List.filter_nil]
      simp only [decide_eq_true_eq]
    rw [grouped_concat, absorbInto, List.filter_append, hlast]
    by_cases hkey : key a = k
    · subst hkey
      rw [if_pos rfl, Dict.get?_set_self, ih, groupValue_concat]
    · rw [if_neg hkey, Dict.get?_set_of_ne _ _ (Ne.symm hkey), ih, List.append_nil]

theorem groupValue_of_mem_entries {l : List α} {k : κ} {v : ν}
    (h : (k, v) ∈ (grouped key start absorb l).entries) :
    groupValue start absorb (l.filter fun a => key a = k) = some v :=
  (get?_grouped key start absorb l k).symm.trans (Dict.get?_eq_some_iff.mpr h)

end IPScout.Base
