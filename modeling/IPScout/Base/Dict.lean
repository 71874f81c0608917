import Mathlib.Data.List.Induction
import Mathlib.Data.List.Nodup

/-!
# Insertion-ordered dictionaries

A dictionary maps each of its keys to one value and remembers the order in which
the keys were first set.  Setting a key that is there keeps its place, setting a
new one puts it last, and popping a key forgets its place.

That no key occurs twice is a field of the structure, so a lookup is the same as
membership (`get?_eq_some_iff`), and the laws of `set` and `pop` follow from
what each does to the entries.
-/

namespace IPScout.Base

/-! ### First occurrences -/

theorem eraseDups_concat {α : Type*} [BEq α] [LawfulBEq α] [DecidableEq α] (l : List α) (a : α) :
    (l ++ [a]).eraseDups = if a ∈ l then l.eraseDups else l.eraseDups ++ [a] := by
  rw [List.eraseDups_append]
  show _ ++ ([a].filter fun x => !l.elem x).eraseDups = _
  by_cases h : a ∈ l
  · rw [if_pos h, List.filter_cons_of_neg (by simpa using h), List.filter_nil, List.eraseDups_nil,
      List.append_nil]
  · rw [if_neg h, List.filter_cons_of_pos (by simpa using h), List.filter_nil]
    rfl

theorem nodup_eraseDups {α : Type*} [BEq α] [LawfulBEq α] [DecidableEq α] (l : List α) :
    l.eraseDups.Nodup := by
  induction l using List.reverseRecOn with
  | nil => exact List.nodup_nil
  | append_singleton l a ih =>
    rw [eraseDups_concat]
    split
    · exact ih
    · next h =>
      rw [List.nodup_append]
      refine ⟨ih, by simp, ?_⟩
      intro x hx y hy
      rw [List.mem_singleton.mp hy]
      rintro rfl
      exact h (List.mem_eraseDups.mp hx)

/-- The distinct elements of a list, in the order each is first seen. -/
structure FirstSeen {α : Type*} [BEq α] (l firsts : List α) : Prop where
  nodup : firsts.Nodup
  mem_iff : ∀ a, a ∈ firsts ↔ a ∈ l
  ordered : firsts.Pairwise fun a b => l.idxOf a < l.idxOf b

/-- **The first occurrences are the elements as they are first seen.** -/
theorem firstSeen_eraseDups {α : Type*} [BEq α] [LawfulBEq α] [DecidableEq α] (l : List α) :
    FirstSeen l l.eraseDups where
  nodup := nodup_eraseDups l
  mem_iff := fun _ => List.mem_eraseDups
  ordered := by
    induction l using List.reverseRecOn with
    | nil => exact List.Pairwise.nil
    | append_singleton l a ih =>
      have hkeep : l.eraseDups.Pairwise fun x y => (l ++ [a]).idxOf x < (l ++ [a]).idxOf y := by
        refine ih.imp_of_mem ?_
        intro x y hx hy hlt
        rw [List.idxOf_append_of_mem (List.mem_eraseDups.mp hx),
          List.idxOf_append_of_mem (List.mem_eraseDups.mp hy)]
        exact hlt
      rw [eraseDups_concat]
      split
      · exact hkeep
      · next h =>
        rw [List.pairwise_append]
        refine ⟨hkeep, List.pairwise_singleton _ _, ?_⟩
        intro x hx y hy
        have hx := List.mem_eraseDups.mp hx
        rw [List.mem_singleton.mp hy, List.idxOf_append_of_mem hx, List.idxOf_append_of_notMem h]
        have := List.idxOf_lt_length_of_mem hx
        omega

theorem FirstSeen.eq_nil_iff {α : Type*} [BEq α] {l firsts : List α} (h : FirstSeen l firsts) :
    firsts = [] ↔ l = [] := by
  rw [List.eq_nil_iff_forall_not_mem, List.eq_nil_iff_forall_not_mem]
  exact forall_congr' fun a => not_congr (h.mem_iff a)

/-! ### Dictionaries -/

/-- An insertion-ordered dictionary. -/
structure Dict (κ ν : Type*) where
  entries : List (κ × ν)
  nodup : (entries.map Prod.fst).Nodup

namespace Dict

variable {κ ν : Type*}

@[ext] theorem ext {d e : Dict κ ν} (h : d.entries = e.entries) : d = e := by
  cases d
  cases e
  congr

def empty : Dict κ ν := ⟨[], List.nodup_nil⟩

def keys (d : Dict κ ν) : List κ := d.entries.map Prod.fst

theorem nodup_keys (d : Dict κ ν) : d.keys.Nodup := d.nodup

theorem eq_of_mem {d : Dict κ ν} {k : κ} {v w : ν} (hv : (k, v) ∈ d.entries)
    (hw : (k, w) ∈ d.entries) : v = w := by
  have := List.inj_on_of_nodup_map d.nodup hv hw rfl
  simpa using this

variable [DecidableEq κ]

def get? (d : Dict κ ν) (k : κ) : Option ν := (d.entries.find? (·.1 = k)).map Prod.snd

/-- `d[k] = v`. -/
def set (d : Dict κ ν) (k : κ) (v : ν) : Dict κ ν where
  entries :=
    if k ∈ d.keys then d.entries.map (fun e => if e.1 = k then (k, v) else e)
    else d.entries ++ [(k, v)]
  nodup := by
    split
    · have hkeys : (d.entries.map (fun e => if e.1 = k then (k, v) else e)).map Prod.fst
          = d.entries.map Prod.fst := by
        rw [List.map_map]
        refine List.map_congr_left (fun e _ => ?_)
        simp only [Function.comp]
        split
        · next h => exact h.symm
        · rfl
      rw [hkeys]
      exact d.nodup
    · next h =>
      rw [List.map_append, List.nodup_append]
      refine ⟨d.nodup, by simp, ?_⟩
      intro a ha b hb
      simp only [List.map_cons, List.map_nil, List.mem_singleton] at hb
      subst hb
      intro he
      exact h (he ▸ ha)

/-- `d.pop(k, None)`. -/
def pop (d : Dict κ ν) (k : κ) : Dict κ ν where
  entries := d.entries.filter (·.1 ≠ k)
  nodup := (List.filter_sublist.map Prod.fst).nodup d.nodup

/-- `dict(pairs)`: the pairs set one after the other. -/
def ofPairs (pairs : List (κ × ν)) : Dict κ ν := pairs.foldl (fun d e => d.set e.1 e.2) empty

/-! ### Lookup and membership -/

theorem get?_eq_some_iff {d : Dict κ ν} {k : κ} {v : ν} :
    d.get? k = some v ↔ (k, v) ∈ d.entries := by
  constructor
  · intro h
    obtain ⟨⟨j, w⟩, hfind, hw⟩ := Option.map_eq_some_iff.mp h
    have hk : j = k := by simpa using List.find?_some hfind
    subst hk
    simp only at hw
    subst hw
    exact List.mem_of_find?_eq_some hfind
  · intro h
    cases hfind : d.entries.find? (·.1 = k) with
    | none =>
      have := List.find?_eq_none.mp hfind _ h
      simp at this
    | some e =>
      obtain ⟨j, w⟩ := e
      have hk : j = k := by simpa using List.find?_some hfind
      subst hk
      rw [get?, hfind, eq_of_mem (List.mem_of_find?_eq_some hfind) h]
      rfl

theorem get?_eq_none_iff {d : Dict κ ν} {k : κ} : d.get? k = none ↔ k ∉ d.keys := by
  simp only [get?, Option.map_eq_none_iff, List.find?_eq_none, keys, List.mem_map, not_exists,
    not_and]
  constructor
  · intro h e he hk
    simpa [hk] using h e he
  · intro h e he
    simpa using h e he

theorem mem_keys_iff {d : Dict κ ν} {k : κ} : k ∈ d.keys ↔ ∃ v, d.get? k = some v := by
  rw [← Option.isSome_iff_exists, Option.isSome_iff_ne_none, Ne, get?_eq_none_iff, not_not]

@[simp] theorem get?_empty (k : κ) : (empty : Dict κ ν).get? k = none := rfl

/-! ### Setting and popping -/

theorem entries_set_of_mem {d : Dict κ ν} {k : κ} {v : ν} (h : k ∈ d.keys) :
    (d.set k v).entries = d.entries.map (fun e => if e.1 = k then (k, v) else e) := if_pos h

theorem entries_set_of_notMem {d : Dict κ ν} {k : κ} {v : ν} (h : k ∉ d.keys) :
    (d.set k v).entries = d.entries ++ [(k, v)] := if_neg h

theorem mem_entries_set {d : Dict κ ν} {k j : κ} {v w : ν} :
    (j, w) ∈ (d.set k v).entries ↔ (j = k ∧ w = v) ∨ (j ≠ k ∧ (j, w) ∈ d.entries) := by
  by_cases h : k ∈ d.keys
  · obtain ⟨⟨i, u⟩, hu, hi⟩ := List.mem_map.mp h
    simp only at hi
    subst hi
    rw [entries_set_of_mem h]
    constructor
    · intro hj
      obtain ⟨⟨i', u'⟩, hu', he⟩ := List.mem_map.mp hj
      split at he
      · simp only [Prod.mk.injEq] at he
        exact Or.inl ⟨he.1.symm, he.2.symm⟩
      · next hne =>
        simp only [Prod.mk.injEq] at he
        obtain ⟨rfl, rfl⟩ := he
        exact Or.inr ⟨hne, hu'⟩
    · rintro (⟨rfl, rfl⟩ | ⟨hne, hj⟩)
      · exact List.mem_map.mpr ⟨(j, u), hu, by simp⟩
      · exact List.mem_map.mpr ⟨(j, w), hj, by simp [hne]⟩
  · rw [entries_set_of_notMem h, List.mem_append, List.mem_singleton, Prod.mk.injEq]
    constructor
    · rintro (hj | hj)
      · refine Or.inr ⟨?_, hj⟩
        rintro rfl
        exact h (List.mem_map.mpr ⟨_, hj, rfl⟩)
      · exact Or.inl hj
    · rintro (hj | ⟨_, hj⟩)
      · exact Or.inr hj
      · exact Or.inl hj

@[simp] theorem get?_set_self (d : Dict κ ν) (k : κ) (v : ν) : (d.set k v).get? k = some v := by
  rw [get?_eq_some_iff, mem_entries_set]
  exact Or.inl ⟨rfl, rfl⟩

theorem get?_set_of_ne (d : Dict κ ν) {k j : κ} (v : ν) (h : j ≠ k) :
    (d.set k v).get? j = d.get? j := by
  ext w
  rw [get?_eq_some_iff, get?_eq_some_iff, mem_entries_set]
  simp [h]

@[simp] theorem get?_pop_self (d : Dict κ ν) (k : κ) : (d.pop k).get? k = none := by
  rw [get?_eq_none_iff]
  simp [keys, pop]

theorem get?_pop_of_ne (d : Dict κ ν) {k j : κ} (h : j ≠ k) : (d.pop k).get? j = d.get? j := by
  ext w
  rw [get?_eq_some_iff, get?_eq_some_iff]
  simp [pop, h]

theorem get?_pop {d : Dict κ ν} {k j : κ} {v : ν} :
    (d.pop k).get? j = some v ↔ j ≠ k ∧ d.get? j = some v := by
  by_cases h : j = k
  · subst h; simp
  · rw [get?_pop_of_ne d h]; simp [h]

theorem keys_set_of_mem {d : Dict κ ν} {k : κ} {v : ν} (h : k ∈ d.keys) :
    (d.set k v).keys = d.keys := by
  rw [keys, entries_set_of_mem h, List.map_map, keys]
  refine List.map_congr_left (fun e _ => ?_)
  simp only [Function.comp]
  split
  · next he => exact he.symm
  · rfl

theorem keys_set_of_notMem {d : Dict κ ν} {k : κ} {v : ν} (h : k ∉ d.keys) :
    (d.set k v).keys = d.keys ++ [k] := by
  rw [keys, entries_set_of_notMem h, List.map_append]
  rfl

/-! ### Dictionaries of pairs -/

theorem ofPairs_append (pairs : List (κ × ν)) (k : κ) (v : ν) :
    ofPairs (pairs ++ [(k, v)]) = (ofPairs pairs).set k v := by
  rw [ofPairs, List.foldl_append]
  rfl

/-- **The keys are the distinct first components, in the order they first occur.** -/
theorem keys_ofPairs [BEq κ] [LawfulBEq κ] (pairs : List (κ × ν)) :
    (ofPairs pairs).keys = (pairs.map Prod.fst).eraseDups := by
  induction pairs using List.reverseRecOn with
  | nil => rfl
  | append_singleton pairs e ih =>
    obtain ⟨k, v⟩ := e
    have hmem : k ∈ (ofPairs pairs).keys ↔ k ∈ pairs.map Prod.fst := by rw [ih, List.mem_eraseDups]
    rw [ofPairs_append, List.map_append]
    show _ = (pairs.map Prod.fst ++ [k]).eraseDups
    rw [eraseDups_concat, ← ih]
    by_cases hk : k ∈ (ofPairs pairs).keys
    · rw [keys_set_of_mem hk, if_pos (hmem.mp hk)]
    · rw [keys_set_of_notMem hk, if_neg fun h => hk (hmem.mpr h)]

/-- `dict.fromkeys(keys)`. -/
def fromKeys (keys : List κ) : Dict κ Unit := ofPairs (keys.map fun k => (k, ()))

theorem keys_fromKeys [BEq κ] [LawfulBEq κ] (keys : List κ) :
    (fromKeys keys).keys = keys.eraseDups := by
  have hkeys : (keys.map fun k => (k, ())).map Prod.fst = keys := by
    rw [List.map_map]
    exact List.map_id keys
  rw [fromKeys, keys_ofPairs, hkeys]

theorem entries_ofPairs {pairs : List (κ × ν)} (h : (pairs.map Prod.fst).Nodup) :
    (ofPairs pairs).entries = pairs := by
  induction pairs using List.reverseRecOn with
  | nil => rfl
  | append_singleton pairs e ih =>
    obtain ⟨k, v⟩ := e
    rw [List.map_append, List.nodup_append] at h
    have hk : k ∉ (ofPairs pairs).keys := by
      rw [keys_ofPairs, List.mem_eraseDups]
      intro hmem
      exact h.2.2 k hmem k (by simp) rfl
    rw [ofPairs_append, entries_set_of_notMem hk, ih h.1]

theorem get?_ofPairs_of_mem {pairs : List (κ × ν)} (h : (pairs.map Prod.fst).Nodup) {k : κ}
    {v : ν} (hmem : (k, v) ∈ pairs) : (ofPairs pairs).get? k = some v := by
  rw [get?_eq_some_iff, entries_ofPairs h]
  exact hmem

theorem get?_ofPairs_of_notMem {pairs : List (κ × ν)} {k : κ} (h : k ∉ pairs.map Prod.fst) :
    (ofPairs pairs).get? k = none := by
  rw [get?_eq_none_iff, keys_ofPairs, List.mem_eraseDups]
  exact h

end Dict

end IPScout.Base
