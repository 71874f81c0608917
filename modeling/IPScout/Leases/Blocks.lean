import IPScout.Leases.Stores

/-!
# Files of lease blocks

A block is the word `lease` and a text in braces, with white space around the braces.  A file
of blocks is the bodies of its blocks to the parser (`findall_file`), also after a front that
holds no opening brace, and after one without an `l` before that (`findall_fragment_file`):
the rest of a block that was cut into is made of two such fronts.

The last block for the interface is the lease (`foldl_newer`).
-/

namespace IPScout.Leases

open Base Base.Text

/-- `lease { ... }`. -/
structure Block where
  gap : Text
  body : Text
  after : Text
  gap_isSpace : ∀ c ∈ gap, isSpace c = true
  body_braceless : '\x7b' ∉ body ∧ '\x7d' ∉ body
  after_isSpace : ∀ c ∈ after, isSpace c = true

namespace Block

def render (b : Block) : Text :=
  "lease".toList ++ (b.gap ++ '\x7b' :: (b.body ++ '\x7d' :: b.after))

def file (blocks : List Block) : Text := blocks.flatMap render

theorem file_cons (b : Block) (blocks : List Block) :
    file (b :: blocks) = b.render ++ file blocks := List.flatMap_cons

theorem brace_notMem_of_isSpace {t : Text} (h : ∀ c ∈ t, isSpace c = true) : '\x7b' ∉ t := by
  intro hmem
  exact absurd (h _ hmem) (by decide)

end Block

open Block

/-! ### One block -/

/-- **A block is matched from its first letter to its closing brace.** -/
theorem head?_matchAt_render (b : Block) (t : Text) :
    (matchAt LEASE_BLOCK (b.render ++ t)).head? = some ([b.body], b.after ++ t) := by
  have htail : b.gap ++ '\x7b' :: (b.body ++ '\x7d' :: b.after) ++ t =
      b.gap ++ '\x7b' :: (b.body ++ '\x7d' :: (b.after ++ t)) := by
    simp only [List.append_assoc, List.cons_append]
  have htext : b.render ++ t = "lease".toList ++
      (b.gap ++ '\x7b' :: (b.body ++ '\x7d' :: (b.after ++ t))) := by
    show ("lease".toList ++ (b.gap ++ '\x7b' :: (b.body ++ '\x7d' :: b.after))) ++ t = _
    rw [List.append_assoc, htail]
  have hgap : ((Atom.greedy 0 isSpace).splits
      (b.gap ++ '\x7b' :: (b.body ++ '\x7d' :: (b.after ++ t)))).head? =
      some (b.gap, '\x7b' :: (b.body ++ '\x7d' :: (b.after ++ t))) := by
    apply head?_splits_greedy
    · exact List.all_eq_true.mpr b.gap_isSpace
    · intro c hc
      obtain rfl := Option.some.inj hc
      rfl
    · exact Nat.zero_le _
  have hopen : (matchAtoms [.greedy 0 isSpace, .one (· == '\x7b')]
      (b.gap ++ '\x7b' :: (b.body ++ '\x7d' :: (b.after ++ t)))).head? =
      some (b.gap ++ ['\x7b'], b.body ++ '\x7d' :: (b.after ++ t)) :=
    head?_matchAtoms_cons hgap (head?_matchAtoms_singleton (head?_splits_one rfl _))
  rw [htext, LEASE_BLOCK]
  apply head?_matchAt_skip (head?_matchAtoms_literal hopen)
  apply head?_matchAt_lazily
  · exact List.all_eq_true.mpr fun _ _ => rfl
  · intro c hc
    rw [beq_eq_false_iff_ne]
    rintro rfl
    exact b.body_braceless.2 hc
  · rfl

/-! ### Fronts that open no block -/

/-- A text that is empty or begins as a block does. -/
def Opens (t : Text) : Prop := ∀ c ∈ t.head?, c = 'l'

theorem opens_file (blocks : List Block) : Opens (file blocks) := by
  intro c hc
  cases blocks with
  | nil => simp [file] at hc
  | cons b blocks =>
    rw [file_cons] at hc
    exact (Option.some.inj hc).symm

theorem matchAtoms_open_eq_nil {v t : Text} (hv : '\x7b' ∉ v) (ht : Opens t) :
    matchAtoms [.greedy 0 isSpace, .one (· == '\x7b')] (v ++ t) = [] := by
  rw [List.eq_nil_iff_forall_not_mem]
  intro m hm
  rw [matchAtoms, List.mem_flatMap] at hm
  obtain ⟨x, hx, hm⟩ := hm
  obtain ⟨hfront, hspace, -⟩ := mem_splits_greedy hx
  obtain ⟨n, hn, rfl⟩ := List.mem_map.mp hm
  rw [matchAtoms, List.mem_flatMap] at hn
  obtain ⟨y, hy, -⟩ := hn
  obtain ⟨d, hbrace, -, hd⟩ := mem_splits_one hy
  obtain rfl := beq_iff_eq.mp hd
  rw [hbrace, List.append_eq_append_iff] at hfront
  rcases hfront with ⟨c', hc', ht'⟩ | ⟨c', hc', ht'⟩
  · -- the white space goes beyond the front, or ends with it
    cases c' with
    | nil =>
      rw [ht'] at ht
      exact absurd (ht '\x7b' rfl) (by decide)
    | cons c c' =>
      rw [ht'] at ht
      have hc : c = 'l' := ht c rfl
      have hmem : c ∈ x.1 := by
        rw [hc']
        exact List.mem_append_right v List.mem_cons_self
      have hblank := List.all_eq_true.mp hspace c hmem
      rw [hc] at hblank
      exact absurd hblank (by decide)
  · cases c' with
    | nil =>
      rw [List.nil_append] at ht'
      rw [← ht'] at ht
      exact absurd (ht '\x7b' rfl) (by decide)
    | cons c c' =>
      rw [List.cons_append] at ht'
      obtain ⟨rfl, -⟩ := List.cons.inj ht'
      apply hv
      rw [hc']
      exact List.mem_append_right x.1 List.mem_cons_self

theorem matchAt_eq_nil {v t : Text} (hne : v ≠ []) (hv : '\x7b' ∉ v) (ht : Opens t) :
    matchAt LEASE_BLOCK (v ++ t) = [] := by
  rw [LEASE_BLOCK, matchAt, matchAtoms_literal]
  by_cases hword : "lease".toList <+: v ++ t
  · obtain ⟨s, hs⟩ := hword
    have hrest : matchAtoms [.greedy 0 isSpace, .one (· == '\x7b')] s = [] := by
      rcases List.append_eq_append_iff.mp hs with ⟨v', hv', hs'⟩ | ⟨c', hc', ht'⟩
      · rw [hs']
        apply matchAtoms_open_eq_nil _ ht
        intro hmem
        exact hv (hv' ▸ List.mem_append_right _ hmem)
      · -- the word would end in the block that follows, which begins with its first letter
        cases c' with
        | nil =>
          rw [List.nil_append] at ht'
          rw [← ht', ← List.nil_append t]
          exact matchAtoms_open_eq_nil (by simp) ht
        | cons c c' =>
          rw [ht'] at ht
          have hc : c = 'l' := ht c rfl
          subst hc
          obtain ⟨d, v, rfl⟩ := List.exists_cons_of_ne_nil hne
          have htail : "ease".toList = v ++ 'l' :: c' := (List.cons.inj hc').2
          have hmem : 'l' ∈ "ease".toList := htail ▸ List.mem_append_right v List.mem_cons_self
          exact absurd hmem (by decide)
    rw [if_pos ⟨s, hs⟩, ← hs, List.drop_left, hrest]
    rfl
  · rw [if_neg hword]
    rfl

theorem search_append_of_braceless {w t : Text} (hw : '\x7b' ∉ w) (ht : Opens t) :
    search LEASE_BLOCK (w ++ t) = search LEASE_BLOCK t := by
  apply search_append_of_none
  rintro u v rfl hv
  exact matchAt_eq_nil hv (fun h => hw (List.mem_append_right u h)) ht

theorem consuming_LEASE_BLOCK : Consuming LEASE_BLOCK := consuming_of_literal 'l' _ _ _

/-! ### A file -/

/-- **A file of blocks is the bodies of its blocks**, after any front without an opening
brace. -/
theorem findall_file {w : Text} (hw : '\x7b' ∉ w) (blocks : List Block) :
    findall LEASE_BLOCK (w ++ file blocks) = blocks.map fun b => [b.body] := by
  induction blocks generalizing w with
  | nil =>
    have hnone : search LEASE_BLOCK (w ++ file []) = none :=
      (search_append_of_braceless hw (opens_file [])).trans rfl
    exact findall_of_none hnone
  | cons b blocks ih =>
    have hfirst : search LEASE_BLOCK (file (b :: blocks)) =
        some ([b.body], b.after ++ file blocks) := by
      rw [file_cons]
      exact search_of_head? (head?_matchAt_render b (file blocks))
    rw [consuming_LEASE_BLOCK.findall_congr
      (search_append_of_braceless hw (opens_file (b :: blocks))),
      consuming_LEASE_BLOCK.findall_of_search hfirst,
      ih (brace_notMem_of_isSpace b.after_isSpace), List.map_cons]

theorem findall_fragment_file {front w : Text} (hfront : 'l' ∉ front) (hw : '\x7b' ∉ w)
    (blocks : List Block) :
    findall LEASE_BLOCK (front ++ (w ++ file blocks)) = blocks.map fun b => [b.body] := by
  have hpass : search LEASE_BLOCK (front ++ (w ++ file blocks)) =
      search LEASE_BLOCK (w ++ file blocks) := search_append_of_notMem hfront _
  rw [consuming_LEASE_BLOCK.findall_congr hpass, findall_file hw]

variable {table : DigitTable}

theorem parseDhclientLease_fragment {front w : Text} (hfront : 'l' ∉ front) (hw : '\x7b' ∉ w)
    (blocks : List Block) (interface : Option Text) :
    parseDhclientLease table (front ++ (w ++ file blocks)) interface =
      (blocks.map Block.body).foldl (newer table interface) LeaseInfo.unset := by
  rw [parseDhclientLease, blocksOf, findall_fragment_file hfront hw, List.filterMap_map]
  congr 1
  rw [← List.filterMap_eq_map]
  rfl

theorem parseDhclientLease_file (blocks : List Block) (interface : Option Text) :
    parseDhclientLease table (file blocks) interface =
      (blocks.map Block.body).foldl (newer table interface) LeaseInfo.unset :=
  @parseDhclientLease_fragment table [] [] (by simp) (by simp) blocks interface

/-- **The last block for the interface is the lease.** -/
theorem foldl_newer {interface : Option Text} {body : Text} {later : List Text}
    (hbody : isFor interface body = true) (hlater : ∀ x ∈ later, isFor interface x = false)
    (earlier : List Text) (latest : LeaseInfo) :
    (earlier ++ body :: later).foldl (newer table interface) latest = leaseOf table body := by
  have hkeep : ∀ (l : LeaseInfo), later.foldl (newer table interface) l = l := by
    induction later with
    | nil => exact fun _ => rfl
    | cons x later ih =>
      intro l
      rw [List.forall_mem_cons] at hlater
      rw [List.foldl_cons, newer, hlater.1, if_neg (by decide)]
      exact ih hlater.2 l
  rw [List.foldl_append, List.foldl_cons, hkeep, newer, if_pos hbody]

end IPScout.Leases
