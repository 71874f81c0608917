import IPScout.Leases.Blocks

/-!
# The end of a lease file

A file of lease blocks is octets, and the bound on what is read of it cuts anywhere: inside a
character, a value, the word `lease`, or the white space after it.  What the cut leaves of a
block opens no block (`harmless_drop`), whatever is decoded from it, so the parser finds the
blocks after it and no others.  The last block for an interface is among them as soon as it
begins inside what is read, and then the end of the file says what the whole file says
(`parse_readLeaseText`).
-/

namespace IPScout.Leases

open Base Base.Text

/-! ### Blocks as octets -/

/-- The octets of `lease`. -/
def LEASE : Octets := [0x6c, 0x65, 0x61, 0x73, 0x65]

/-- `lease { ... }`, as it is stored.  Values may be in any encoding. -/
structure StoredBlock where
  gap : Octets
  body : Octets
  after : Octets
  gap_isSpace : ∀ c ∈ decodeUtf8 gap, isSpace c = true
  body_braceless : (0x7b : UInt8) ∉ body ∧ (0x7d : UInt8) ∉ body
  after_isSpace : ∀ c ∈ decodeUtf8 after, isSpace c = true

namespace StoredBlock

def octets (b : StoredBlock) : Octets :=
  LEASE ++ (b.gap ++ 0x7b :: (b.body ++ 0x7d :: b.after))

def stored (blocks : List StoredBlock) : Octets := blocks.flatMap octets

theorem stored_cons (b : StoredBlock) (blocks : List StoredBlock) :
    stored (b :: blocks) = b.octets ++ stored blocks := List.flatMap_cons

theorem stored_append (before blocks : List StoredBlock) :
    stored (before ++ blocks) = stored before ++ stored blocks := List.flatMap_append

def decoded (b : StoredBlock) : Block where
  gap := decodeUtf8 b.gap
  body := decodeUtf8 b.body
  after := decodeUtf8 b.after
  gap_isSpace := b.gap_isSpace
  body_braceless := ⟨notMem_decodeUtf8 b.body_braceless.1 (by decide) rfl,
    notMem_decodeUtf8 b.body_braceless.2 (by decide) rfl⟩
  after_isSpace := b.after_isSpace

end StoredBlock

open StoredBlock Block

/-- **Blocks are decoded one by one**, whatever is before them. -/
theorem decodeUtf8_stored (x : Octets) (blocks : List StoredBlock) :
    decodeUtf8 (x ++ stored blocks) = decodeUtf8 x ++ file (blocks.map decoded) := by
  induction blocks generalizing x with
  | nil =>
    show decodeUtf8 (x ++ []) = decodeUtf8 x ++ []
    rw [List.append_nil, List.append_nil]
  | cons b blocks ih =>
    have hoctets : x ++ stored (b :: blocks) = x ++ 0x6c :: (0x65 :: 0x61 :: 0x73 :: 0x65 ::
        (b.gap ++ 0x7b :: (b.body ++ 0x7d :: (b.after ++ stored blocks)))) := by
      simp only [stored_cons, octets, LEASE, List.append_assoc, List.cons_append, List.nil_append]
    have htext : file ((b :: blocks).map decoded) = 'l' :: 'e' :: 'a' :: 's' :: 'e' ::
        (decodeUtf8 b.gap ++ '\x7b' :: (decodeUtf8 b.body ++ '\x7d' ::
          (decodeUtf8 b.after ++ file (blocks.map decoded)))) := by
      rw [List.map_cons, file_cons, render]
      simp only [decoded, List.append_assoc, List.cons_append]
      rfl
    rw [hoctets, decodeUtf8_append_ascii x (by decide), decodeUtf8_cons_ascii (by decide),
      decodeUtf8_cons_ascii (by decide), decodeUtf8_cons_ascii (by decide),
      decodeUtf8_cons_ascii (by decide), decodeUtf8_append_ascii b.gap (by decide),
      decodeUtf8_append_ascii b.body (by decide), ih, htext]
    rfl

/-! ### What a cut leaves -/

/-- A text that opens no block: it holds no opening brace behind an `l`. -/
def Harmless (t : Text) : Prop := ∃ front w, t = front ++ w ∧ 'l' ∉ front ∧ '\x7b' ∉ w

theorem harmless_nil : Harmless [] := ⟨[], [], rfl, by simp, by simp⟩

theorem Harmless.drop {t : Text} (h : Harmless t) (n : ℕ) : Harmless (t.drop n) := by
  obtain ⟨front, w, rfl, hfront, hw⟩ := h
  refine ⟨front.drop n, w.drop (n - front.length), List.drop_append, ?_, ?_⟩
  · exact fun hmem => hfront (List.mem_of_mem_drop hmem)
  · exact fun hmem => hw (List.mem_of_mem_drop hmem)

theorem l_notMem_gap (b : StoredBlock) : (0x6c : UInt8) ∉ b.gap := by
  intro hmem
  exact absurd (b.gap_isSpace _ (mem_decodeUtf8 hmem (by decide))) (by decide)

theorem brace_notMem_after (b : StoredBlock) : (0x7b : UInt8) ∉ b.after := by
  intro hmem
  exact absurd (b.after_isSpace _ (mem_decodeUtf8 hmem (by decide))) (by decide)

/-- **What a cut leaves of a block is harmless**, if it takes something off. -/
theorem harmless_drop (b : StoredBlock) {n : ℕ} (hn : 0 < n) :
    Harmless (decodeUtf8 (b.octets.drop n)) := by
  obtain ⟨m, rfl⟩ : ∃ m, n = m + 1 := ⟨n - 1, by omega⟩
  -- the block without its first letter, up to the opening brace and from there
  have hblock : b.octets = 0x6c :: (([0x65, 0x61, 0x73, 0x65] ++ b.gap) ++
      0x7b :: (b.body ++ 0x7d :: b.after)) := by
    simp only [octets, LEASE, List.cons_append, List.nil_append]
  have hhead : (0x6c : UInt8) ∉ [0x65, 0x61, 0x73, 0x65] ++ b.gap := by
    rw [List.mem_append, not_or]
    exact ⟨by decide, l_notMem_gap b⟩
  have htail : (0x7b : UInt8) ∉ b.body ++ 0x7d :: b.after := by
    rw [List.mem_append, List.mem_cons, not_or, not_or]
    exact ⟨b.body_braceless.1, by decide, brace_notMem_after b⟩
  generalize hfront : [0x65, 0x61, 0x73, 0x65] ++ b.gap = front at hblock hhead
  generalize hrest : b.body ++ 0x7d :: b.after = rest at hblock htail
  rw [hblock, List.drop_succ_cons, List.drop_append]
  by_cases hm : m ≤ front.length
  · -- the opening brace is still there
    rw [Nat.sub_eq_zero_of_le hm, List.drop_zero, decodeUtf8_append_ascii _ (by decide)]
    refine ⟨decodeUtf8 (front.drop m) ++ ['\x7b'], decodeUtf8 rest, ?_, ?_, ?_⟩
    · rw [List.append_assoc]
      rfl
    · rw [List.mem_append, not_or]
      have hkept : (0x6c : UInt8) ∉ front.drop m := fun hmem => hhead (List.mem_of_mem_drop hmem)
      exact ⟨notMem_decodeUtf8 hkept (by decide) rfl, by decide⟩
    · exact notMem_decodeUtf8 htail (by decide) rfl
  · obtain ⟨k, hk⟩ : ∃ k, m - front.length = k + 1 := ⟨m - front.length - 1, by omega⟩
    rw [List.drop_eq_nil_of_le (by omega), List.nil_append, hk, List.drop_succ_cons]
    have hkept : (0x7b : UInt8) ∉ rest.drop k := fun hmem => htail (List.mem_of_mem_drop hmem)
    exact ⟨[], decodeUtf8 (rest.drop k), rfl, by simp, notMem_decodeUtf8 hkept (by decide) rfl⟩

/-- A file that is cut is some of its last blocks behind a harmless fragment. -/
theorem drop_stored (blocks : List StoredBlock) (n : ℕ) (hn : n ≤ (stored blocks).length) :
    ∃ fragment dropped kept, blocks = dropped ++ kept ∧
      (stored blocks).drop n = fragment ++ stored kept ∧ Harmless (decodeUtf8 fragment) := by
  induction blocks generalizing n with
  | nil =>
    refine ⟨[], [], [], rfl, ?_, harmless_nil⟩
    exact List.drop_nil
  | cons b blocks ih =>
    rw [stored_cons, List.length_append] at hn
    rw [stored_cons, List.drop_append]
    rcases Nat.eq_zero_or_pos n with rfl | hpos
    · refine ⟨[], [], b :: blocks, rfl, ?_, harmless_nil⟩
      rw [stored_cons, Nat.zero_sub]
      rfl
    · by_cases hin : n ≤ b.octets.length
      · refine ⟨b.octets.drop n, [b], blocks, rfl, ?_, harmless_drop b hpos⟩
        rw [Nat.sub_eq_zero_of_le hin, List.drop_zero]
      · obtain ⟨fragment, dropped, kept, rfl, hdrop, hharmless⟩ :=
          ih (n - b.octets.length) (by omega)
        refine ⟨fragment, b :: dropped, kept, rfl, ?_, hharmless⟩
        rw [List.drop_eq_nil_of_le (by omega), List.nil_append, hdrop]

/-! ### Reading the end -/

theorem find_append {word t : Text} (h : word <+: t) (s : Text) (hne : t ≠ []) :
    ∃ k ≤ s.length, find word (s ++ t) = some k := by
  induction s with
  | nil =>
    obtain ⟨c, t, rfl⟩ := List.exists_cons_of_ne_nil hne
    exact ⟨0, le_rfl, by rw [List.nil_append, find, if_pos h]⟩
  | cons d s ih =>
    obtain ⟨k, hk, hfind⟩ := ih
    rw [List.cons_append, find]
    by_cases hd : word <+: d :: (s ++ t)
    · exact ⟨0, Nat.zero_le _, by rw [if_pos hd]⟩
    · refine ⟨k + 1, by rw [List.length_cons]; omega, ?_⟩
      rw [if_neg hd, hfind]
      rfl

variable {table : DigitTable}

/-- The parser makes the same of a file and of its last blocks, behind a harmless front. -/
theorem parseDhclientLease_harmless {t : Text} (ht : Harmless t) (blocks : List Block)
    (interface : Option Text) :
    parseDhclientLease table (t ++ file blocks) interface =
      (blocks.map Block.body).foldl (newer table interface) LeaseInfo.unset := by
  obtain ⟨front, w, rfl, hfront, hw⟩ := ht
  rw [List.append_assoc]
  exact parseDhclientLease_fragment hfront hw blocks interface

theorem readLeaseText_stored (before later : List StoredBlock) (b : StoredBlock)
    (hstart : (stored (before ++ b :: later)).length ≤ (stored before).length + MAX_LEASE_BYTES) :
    ∃ t kept dropped, before = dropped ++ kept ∧ Harmless t ∧
      readLeaseText (some (stored (before ++ b :: later))) =
        some (t ++ file ((kept ++ b :: later).map decoded)) := by
  rw [readLeaseText]
  by_cases hlarge : MAX_LEASE_BYTES < (stored (before ++ b :: later)).length
  · generalize hn : (stored (before ++ b :: later)).length - MAX_LEASE_BYTES = n
    have hcut : n ≤ (stored before).length := by omega
    obtain ⟨fragment, dropped, kept, hbefore, hdrop, hharmless⟩ := drop_stored before n hcut
    have hraw : (stored (before ++ b :: later)).drop n =
        fragment ++ stored (kept ++ b :: later) := by
      rw [stored_append, List.drop_append_of_le_length hcut, hdrop, stored_append,
        List.append_assoc]
    have hlength : ((stored (before ++ b :: later)).drop n).length ≤ MAX_LEASE_BYTES := by
      rw [List.length_drop]
      omega
    rw [if_pos hlarge, if_pos hlarge, List.take_of_length_le hlength, hraw,
      decodeUtf8_stored]
    -- the word is found at the first whole block, if not before
    have hword : "lease".toList <+: file ((kept ++ b :: later).map decoded) := by
      obtain ⟨first, rest, hfirst⟩ :=
        List.exists_cons_of_ne_nil (List.append_ne_nil_of_right_ne_nil kept
          (List.cons_ne_nil b later))
      rw [hfirst, List.map_cons, file_cons, render, List.append_assoc]
      exact List.prefix_append _ _
    have hne : file ((kept ++ b :: later).map decoded) ≠ [] := by
      intro hnil
      rw [hnil] at hword
      exact absurd hword (by decide)
    obtain ⟨k, hk, hfind⟩ := find_append hword (decodeUtf8 fragment) hne
    refine ⟨(decodeUtf8 fragment).drop k, kept, dropped, hbefore, hharmless.drop k, ?_⟩
    rw [hfind, ← List.drop_append_of_le_length hk]
  · refine ⟨[], before, [], rfl, harmless_nil, ?_⟩
    have hraw := decodeUtf8_stored [] (before ++ b :: later)
    rw [List.nil_append] at hraw
    rw [if_neg hlarge, if_neg hlarge, List.drop_zero, List.take_of_length_le (by omega), hraw]
    rfl

/-- **The end of a lease file says what the whole file says**, for every interface whose last
block begins inside what is read. -/
theorem parse_readLeaseText (before later : List StoredBlock) (b : StoredBlock)
    (interface : Option Text) (hb : isFor interface b.decoded.body = true)
    (hlater : ∀ x ∈ later, isFor interface x.decoded.body = false)
    (hstart : (stored (before ++ b :: later)).length ≤ (stored before).length + MAX_LEASE_BYTES) :
    (readLeaseText (some (stored (before ++ b :: later)))).map
        (parseDhclientLease table · interface) =
      some (parseDhclientLease table (decodeUtf8 (stored (before ++ b :: later))) interface) := by
  have hbodies : ∀ blocks : List StoredBlock,
      (((blocks ++ b :: later).map decoded).map Block.body).foldl (newer table interface)
        LeaseInfo.unset = leaseOf table b.decoded.body := by
    intro blocks
    rw [List.map_append, List.map_append, List.map_cons, List.map_cons]
    apply foldl_newer hb
    intro x hx
    rw [List.map_map] at hx
    obtain ⟨block, hblock, rfl⟩ := List.mem_map.mp hx
    exact hlater block hblock
  obtain ⟨t, kept, dropped, -, ht, hread⟩ := readLeaseText_stored before later b hstart
  have hwhole := decodeUtf8_stored [] (before ++ b :: later)
  rw [List.nil_append] at hwhole
  rw [hread, Option.map_some, parseDhclientLease_harmless ht, hbodies, hwhole]
  congr 1
  rw [show decodeUtf8 [] = [] from rfl, List.nil_append, parseDhclientLease_file, hbodies]

/-- A block with a value of any length. -/
def paddedBlock (n : ℕ) : StoredBlock where
  gap := [0x20]
  body := List.replicate n 0x2e
  after := [0x0a]
  gap_isSpace := by decide
  body_braceless := by
    constructor
    · exact fun hmem => absurd (List.eq_of_mem_replicate hmem) (by decide)
    · exact fun hmem => absurd (List.eq_of_mem_replicate hmem) (by decide)
  after_isSpace := by decide

/-- `lease { interface "eth0";}`. -/
def namedBlock : StoredBlock where
  gap := [0x20]
  body := encodeUtf8 " interface \"eth0\";".toList
  after := [0x0a]
  gap_isSpace := by decide
  body_braceless := by decide
  after_isSpace := by decide

theorem le_length_stored_paddedBlock (n : ℕ) (blocks : List StoredBlock) :
    n < (stored (paddedBlock n :: blocks)).length := by
  rw [stored_cons, octets, paddedBlock]
  simp only [List.length_append, List.length_cons, List.length_replicate]
  omega

/-- The cut falls into the block before the last one. -/
theorem parse_readLeaseText_paddedBlock :
    MAX_LEASE_BYTES < (stored ([paddedBlock MAX_LEASE_BYTES] ++ namedBlock :: [])).length ∧
    (readLeaseText (some (stored ([paddedBlock MAX_LEASE_BYTES] ++ namedBlock :: [])))).map
      (parseDhclientLease .unicode15 · (some "eth0".toList)) =
      some (parseDhclientLease .unicode15
        (decodeUtf8 (stored ([paddedBlock MAX_LEASE_BYTES] ++ namedBlock :: [])))
        (some "eth0".toList)) := by
  refine ⟨le_length_stored_paddedBlock MAX_LEASE_BYTES [namedBlock], ?_⟩
  apply parse_readLeaseText [paddedBlock MAX_LEASE_BYTES] [] namedBlock (some "eth0".toList)
  · decide
  · exact fun x hx => absurd hx List.not_mem_nil
  · have hshort : (stored [namedBlock]).length ≤ MAX_LEASE_BYTES := by decide
    rw [stored_append, List.length_append]
    omega

end IPScout.Leases
