import IPScout.Net.Network

/-!
# What `inet_ntop` writes

`inet_ntop` writes the hextets of an IPv6 address as `str` does, with the first longest
run of two or more zeros left out, but for the addresses whose last two hextets it writes
as a dotted quad.  `ip_address` rewrites the quad as the two hextets it stands for, so
what is written is read back as the octets it was written from (`ipAddress_inetNtop`).
-/

namespace IPScout

open Base Base.Octets Base.Text

def AddressFamily.packedSize : AddressFamily → ℕ
  | .IPV4 => 4
  | .IPV6 => 16

/-! ### Hextets of octets -/

theorem bigEndian_append_pair (b : Octets) (x y : UInt8) :
    bigEndian (b ++ [x, y]) = bigEndian b * 65536 + (x.toNat * 256 + y.toNat) := by
  rw [bigEndian, List.foldl_append, ← bigEndian]
  simp only [List.foldl_cons, List.foldl_nil]
  omega

/-- **Octets in pairs are the hextets of the number they hold.** -/
theorem map_pairs_eq_digitsTo (n : ℕ) {b : Octets} (h : b.length = 2 * n) :
    (List.range n).map (fun i => octet b (2 * i) * 256 + octet b (2 * i + 1)) =
      digitsTo 65536 n (bigEndian b) := by
  induction n generalizing b with
  | zero => rfl
  | succ n ih =>
    obtain ⟨c, x, y, rfl⟩ : ∃ c x y, b = c ++ [x, y] := by
      have hdrop : (b.drop (2 * n)).length = 2 := by rw [List.length_drop]; omega
      rcases hb : b.drop (2 * n) with _ | ⟨x, _ | ⟨y, _ | _⟩⟩
      · simp [hb] at hdrop
      · simp [hb] at hdrop
      · exact ⟨b.take (2 * n), x, y, by rw [← hb, List.take_append_drop]⟩
      · simp [hb] at hdrop
    have hc : c.length = 2 * n := by
      rw [List.length_append] at h
      simp only [List.length_cons, List.length_nil] at h
      omega
    have hfront : (List.range n).map
        (fun i => octet (c ++ [x, y]) (2 * i) * 256 + octet (c ++ [x, y]) (2 * i + 1)) =
        (List.range n).map (fun i => octet c (2 * i) * 256 + octet c (2 * i + 1)) := by
      apply List.map_congr_left
      intro i hi
      have hlt := List.mem_range.mp hi
      rw [octet_append_left (by omega), octet_append_left (by omega)]
    have hx := x.toNat_lt
    have hy := y.toNat_lt
    have hlast : octet (c ++ [x, y]) (2 * n) * 256 + octet (c ++ [x, y]) (2 * n + 1) =
        x.toNat * 256 + y.toNat := by
      rw [octet_append_right (by omega), octet_append_right (by omega), hc, Nat.sub_self,
        Nat.add_sub_cancel_left]
      rfl
    have hdiv : bigEndian (c ++ [x, y]) / 65536 = bigEndian c := by
      rw [bigEndian_append_pair]
      omega
    have hmod : bigEndian (c ++ [x, y]) % 65536 = x.toNat * 256 + y.toNat := by
      rw [bigEndian_append_pair]
      omega
    rw [List.range_succ, List.map_append, List.map_singleton, hfront, ih hc, hlast, digitsTo_succ,
      hdiv, hmod]

/-- The hextets `inet_ntop` writes are those of the address. -/
theorem map_pairs_eq_hextets {b : Octets} (h : b.length = 16) :
    (List.range 8).map (fun i => octet b (2 * i) * 256 + octet b (2 * i + 1)) =
      hextets (BitVec.ofNat 128 (bigEndian b)) := by
  have hlt := bigEndian_lt b
  rw [h, show 256 ^ 16 = 2 ^ 128 by decide] at hlt
  rw [map_pairs_eq_digitsTo 8 h, hextets, BitVec.toNat_ofNat, Nat.mod_eq_of_lt hlt]

/-! ### Joining the parts -/

theorem intercalate_append_cons {l : List Text} (h : l ≠ []) (x : Text) (r : List Text) :
    [':'].intercalate (l ++ x :: r) =
      [':'].intercalate l ++ ':' :: [':'].intercalate (x :: r) := by
  induction l with
  | nil => exact absurd rfl h
  | cons a l ih =>
    rcases l with _ | ⟨b, l⟩
    · rw [List.cons_append, List.nil_append, List.intercalate_cons_cons,
        List.intercalate_singleton, List.append_assoc]
      rfl
    · rw [List.cons_append, List.cons_append, List.intercalate_cons_cons, ← List.cons_append,
        ih (List.cons_ne_nil b l), List.intercalate_cons_cons]
      simp only [List.append_assoc]

theorem intercalate_padded (left right : List Text) :
    [':'].intercalate (padded left ++ [] :: padded right) =
      [':'].intercalate left ++ "::".toList ++ [':'].intercalate right := by
  have hright : [':'].intercalate ([] :: padded right) = ':' :: [':'].intercalate right := by
    rw [List.intercalate_cons_of_ne_nil (List.length_pos_iff.mp (length_padded right)), padded]
    split
    · next hnil =>
      rw [hnil]
      rfl
    · rfl
  have hleft : [':'].intercalate (padded left) = [':'].intercalate left := by
    rw [padded]
    split
    · next hnil =>
      rw [hnil]
      rfl
    · rfl
  rw [intercalate_append_cons (List.length_pos_iff.mp (length_padded left)), hright, hleft,
    List.append_assoc]
  rfl

/-! ### IPv6 texts -/

/-- Two texts of the same parts, their dotted tails rewritten, are the same address. -/
theorem ipv6Bits_congr {s t : Text} (hs : 3 ≤ (s.splitOn ':').length)
    (ht : 3 ≤ (t.splitOn ':').length)
    (h : expandDottedTail (s.splitOn ':') = expandDottedTail (t.splitOn ':')) :
    ipv6Bits s = ipv6Bits t := by
  have hlong : ∀ {u : Text}, 3 ≤ (u.splitOn ':').length →
      ¬ (u = [] ∨ (u.splitOn ':').length < 3) := by
    rintro u hu (rfl | hshort)
    · rw [List.splitOn_nil] at hu
      simp at hu
    · omega
  rw [ipv6Bits, ipv6Bits, if_neg (hlong hs), if_neg (hlong ht), h]

/-- **What is written of an IPv6 address**: its text, or that text with its last two hextets as
a dotted quad. -/
theorem inetNtop6_eq {b : Octets} (h : b.length = 16) :
    inetNtop6 b = ipv6Text (BitVec.ofNat 128 (bigEndian b)) ∨
      ∃ front : List ℕ, inetNtop6 b =
          [':'].intercalate ([] :: [] :: front.map hexadecimal ++ [inetNtoa (b.drop 12)]) ∧
        compressHextets (hextets (BitVec.ofNat 128 (bigEndian b))) =
          [] :: [] :: front.map hexadecimal ++
            [hexadecimal (octet b 12 * 256 + octet b 13),
              hexadecimal (octet b 14 * 256 + octet b 15)] := by
  have hwords := map_pairs_eq_hextets h
  have hdrop5 : (hextets (BitVec.ofNat 128 (bigEndian b))).drop 5 =
      [octet b 10 * 256 + octet b 11, octet b 12 * 256 + octet b 13,
        octet b 14 * 256 + octet b 15] := by
    rw [← hwords]
    rfl
  have hfifth : (hextets (BitVec.ofNat 128 (bigEndian b))).getD 5 0 =
      octet b 10 * 256 + octet b 11 := by
    rw [← hwords]
    rfl
  simp only [inetNtop6, hwords]
  cases hrun : longestZeroRun (hextets (BitVec.ofNat 128 (bigEndian b))) with
  | mk start len =>
    dsimp only
    by_cases hlen : len < 2
    · left
      rw [if_pos hlen, ipv6Text, compressHextets, hrun]
      dsimp only
      rw [if_pos (by omega)]
    · have hparts := compressHextets_of_run hrun (by omega)
      rw [if_neg hlen]
      by_cases hsix : start = 0 ∧ len = 6
      · right
        obtain ⟨rfl, rfl⟩ := hsix
        rw [if_pos ⟨rfl, rfl⟩]
        refine ⟨[], ?_, ?_⟩
        · simp only [List.map_nil, List.cons_append, List.nil_append, List.intercalate_cons_cons,
            List.intercalate_singleton]
          rfl
        · rw [hparts, ← List.drop_drop (i := 1) (j := 5), hdrop5]
          rfl
      · rw [if_neg hsix]
        by_cases hfive : start = 0 ∧ len = 5 ∧
            (hextets (BitVec.ofNat 128 (bigEndian b))).getD 5 0 = 0xffff
        · right
          rw [if_pos hfive]
          obtain ⟨rfl, rfl, hffff⟩ := hfive
          rw [hfifth] at hffff
          have hdigits : hexadecimal 0xffff = "ffff".toList := by decide
          refine ⟨[0xffff], ?_, ?_⟩
          · simp only [List.map_cons, List.map_nil, List.cons_append, List.nil_append,
              List.intercalate_cons_cons, List.intercalate_singleton, hdigits]
            rfl
          · rw [hparts, hdrop5, hffff]
            rfl
        · left
          rw [if_neg hfive, ipv6Text, hparts, intercalate_padded]

theorem octet_drop (b : Octets) (n i : ℕ) : octet (b.drop n) i = octet b (n + i) := by
  rw [octet, octet, List.getD_eq_getElem?_getD, List.getD_eq_getElem?_getD, List.getElem?_drop]

/-- A dotted quad at the end stands for its two hextets. -/
theorem expandDottedTail_dotted (front : List Text) {d : Octets} (h : d.length = 4) :
    expandDottedTail (front ++ [inetNtoa d]) = some (front ++
      [hexadecimal (octet d 0 * 256 + octet d 1), hexadecimal (octet d 2 * 256 + octet d 3)]) := by
  have hlt := bigEndian_lt d
  rw [h, show 256 ^ 4 = 2 ^ 32 by decide] at hlt
  have hpairs : [octet d 0 * 256 + octet d 1, octet d 2 * 256 + octet d 3] =
      [bigEndian d / 65536 % 65536, bigEndian d % 65536] := by
    have hdigits := map_pairs_eq_digitsTo 2 (b := d) h
    rw [digitsTo_succ, digitsTo_succ] at hdigits
    exact hdigits
  rw [List.cons_eq_cons, List.singleton_inj] at hpairs
  have hdot : '.' ∈ inetNtoa d := by
    rw [inetNtoa_eq_dottedText, dottedText, List.map_cons, List.map_cons,
      List.intercalate_cons_cons]
    simp
  rw [expandDottedTail, List.getLast?_concat]
  dsimp only
  rw [if_pos hdot, ipv4Address_inetNtoa h, List.dropLast_concat, hpairs.1, hpairs.2]
  simp only [Option.bind_eq_bind, Option.bind_some, BitVec.toNat_ofNat, Nat.mod_eq_of_lt hlt]

theorem notMem_inetNtoa {c : Char} (hdigit : c.isDigit = false) (hdot : c ≠ '.') (b : Octets) :
    c ∉ inetNtoa b := by
  intro hmem
  rw [inetNtoa_eq_dottedText] at hmem
  rcases isDigit_of_mem_dottedText hmem with h | h
  · rw [hdigit] at h
    simp at h
  · exact hdot h

theorem splitOn_dotted (front : List ℕ) (d : Octets) :
    ([':'].intercalate ([] :: [] :: front.map hexadecimal ++ [inetNtoa d])).splitOn ':' =
      [] :: [] :: front.map hexadecimal ++ [inetNtoa d] := by
  apply List.splitOn_intercalate
  · intro part hpart
    rw [List.mem_append, List.mem_cons, List.mem_cons, List.mem_singleton] at hpart
    rcases hpart with (rfl | rfl | hpart) | rfl
    · simp
    · simp
    · obtain ⟨n, _, rfl⟩ := List.mem_map.mp hpart
      exact notMem_hexadecimal (by decide) n
    · exact notMem_inetNtoa (by decide) (by decide) _
  · simp

/-- **What is written of an IPv6 address reads back.** -/
theorem ipv6Bits_inetNtop6 {b : Octets} (h : b.length = 16) :
    ipv6Bits (inetNtop6 b) = some (BitVec.ofNat 128 (bigEndian b)) := by
  rcases inetNtop6_eq h with htext | ⟨front, htext, hparts⟩
  · rw [htext, ipv6Bits_ipv6Text]
  · have hsplit := splitOn_dotted front (b.drop 12)
    rw [← htext] at hsplit
    have htail := expandDottedTail_dotted ([] :: [] :: front.map hexadecimal)
      (d := b.drop 12) (by rw [List.length_drop, h])
    rw [← ipv6Bits_ipv6Text]
    apply ipv6Bits_congr
    · rw [hsplit]
      simp
    · rw [splitOn_ipv6Text]
      exact three_le_length_compressHextets _
    · rw [hsplit, htail, splitOn_ipv6Text, expandDottedTail_compressHextets, hparts]
      simp only [octet_drop]

/-! ### Texts of either family -/

theorem notMem_inetNtop6 {c : Char} (hc : hexDigit c = none) (hdigit : c.isDigit = false)
    (hcolon : c ≠ ':') (hdot : c ≠ '.') {b : Octets} (h : b.length = 16) : c ∉ inetNtop6 b := by
  rcases inetNtop6_eq h with htext | ⟨front, htext, _⟩
  · rw [htext]
    exact notMem_ipv6Text hc hcolon _
  · intro hmem
    rw [htext] at hmem
    obtain ⟨part, hpart, hin⟩ := exists_mem_splitOn hcolon hmem
    rw [splitOn_dotted, List.mem_append, List.mem_cons, List.mem_cons,
      List.mem_singleton] at hpart
    rcases hpart with (rfl | rfl | hpart) | rfl
    · simp at hin
    · simp at hin
    · obtain ⟨n, _, rfl⟩ := List.mem_map.mp hpart
      exact notMem_hexadecimal hc n hin
    · exact notMem_inetNtoa hdigit hdot _ hin

/-- **What `inet_ntop` writes is read as the address it was written from**, without a zone. -/
theorem ipAddress_inetNtop {family : AddressFamily} {b : Octets}
    (h : b.length = family.packedSize) :
    ipAddress (inetNtop family b) = some (.ofNat family (bigEndian b)) ∧
      '%' ∉ inetNtop family b := by
  cases family with
  | IPV4 =>
    refine ⟨?_, notMem_inetNtoa (by decide) (by decide) b⟩
    rw [inetNtop, ipAddress, ipv4Address_inetNtoa h]
    rfl
  | IPV6 =>
    have hbits := ipv6Bits_inetNtop6 h
    have hpct : '%' ∉ inetNtop6 b := notMem_inetNtop6 (by decide) (by decide) (by decide) (by decide) h
    have hslash : '/' ∉ inetNtop6 b := notMem_inetNtop6 (by decide) (by decide) (by decide) (by decide) h
    refine ⟨?_, hpct⟩
    rw [inetNtop, ipAddress_eq_of_colon (colon_mem_of_ipv6Bits hbits),
      ipv6Address_of_ipv6Bits hbits hpct hslash]
    rfl

end IPScout
