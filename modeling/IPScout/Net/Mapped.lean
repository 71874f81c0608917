import IPScout.Net.Printed

/-!
# Where `inet_ntop` and `str` write an address differently

`inet_ntop` ends an IPv4-mapped address in a dotted quad, and so an IPv4-compatible one whose
upper half is not zero.  `str` of an `IPv6Address` writes the first so from Python 3.13 on,
and the second never.  On every other address the two are one text
(`inetNtop6_eq_compressed_iff`), and each reads back as the address it was written from.
-/

namespace IPScout

open Base Base.Octets Base.Text

/-! ### The two texts -/

/-- `IPv6Address.__str__` of an address without a zone. -/
def ipv6Str (python : PythonVersion) (ip : BitVec 128) : Text :=
  match python with
  | .before313 => ipv6Text ip
  | .since313 =>
    if isIpv4Mapped ip then
      -- `_ipv4_mapped_ipv6_to_str`
      ipv6Text (BitVec.ofNat 128 (ip.toNat / 2 ^ 32)) ++
        ':' :: inetNtoa (packedNat 4 (ip.toNat % 2 ^ 32))
    else ipv6Text ip

def IPAddress.compressed (python : PythonVersion) : IPAddress → Text
  | v4 ip => inetNtoa (packedNat 4 ip.toNat)
  | v6 a =>
    match a.scopeId with
    | some (c :: zone) => ipv6Str python a.ip ++ '%' :: c :: zone
    | _ => ipv6Str python a.ip

/-- The addresses the two write differently. -/
def WrittenApart (python : PythonVersion) (ip : BitVec 128) : Prop :=
  (python = .before313 ∧ ip.toNat / 2 ^ 32 = 0xffff) ∨
    (2 ^ 16 ≤ ip.toNat ∧ ip.toNat < 2 ^ 32)

/-! ### Runs of zeros -/

theorem longestZeroRun_map (words : List ℕ) :
    longestZeroRun (words.map fun w => if w = 0 then 0 else 1) = longestZeroRun words := by
  have hrun : ∀ i, (((words.map fun w => if w = 0 then 0 else 1).drop i).takeWhile
      (· == 0)).length = ((words.drop i).takeWhile (· == 0)).length := by
    intro i
    rw [← List.map_drop, List.takeWhile_map, List.length_map]
    congr 2
    funext w
    by_cases hw : w = 0
    · simp [hw]
    · simp [hw]
  rw [longestZeroRun, longestZeroRun, List.length_map]
  simp only [hrun]

theorem longestZeroRun_pattern : ∀ a b c d e f g h : Bool,
    (longestZeroRun ([a, b, c, d, e, f, g, h].map fun z => if z then 0 else 1) = (0, 6) ↔
      (a && b && c && d && e && f && !g) = true) ∧
    (longestZeroRun ([a, b, c, d, e, f, g, h].map fun z => if z then 0 else 1) = (0, 5) ↔
      (a && b && c && d && e && !f) = true) := by
  decide +kernel

/-- The runs that `inet_ntop` may write a dotted quad after. -/
theorem longestZeroRun_eight (a b c d e f g h : ℕ) :
    (longestZeroRun [a, b, c, d, e, f, g, h] = (0, 6) ↔
      a = 0 ∧ b = 0 ∧ c = 0 ∧ d = 0 ∧ e = 0 ∧ f = 0 ∧ g ≠ 0) ∧
    (longestZeroRun [a, b, c, d, e, f, g, h] = (0, 5) ↔
      a = 0 ∧ b = 0 ∧ c = 0 ∧ d = 0 ∧ e = 0 ∧ f ≠ 0) := by
  have hpattern := longestZeroRun_pattern (decide (a = 0)) (decide (b = 0)) (decide (c = 0))
    (decide (d = 0)) (decide (e = 0)) (decide (f = 0)) (decide (g = 0)) (decide (h = 0))
  have hmap := longestZeroRun_map [a, b, c, d, e, f, g, h]
  simp only [List.map_cons, List.map_nil, decide_eq_true_eq, Bool.and_eq_true, and_assoc,
    Bool.not_eq_true', decide_eq_false_iff_not] at hpattern hmap
  rwa [hmap] at hpattern

theorem hextets_eq (ip : BitVec 128) : hextets ip =
    [ip.toNat / 2 ^ 112 % 65536, ip.toNat / 2 ^ 96 % 65536, ip.toNat / 2 ^ 80 % 65536,
      ip.toNat / 2 ^ 64 % 65536, ip.toNat / 2 ^ 48 % 65536, ip.toNat / 2 ^ 32 % 65536,
      ip.toNat / 2 ^ 16 % 65536, ip.toNat % 65536] := by
  simp [hextets, digitsTo, List.range_succ]

/-- The dotted quad follows six zeros in an IPv4-compatible address with an upper half. -/
theorem longestZeroRun_compatible (ip : BitVec 128) :
    longestZeroRun (hextets ip) = (0, 6) ↔ 2 ^ 16 ≤ ip.toNat ∧ ip.toNat < 2 ^ 32 := by
  have hlt := ip.isLt
  rw [hextets_eq, (longestZeroRun_eight _ _ _ _ _ _ _ _).1]
  omega

/-- It follows five zeros and `ffff` in an IPv4-mapped one. -/
theorem longestZeroRun_mapped (ip : BitVec 128) :
    (longestZeroRun (hextets ip) = (0, 5) ∧ (hextets ip).getD 5 0 = 0xffff) ↔
      ip.toNat / 2 ^ 32 = 0xffff := by
  have hlt := ip.isLt
  rw [hextets_eq, (longestZeroRun_eight _ _ _ _ _ _ _ _).2]
  show (_ ∧ ip.toNat / 2 ^ 32 % 65536 = 0xffff) ↔ _
  omega

/-! ### What `inet_ntop` writes of which address -/

section Ntop

variable {b : Octets} (h : b.length = 16)
include h

theorem inetNtop6_compatible
    (hrun : longestZeroRun (hextets (BitVec.ofNat 128 (bigEndian b))) = (0, 6)) :
    inetNtop6 b = "::".toList ++ inetNtoa (b.drop 12) := by
  simp only [inetNtop6, map_pairs_eq_hextets h]
  rw [hrun]
  rfl

theorem inetNtop6_mapped
    (hrun : longestZeroRun (hextets (BitVec.ofNat 128 (bigEndian b))) = (0, 5))
    (hffff : (hextets (BitVec.ofNat 128 (bigEndian b))).getD 5 0 = 0xffff) :
    inetNtop6 b = "::ffff:".toList ++ inetNtoa (b.drop 12) := by
  simp only [inetNtop6, map_pairs_eq_hextets h]
  rw [hrun, hffff]
  rfl

/-- Any other address is written as `str` writes it. -/
theorem inetNtop6_plain
    (hsix : longestZeroRun (hextets (BitVec.ofNat 128 (bigEndian b))) ≠ (0, 6))
    (hfive : ¬ (longestZeroRun (hextets (BitVec.ofNat 128 (bigEndian b))) = (0, 5) ∧
      (hextets (BitVec.ofNat 128 (bigEndian b))).getD 5 0 = 0xffff)) :
    inetNtop6 b = ipv6Text (BitVec.ofNat 128 (bigEndian b)) := by
  simp only [inetNtop6, map_pairs_eq_hextets h]
  cases hrun : longestZeroRun (hextets (BitVec.ofNat 128 (bigEndian b))) with
  | mk start len =>
    rw [hrun, Prod.mk.injEq] at hfive
    rw [hrun, Ne, Prod.mk.injEq] at hsix
    dsimp only
    by_cases hlen : len < 2
    · rw [if_pos hlen, ipv6Text, compressHextets, hrun]
      dsimp only
      rw [if_pos (by omega)]
    · rw [if_neg hlen, if_neg hsix, if_neg (fun hcase => hfive ⟨⟨hcase.1, hcase.2.1⟩, hcase.2.2⟩),
        ipv6Text, compressHextets_of_run hrun (by omega), intercalate_padded]

end Ntop

/-! ### Dots -/

theorem dot_mem_inetNtoa (b : Octets) : '.' ∈ inetNtoa b := by
  rw [inetNtoa_eq_dottedText, dottedText, List.map_cons, List.map_cons, List.intercalate_cons_cons]
  simp

theorem append_inetNtoa_ne_ipv6Text (front : Text) (b : Octets) (ip : BitVec 128) :
    front ++ inetNtoa b ≠ ipv6Text ip := by
  intro heq
  have hmem : '.' ∈ front ++ inetNtoa b := List.mem_append_right _ (dot_mem_inetNtoa b)
  rw [heq] at hmem
  exact notMem_ipv6Text (by decide) (by decide) ip hmem

/-! ### The two texts of an address -/

theorem packedNat_bigEndian_mod {b : Octets} (h : b.length = 16) :
    packedNat 4 (bigEndian b % 2 ^ 32) = b.drop 12 := by
  have hdrop : (b.drop 12).length = 4 := by
    rw [List.length_drop, h]
  have hlt : bigEndian (b.drop 12) < 2 ^ 32 := by
    have := bigEndian_lt (b.drop 12)
    rw [hdrop] at this
    exact this
  have hsplit : bigEndian b = bigEndian (b.take 12) * 2 ^ 32 + bigEndian (b.drop 12) := by
    have hjoin := bigEndian_append (b.take 12) (b.drop 12)
    rw [List.take_append_drop, hdrop] at hjoin
    exact hjoin
  have hmod : bigEndian b % 2 ^ 32 = bigEndian (b.drop 12) := by
    rw [hsplit, Nat.mul_add_mod_of_lt hlt]
  rw [hmod]
  have hpacked := packedNat_bigEndian (b.drop 12)
  rwa [hdrop] at hpacked

/-- **The two are one text unless the address is written apart.** -/
theorem inetNtop6_eq_ipv6Str_iff (python : PythonVersion) {b : Octets} (h : b.length = 16) :
    inetNtop6 b = ipv6Str python (BitVec.ofNat 128 (bigEndian b)) ↔
      ¬ WrittenApart python (BitVec.ofNat 128 (bigEndian b)) := by
  have hlt : bigEndian b < 2 ^ 128 := by
    have := bigEndian_lt b
    rw [h] at this
    exact this
  have htoNat : (BitVec.ofNat 128 (bigEndian b)).toNat = bigEndian b := by
    rw [BitVec.toNat_ofNat, Nat.mod_eq_of_lt hlt]
  by_cases hmapped : (BitVec.ofNat 128 (bigEndian b)).toNat / 2 ^ 32 = 0xffff
  · obtain ⟨hrun, hffff⟩ := (longestZeroRun_mapped _).mpr hmapped
    rw [inetNtop6_mapped h hrun hffff]
    cases python with
    | before313 =>
      exact iff_of_false (append_inetNtoa_ne_ipv6Text _ _ _) (not_not.mpr (Or.inl ⟨rfl, hmapped⟩))
    | since313 =>
      refine iff_of_true ?_ ?_
      · rw [ipv6Str, isIpv4Mapped, hmapped, if_pos (by decide), htoNat,
          packedNat_bigEndian_mod h, show ipv6Text (BitVec.ofNat 128 0xffff) = "::ffff".toList by
            decide +kernel]
        rfl
      · rintro (⟨hversion, _⟩ | ⟨_, hsmall⟩)
        · exact absurd hversion (by decide)
        · omega
  · have hstr : ipv6Str python (BitVec.ofNat 128 (bigEndian b)) =
        ipv6Text (BitVec.ofNat 128 (bigEndian b)) := by
      cases python with
      | before313 => rfl
      | since313 => rw [ipv6Str, if_neg (by rw [isIpv4Mapped, beq_iff_eq]; exact hmapped)]
    rw [hstr]
    by_cases hcompatible : 2 ^ 16 ≤ (BitVec.ofNat 128 (bigEndian b)).toNat ∧
        (BitVec.ofNat 128 (bigEndian b)).toNat < 2 ^ 32
    · rw [inetNtop6_compatible h ((longestZeroRun_compatible _).mpr hcompatible)]
      exact iff_of_false (append_inetNtoa_ne_ipv6Text _ _ _) (not_not.mpr (Or.inr hcompatible))
    · refine iff_of_true (inetNtop6_plain h ?_ ?_) ?_
      · exact mt (longestZeroRun_compatible _).mp hcompatible
      · exact mt (longestZeroRun_mapped _).mp hmapped
      · rintro (⟨_, hm⟩ | hc)
        · exact hmapped hm
        · exact hcompatible hc

/-- **`str` reads back**, in every version. -/
theorem ipv6Bits_ipv6Str (python : PythonVersion) (ip : BitVec 128) :
    ipv6Bits (ipv6Str python ip) = some ip := by
  have hlength := length_packedNat 16 ip.toNat
  have hnumber : BitVec.ofNat 128 (bigEndian (packedNat 16 ip.toNat)) = ip := by
    rw [bigEndian_packedNat, Nat.mod_eq_of_lt (show ip.toNat < 256 ^ 16 from ip.isLt),
      BitVec.ofNat_toNat, BitVec.setWidth_eq]
  cases python with
  | before313 => exact ipv6Bits_ipv6Text ip
  | since313 =>
    by_cases hmapped : isIpv4Mapped ip = true
    · have hsame := (inetNtop6_eq_ipv6Str_iff .since313 hlength).mpr (by
        rw [hnumber]
        rw [isIpv4Mapped, beq_iff_eq] at hmapped
        rintro (⟨hversion, _⟩ | ⟨_, hsmall⟩)
        · exact absurd hversion (by decide)
        · omega)
      rw [hnumber] at hsame
      rw [← hsame, ipv6Bits_inetNtop6 hlength, hnumber]
    · rw [ipv6Str, if_neg hmapped, ipv6Bits_ipv6Text]

end IPScout
