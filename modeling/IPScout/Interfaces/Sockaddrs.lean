import IPScout.Base.BitCount
import IPScout.Base.Groups
import IPScout.Base.Layout
import IPScout.Interfaces.Posix

/-!
# The sockaddrs of a kernel

What stands in the memory `getifaddrs` hands out: an address (`IsAddress`), a mask (`IsMask`), a
hardware address (`IsLink`), or none of them (`IsSilent`), as a link without an address is.  Each
is read as what it is of (`IsAddress.addressOf`, `IsMask.prefixLength`, `IsLink.macOf`,
`IsSilent.macOf`), and every entry whose sockaddrs are in memory announces something
(`exists_announces`).
-/

namespace IPScout.InterfacesPosix

open Base Base.Octets Base.Text Listing

/-! ### What a kernel announces -/

/-- The first two octets of a sockaddr; the BSDs put its length before the family. -/
def Sockaddrs.header (s : Sockaddrs) (length : UInt8) (family : ℕ) : Octets :=
  match s with
  | .linux order => order.pack 2 family
  | .bsd => [length, UInt8.ofNat family]

/-- The octets between the family and the address: the port, and the flow label of IPv6. -/
def betweenSize : AddressFamily → ℕ
  | .IPV4 => 2
  | .IPV6 => 6

/-- A `sockaddr_in` or `sockaddr_in6` of an address. -/
def IsAddress (s : Sockaddrs) (sockaddr : Octets) (a : IPAddress) : Prop :=
  ∃ length between rest, between.length = betweenSize a.family ∧
    sockaddr = s.header length (s.number a.family) ++ between ++ a.packed ++ rest

/-- A netmask of a family with `n` bits set. -/
def IsMask (mask : Octets) (family : AddressFamily) (n : ℕ) : Prop :=
  ∃ before field rest, before.length = 2 + betweenSize family ∧
    field.length = family.packedSize ∧ mask = before ++ field ++ rest ∧
    bitsSet (family.packedSize * 8) (bigEndian field) = n

/-- A `sockaddr_ll`, or a `sockaddr_dl` with the name before the address. -/
def IsLink (s : Sockaddrs) (sockaddr mac : Octets) : Prop :=
  1 ≤ mac.length ∧ mac.length ≤ 8 ∧
    match s with
    | .linux _ => ∃ before rest, before.length = 9 ∧
        sockaddr = s.header 0 AF_PACKET ++ before ++ [UInt8.ofNat mac.length] ++ mac ++ rest
    | .bsd => ∃ length before slen name rest, before.length = 3 ∧ name.length ≤ 64 ∧
        sockaddr = s.header length AF_LINK ++ before ++
          [UInt8.ofNat name.length, UInt8.ofNat mac.length, slen] ++ name ++ mac ++ rest

/-- How many octets the family takes in a sockaddr. -/
def Sockaddrs.familySize : Sockaddrs → ℕ
  | .linux _ => 2
  | .bsd => 1

/-- The family of hardware addresses. -/
def Sockaddrs.link : Sockaddrs → ℕ
  | .linux _ => AF_PACKET
  | .bsd => AF_LINK

/-- What follows the header of a link sockaddr that keeps no hardware address: it declares none
or one of more than 8 octets, or a name too long to stand before it. -/
def KeepsNoLink (afterHeader : Octets) : Sockaddrs → Prop
  | .linux _ => ∃ before halen rest, before.length = 9 ∧ afterHeader = before ++ [halen] ++ rest ∧
      ¬ (1 ≤ halen.toNat ∧ halen.toNat ≤ 8)
  | .bsd => ∃ before nlen alen rest, before.length = 3 ∧
      afterHeader = before ++ [nlen, alen] ++ rest ∧
      (¬ (1 ≤ alen.toNat ∧ alen.toNat ≤ 8) ∨ 64 < nlen.toNat)

/-- A sockaddr that is no address, and no link with a hardware address. -/
def IsSilent (s : Sockaddrs) (sockaddr : Octets) : Prop :=
  ∃ length family rest, family < 256 ^ s.familySize ∧
    sockaddr = s.header length family ++ rest ∧ (∀ f, family ≠ s.number f) ∧
    (family = s.link → KeepsNoLink rest s)

/-- What an entry says of its interface. -/
inductive Said
  | nothing
  | link (mac : Octets)
  | address (a : IPAddress) (prefixLen : ℕ)

/-- An entry as the kernel means it. -/
structure Announcement where
  name : Text
  flags : ℕ
  said : Said

def Announces (s : Sockaddrs) (entry : IfAddrs) (x : Announcement) : Prop :=
  entry.text = x.name ∧ entry.flags = x.flags ∧
    match x.said with
    | .nothing => ∀ sockaddr, entry.addr = some sockaddr → IsSilent s sockaddr
    | .link mac => ∃ sockaddr, entry.addr = some sockaddr ∧ IsLink s sockaddr mac
    | .address a n => ∃ sockaddr, entry.addr = some sockaddr ∧ IsAddress s sockaddr a ∧
        (entry.netmask = none ∧ n = a.family.packedSize * 8 ∨
          ∃ mask, entry.netmask = some mask ∧ IsMask mask a.family n)

/-! ### What is read of it -/

theorem length_header (s : Sockaddrs) (length : UInt8) (family : ℕ) :
    (s.header length family).length = 2 := by
  cases s with
  | linux order => exact order.length_pack 2 family
  | bsd => rfl

theorem familyOf_header (s : Sockaddrs) (length : UInt8) {family : ℕ}
    (h : family < 256 ^ s.familySize) (rest : Octets) :
    familyOf s (s.header length family ++ rest) = family := by
  cases s with
  | linux order =>
    have hslice : slice (order.pack 2 family ++ rest) 0 2 = order.pack 2 family :=
      slice_append_zero (order.length_pack 2 family) rest
    rw [familyOf, Sockaddrs.header, hslice]
    exact order.read_pack h
  | bsd =>
    have hlt : family < 256 := h
    have hslice : slice ([length, UInt8.ofNat family] ++ rest) 0 2 = [length, UInt8.ofNat family] :=
      slice_append_zero rfl rest
    have hvalue : littleEndian [length, UInt8.ofNat family] = family * 256 + length.toNat := by
      rw [littleEndian]
      show (0 * 256 + (UInt8.ofNat family).toNat) * 256 + length.toNat = _
      rw [UInt8.toNat_ofNat_of_lt' hlt]
      omega
    have hlength := length.toNat_lt
    rw [familyOf, Sockaddrs.header, hslice, hvalue]
    omega

theorem number_lt (s : Sockaddrs) (family : AddressFamily) :
    s.number family < 256 ^ s.familySize := by
  cases s <;> cases family <;> exact of_decide_eq_true rfl

theorem link_ne_number (s : Sockaddrs) (family : AddressFamily) : s.link ≠ s.number family := by
  cases s <;> cases family <;> exact of_decide_eq_true rfl

theorem addressOffset_eq (family : AddressFamily) :
    addressOffset family = 2 + betweenSize family := by
  cases family <;> rfl

theorem octet_rawBytes (sockaddr : Octets) {i : ℕ} (h : i < SOCKADDR_MAX) :
    octet (rawBytes sockaddr) i = octet sockaddr i := by
  rw [octet, octet, rawBytes, List.getD_eq_getElem?_getD, List.getD_eq_getElem?_getD,
    List.getElem?_take_of_lt h]

theorem slice_rawBytes (sockaddr : Octets) {lo hi : ℕ} (h : hi ≤ SOCKADDR_MAX) :
    slice (rawBytes sockaddr) lo hi = slice sockaddr lo hi := slice_take h

theorem addressField_append {family : AddressFamily} {before field : Octets} (rest : Octets)
    (hbefore : before.length = 2 + betweenSize family) (hfield : field.length = family.packedSize) :
    addressField family (before ++ field ++ rest) = field := by
  have hend : addressOffset family + family.packedSize ≤ SOCKADDR_MAX := by
    cases family <;> decide
  rw [addressField, slice_rawBytes _ hend, List.append_assoc]
  exact slice_append_append (hbefore.trans (addressOffset_eq family).symm)
    (congrArg (addressOffset family + ·) hfield)

theorem IsAddress.familyOf {s : Sockaddrs} {sockaddr : Octets} {a : IPAddress}
    (h : IsAddress s sockaddr a) : familyOf s sockaddr = s.number a.family := by
  obtain ⟨length, between, rest, -, rfl⟩ := h
  rw [List.append_assoc, List.append_assoc]
  exact familyOf_header s length (number_lt s a.family) _

theorem IsAddress.addressField {s : Sockaddrs} {sockaddr : Octets} {a : IPAddress}
    (h : IsAddress s sockaddr a) : addressField a.family sockaddr = a.packed := by
  obtain ⟨length, between, rest, hbetween, rfl⟩ := h
  refine addressField_append rest ?_ (Winapi.length_packed a)
  rw [List.length_append, length_header, hbetween]

/-- **The sockaddr of an address is read as the address.** -/
theorem IsAddress.addressOf {s : Sockaddrs} {sockaddr : Octets} {a : IPAddress}
    (h : IsAddress s sockaddr a) :
    addressOf s sockaddr = some (a.family, inetNtop a.family a.packed) := by
  have hlength : (InterfacesPosix.addressField a.family sockaddr).length =
      a.family.packedSize := by
    rw [h.addressField, Winapi.length_packed]
  have hdecoded : decodedAddress a.family sockaddr =
      some (a.family, inetNtop a.family a.packed) := by
    rw [decodedAddress, if_neg (not_not_intro hlength), h.addressField]
  have hnumbers : s.number .IPV6 ≠ s.number .IPV4 := by
    cases s <;> exact of_decide_eq_true rfl
  rw [InterfacesPosix.addressOf, h.familyOf]
  cases hfamily : a.family with
  | IPV4 => rw [if_pos rfl, ← hfamily, hdecoded]
  | IPV6 => rw [if_neg hnumbers, if_pos rfl, ← hfamily, hdecoded]

theorem IsAddress.macOf {s : Sockaddrs} {sockaddr : Octets} {a : IPAddress}
    (h : IsAddress s sockaddr a) : macOf s sockaddr = none := by
  have hfamily := h.familyOf
  have hnumber : s.number a.family ≠ AF_PACKET ∧ s.number a.family ≠ AF_LINK := by
    cases s <;> cases a.family <;> exact of_decide_eq_true rfl
  cases s with
  | linux order =>
    rw [InterfacesPosix.macOf, hfamily]
    exact if_pos hnumber.1
  | bsd =>
    rw [InterfacesPosix.macOf, hfamily]
    exact if_pos hnumber.2

theorem sum_onesOf_packedNat (count n : ℕ) :
    ((packedNat count n).map onesOf).sum = bitsSet (count * 8) n := by
  induction count with
  | zero => rfl
  | succ count ih =>
    have hoctet : onesOf (UInt8.ofNat (n / 256 ^ count)) = bitsSet 8 (n / 2 ^ (count * 8)) := by
      have hpow : 256 ^ count = 2 ^ (count * 8) := by
        rw [Nat.mul_comm, Nat.pow_mul]
      rw [onesOf, UInt8.toNat_ofNat', count_one_toDigits (Nat.mod_lt _ (by decide)), hpow]
      exact bitsSet_mod 8 _
    rw [packedNat_succ, List.map_cons, List.sum_cons, ih, hoctet, Nat.succ_mul, bitsSet_add,
      Nat.add_comm]

/-- **A mask has its prefix length.** -/
theorem IsMask.prefixLength {mask : Octets} {family : AddressFamily} {n : ℕ}
    (h : IsMask mask family n) : prefixLength (some mask) family = n := by
  obtain ⟨before, field, rest, hbefore, hfield, rfl, hbits⟩ := h
  have hones : (field.map onesOf).sum = bitsSet (family.packedSize * 8) (bigEndian field) := by
    rw [← hfield, ← sum_onesOf_packedNat, packedNat_bigEndian]
  rw [InterfacesPosix.prefixLength, addressField_append rest hbefore hfield, hones]
  exact hbits

theorem IsMask.le {mask : Octets} {family : AddressFamily} {n : ℕ} (h : IsMask mask family n) :
    n ≤ family.packedSize * 8 := by
  obtain ⟨before, field, rest, -, -, -, hbits⟩ := h
  exact hbits ▸ bitsSet_le _ _

/-- The mask of a prefix of `n` bits. -/
theorem isMask_prefix {family : AddressFamily} {n : ℕ} (hn : n ≤ family.packedSize * 8)
    {before : Octets} (hbefore : before.length = 2 + betweenSize family) (rest : Octets) :
    IsMask (before ++
      packedNat family.packedSize ((2 ^ n - 1) * 2 ^ (family.packedSize * 8 - n)) ++ rest)
      family n := by
  refine ⟨before, _, rest, hbefore, length_packedNat _ _, rfl, ?_⟩
  have hbits := bitsSet_high (family.packedSize * 8 - n) n
  rw [Nat.sub_add_cancel hn] at hbits
  have hpow : 256 ^ family.packedSize = 2 ^ (family.packedSize * 8) := by
    rw [Nat.mul_comm, Nat.pow_mul]
  rw [bigEndian_packedNat, hpow, bitsSet_mod]
  exact hbits

/-- **The sockaddr of a hardware address is read as the hardware address.** -/
theorem IsLink.macOf {s : Sockaddrs} {sockaddr mac : Octets} (h : IsLink s sockaddr mac) :
    macOf s sockaddr = formatHardwareAddress mac := by
  obtain ⟨hpos, hle, h⟩ := h
  have hmac : (UInt8.ofNat mac.length).toNat = mac.length :=
    UInt8.toNat_ofNat_of_lt' (show _ < 256 by omega)
  cases s with
  | linux order =>
    obtain ⟨before, rest, hbefore, rfl⟩ := h
    generalize hstart : (Sockaddrs.linux order).header 0 AF_PACKET ++ before = start
    have hlength : start.length = 11 := by
      rw [← hstart, List.length_append, length_header, hbefore]
    have hfamily : familyOf (.linux order)
        (start ++ [UInt8.ofNat mac.length] ++ mac ++ rest) = AF_PACKET := by
      rw [← hstart, List.append_assoc, List.append_assoc, List.append_assoc]
      exact familyOf_header (.linux order) 0 (show AF_PACKET < 256 ^ 2 by decide) _
    have hhalen : octet (rawBytes (start ++ [UInt8.ofNat mac.length] ++ mac ++ rest)) 11 =
        mac.length := by
      rw [octet_rawBytes _ (by decide), List.append_assoc, List.append_assoc,
        octet_append_right hlength.le, hlength]
      exact hmac
    have hfield : slice (rawBytes (start ++ [UInt8.ofNat mac.length] ++ mac ++ rest)) 12
        (12 + mac.length) = mac := by
      rw [slice_rawBytes _ (show 12 + mac.length ≤ 128 by omega), List.append_assoc]
      exact slice_append_append (by rw [List.length_append, hlength]; rfl) rfl
    rw [InterfacesPosix.macOf, hfamily]
    dsimp only
    rw [hhalen, if_neg (not_not_intro rfl), if_neg (not_not_intro ⟨hpos, hle⟩), hfield]
  | bsd =>
    obtain ⟨length, before, slen, name, rest, hbefore, hname, rfl⟩ := h
    generalize hstart : Sockaddrs.bsd.header length AF_LINK ++ before = start
    have hlength : start.length = 5 := by
      rw [← hstart, List.length_append, length_header, hbefore]
    have hnameLength : (UInt8.ofNat name.length).toNat = name.length :=
      UInt8.toNat_ofNat_of_lt' (show _ < 256 by omega)
    generalize hlengths : [UInt8.ofNat name.length, UInt8.ofNat mac.length, slen] = lengths
    have hthree : lengths.length = 3 := by
      rw [← hlengths]
      rfl
    have hfamily : familyOf .bsd (start ++ lengths ++ name ++ mac ++ rest) = AF_LINK := by
      rw [← hstart, List.append_assoc, List.append_assoc, List.append_assoc, List.append_assoc]
      exact familyOf_header .bsd length (by decide) _
    have hoctet : ∀ i, octet (start ++ lengths ++ name ++ mac ++ rest) (5 + i) =
        octet (lengths ++ (name ++ (mac ++ rest))) i := by
      intro i
      rw [List.append_assoc, List.append_assoc, List.append_assoc,
        octet_append_right (by omega), hlength, Nat.add_sub_cancel_left]
    have hnlen : octet (rawBytes (start ++ lengths ++ name ++ mac ++ rest)) 5 = name.length := by
      rw [octet_rawBytes _ (by decide), hoctet 0, ← hlengths]
      exact hnameLength
    have halen : octet (rawBytes (start ++ lengths ++ name ++ mac ++ rest)) 6 = mac.length := by
      rw [octet_rawBytes _ (by decide), hoctet 1, ← hlengths]
      exact hmac
    have hfield : slice (rawBytes (start ++ lengths ++ name ++ mac ++ rest)) (8 + name.length)
        (8 + name.length + mac.length) = mac := by
      rw [slice_rawBytes _ (show 8 + name.length + mac.length ≤ 128 by omega),
        List.append_assoc]
      refine slice_append_append ?_ rfl
      rw [List.length_append, List.length_append, hlength, hthree]
    rw [InterfacesPosix.macOf, hfamily]
    dsimp only
    rw [hnlen, halen, if_neg (not_not_intro rfl), if_neg (by omega), hfield]

theorem IsLink.addressOf {s : Sockaddrs} {sockaddr mac : Octets} (h : IsLink s sockaddr mac) :
    addressOf s sockaddr = none := by
  obtain ⟨-, -, h⟩ := h
  cases s with
  | linux order =>
    obtain ⟨before, rest, -, rfl⟩ := h
    rw [InterfacesPosix.addressOf, List.append_assoc, List.append_assoc, List.append_assoc,
      familyOf_header (.linux order) 0 (show AF_PACKET < 256 ^ 2 by decide)]
    exact (if_neg (of_decide_eq_true rfl)).trans (if_neg (of_decide_eq_true rfl))
  | bsd =>
    obtain ⟨length, before, slen, name, rest, -, -, rfl⟩ := h
    rw [InterfacesPosix.addressOf, List.append_assoc, List.append_assoc, List.append_assoc,
      List.append_assoc, familyOf_header .bsd length (by decide)]
    exact (if_neg (of_decide_eq_true rfl)).trans (if_neg (of_decide_eq_true rfl))

theorem IsSilent.addressOf {s : Sockaddrs} {sockaddr : Octets} (h : IsSilent s sockaddr) :
    addressOf s sockaddr = none := by
  obtain ⟨length, family, rest, hlt, rfl, hnumber, -⟩ := h
  rw [InterfacesPosix.addressOf, familyOf_header s length hlt, if_neg (hnumber .IPV4),
    if_neg (hnumber .IPV6)]

theorem IsSilent.macOf {s : Sockaddrs} {sockaddr : Octets} (h : IsSilent s sockaddr) :
    macOf s sockaddr = none := by
  obtain ⟨length, family, rest, hlt, rfl, -, hkeeps⟩ := h
  have hfamily := familyOf_header s length hlt rest
  have hheader := length_header s length family
  cases s with
  | linux order =>
    rw [InterfacesPosix.macOf, hfamily]
    by_cases hlink : family = AF_PACKET
    · obtain ⟨before, halen, rest, hbefore, rfl, hbounds⟩ := hkeeps hlink
      have hoctet : octet (rawBytes ((Sockaddrs.linux order).header length family ++
          (before ++ [halen] ++ rest))) 11 = halen.toNat := by
        rw [octet_rawBytes _ (by decide), octet_append_right (by omega), hheader,
          List.append_assoc, octet_append_right (by omega), hbefore]
        rfl
      dsimp only
      rw [hoctet, if_neg (not_not_intro hlink), if_pos hbounds]
    · exact if_pos hlink
  | bsd =>
    rw [InterfacesPosix.macOf, hfamily]
    by_cases hlink : family = AF_LINK
    · obtain ⟨before, nlen, alen, rest, hbefore, rfl, hbounds⟩ := hkeeps hlink
      have hoctet : ∀ i, 3 ≤ i → octet (Sockaddrs.bsd.header length family ++
          (before ++ [nlen, alen] ++ rest)) (2 + i) = octet ([nlen, alen] ++ rest) (i - 3) := by
        intro i hi
        rw [octet_append_right (by omega), hheader, Nat.add_sub_cancel_left, List.append_assoc,
          octet_append_right (by omega), hbefore]
      have hnlen := hoctet 3 le_rfl
      have halen := hoctet 4 (by omega)
      dsimp only
      rw [octet_rawBytes _ (by decide), octet_rawBytes _ (by decide), hnlen, halen,
        if_neg (not_not_intro hlink)]
      exact if_pos hbounds
    · exact if_pos hlink

/-! ### Every entry announces something -/

theorem exists_field {b : Octets} (lo n : ℕ) (h : lo + n ≤ b.length) :
    ∃ before field rest, before.length = lo ∧ field.length = n ∧ b = before ++ field ++ rest := by
  refine ⟨b.take lo, slice b lo (lo + n), b.drop (lo + n), ?_, ?_, ?_⟩
  · rw [List.length_take]
    omega
  · rw [length_slice]
    omega
  · rw [List.append_assoc, ← drop_eq_slice_append b (by omega), List.take_append_drop]

theorem exists_header (s : Sockaddrs) {sockaddr : Octets} (h : 2 ≤ sockaddr.length) :
    ∃ length family rest, family < 256 ^ s.familySize ∧
      sockaddr = s.header length family ++ rest := by
  obtain ⟨x, y, rest, rfl⟩ : ∃ x y rest, sockaddr = x :: y :: rest := by
    match sockaddr, h with
    | x :: y :: rest, _ => exact ⟨x, y, rest, rfl⟩
  cases s with
  | linux order =>
    refine ⟨0, order.read [x, y], rest, order.read_lt [x, y], ?_⟩
    have hpacked : order.pack 2 (order.read [x, y]) = [x, y] := by
      cases order with
      | little => exact Winapi.packedLittle_littleEndian rfl
      | big => exact packedNat_bigEndian [x, y]
    rw [Sockaddrs.header, hpacked]
    rfl
  | bsd =>
    refine ⟨x, y.toNat, rest, y.toNat_lt, ?_⟩
    rw [Sockaddrs.header, UInt8.ofNat_toNat]
    rfl

theorem exists_isMask {mask : Octets} (family : AddressFamily) (h : SOCKADDR_MAX ≤ mask.length) :
    ∃ n, IsMask mask family n := by
  have hroom : 2 + betweenSize family + family.packedSize ≤ SOCKADDR_MAX := by
    cases family <;> decide
  obtain ⟨before, field, rest, hbefore, hfield, rfl⟩ :=
    exists_field (2 + betweenSize family) family.packedSize (hroom.trans h)
  exact ⟨_, before, field, rest, hbefore, hfield, rfl, rfl⟩

theorem exists_isAddress (s : Sockaddrs) (length : UInt8) (family : AddressFamily)
    {rest : Octets} (h : SOCKADDR_MAX ≤ 2 + rest.length) :
    ∃ a, IsAddress s (s.header length (s.number family) ++ rest) a := by
  have hroom : 2 + (betweenSize family + family.packedSize) ≤ SOCKADDR_MAX := by
    cases family <;> decide
  obtain ⟨between, field, rest, hbetween, hfield, rfl⟩ :=
    exists_field (betweenSize family) family.packedSize (by omega : _ ≤ rest.length)
  have hfamily := Winapi.family_ofNat family (bigEndian field)
  refine ⟨.ofNat family (bigEndian field), length, between, rest, ?_, ?_⟩
  · rw [hfamily]
    exact hbetween
  · rw [hfamily, Winapi.packed_ofNat hfield, List.append_assoc, List.append_assoc,
      List.append_assoc]

theorem exists_octet {b : Octets} (lo : ℕ) (h : lo + 1 ≤ b.length) :
    ∃ before x rest, before.length = lo ∧ b = before ++ [x] ++ rest := by
  obtain ⟨before, field, rest, hbefore, hfield, rfl⟩ := exists_field lo 1 h
  obtain ⟨x, rfl⟩ := List.length_eq_one_iff.mp hfield
  exact ⟨before, x, rest, hbefore, rfl⟩

theorem exists_isLink (s : Sockaddrs) (length : UInt8) {rest : Octets}
    (h : SOCKADDR_MAX ≤ 2 + rest.length) (hkeeps : ¬ KeepsNoLink rest s) :
    ∃ mac, IsLink s (s.header length s.link ++ rest) mac := by
  have hroom : 126 ≤ rest.length := by
    have hmax : 128 ≤ 2 + rest.length := h
    omega
  cases s with
  | linux order =>
    obtain ⟨before, halen, rest, hbefore, rfl⟩ := exists_octet 9 (by omega : _ ≤ rest.length)
    have hbounds : 1 ≤ halen.toNat ∧ halen.toNat ≤ 8 := by
      by_contra hbounds
      exact hkeeps ⟨before, halen, rest, hbefore, rfl, hbounds⟩
    simp only [List.length_append, List.length_singleton, hbefore] at hroom
    obtain ⟨nothing, mac, rest, hnothing, hmac, rfl⟩ :=
      exists_field 0 halen.toNat (by omega : _ ≤ rest.length)
    obtain rfl := List.length_eq_zero_iff.mp hnothing
    refine ⟨mac, hmac ▸ hbounds.1, hmac ▸ hbounds.2, before, rest, hbefore, ?_⟩
    rw [hmac, UInt8.ofNat_toNat]
    simp only [List.append_assoc, List.nil_append]
    rfl
  | bsd =>
    obtain ⟨before, lengths, rest, hbefore, hlengths, rfl⟩ :=
      exists_field 3 3 (by omega : _ ≤ rest.length)
    obtain ⟨nlen, alen, slen, rfl⟩ := List.length_eq_three.mp hlengths
    have hbounds : (1 ≤ alen.toNat ∧ alen.toNat ≤ 8) ∧ nlen.toNat ≤ 64 := by
      by_contra hbounds
      refine hkeeps ⟨before, nlen, alen, slen :: rest, hbefore, ?_, by omega⟩
      simp
    simp only [List.length_append, List.length_cons, List.length_nil, hbefore] at hroom
    obtain ⟨name, mac, rest, hname, hmac, rfl⟩ :=
      exists_field nlen.toNat alen.toNat (by omega : _ ≤ rest.length)
    refine ⟨mac, hmac ▸ hbounds.1.1, hmac ▸ hbounds.1.2, length, before, slen, name, rest, hbefore,
      hname ▸ hbounds.2, ?_⟩
    rw [hname, hmac, UInt8.ofNat_toNat, UInt8.ofNat_toNat]
    simp only [List.append_assoc]
    rfl

/-- **Every sockaddr is that of an address or of a link, or silent.** -/
theorem silent_or_link_or_address (s : Sockaddrs) {sockaddr : Octets}
    (h : SOCKADDR_MAX ≤ sockaddr.length) :
    IsSilent s sockaddr ∨ (∃ mac, IsLink s sockaddr mac) ∨ ∃ a, IsAddress s sockaddr a := by
  obtain ⟨length, family, rest, hlt, rfl⟩ :=
    exists_header s (le_trans (by decide : 2 ≤ SOCKADDR_MAX) h)
  rw [List.length_append, length_header] at h
  by_cases hnumber : ∃ f, family = s.number f
  · obtain ⟨f, rfl⟩ := hnumber
    exact .inr (.inr (exists_isAddress s length f h))
  · by_cases hlink : family = s.link ∧ ¬ KeepsNoLink rest s
    · obtain ⟨rfl, hkeeps⟩ := hlink
      exact .inr (.inl (exists_isLink s length h hkeeps))
    · refine .inl ⟨length, family, rest, hlt, rfl, fun f hf => hnumber ⟨f, hf⟩, ?_⟩
      intro hfamily
      by_contra hkeeps
      exact hlink ⟨hfamily, hkeeps⟩

/-- Each sockaddr of an entry is as many octets as are looked at. -/
def IfAddrs.InMemory (entry : IfAddrs) : Prop :=
  ∀ sockaddr, entry.addr = some sockaddr ∨ entry.netmask = some sockaddr →
    SOCKADDR_MAX ≤ sockaddr.length

/-- **Every entry announces something.** -/
theorem exists_announces (s : Sockaddrs) {entry : IfAddrs} (h : entry.InMemory) :
    ∃ x, Announces s entry x := by
  cases haddr : entry.addr with
  | none =>
    refine ⟨⟨entry.text, entry.flags, .nothing⟩, rfl, rfl, ?_⟩
    intro sockaddr hsome
    rw [haddr] at hsome
    simp at hsome
  | some sockaddr =>
    rcases silent_or_link_or_address s (h sockaddr (.inl haddr)) with
      hsilent | ⟨mac, hlink⟩ | ⟨a, ha⟩
    · refine ⟨⟨entry.text, entry.flags, .nothing⟩, rfl, rfl, ?_⟩
      intro other hother
      rw [haddr] at hother
      exact Option.some.inj hother ▸ hsilent
    · exact ⟨⟨entry.text, entry.flags, .link mac⟩, rfl, rfl, sockaddr, haddr, hlink⟩
    · cases hmask : entry.netmask with
      | none =>
        exact ⟨⟨entry.text, entry.flags, .address a _⟩, rfl, rfl, sockaddr, haddr, ha,
          .inl ⟨hmask, rfl⟩⟩
      | some mask =>
        obtain ⟨n, hn⟩ := exists_isMask a.family (h mask (.inr hmask))
        exact ⟨⟨entry.text, entry.flags, .address a n⟩, rfl, rfl, sockaddr, haddr, ha,
          .inr ⟨mask, hmask, hn⟩⟩

end IPScout.InterfacesPosix
