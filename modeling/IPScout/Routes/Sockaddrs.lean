import IPScout.Neighbours.Netlink
import IPScout.Net.Mac
import IPScout.Net.Printed

/-!
# The sockaddrs of a routing message

Behind the header of a routing message stand the sockaddrs a mask names, in a fixed order,
each in a slot that is a multiple of four octets.  A sockaddr says how long it is in its first
octet; an address that is not there has a slot of one word that begins with zero.

`split_sockaddrs` finds every sockaddr that is there and no other, whatever follows them
(`splitSockaddrs_layout`), and of a part of the octets it finds a part of them
(`splitSockaddrs_take`).  A sockaddr holds an address of one of two families, or a hardware
address behind the name of an interface (`addressOf_cases`, `linkAddressOf_eq`).
-/

namespace IPScout

open Base Base.Octets

/-! ### Slots -/

theorem roundup_eq {length : ℕ} (h : 0 < length) : roundup length = (length + 3) / 4 * 4 := by
  have hor : ∀ q r, r < 4 → (2 ^ 2 * q + r) ||| 3 = 2 ^ 2 * q + 3 := by
    intro q r hr
    have hlow : ∀ r, r < 4 → r ||| 3 = 3 := by decide
    rw [Nat.two_pow_add_eq_or_of_lt hr, Nat.or_assoc, hlow r hr,
      ← Nat.two_pow_add_eq_or_of_lt (by decide)]
  have hsplit : length - 1 = 2 ^ 2 * ((length - 1) / 4) + (length - 1) % 4 := by omega
  rw [roundup, if_neg (by omega), hsplit, hor _ _ (Nat.mod_lt _ (by decide))]
  omega

theorem roundup_pos (length : ℕ) : 0 < roundup length := by
  rw [roundup]
  split <;> omega

/-- A sockaddr: its length in one octet, and the octets after that. -/
structure Sockaddr where
  tail : Octets
  short : tail.length < 255

namespace Sockaddr

def length (s : Sockaddr) : ℕ := s.tail.length + 1

def octets (s : Sockaddr) : Octets := UInt8.ofNat s.length :: s.tail

theorem length_octets (s : Sockaddr) : s.octets.length = s.length := List.length_cons

theorem toNat_length (s : Sockaddr) : (UInt8.ofNat s.length).toNat = s.length := by
  have hshort := s.short
  rw [UInt8.toNat_ofNat', length]
  omega

end Sockaddr

/-- A slot: one word without a sockaddr, or a sockaddr padded to the next word. -/
inductive Slot
  | absent (a b c : UInt8)
  | holding (s : Sockaddr) (padding : Octets)
      (padded : s.length + padding.length = roundup s.length)

namespace Slot

def octets : Slot → Octets
  | absent a b c => [0, a, b, c]
  | holding s padding _ => s.octets ++ padding

def sockaddr : Slot → Option Octets
  | absent _ _ _ => none
  | holding s _ _ => some s.octets

end Slot

variable (addrs : ℕ) (slots : ℕ → Slot)

/-- The slots of the bits a mask names, in the order of the bits. -/
def slotOctets (bits : List ℕ) : Octets :=
  (bits.filter fun bit => addrs &&& bit ≠ 0).flatMap fun bit => (slots bit).octets

def layout : Octets := slotOctets addrs slots sockaddrOrder

/-- The sockaddr of a bit, if the mask names it and there is one. -/
def slotOf (bit : ℕ) : Option Octets := if addrs &&& bit = 0 then none else (slots bit).sockaddr

def namedSockaddrs : SockaddrSet where
  destination := slotOf addrs slots RTA_DST
  gateway := slotOf addrs slots RTA_GATEWAY
  netmask := slotOf addrs slots RTA_NETMASK
  interface := slotOf addrs slots RTA_IFP
  interfaceAddress := slotOf addrs slots RTA_IFA
  broadcast := slotOf addrs slots RTA_BRD

/-! ### What is found -/

variable {addrs slots}

theorem slotOctets_cons (bit : ℕ) (bits : List ℕ) :
    slotOctets addrs slots (bit :: bits) =
      (if addrs &&& bit = 0 then [] else (slots bit).octets) ++ slotOctets addrs slots bits := by
  rw [slotOctets, List.filter_cons]
  by_cases h : addrs &&& bit = 0
  · rw [if_pos h, if_neg (by simpa using h)]
    rfl
  · rw [if_neg h, if_pos (by simpa using h), List.flatMap_cons]
    rfl

theorem length_slot_octets (slot : Slot) : 4 ≤ slot.octets.length := by
  cases slot with
  | absent a b c => exact le_rfl
  | holding s padding padded =>
    have hpos : 0 < s.length := Nat.succ_pos _
    rw [Slot.octets, List.length_append, s.length_octets, padded, roundup_eq hpos]
    omega

theorem splitFrom_slot {bit : ℕ} (h : addrs &&& bit ≠ 0) (bits : List ℕ) (slot : Slot)
    (before rest : Octets) :
    splitFrom (before ++ (slot.octets ++ rest)) addrs (bit :: bits) before.length =
      (slot.sockaddr.map fun s => (bit, s)).toList ++
        splitFrom ((before ++ slot.octets) ++ rest) addrs bits (before ++ slot.octets).length := by
  have hroom := length_slot_octets slot
  have hlength : (before ++ (slot.octets ++ rest)).length =
      before.length + slot.octets.length + rest.length := by
    rw [List.length_append, List.length_append, Nat.add_assoc]
  rw [List.append_assoc, splitFrom, if_neg h, if_neg (by omega)]
  dsimp only
  rw [octet_append_right le_rfl, Nat.sub_self]
  cases slot with
  | absent a b c =>
    have hzero : octet ((Slot.absent a b c).octets ++ rest) 0 = 0 := rfl
    rw [hzero, if_neg (fun hne => hne.1 rfl)]
    rw [List.length_append]
    rfl
  | holding s padding padded =>
    have hfirst : octet ((Slot.holding s padding padded).octets ++ rest) 0 = s.length := by
      show (UInt8.ofNat s.length).toNat = s.length
      exact s.toNat_length
    have hslice : slice (before ++ ((Slot.holding s padding padded).octets ++ rest))
        before.length (before.length + s.length) = s.octets := by
      rw [Slot.octets, List.append_assoc]
      exact slice_append_append rfl (by rw [s.length_octets])
    have hnext : before.length + roundup s.length =
        (before ++ (Slot.holding s padding padded).octets).length := by
      rw [List.length_append, Slot.octets, List.length_append, s.length_octets, padded]
    have hfits : s.length ≤ (Slot.holding s padding padded).octets.length := by
      rw [Slot.octets, List.length_append, s.length_octets]
      exact Nat.le_add_right _ _
    have hpos : s.length ≠ 0 := Nat.succ_ne_zero _
    rw [hfirst, if_pos ⟨hpos, by omega⟩, hslice, hnext]
    rfl

/-- **Slot by slot, the walk finds the sockaddrs that are there.** -/
theorem splitFrom_slotOctets (bits : List ℕ) (before rest : Octets) :
    splitFrom (before ++ (slotOctets addrs slots bits ++ rest)) addrs bits before.length =
      bits.filterMap fun bit => (slotOf addrs slots bit).map fun s => (bit, s) := by
  induction bits generalizing before with
  | nil => rfl
  | cons bit bits ih =>
    rw [slotOctets_cons, List.filterMap_cons]
    by_cases h : addrs &&& bit = 0
    · have hnone : slotOf addrs slots bit = none := if_pos h
      rw [if_pos h, List.nil_append, splitFrom, if_pos h, ih, hnone]
      rfl
    · have hsome : slotOf addrs slots bit = (slots bit).sockaddr := if_neg h
      rw [if_neg h, List.append_assoc, splitFrom_slot h, List.append_assoc before,
        ← List.append_assoc before, ih, hsome]
      cases (slots bit).sockaddr <;> rfl

theorem lookup_filterMap (f : ℕ → Option Octets) (bits : List ℕ) {bit : ℕ} (h : bit ∈ bits) :
    (bits.filterMap fun b => (f b).map fun s => (b, s)).lookup bit = f bit := by
  induction bits with
  | nil => exact absurd h List.not_mem_nil
  | cons b bits ih =>
    rw [List.filterMap_cons]
    by_cases hb : bit = b
    · subst hb
      cases hf : f bit with
      | none =>
        rw [Option.map_none]
        by_cases hrest : bit ∈ bits
        · exact (ih hrest).trans hf
        · rw [List.lookup_eq_none_iff]
          intro e he
          obtain ⟨c, hc, hfc⟩ := List.mem_filterMap.mp he
          obtain ⟨s, -, rfl⟩ := Option.map_eq_some_iff.mp hfc
          rw [bne_iff_ne]
          rintro rfl
          exact hrest hc
      | some s => simp
    · have hrest := ih ((List.mem_cons.mp h).resolve_left hb)
      cases hf : f b with
      | none => exact hrest
      | some s =>
        rw [Option.map_some, List.lookup_cons, beq_false_of_ne hb]
        exact hrest

/-- **The sockaddrs of a message are found**, each in its own field, whatever follows them. -/
theorem splitSockaddrs_layout (addrs : ℕ) (slots : ℕ → Slot) (rest : Octets) :
    splitSockaddrs (layout addrs slots ++ rest) addrs = namedSockaddrs addrs slots := by
  have hfound := @splitFrom_slotOctets addrs slots sockaddrOrder [] rest
  rw [List.nil_append, List.length_nil] at hfound
  have hfield : ∀ bit ∈ sockaddrOrder, (splitFrom (layout addrs slots ++ rest) addrs sockaddrOrder
      0).lookup bit = slotOf addrs slots bit := by
    intro bit hbit
    rw [layout, hfound]
    exact lookup_filterMap _ _ hbit
  rw [splitSockaddrs, namedSockaddrs]
  simp only [hfield RTA_DST (by decide), hfield RTA_GATEWAY (by decide),
    hfield RTA_NETMASK (by decide), hfield RTA_IFP (by decide), hfield RTA_IFA (by decide),
    hfield RTA_BRD (by decide)]

/-! ### A part of the octets -/

theorem splitFrom_of_length_le {payload : Octets} {position : ℕ}
    (h : payload.length ≤ position) (bits : List ℕ) :
    splitFrom payload addrs bits position = [] := by
  induction bits with
  | nil => rfl
  | cons bit bits ih =>
    rw [splitFrom]
    split
    · exact ih
    · rw [if_pos (by omega)]

theorem splitFrom_take_isPrefix (payload : Octets) (n : ℕ) (bits : List ℕ) (position : ℕ) :
    splitFrom (payload.take n) addrs bits position <+: splitFrom payload addrs bits position := by
  have hlength : (payload.take n).length ≤ n ∧ (payload.take n).length ≤ payload.length := by
    rw [List.length_take]
    omega
  induction bits generalizing position with
  | nil => exact List.prefix_rfl
  | cons bit bits ih =>
    rw [splitFrom, splitFrom]
    by_cases hnamed : addrs &&& bit = 0
    · rw [if_pos hnamed, if_pos hnamed]
      exact ih position
    rw [if_neg hnamed, if_neg hnamed]
    by_cases hroom : position + 2 > (payload.take n).length
    · rw [if_pos hroom]
      exact List.nil_prefix
    have hoctet : octet (payload.take n) position = octet payload position := by
      rw [octet, octet, List.getD_eq_getElem?_getD, List.getD_eq_getElem?_getD,
        List.getElem?_take_of_lt (by omega)]
    rw [if_neg hroom, if_neg (show ¬position + 2 > payload.length by omega), hoctet]
    dsimp only
    by_cases hfits : octet payload position ≠ 0 ∧
        position + octet payload position ≤ (payload.take n).length
    · rw [if_pos hfits, if_pos ⟨hfits.1, by omega⟩, slice_take (by omega)]
      exact (List.prefix_cons_inj _).mpr (ih _)
    · rw [if_neg hfits]
      by_cases hzero : octet payload position = 0
      · rw [if_neg (fun h => h.1 hzero)]
        exact ih _
      · -- the walk goes on behind the cut, and ends there
        have hpast : (payload.take n).length ≤ position + roundup (octet payload position) := by
          have hpos : 0 < octet payload position := Nat.pos_of_ne_zero hzero
          rw [roundup_eq hpos]
          omega
        rw [splitFrom_of_length_le hpast]
        exact List.nil_prefix

/-- Whether a field of one record is that of the other, or absent. -/
def LeftOf (cut whole : Option Octets) : Prop := cut = none ∨ cut = whole

/-- The sockaddrs that are left of others. -/
structure SockaddrSet.LeftOf (cut whole : SockaddrSet) : Prop where
  destination : IPScout.LeftOf cut.destination whole.destination
  gateway : IPScout.LeftOf cut.gateway whole.gateway
  netmask : IPScout.LeftOf cut.netmask whole.netmask
  interface : IPScout.LeftOf cut.interface whole.interface
  interfaceAddress : IPScout.LeftOf cut.interfaceAddress whole.interfaceAddress
  broadcast : IPScout.LeftOf cut.broadcast whole.broadcast

theorem leftOf_of_isPrefix {cut whole : List (ℕ × Octets)} (h : cut <+: whole) (bit : ℕ) :
    LeftOf (cut.lookup bit) (whole.lookup bit) := by
  obtain ⟨rest, rfl⟩ := h
  rw [List.lookup_append]
  cases hlookup : cut.lookup bit with
  | none => exact Or.inl rfl
  | some s => exact Or.inr rfl

/-- **Of a buffer that is cut short each sockaddr is found, or none in its place.** -/
theorem splitSockaddrs_take (payload : Octets) (n addrs : ℕ) :
    (splitSockaddrs (payload.take n) addrs).LeftOf (splitSockaddrs payload addrs) := by
  have hprefix := @splitFrom_take_isPrefix addrs payload n sockaddrOrder 0
  exact ⟨leftOf_of_isPrefix hprefix _, leftOf_of_isPrefix hprefix _,
    leftOf_of_isPrefix hprefix _, leftOf_of_isPrefix hprefix _,
    leftOf_of_isPrefix hprefix _, leftOf_of_isPrefix hprefix _⟩

/-! ### Addresses -/

/-- The address in a sockaddr of one of the two families. -/
def sockaddrAddress (s : Octets) : Option IPAddress :=
  if octet s 1 = afInet .IPV4 ∧ 8 ≤ s.length then
    some (.ofNat .IPV4 (bigEndian (slice s 4 8)))
  else if octet s 1 = afInet .IPV6 ∧ 24 ≤ s.length then
    some (.ofNat .IPV6 (bigEndian (slice s 8 24)))
  else none

/-- **What is read of a sockaddr is the text of its address**, if it has one. -/
theorem addressOf_cases (s : Octets) :
    (addressOf s = none ∧ sockaddrAddress s = none) ∨
      ∃ family b, b.length = family.packedSize ∧ addressOf s = some (inetNtop family b) ∧
        sockaddrAddress s = some (.ofNat family (bigEndian b)) := by
  rw [addressOf, sockaddrAddress]
  by_cases hshort : s.length < 2
  · left
    rw [if_pos hshort, if_neg (by omega), if_neg (by omega)]
    exact ⟨rfl, rfl⟩
  rw [if_neg hshort]
  by_cases h4 : octet s 1 = afInet .IPV4
  · have h6 : octet s 1 ≠ afInet .IPV6 := by
      rw [h4]
      decide
    rw [if_pos h4]
    by_cases hroom : s.length < 4 + 4
    · left
      rw [if_pos hroom, if_neg (by omega), if_neg (fun h => h6 h.1)]
      exact ⟨rfl, rfl⟩
    · right
      rw [if_neg hroom, if_pos ⟨h4, by omega⟩]
      refine ⟨.IPV4, slice s 4 8, ?_, rfl, rfl⟩
      rw [length_slice]
      show min 8 s.length - 4 = 4
      omega
  have hnot : ¬(octet s 1 = afInet .IPV4 ∧ 8 ≤ s.length) := fun h => h4 h.1
  rw [if_neg h4, if_neg hnot]
  by_cases h6 : octet s 1 = afInet .IPV6
  · rw [if_pos h6]
    by_cases hroom : s.length < 8 + 16
    · left
      rw [if_pos hroom, if_neg (by omega)]
      exact ⟨rfl, rfl⟩
    · right
      rw [if_neg hroom, if_pos ⟨h6, by omega⟩]
      refine ⟨.IPV6, slice s 8 24, ?_, rfl, rfl⟩
      rw [length_slice]
      show min 24 s.length - 8 = 16
      omega
  · left
    rw [if_neg h6, if_neg (fun h => h6 h.1)]
    exact ⟨rfl, rfl⟩

def AF_LINK : ℕ := 18

/-- `SOCKADDR_DL.size`, of `=BBHBBBB`: the length, the family, the index, the type, the lengths
of the name, the address and the selector. -/
def SOCKADDR_DL_FIXED : ℕ := 8

def SOCKADDR_DL_SIZE : ℕ := 20

def IFT_ETHER : ℕ := 0x06

def linkAddressOf (chunk : Octets) : Option Text :=
  if chunk.length < SOCKADDR_DL_FIXED then none
  else
    let nameLength := octet chunk 5
    let addressLength := octet chunk 6
    if octet chunk 1 ≠ AF_LINK ∨ addressLength ≠ MAC_LENGTH then none
    else
      let start := SOCKADDR_DL_FIXED + nameLength
      let stop := start + addressLength
      if stop > chunk.length then none else formatMac (slice chunk start stop)

/-- The hardware address of six octets in a link sockaddr, behind the name. -/
def hardwareOctets (s : Octets) : Option Octets :=
  if octet s 1 = AF_LINK ∧ octet s 6 = MAC_LENGTH ∧
      SOCKADDR_DL_FIXED + octet s 5 + MAC_LENGTH ≤ s.length then
    some (slice s (SOCKADDR_DL_FIXED + octet s 5) (SOCKADDR_DL_FIXED + octet s 5 + MAC_LENGTH))
  else none

theorem linkAddressOf_eq (s : Octets) : linkAddressOf s = (hardwareOctets s).bind formatMac := by
  rw [linkAddressOf, hardwareOctets]
  dsimp only
  by_cases hshort : s.length < SOCKADDR_DL_FIXED
  · rw [if_pos hshort, if_neg (by omega)]
    rfl
  rw [if_neg hshort]
  by_cases hkind : octet s 1 = AF_LINK ∧ octet s 6 = MAC_LENGTH
  · rw [if_neg (by simp [hkind]), hkind.2]
    by_cases hroom : SOCKADDR_DL_FIXED + octet s 5 + MAC_LENGTH ≤ s.length
    · rw [if_neg (by omega), if_pos ⟨hkind.1, rfl, hroom⟩]
      rfl
    · rw [if_pos (by omega), if_neg (fun h => hroom h.2.2)]
      rfl
  · rw [if_pos (by rwa [← not_and_or]), if_neg (fun h => hkind ⟨h.1, h.2.1⟩)]
    rfl

theorem length_of_hardwareOctets {s raw : Octets} (h : hardwareOctets s = some raw) :
    raw.length = MAC_LENGTH := by
  rw [hardwareOctets] at h
  split at h
  · next hroom =>
    rw [← Option.some.inj h, length_slice]
    omega
  · simp at h

/-- `pack_sockaddr_dl`; the inner `none` is a `struct.error`. -/
def packSockaddrDl (index : ℕ) (mac : Octets) : Except PyError (Option Octets) :=
  match ByteOrder.little.field 2 index, ByteOrder.little.field 1 mac.length with
  | some index, some addressLength =>
    if SOCKADDR_DL_SIZE - SOCKADDR_DL_FIXED < mac.length then .error (.value [say "negative count"])
    else
      .ok (some ([UInt8.ofNat SOCKADDR_DL_SIZE, UInt8.ofNat AF_LINK] ++ index ++
        [UInt8.ofNat IFT_ETHER, 0] ++ addressLength ++ [0] ++ mac ++
          List.replicate (SOCKADDR_DL_SIZE - SOCKADDR_DL_FIXED - mac.length) 0))
  | _, _ => .ok none

end IPScout
