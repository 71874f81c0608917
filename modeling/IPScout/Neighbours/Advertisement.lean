import IPScout.Net.Mac
import IPScout.Net.Mapped

/-!
# Neighbour advertisements

`arp.py`: the hardware address in an ICMPv6 neighbour advertisement.  The options after the
target are types, lengths in units of eight octets, and data; `_target_link_address` walks
them to the first one with the target's link-layer address.

The walk ends and reads inside the message whatever is in it (`linkAddressFrom_eq`).  The
target is compared as a text that `inet_ntop` writes with one that `ipaddress` writes, so an
advertisement is read for every target but those the two write apart
(`advertisement_right_iff`).
-/

namespace IPScout

open Base Base.Octets Base.Text

/-! ### The reader -/

def ICMPV6_NEIGHBOUR_ADVERTISEMENT : ℕ := 136

def ND_OPT_TARGET_LINK_ADDRESS : ℕ := 2

/-- The fixed part: type, code, checksum, flags, and the target. -/
def NA_HEADER : ℕ := 24

def OPTION_UNIT : ℕ := 8

/-- What ends a read: an `IndexError`, or no more fuel. -/
inductive ReadError
  | indexError
  | outOfFuel

/-- `message[i]`. -/
def readOctet (message : Octets) (i : ℕ) : Except ReadError ℕ :=
  match message[i]? with
  | some x => .ok x.toNat
  | none => .error .indexError

/-- The loop of `_target_link_address`. -/
def linkAddressFrom (message : Octets) : (fuel position : ℕ) → Except ReadError (Option Text)
  | 0, _ => .error .outOfFuel
  | fuel + 1, position =>
    if position + 2 ≤ message.length then do
      let optionType ← readOctet message position
      let units ← readOctet message (position + 1)
      let stop := position + units * OPTION_UNIT
      if units = 0 ∨ message.length < stop then .ok none
      else if optionType = ND_OPT_TARGET_LINK_ADDRESS then
        .ok (formatMac (slice message (position + 2) (position + 2 + MAC_LENGTH)))
      else linkAddressFrom message fuel stop
    else .ok none

def targetLinkAddress (fuel : ℕ) (message : Octets) : Except ReadError (Option Text) :=
  linkAddressFrom message fuel NA_HEADER

def parseNeighbourAdvertisement (python : PythonVersion) (fuel : ℕ) (message : Octets)
    (targetIp : Text) : Except ReadError (Option Text) :=
  if message.length < NA_HEADER then .ok none
  else do
    let type ← readOctet message 0
    if type ≠ ICMPV6_NEIGHBOUR_ADVERTISEMENT then .ok none
    else
      match ipAddress targetIp with
      -- the `ValueError` of `ip_address`
      | none => .ok none
      | some address =>
        if inetNtop6 (slice message 8 24) ≠ address.compressed python then .ok none
        else targetLinkAddress fuel message

/-! ### The walk -/

/-- The walk over the octets that are left. -/
def linkOption : Octets → Option Text
  | [] => none
  | [_] => none
  | optionType :: units :: rest =>
    if h : units.toNat = 0 ∨ rest.length + 2 < units.toNat * OPTION_UNIT then none
    else if optionType.toNat = ND_OPT_TARGET_LINK_ADDRESS then formatMac (rest.take MAC_LENGTH)
    else linkOption (rest.drop (units.toNat * OPTION_UNIT - 2))
termination_by b => b.length
decreasing_by
  rw [List.length_drop, List.length_cons, List.length_cons]
  omega

theorem readOctet_eq {message : Octets} {i : ℕ} (h : i < message.length) :
    readOctet message i = .ok message[i].toNat := by
  rw [readOctet, List.getElem?_eq_getElem h]

theorem linkOption_drop_of_short {message : Octets} {position : ℕ}
    (h : ¬ position + 2 ≤ message.length) : linkOption (message.drop position) = none := by
  have hshort : (message.drop position).length ≤ 1 := by
    rw [List.length_drop]
    omega
  rcases hdrop : message.drop position with _ | ⟨x, _ | ⟨y, rest⟩⟩
  · rw [linkOption]
  · rw [linkOption]
  · rw [hdrop, List.length_cons, List.length_cons] at hshort
    omega

/-- **The walk ends and reads inside the message**: each turn passes an option, so an octet of
fuel for each octet is enough. -/
theorem linkAddressFrom_eq {message : Octets} {fuel position : ℕ}
    (h : message.length ≤ position + fuel) :
    linkAddressFrom message (fuel + 1) position = .ok (linkOption (message.drop position)) := by
  induction fuel generalizing position with
  | zero =>
    have hroom : ¬ position + 2 ≤ message.length := by omega
    rw [linkAddressFrom, if_neg hroom, linkOption_drop_of_short hroom]
  | succ fuel ih =>
    rw [linkAddressFrom]
    by_cases hroom : position + 2 ≤ message.length
    · rw [if_pos hroom, readOctet_eq (by omega), readOctet_eq (by omega),
        List.drop_eq_getElem_cons (show position < message.length by omega),
        List.drop_eq_getElem_cons (show position + 1 < message.length by omega)]
      generalize message[position] = optionType
      generalize message[position + 1] = units
      show (if units.toNat = 0 ∨ message.length < position + units.toNat * OPTION_UNIT then _
        else _) = _
      have hrest : (message.drop (position + 1 + 1)).length = message.length - (position + 2) := by
        rw [List.length_drop]
      have h8 : units.toNat * OPTION_UNIT = units.toNat * 8 := rfl
      rw [linkOption]
      by_cases hbad : units.toNat = 0 ∨ message.length < position + units.toNat * OPTION_UNIT
      · rw [if_pos hbad, dif_pos (by omega)]
      · rw [if_neg hbad, dif_neg (by omega)]
        by_cases htype : optionType.toNat = ND_OPT_TARGET_LINK_ADDRESS
        · rw [if_pos htype, if_pos htype, slice, List.drop_take, Nat.add_sub_cancel_left]
        · rw [if_neg htype, if_neg htype, List.drop_drop, ih (by omega)]
          rw [show position + 1 + 1 + (units.toNat * OPTION_UNIT - 2) =
            position + units.toNat * OPTION_UNIT by omega]
    · rw [if_neg hroom, linkOption_drop_of_short hroom]

/-! ### Advertisements -/

/-- An option: a type, and data that fill up whole units with the two octets before them. -/
structure NdOption where
  type : UInt8
  units : ℕ
  data : Octets
  units_bounds : 1 ≤ units ∧ units < 256
  length_data : data.length + 2 = units * OPTION_UNIT

namespace NdOption

def octets (o : NdOption) : Octets := o.type :: UInt8.ofNat o.units :: o.data

/-- Whether the option has the target's link-layer address. -/
def isTargetLink (o : NdOption) : Bool := o.type.toNat == ND_OPT_TARGET_LINK_ADDRESS

theorem toNat_units (o : NdOption) : (UInt8.ofNat o.units).toNat = o.units := by
  rw [UInt8.toNat_ofNat', Nat.mod_eq_of_lt (by simpa using o.units_bounds.2)]

theorem length_octets (o : NdOption) : o.octets.length = o.units * OPTION_UNIT := by
  rw [octets, List.length_cons, List.length_cons, ← o.length_data]

end NdOption

/-- An advertisement of a target; the flags and the checksum may be any. -/
def advertisement (code : Octets) (ip : BitVec 128) (options : Octets) : Octets :=
  (UInt8.ofNat ICMPV6_NEIGHBOUR_ADVERTISEMENT :: code) ++ (packedNat 16 ip.toNat ++ options)

/-- The address in the first option that has one. -/
def linkAddress (options : List NdOption) : Option Text :=
  (options.find? NdOption.isTargetLink).bind fun o => formatMac (o.data.take MAC_LENGTH)

/-- **An option is the one that is looked for, or the walk passes over it.** -/
theorem linkOption_option (o : NdOption) (rest : Octets) : linkOption (o.octets ++ rest) =
    if o.isTargetLink then formatMac (o.data.take MAC_LENGTH) else linkOption rest := by
  have hunits := o.toNat_units
  have hlength := o.length_data
  have hpos := o.units_bounds.1
  have h8 : o.units * OPTION_UNIT = o.units * 8 := rfl
  have h6 : MAC_LENGTH = 6 := rfl
  rw [NdOption.octets, List.cons_append, List.cons_append, linkOption, hunits,
    dif_neg (by rw [List.length_append]; omega), NdOption.isTargetLink]
  by_cases htype : o.type.toNat = ND_OPT_TARGET_LINK_ADDRESS
  · rw [if_pos htype, if_pos (beq_iff_eq.mpr htype), List.take_append_of_le_length (by omega)]
  · rw [if_neg htype, if_neg (fun h => htype (beq_iff_eq.mp h)),
      List.drop_left' (show o.data.length = o.units * OPTION_UNIT - 2 by omega)]

/-- **The walk over options finds the first one that has the address.** -/
theorem linkOption_options (options : List NdOption) (rest : Octets) :
    linkOption (options.flatMap NdOption.octets ++ rest) =
      match options.find? NdOption.isTargetLink with
      | some o => formatMac (o.data.take MAC_LENGTH)
      | none => linkOption rest := by
  induction options with
  | nil => rfl
  | cons o options ih =>
    rw [List.flatMap_cons, List.append_assoc, linkOption_option, List.find?_cons, ih]
    cases o.isTargetLink with
    | true => rfl
    | false => rfl

theorem linkOption_flatMap (options : List NdOption) :
    linkOption (options.flatMap NdOption.octets) = linkAddress options := by
  have hwhole := linkOption_options options []
  rw [List.append_nil] at hwhole
  rw [hwhole, linkAddress]
  cases options.find? NdOption.isTargetLink with
  | none => rw [linkOption, Option.bind_none]
  | some o => rfl

theorem linkOption_zero (type : UInt8) (rest : Octets) : linkOption (type :: 0 :: rest) = none := by
  have hzero : (0 : UInt8).toNat = 0 := rfl
  rw [linkOption, dif_pos (Or.inl hzero)]

theorem linkOption_cut (o : NdOption) {n : ℕ} (h : n < o.octets.length) :
    linkOption (o.octets.take n) = none := by
  have hunits := o.toNat_units
  rw [o.length_octets] at h
  match n with
  | 0 => rw [List.take_zero, linkOption]
  | 1 => rw [NdOption.octets, List.take_succ_cons, List.take_zero, linkOption]
  | n + 2 =>
    have hle := List.length_take_le n o.data
    rw [NdOption.octets, List.take_succ_cons, List.take_succ_cons, linkOption, hunits,
      dif_pos (Or.inr (by omega))]

/-! ### The target -/

section Targets

variable {python : PythonVersion} {fuel : ℕ} {message code options : Octets} {target : Text}
  {ip : BitVec 128}

theorem parseNeighbourAdvertisement_eq (hfuel : message.length < fuel) :
    parseNeighbourAdvertisement python fuel message target =
      .ok (if NA_HEADER ≤ message.length ∧ octet message 0 = ICMPV6_NEIGHBOUR_ADVERTISEMENT ∧
          (ipAddress target).map (IPAddress.compressed python) =
            some (inetNtop6 (slice message 8 24)) then
        linkOption (message.drop NA_HEADER) else none) := by
  have h24 : NA_HEADER = 24 := rfl
  rw [parseNeighbourAdvertisement]
  by_cases hlength : message.length < NA_HEADER
  · rw [if_pos hlength, if_neg (fun h => absurd h.1 (Nat.not_le.mpr hlength))]
  · have hfirst : octet message 0 = message[0].toNat := by
      rw [octet, List.getD_eq_getElem _ _ (by omega)]
    rw [if_neg hlength, readOctet_eq (by omega), ← hfirst]
    show (if octet message 0 ≠ ICMPV6_NEIGHBOUR_ADVERTISEMENT then _ else _) = _
    by_cases htype : octet message 0 = ICMPV6_NEIGHBOUR_ADVERTISEMENT
    · rw [if_neg (not_not.mpr htype)]
      cases hread : ipAddress target with
      | none => rw [if_neg (by simp)]
      | some address =>
        dsimp only
        by_cases hsame : inetNtop6 (slice message 8 24) = address.compressed python
        · obtain ⟨n, rfl⟩ : ∃ n, fuel = n + 1 := ⟨fuel - 1, by omega⟩
          rw [if_neg (not_not.mpr hsame), if_pos ⟨Nat.not_lt.mp hlength, htype, by
            rw [Option.map_some, hsame]⟩, targetLinkAddress, linkAddressFrom_eq (by omega)]
        · rw [if_pos hsame, if_neg]
          rintro ⟨_, _, heq⟩
          rw [Option.map_some, Option.some_inj] at heq
          exact hsame heq.symm
    · rw [if_pos htype, if_neg (fun h => htype h.2.1)]

theorem compressed_v6 : (IPAddress.v6 ⟨ip, none⟩).compressed python = ipv6Str python ip :=
  rfl

theorem packedNat_of_inetNtop6_eq {b : Octets} (hb : b.length = 16)
    (h : inetNtop6 b = ipv6Str python ip) : b = packedNat 16 ip.toNat := by
  have hlt : bigEndian b < 2 ^ 128 := by
    have := bigEndian_lt b
    rw [hb] at this
    exact this
  have hbits := ipv6Bits_inetNtop6 hb
  rw [h, ipv6Bits_ipv6Str, Option.some_inj] at hbits
  have hpacked := packedNat_bigEndian b
  rw [hb] at hpacked
  rw [hbits, BitVec.toNat_ofNat, Nat.mod_eq_of_lt hlt, hpacked]

/-- **An address is read only of an advertisement of the target.** -/
theorem target_of_parseNeighbourAdvertisement (htarget : ipAddress target = some (.v6 ⟨ip, none⟩))
    (hfuel : message.length < fuel) {mac : Text}
    (h : parseNeighbourAdvertisement python fuel message target = .ok (some mac)) :
    slice message 8 24 = packedNat 16 ip.toNat := by
  have h24 : NA_HEADER = 24 := rfl
  rw [parseNeighbourAdvertisement_eq hfuel] at h
  have hsome := Except.ok.inj h
  split at hsome
  · next hread =>
    obtain ⟨hlength, _, htext⟩ := hread
    rw [htarget, Option.map_some, Option.some_inj, compressed_v6] at htext
    apply packedNat_of_inetNtop6_eq _ htext.symm
    rw [length_slice]
    omega
  · simp at hsome

theorem parseNeighbourAdvertisement_advertisement
    (htarget : ipAddress target = some (.v6 ⟨ip, none⟩)) (hcode : code.length = 7)
    (hfuel : (advertisement code ip options).length < fuel) :
    parseNeighbourAdvertisement python fuel (advertisement code ip options) target =
      .ok (if inetNtop6 (packedNat 16 ip.toNat) = ipv6Str python ip then linkOption options
        else none) := by
  have hpacked := length_packedNat 16 ip.toNat
  have hfront : (UInt8.ofNat ICMPV6_NEIGHBOUR_ADVERTISEMENT :: code).length = 8 := by
    rw [List.length_cons, hcode]
  have hslice : slice (advertisement code ip options) 8 24 = packedNat 16 ip.toNat :=
    slice_append_append hfront (by rw [hpacked])
  have hdrop : (advertisement code ip options).drop NA_HEADER = options := by
    rw [advertisement, ← List.append_assoc]
    apply List.drop_left'
    rw [List.length_append, hfront, hpacked]
    rfl
  have hlength : NA_HEADER ≤ (advertisement code ip options).length := by
    rw [advertisement, List.length_append, List.length_append, hfront, hpacked]
    show 24 ≤ _
    omega
  rw [parseNeighbourAdvertisement_eq hfuel, hslice, hdrop, htarget, Option.map_some, compressed_v6]
  congr 1
  by_cases hsame : inetNtop6 (packedNat 16 ip.toNat) = ipv6Str python ip
  · rw [if_pos hsame, if_pos ⟨hlength, rfl, by rw [hsame]⟩]
  · rw [if_neg hsame, if_neg]
    rintro ⟨_, _, htext⟩
    exact hsame (Option.some.inj htext).symm

theorem inetNtop6_packedNat_iff :
    inetNtop6 (packedNat 16 ip.toNat) = ipv6Str python ip ↔ ¬ WrittenApart python ip := by
  have hsame := inetNtop6_eq_ipv6Str_iff python (length_packedNat 16 ip.toNat)
  rwa [bigEndian_packedNat, Nat.mod_eq_of_lt (show ip.toNat < 256 ^ 16 from ip.isLt),
    BitVec.ofNat_toNat, BitVec.setWidth_eq] at hsame

end Targets

/-! ### What the reader says of a target -/

/-- Every advertisement of the target is read for what its first option with the address
says. -/
def ReadsAdvertisements (python : PythonVersion) (target : Text) (ip : BitVec 128) : Prop :=
  ∀ (code : Octets) (options : List NdOption) (fuel : ℕ), code.length = 7 →
    (advertisement code ip (options.flatMap NdOption.octets)).length < fuel →
    parseNeighbourAdvertisement python fuel
      (advertisement code ip (options.flatMap NdOption.octets)) target = .ok (linkAddress options)

/-- An advertisement whose one option has the address `02:00:5e:10:00:00`. -/
def linkOptionOf : NdOption :=
  ⟨2, 1, [0x02, 0x00, 0x5e, 0x10, 0x00, 0x00], by decide, by decide⟩

/-- **The advertisements of a target are read exactly when its two texts are one.**  Whatever the
message is, the walk ends and reads inside it, and what it yields is about the target; and an
option of no length, or one that is cut, yields nothing after it. -/
theorem advertisement_right_iff (python : PythonVersion) {target : Text} {ip : BitVec 128}
    (htarget : ipAddress target = some (.v6 ⟨ip, none⟩)) :
    (ReadsAdvertisements python target ip ↔ ¬ WrittenApart python ip) ∧
    (∀ message : Octets, ∃ result, (∀ fuel, message.length < fuel →
        parseNeighbourAdvertisement python fuel message target = .ok result) ∧
      ∀ mac, result = some mac → slice message 8 24 = packedNat 16 ip.toNat) ∧
    (∀ (code : Octets) (options : List NdOption) (rest : Octets) (fuel : ℕ), code.length = 7 →
      options.find? NdOption.isTargetLink = none →
      ((∃ type rest', rest = type :: 0 :: rest') ∨
        ∃ (o : NdOption) (n : ℕ), n < o.octets.length ∧ rest = o.octets.take n) →
      (advertisement code ip (options.flatMap NdOption.octets ++ rest)).length < fuel →
      parseNeighbourAdvertisement python fuel
        (advertisement code ip (options.flatMap NdOption.octets ++ rest)) target = .ok none) := by
  refine ⟨⟨?_, ?_⟩, ?_, ?_⟩
  · intro hreads hapart
    have hread := hreads (List.replicate 7 0) [linkOptionOf] _ List.length_replicate
      (Nat.lt_succ_self _)
    rw [parseNeighbourAdvertisement_advertisement htarget List.length_replicate
      (Nat.lt_succ_self _), if_neg (fun h => inetNtop6_packedNat_iff.mp h hapart)] at hread
    exact absurd (Except.ok.inj hread) (by decide)
  · intro happart code options fuel hcode hfuel
    rw [parseNeighbourAdvertisement_advertisement htarget hcode hfuel,
      if_pos (inetNtop6_packedNat_iff.mpr happart), linkOption_flatMap]
  · intro message
    refine ⟨_, fun fuel hfuel => parseNeighbourAdvertisement_eq hfuel, ?_⟩
    intro mac hmac
    apply target_of_parseNeighbourAdvertisement htarget (Nat.lt_succ_self message.length)
    rw [parseNeighbourAdvertisement_eq (Nat.lt_succ_self message.length), hmac]
  · intro code options rest fuel hcode hnone hrest hfuel
    have hwalk : linkOption rest = none := by
      rcases hrest with ⟨type, rest', rfl⟩ | ⟨o, n, hn, rfl⟩
      · exact linkOption_zero type rest'
      · exact linkOption_cut o hn
    rw [parseNeighbourAdvertisement_advertisement htarget hcode hfuel, linkOption_options, hnone,
      hwalk, ite_self]

theorem advertisement_right_of_fe80 :
    ReadsAdvertisements .before313 "fe80::1".toList (BitVec.ofNat 128 (0xfe80 * 2 ^ 112 + 1)) := by
  have htarget : ipAddress "fe80::1".toList =
      some (.v6 ⟨BitVec.ofNat 128 (0xfe80 * 2 ^ 112 + 1), none⟩) := by decide +kernel
  apply (advertisement_right_iff .before313 htarget).1.mpr
  rintro (⟨_, hmapped⟩ | ⟨_, hsmall⟩)
  · exact absurd hmapped (by decide)
  · exact absurd hsmall (by decide)

/-- **Before Python 3.13 an advertisement of `::ffff:192.0.2.1` is not read.** -/
theorem mapped_advertisement_lost :
    ipAddress "::ffff:192.0.2.1".toList =
      some (.v6 ⟨BitVec.ofNat 128 (0xffff * 2 ^ 32 + 0xc0000201), none⟩) ∧
    linkAddress [linkOptionOf] = some "02:00:5e:10:00:00".toList ∧
    (match parseNeighbourAdvertisement .before313 33
        (advertisement (List.replicate 7 0) (BitVec.ofNat 128 (0xffff * 2 ^ 32 + 0xc0000201))
          ([linkOptionOf].flatMap NdOption.octets)) "::ffff:192.0.2.1".toList with
      | .ok none => true
      | _ => false) = true := by
  decide +kernel

end IPScout
