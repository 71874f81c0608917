import IPScout.Base.Layout
import IPScout.Base.Outcome
import IPScout.Dhcp.Cut
import IPScout.Net.MacForms
import IPScout.Net.Printed
import IPScout.Routes.Message

/-!
# Address resolution over Ethernet

The codecs of `arp.py` for IPv4: the frame that asks who holds an address, and the reader of
the answers to it.  A link-layer socket sees every frame of the segment, so the reader has to
tell an answer about the target from everything else.

What is read as an answer is a reply whose sender holds the target
(`parseArpReply_eq_some_iff`), whatever follows it in the frame.  A station answers a request
for its own address only, and its answer is read as its hardware address; no answer of
another station is taken for it (`arp_exchange`).
-/

namespace IPScout

open Base Base.Octets Base.Text

/-! ### Frames -/

def ETH_P_ARP : ℕ := 0x0806

def PTYPE_IPV4 : ℕ := ETH_P_IP

def ARP_REQUEST : ℕ := 1
def ARP_REPLY : ℕ := 2

/-- The size of `_ARP`. -/
def ARP_SIZE : ℕ := 28

def BROADCAST : Octets := List.replicate MAC_LENGTH 0xff

/-- The addresses of an ARP message. -/
structure ArpAddresses where
  senderMac : Octets
  senderIp : Octets
  targetMac : Octets
  targetIp : Octets

/-- The lengths the addresses have. -/
structure ArpAddresses.Sized (a : ArpAddresses) : Prop where
  senderMac : a.senderMac.length = MAC_LENGTH
  senderIp : a.senderIp.length = 4
  targetMac : a.targetMac.length = MAC_LENGTH
  targetIp : a.targetIp.length = 4

/-- The fields of an ARP message over IPv4 in an Ethernet frame. -/
def arpFields (dst src : Octets) (operation : ℕ) (a : ArpAddresses) : List Octets :=
  [dst, src, packedNat 2 ETH_P_ARP, packedNat 2 HTYPE_ETHERNET, packedNat 2 PTYPE_IPV4,
    packedNat 1 MAC_LENGTH, packedNat 1 4, packedNat 2 operation, a.senderMac, a.senderIp,
    a.targetMac, a.targetIp]

def arpFrame (dst src : Octets) (operation : ℕ) (a : ArpAddresses) : Octets :=
  (arpFields dst src operation a).flatten

def buildArpRequest (senderMac senderIp targetIp : Text) : Except PyError Octets := do
  let sender ← packedMac senderMac
  let source ← requireAddress senderIp .IPV4
  let target ← requireAddress targetIp .IPV4
  .ok (arpFrame BROADCAST sender ARP_REQUEST
    ⟨sender, source.packed, List.replicate MAC_LENGTH 0, target.packed⟩)

/-- The fields of a frame that are compared, and what they have to be. -/
def isArp (operation : ℕ) (frame : Octets) : Bool :=
  bigEndian (slice frame 12 14) == ETH_P_ARP && bigEndian (slice frame 14 16) == HTYPE_ETHERNET &&
    bigEndian (slice frame 16 18) == PTYPE_IPV4 && bigEndian (slice frame 18 19) == MAC_LENGTH &&
    bigEndian (slice frame 19 20) == 4 && bigEndian (slice frame 20 22) == operation

def ArpAddresses.unpack (frame : Octets) : ArpAddresses where
  senderMac := slice frame 22 28
  senderIp := slice frame 28 32
  targetMac := slice frame 32 38
  targetIp := slice frame 38 42

def parseArpReply (frame : Octets) (targetIp : Text) : Option Text :=
  if frame.length < ETHERNET_HEADER_SIZE + ARP_SIZE then none
  else if isArp ARP_REPLY frame then
    let a := ArpAddresses.unpack frame
    if inetNtoa a.senderIp ≠ targetIp then none else formatMac a.senderMac
  else none

/-! ### The layout -/

section Layout

variable {dst src frame : Octets} (operation : ℕ) {a : ArpAddresses} (rest : Octets)

def ARP_FIELD_SIZES : List ℕ := [6, 6, 2, 2, 2, 1, 1, 2, 6, 4, 6, 4]

theorem map_length_arpFields (hdst : dst.length = MAC_LENGTH) (hsrc : src.length = MAC_LENGTH)
    (ha : a.Sized) : (arpFields dst src operation a).map List.length = ARP_FIELD_SIZES := by
  simp only [arpFields, List.map_cons, List.map_nil, length_packedNat, hdst, hsrc, ha.senderMac,
    ha.senderIp, ha.targetMac, ha.targetIp]
  rfl

theorem length_arpFrame (hdst : dst.length = MAC_LENGTH) (hsrc : src.length = MAC_LENGTH)
    (ha : a.Sized) :
    (arpFrame dst src operation a).length = ETHERNET_HEADER_SIZE + ARP_SIZE := by
  rw [arpFrame, List.length_flatten, map_length_arpFields operation hdst hsrc ha]
  rfl

theorem slice_arpFrame (hdst : dst.length = MAC_LENGTH) (hsrc : src.length = MAC_LENGTH)
    (ha : a.Sized) (i lo hi : ℕ) (h : i < 12)
    (hlo : (ARP_FIELD_SIZES.take i).sum = lo) (hhi : (ARP_FIELD_SIZES.take (i + 1)).sum = hi) :
    slice (arpFrame dst src operation a ++ rest) lo hi = (arpFields dst src operation a)[i] :=
  slice_fields (map_length_arpFields operation hdst hsrc ha) rest h hlo hhi

theorem isArp_arpFrame (hdst : dst.length = MAC_LENGTH) (hsrc : src.length = MAC_LENGTH)
    (ha : a.Sized) (hoperation : operation < 256 ^ 2) (other : ℕ) :
    isArp other (arpFrame dst src operation a ++ rest) = (operation == other) := by
  have hfield := slice_arpFrame operation rest hdst hsrc ha
  rw [isArp, hfield 2 12 14 (by omega) rfl rfl, hfield 3 14 16 (by omega) rfl rfl,
    hfield 4 16 18 (by omega) rfl rfl, hfield 5 18 19 (by omega) rfl rfl,
    hfield 6 19 20 (by omega) rfl rfl, hfield 7 20 22 (by omega) rfl rfl]
  simp only [arpFields, List.getElem_cons_succ, List.getElem_cons_zero, bigEndian_packedNat]
  rw [Nat.mod_eq_of_lt hoperation]
  rfl

theorem unpack_arpFrame (hdst : dst.length = MAC_LENGTH) (hsrc : src.length = MAC_LENGTH)
    (ha : a.Sized) : ArpAddresses.unpack (arpFrame dst src operation a ++ rest) = a := by
  have hfield := slice_arpFrame operation rest hdst hsrc ha
  rw [ArpAddresses.unpack, hfield 8 22 28 (by omega) rfl rfl, hfield 9 28 32 (by omega) rfl rfl,
    hfield 10 32 38 (by omega) rfl rfl, hfield 11 38 42 (by omega) rfl rfl]
  rfl

theorem slice_eq_packedNat {b : Octets} {lo hi n count : ℕ} (hsize : hi ≤ b.length)
    (hcount : hi - lo = count) (h : bigEndian (slice b lo hi) = n) :
    slice b lo hi = packedNat count n := by
  have hlength : (slice b lo hi).length = count := by
    rw [length_slice, Nat.min_eq_left hsize, hcount]
  rw [← h, ← hlength, packedNat_bigEndian]

/-- **A frame of an operation is made of its fields**, and whatever follows them. -/
theorem isArp_iff (hoperation : operation < 256 ^ 2) :
    (ETHERNET_HEADER_SIZE + ARP_SIZE ≤ frame.length ∧ isArp operation frame = true) ↔
      ∃ (dst src rest : Octets) (a : ArpAddresses), dst.length = MAC_LENGTH ∧
        src.length = MAC_LENGTH ∧ a.Sized ∧ frame = arpFrame dst src operation a ++ rest := by
  constructor
  · rintro ⟨hlength, harp⟩
    have hsize : 42 ≤ frame.length := hlength
    have hslice : ∀ lo hi, hi ≤ 42 → (slice frame lo hi).length = hi - lo := by
      intro lo hi hle
      rw [length_slice, Nat.min_eq_left (hle.trans hsize)]
    simp only [isArp, Bool.and_eq_true, beq_iff_eq] at harp
    obtain ⟨⟨⟨⟨⟨htype, hhard⟩, hproto⟩, hlen⟩, hplen⟩, hop⟩ := harp
    refine ⟨slice frame 0 6, slice frame 6 12, frame.drop 42, .unpack frame,
      hslice 0 6 (by omega), hslice 6 12 (by omega),
      ⟨hslice 22 28 (by omega), hslice 28 32 (by omega), hslice 32 38 (by omega),
        hslice 38 42 (by omega)⟩, ?_⟩
    rw [arpFrame, arpFields, ← slice_eq_packedNat (by omega) rfl htype,
      ← slice_eq_packedNat (by omega) rfl hhard, ← slice_eq_packedNat (by omega) rfl hproto,
      ← slice_eq_packedNat (by omega) rfl hlen, ← slice_eq_packedNat (by omega) rfl hplen,
      ← slice_eq_packedNat (by omega) rfl hop, ArpAddresses.unpack]
    simp only [List.flatten_cons, List.flatten_nil, List.append_nil, List.append_assoc]
    -- each field in front of what is left behind it
    have hcut : ∀ lo hi, lo ≤ hi → slice frame lo hi ++ frame.drop hi = frame.drop lo :=
      fun lo hi hle => (drop_eq_slice_append frame hle).symm
    rw [hcut 38 42 (by omega), hcut 32 38 (by omega), hcut 28 32 (by omega),
      hcut 22 28 (by omega), hcut 20 22 (by omega), hcut 19 20 (by omega), hcut 18 19 (by omega),
      hcut 16 18 (by omega), hcut 14 16 (by omega), hcut 12 14 (by omega), hcut 6 12 (by omega),
      hcut 0 6 (by omega), List.drop_zero]
  · rintro ⟨dst, src, rest, a, hdst, hsrc, ha, rfl⟩
    rw [List.length_append, length_arpFrame operation hdst hsrc ha,
      isArp_arpFrame operation rest hdst hsrc ha hoperation]
    exact ⟨Nat.le_add_right _ _, by simp⟩

end Layout

/-! ### Answers -/

theorem parseArpReply_arpFrame {dst src : Octets} {a : ArpAddresses}
    (hdst : dst.length = MAC_LENGTH) (hsrc : src.length = MAC_LENGTH) (ha : a.Sized)
    (rest : Octets) (targetIp : Text) :
    parseArpReply (arpFrame dst src ARP_REPLY a ++ rest) targetIp =
      if inetNtoa a.senderIp = targetIp then formatMac a.senderMac else none := by
  obtain ⟨hlength, harp⟩ := (isArp_iff ARP_REPLY (by decide)).mpr
    ⟨dst, src, rest, a, hdst, hsrc, ha, rfl⟩
  rw [parseArpReply, if_neg (Nat.not_lt.mpr hlength), if_pos harp,
    unpack_arpFrame ARP_REPLY rest hdst hsrc ha]
  exact ite_not _ _ _

theorem parseArpReply_of_operation_ne (operation : ℕ) {dst src : Octets} {a : ArpAddresses}
    (rest : Octets) (hdst : dst.length = MAC_LENGTH) (hsrc : src.length = MAC_LENGTH) (ha : a.Sized)
    (hoperation : operation < 256 ^ 2) (hne : operation ≠ ARP_REPLY) (targetIp : Text) :
    parseArpReply (arpFrame dst src operation a ++ rest) targetIp = none := by
  rw [parseArpReply, isArp_arpFrame operation rest hdst hsrc ha hoperation, beq_false_of_ne hne]
  split
  · rfl
  · rfl

/-! ### Stations -/

/-- A station of the segment: its hardware address and the IPv4 address it holds. -/
structure ArpStation where
  mac : Octets
  ip : Octets
  mac_length : mac.length = MAC_LENGTH
  ip_length : ip.length = 4

/-- What a station answers a frame with: a request for its own address with a reply to the
sender, and nothing else. -/
def ArpStation.answer (s : ArpStation) (frame : Octets) : Option Octets :=
  if ETHERNET_HEADER_SIZE + ARP_SIZE ≤ frame.length ∧ isArp ARP_REQUEST frame = true then
    let a := ArpAddresses.unpack frame
    if a.targetIp = s.ip then
      some (arpFrame a.senderMac s.mac ARP_REPLY ⟨s.mac, s.ip, a.senderMac, a.senderIp⟩)
    else none
  else none

/-! ### Addresses written one way -/

theorem eq_decimal_of_parseOctet {t : Text} {n : ℕ} (h : parseOctet t = some n) :
    t = decimal n ∧ n < 256 := by
  rw [parseOctet] at h
  split at h
  · cases h
  · next hne =>
    split at h
    · cases h
    · next hdigits =>
      split at h
      · cases h
      · split at h
        · cases h
        · next hzero =>
          split at h
          · cases h
          · next hlt =>
            have hcanonical : t = ['0'] ∨ t.head? ≠ some '0' := by
              by_cases hsingle : t = ['0']
              · exact Or.inl hsingle
              · exact Or.inr fun hhead => hzero ⟨hsingle, hhead⟩
            obtain rfl := Option.some.inj h
            exact ⟨(decimal_decimalValue (by simpa using hdigits) hne hcanonical).symm, by omega⟩

/-- **An IPv4 address is written in one way**, that of its octets. -/
theorem exists_inetNtoa_of_ipv4Address {t : Text} {ip : BitVec 32} (h : ipv4Address t = some ip) :
    t = inetNtoa (packedNat 4 ip.toNat) := by
  have hquad : ∃ b : Octets, b.length = 4 ∧ t = inetNtoa b := by
    rw [ipv4Address] at h
    split at h
    · cases h
    · split at h
      · next w x y z hsplit =>
        simp only [Option.bind_eq_bind, Option.bind_eq_some_iff] at h
        obtain ⟨w', hw, x', hx, y', hy, z', hz, _⟩ := h
        obtain ⟨rfl, hwlt⟩ := eq_decimal_of_parseOctet hw
        obtain ⟨rfl, hxlt⟩ := eq_decimal_of_parseOctet hx
        obtain ⟨rfl, hylt⟩ := eq_decimal_of_parseOctet hy
        obtain ⟨rfl, hzlt⟩ := eq_decimal_of_parseOctet hz
        refine ⟨[UInt8.ofNat w', UInt8.ofNat x', UInt8.ofNat y', UInt8.ofNat z'], rfl, ?_⟩
        have hjoin : t = ['.'].intercalate (t.splitOn '.') := (List.intercalate_splitOn '.').symm
        rw [inetNtoa_eq_dottedText, dottedText, hjoin, hsplit]
        simp [octet, Nat.mod_eq_of_lt hwlt, Nat.mod_eq_of_lt hxlt, Nat.mod_eq_of_lt hylt,
          Nat.mod_eq_of_lt hzlt]
      · cases h
  obtain ⟨b, hb, rfl⟩ := hquad
  rw [ipv4Address_inetNtoa hb] at h
  obtain rfl := Option.some.inj h
  have hlt : bigEndian b < 2 ^ 32 := by
    have hlt := bigEndian_lt b
    rwa [hb] at hlt
  rw [BitVec.toNat_ofNat, Nat.mod_eq_of_lt hlt, ← hb, packedNat_bigEndian]

theorem writesMac_of_packedMac {text : Text} {raw : Octets} (h : packedMac text = .ok raw) :
    WritesMac text raw := by
  obtain ⟨canonical, hcanonical, _⟩ := bind_eq_ok.mp h
  rw [requireMac] at hcanonical
  split at hcanonical
  · next hform =>
    obtain ⟨octets, hwrites, _⟩ := normaliseMac_eq_some_iff.mp hform
    rw [packedMac_eq_ok hwrites] at h
    rwa [← Except.ok.inj h]
  · cases hcanonical

/-! ### A request and its answers -/

theorem ArpStation.answer_eq_some_iff {s : ArpStation} {frame reply : Octets} :
    s.answer frame = some reply ↔ ∃ (dst src rest : Octets) (a : ArpAddresses),
      dst.length = MAC_LENGTH ∧ src.length = MAC_LENGTH ∧ a.Sized ∧
      frame = arpFrame dst src ARP_REQUEST a ++ rest ∧ a.targetIp = s.ip ∧
      reply = arpFrame a.senderMac s.mac ARP_REPLY ⟨s.mac, s.ip, a.senderMac, a.senderIp⟩ := by
  rw [ArpStation.answer]
  constructor
  · intro h
    split at h
    · next harp =>
      obtain ⟨dst, src, rest, a, hdst, hsrc, ha, hframe⟩ :=
        (isArp_iff ARP_REQUEST (by decide)).mp harp
      rw [hframe, unpack_arpFrame ARP_REQUEST rest hdst hsrc ha] at h
      dsimp only at h
      split at h
      · next htarget =>
        exact ⟨dst, src, rest, a, hdst, hsrc, ha, hframe, htarget, (Option.some.inj h).symm⟩
      · cases h
    · cases h
  · rintro ⟨dst, src, rest, a, hdst, hsrc, ha, rfl, htarget, rfl⟩
    rw [if_pos ((isArp_iff ARP_REQUEST (by decide)).mpr ⟨dst, src, rest, a, hdst, hsrc, ha, rfl⟩),
      unpack_arpFrame ARP_REQUEST rest hdst hsrc ha]
    exact if_pos htarget

theorem ArpStation.parseArpReply_answer {s : ArpStation} {frame reply : Octets}
    (h : s.answer frame = some reply) (targetIp : Text) :
    parseArpReply reply targetIp = if inetNtoa s.ip = targetIp then formatMac s.mac else none := by
  obtain ⟨_, _, _, a, _, _, ha, _, _, rfl⟩ := s.answer_eq_some_iff.mp h
  have hread := parseArpReply_arpFrame (a := ⟨s.mac, s.ip, a.senderMac, a.senderIp⟩) ha.senderMac
    s.mac_length ⟨s.mac_length, s.ip_length, ha.senderMac, ha.senderIp⟩ [] targetIp
  rwa [List.append_nil] at hread

/-- **A request is answered by the holder of the target and by nobody else**: the holder's answer
is read as its hardware address, and neither the request itself nor the answer of any other
station to whatever it was asked is read as one. -/
theorem arp_exchange {senderMac senderIp targetIp : Text} {request : Octets} {target : BitVec 32}
    (h : buildArpRequest senderMac senderIp targetIp = .ok request)
    (htarget : ipAddress targetIp = some (.v4 target)) :
    (∀ s : ArpStation, s.ip = packedNat 4 target.toNat → ∃ reply, s.answer request = some reply ∧
      parseArpReply reply targetIp = formatMac s.mac) ∧
    (∀ s : ArpStation, s.ip ≠ packedNat 4 target.toNat → s.answer request = none ∧
      ∀ frame reply, s.answer frame = some reply → parseArpReply reply targetIp = none) ∧
    parseArpReply request targetIp = none := by
  obtain ⟨sender, hsender, h⟩ := bind_eq_ok.mp h
  obtain ⟨source, hsource, h⟩ := bind_eq_ok.mp h
  obtain ⟨asked, hasked, h⟩ := bind_eq_ok.mp h
  obtain ⟨hread, -⟩ := requireAddress_eq_ok_iff.mp hasked
  obtain rfl : asked = .v4 target := Option.some.inj (hread.symm.trans htarget)
  obtain rfl := Except.ok.inj h
  have hbroadcast : BROADCAST.length = MAC_LENGTH := rfl
  have hmac := (writesMac_of_packedMac hsender).1
  obtain ⟨bits, rfl⟩ := exists_v4_of_requireAddress hsource
  have hsized : (⟨sender, (IPAddress.v4 bits).packed, List.replicate MAC_LENGTH 0,
      (IPAddress.v4 target).packed⟩ : ArpAddresses).Sized :=
    ⟨hmac, length_packedNat _ _, List.length_replicate, length_packedNat _ _⟩
  have htext : targetIp = inetNtoa (packedNat 4 target.toNat) :=
    exists_inetNtoa_of_ipv4Address (ipv4Address_of_ipAddress htarget)
  refine ⟨?_, ?_, ?_⟩
  · intro s hs
    have hanswer := s.answer_eq_some_iff.mpr ⟨_, _, [], _, hbroadcast, hmac, hsized,
      (List.append_nil _).symm, hs.symm, rfl⟩
    refine ⟨_, hanswer, ?_⟩
    rw [s.parseArpReply_answer hanswer, if_pos (by rw [hs, ← htext])]
  · intro s hs
    refine ⟨?_, ?_⟩
    · by_contra hsome
      obtain ⟨reply, hreply⟩ := Option.ne_none_iff_exists'.mp hsome
      obtain ⟨dst, src, rest, a, hdst, hsrc, ha, hframe, htarget, _⟩ :=
        s.answer_eq_some_iff.mp hreply
      have hsame := unpack_arpFrame ARP_REQUEST rest hdst hsrc ha
      have hasked := unpack_arpFrame ARP_REQUEST [] hbroadcast hmac hsized
      rw [List.append_nil, hframe, hsame] at hasked
      exact hs (htarget.symm.trans (congrArg ArpAddresses.targetIp hasked))
    · intro frame reply hreply
      rw [s.parseArpReply_answer hreply, if_neg]
      rw [htext]
      exact fun hsame => hs (inetNtoa_inj s.ip_length (length_packedNat _ _) hsame)
  · have hnone := parseArpReply_of_operation_ne ARP_REQUEST [] hbroadcast hmac hsized
      (by decide) (by decide) targetIp
    rwa [List.append_nil] at hnone

/-- The request of 192.0.2.1 for 192.0.2.7. -/
def whoHas : Octets :=
  arpFrame BROADCAST [2, 0, 0, 0, 0, 1] ARP_REQUEST
    ⟨[2, 0, 0, 0, 0, 1], [192, 0, 2, 1], [0, 0, 0, 0, 0, 0], [192, 0, 2, 7]⟩

/-- The stations that answer it. -/
theorem arp_exchange_whoHas :
    (∀ s : ArpStation, s.ip = packedNat 4 (0xc0000207 : BitVec 32).toNat →
      ∃ reply, s.answer whoHas = some reply ∧
        parseArpReply reply "192.0.2.7".toList = formatMac s.mac) ∧
    (∀ s : ArpStation, s.ip ≠ packedNat 4 (0xc0000207 : BitVec 32).toNat →
      s.answer whoHas = none ∧ ∀ frame reply, s.answer frame = some reply →
        parseArpReply reply "192.0.2.7".toList = none) ∧
    parseArpReply whoHas "192.0.2.7".toList = none := by
  have hrequest : buildArpRequest "02:00:00:00:00:01".toList "192.0.2.1".toList
      "192.0.2.7".toList = .ok whoHas := by decide +kernel
  exact arp_exchange hrequest (by decide +kernel)

end IPScout
