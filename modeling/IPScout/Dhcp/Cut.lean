import IPScout.Dhcp.Options

/-!
# Frames that are cut

A capture may hold less of a frame than was sent.  What is left of a packet says what the
packet says, or nothing (`HoldsReply.of_take`), and a frame read by its Ethernet header keeps
that reading however it is cut.

A frame that looks like a bare packet does not: cut before its total length it is read by an
Ethernet header after all, and the octets behind that header may hold another reply
(`Misread`).  Every other cut agrees with the whole frame (`agreesWhenCut_iff`).
-/

namespace IPScout

open Base Base.Octets

/-! ### Texts that agree -/

theorem formatMac_inj {a b : Octets} {mac : Text} (ha : formatMac a = some mac)
    (hb : formatMac b = some mac) : a = b := by
  have hread := fromHex_formatMac ha
  rw [fromHex_formatMac hb] at hread
  exact (Option.some.inj hread).symm

/-! ### Packets that hold a reply -/

/-- The octets of a packet that hands an address to an Ethernet client. -/
structure HoldsReply (packet : Octets) : Prop where
  fromServer : FromServer packet
  length : BOOTP_FIXED_SIZE ≤ (bootpBody packet).length
  operation : octet (bootpBody packet) 0 = bootpReply
  hardware : octet (bootpBody packet) 1 = HTYPE_ETHERNET ∧
    octet (bootpBody packet) 2 = MAC_LENGTH
  offered : slice (bootpBody packet) 16 20 ≠ [0, 0, 0, 0]
  client : ∃ x ∈ slice (bootpBody packet) 28 34, x ≠ 0

/-- The reply has what the octets of the packet say. -/
structure Says (packet : Octets) (r : DhcpReply) : Prop where
  clientMac : formatMac (slice (bootpBody packet) 28 34) = some r.clientMac
  offeredIp : r.offeredIp = inetNtoa (slice (bootpBody packet) 16 20)
  serverIp : r.serverIp = inetNtoa (slice packet 12 16)
  transactionId : r.transactionId = bigEndian (slice (bootpBody packet) 4 8)
  messageType : r.messageType = messageType (bootpBody packet)

theorem udpPayload_of_fromServer {packet : Octets} (h : FromServer packet) :
    udpPayload packet = some ⟨inetNtoa (slice packet 12 16), bootpBody packet⟩ := by
  have h20 : IPV4_MIN_HEADER_SIZE = 20 := rfl
  have hstart : udpStart packet = octet packet 0 % 16 * 4 := rfl
  have hmin := h.header
  have hlength := h.length
  have hheader : ipv4HeaderLength packet = some (udpStart packet) :=
    ipv4HeaderLength_eq_some.mpr ⟨by omega, h.version, by omega, hstart⟩
  rw [udpPayload, hheader]
  dsimp only
  rw [if_neg (not_not.mpr h.protocol), if_neg (not_not.mpr h.offset), if_neg (by omega),
    if_neg]
  · rfl
  · rw [not_or, not_and_or, not_not, not_not, not_not]
    exact ⟨h.sourcePort, h.destinationPort⟩

theorem exists_formatMac {raw : Octets} (hlength : raw.length = MAC_LENGTH)
    (h : ∃ x ∈ raw, x ≠ 0) : ∃ mac, formatMac raw = some mac :=
  ⟨_, formatMac_eq_some_iff.mpr ⟨hlength, h, rfl⟩⟩

/-- **A packet that holds a reply reads as what it says.** -/
theorem HoldsReply.fromPacket {packet : Octets} (h : HoldsReply packet) :
    ∃ r, DhcpReply.fromPacket packet = .ok (some r) ∧ Says packet r := by
  have hfixed : BOOTP_FIXED_SIZE = 236 := rfl
  have h20 : IPV4_MIN_HEADER_SIZE = 20 := rfl
  have hlength := h.length
  have hheader := h.fromServer.header
  have hroom := h.fromServer.length
  have hsize : ∀ lo hi, hi ≤ 236 → (slice (bootpBody packet) lo hi).length = hi - lo := by
    intro lo hi hhi
    rw [length_slice]
    omega
  have hserver : (slice packet 12 16).length = 4 := by
    rw [length_slice]
    omega
  have hxid : bigEndian (slice (bootpBody packet) 4 8) ≤ MAX_TRANSACTION_ID := by
    have hlt := bigEndian_lt (slice (bootpBody packet) 4 8)
    rw [hsize 4 8 (by decide)] at hlt
    exact Nat.le_of_lt_succ hlt
  obtain ⟨mac, hmac⟩ := exists_formatMac (hsize 28 34 (by decide)) h.client
  have hmake := DhcpReply.make_canonical (messageType (bootpBody packet))
    (canonicalMac_formatMac hmac)
    (offeredIpv4Text_inetNtoa (hsize 16 20 (by decide)) h.offered) (ipv4Text_inetNtoa hserver) hxid
  rw [DhcpReply.fromPacket, udpPayload_of_fromServer h.fromServer]
  dsimp only
  rw [DhcpReply.fromDatagram]
  dsimp only
  rw [if_neg (Nat.not_lt.mpr hlength), if_neg, hmac]
  · exact ⟨_, congrArg (Except.map some) hmake, hmac, rfl, rfl, rfl, rfl⟩
  · rw [not_or, not_or, not_not, not_not, Prod.mk.injEq]
    exact ⟨h.operation, h.hardware, h.offered⟩

theorem holdsReply_of_fromPacket {packet : Octets} {r : DhcpReply}
    (h : DhcpReply.fromPacket packet = .ok (some r)) : HoldsReply packet := by
  rcases fromPacket_cases packet with hnone | ⟨r', hr, hcarries⟩
  · rw [hnone] at h
    simp at h
  · refine ⟨hcarries.fromServer, hcarries.length, hcarries.operation, hcarries.hardware, ?_,
      hcarries.clientMac.2.2⟩
    intro hzero
    have hoffered := hcarries.offeredIp
    rw [hzero] at hoffered
    exact hoffered.2 (hoffered.1.trans (by decide))

theorem says_of_fromPacket {packet : Octets} {r : DhcpReply}
    (h : DhcpReply.fromPacket packet = .ok (some r)) : Says packet r := by
  obtain ⟨r', hr, hsays⟩ := (holdsReply_of_fromPacket h).fromPacket
  rw [hr] at h
  rw [← Option.some.inj (Except.ok.inj h)]
  exact hsays

/-! ### Replies that agree -/

/-- What is left of a frame agrees with the frame. -/
def DhcpReply.Agrees (r' r : DhcpReply) : Prop :=
  r'.clientMac = r.clientMac ∧ r'.offeredIp = r.offeredIp ∧ r'.serverIp = r.serverIp ∧
    r'.transactionId = r.transactionId ∧
    (r'.messageType = r.messageType ∨ r'.messageType = none)

/-- The same for the octets of two packets. -/
structure SameOffer (p q : Octets) : Prop where
  client : slice (bootpBody p) 28 34 = slice (bootpBody q) 28 34
  offered : slice (bootpBody p) 16 20 = slice (bootpBody q) 16 20
  server : slice p 12 16 = slice q 12 16
  transaction : slice (bootpBody p) 4 8 = slice (bootpBody q) 4 8
  type : messageType (bootpBody p) = messageType (bootpBody q) ∨ messageType (bootpBody p) = none

/-- `q` holds no reply, or the octets of `p` say another one: another client, address, server
or transaction, or a message type that `q` does not say. -/
def OtherReply (p q : Octets) : Prop :=
  ¬ HoldsReply q ∨ slice (bootpBody p) 28 34 ≠ slice (bootpBody q) 28 34 ∨
    slice (bootpBody p) 16 20 ≠ slice (bootpBody q) 16 20 ∨ slice p 12 16 ≠ slice q 12 16 ∨
    slice (bootpBody p) 4 8 ≠ slice (bootpBody q) 4 8 ∨
    (messageType (bootpBody p) ≠ none ∧ messageType (bootpBody p) ≠ messageType (bootpBody q))

theorem otherReply_iff {p q : Octets} :
    OtherReply p q ↔ ¬ (HoldsReply q ∧ SameOffer p q) := by
  constructor
  · rintro hother ⟨hholds, hclient, hoffered, hserver, htransaction, htype⟩
    rcases hother with h | h | h | h | h | ⟨hsome, hne⟩
    · exact h hholds
    · exact h hclient
    · exact h hoffered
    · exact h hserver
    · exact h htransaction
    · rcases htype with hsame | hnone
      · exact hne hsame
      · exact hsome hnone
  · intro h
    by_contra hsame
    simp only [OtherReply, not_or, not_and_or, not_not] at hsame
    obtain ⟨hholds, hclient, hoffered, hserver, htransaction, htype⟩ := hsame
    exact h ⟨hholds, hclient, hoffered, hserver, htransaction, htype.symm⟩

theorem agrees_iff_sameOffer {p q : Octets} {r' r : DhcpReply} (hp : HoldsReply p)
    (hq : HoldsReply q) (hr' : Says p r') (hr : Says q r) :
    r'.Agrees r ↔ SameOffer p q := by
  have hfixed : BOOTP_FIXED_SIZE = 236 := rfl
  have h20 : IPV4_MIN_HEADER_SIZE = 20 := rfl
  have hsize : ∀ b : Octets, HoldsReply b → ∀ lo hi, hi ≤ 236 →
      (slice (bootpBody b) lo hi).length = hi - lo := by
    intro b hb lo hi hhi
    have := hb.length
    rw [length_slice]
    omega
  have hserver : ∀ b : Octets, HoldsReply b → (slice b 12 16).length = 4 := by
    intro b hb
    have := hb.fromServer.header
    have := hb.fromServer.length
    rw [length_slice]
    omega
  constructor
  · rintro ⟨hmac, hip, hserverIp, hxid, htype⟩
    refine ⟨?_, ?_, ?_, ?_, ?_⟩
    · exact formatMac_inj hr'.clientMac (hmac ▸ hr.clientMac)
    · rw [hr'.offeredIp, hr.offeredIp] at hip
      exact inetNtoa_inj (hsize p hp 16 20 (by decide)) (hsize q hq 16 20 (by decide)) hip
    · rw [hr'.serverIp, hr.serverIp] at hserverIp
      exact inetNtoa_inj (hserver p hp) (hserver q hq) hserverIp
    · rw [hr'.transactionId, hr.transactionId] at hxid
      exact bigEndian_inj
        ((hsize p hp 4 8 (by decide)).trans (hsize q hq 4 8 (by decide)).symm) hxid
    · rwa [hr'.messageType, hr.messageType] at htype
  · intro h
    refine ⟨?_, ?_, ?_, ?_, ?_⟩
    · have hmac := hr'.clientMac
      rw [h.client, hr.clientMac] at hmac
      exact (Option.some.inj hmac).symm
    · rw [hr'.offeredIp, hr.offeredIp, h.offered]
    · rw [hr'.serverIp, hr.serverIp, h.server]
    · rw [hr'.transactionId, hr.transactionId, h.transaction]
    · rw [hr'.messageType, hr.messageType]
      exact h.type

/-! ### Packets that are cut -/

theorem octet_take {b : Octets} {i n : ℕ} (h : i < n) : octet (b.take n) i = octet b i := by
  rw [octet, octet, List.getD_eq_getElem?_getD, List.getD_eq_getElem?_getD,
    List.getElem?_take_of_lt h]

/-- **What is left of a packet holds the reply of the packet**, if it holds one. -/
theorem HoldsReply.of_take {packet : Octets} {n : ℕ} (h : HoldsReply (packet.take n)) :
    HoldsReply packet ∧ SameOffer (packet.take n) packet := by
  have hfixed : BOOTP_FIXED_SIZE = 236 := rfl
  have h20 : IPV4_MIN_HEADER_SIZE = 20 := rfl
  have h8 : UDP_HEADER_SIZE = 8 := rfl
  obtain ⟨⟨hversion, hheader, hroom, hprotocol, hoffset, hsource, hdestination⟩, hlength,
    hoperation, hhardware, hoffered, hclient⟩ := h
  have hn : (packet.take n).length = min n packet.length := List.length_take
  have hstart : udpStart (packet.take n) = udpStart packet := by
    rw [udpStart, udpStart, octet_take (by omega)]
  rw [hstart] at hheader hroom hsource hdestination
  -- the message that is left is the front of the packet's
  have hbody : bootpBody (packet.take n) =
      (bootpBody packet).take (n - (udpStart packet + UDP_HEADER_SIZE)) := by
    rw [bootpBody, bootpBody, hstart, List.drop_take]
  generalize hm : n - (udpStart packet + UDP_HEADER_SIZE) = m at hbody
  rw [hbody, List.length_take] at hlength
  have hfield : ∀ lo hi, hi ≤ 236 → slice (bootpBody (packet.take n)) lo hi =
      slice (bootpBody packet) lo hi := by
    intro lo hi hhi
    rw [hbody, slice_take (by omega)]
  have hoctet : ∀ i, i < 236 → octet (bootpBody (packet.take n)) i =
      octet (bootpBody packet) i := by
    intro i hi
    rw [hbody, octet_take (by omega)]
  have hword : ∀ lo hi, hi ≤ udpStart packet + UDP_HEADER_SIZE →
      slice (packet.take n) lo hi = slice packet lo hi := by
    intro lo hi hhi
    rw [slice_take (by omega)]
  rw [octet_take (by omega)] at hversion hprotocol
  rw [hword 6 8 (by omega)] at hoffset
  rw [hword _ _ (by omega)] at hsource hdestination
  rw [hoctet 0 (by decide)] at hoperation
  rw [hoctet 1 (by decide), hoctet 2 (by decide)] at hhardware
  rw [hfield 16 20 (by decide)] at hoffered
  rw [hfield 28 34 (by decide)] at hclient
  refine ⟨⟨⟨hversion, hheader, by omega, hprotocol, hoffset, hsource, hdestination⟩, by omega,
    hoperation, hhardware, hoffered, hclient⟩, ⟨hfield 28 34 (by decide), hfield 16 20 (by decide),
    hword 12 16 (by omega), hfield 4 8 (by decide), ?_⟩⟩
  rw [hbody]
  exact messageType_take _ _

/-! ### Frames that are cut -/

/-- The packet behind the Ethernet header of a frame, and its tag. -/
def linkPayload (frame : Octets) : Option Octets :=
  if frame.length < ETHERNET_HEADER_SIZE then none
  else if bigEndian (slice frame 12 14) = ETH_P_VLAN then
    if frame.length < ETHERNET_HEADER_SIZE + 4 then none
    else if bigEndian (slice frame 16 18) ≠ ETH_P_IP then none
    else some (frame.drop (ETHERNET_HEADER_SIZE + 4))
  else if bigEndian (slice frame 12 14) ≠ ETH_P_IP then none
  else some (frame.drop ETHERNET_HEADER_SIZE)

theorem ipPayload_eq (frame : Octets) :
    ipPayload frame = if looksLikeBareIpv4 frame then some frame else linkPayload frame :=
  rfl

theorem linkPayload_take {frame packet : Octets} {n : ℕ}
    (h : linkPayload (frame.take n) = some packet) :
    ∃ whole m, linkPayload frame = some whole ∧ packet = whole.take m := by
  have h14 : ETHERNET_HEADER_SIZE = 14 := rfl
  have hn : (frame.take n).length = min n frame.length := List.length_take
  rw [linkPayload] at h
  split at h
  · simp at h
  · next hheader =>
    have htype : slice (frame.take n) 12 14 = slice frame 12 14 := slice_take (by omega)
    rw [htype] at h
    rw [linkPayload, if_neg (by omega)]
    split at h
    · next hvlan =>
      rw [if_pos hvlan]
      split at h
      · simp at h
      · next htag =>
        have hinner : slice (frame.take n) 16 18 = slice frame 16 18 := slice_take (by omega)
        rw [hinner] at h
        rw [if_neg (by omega)]
        split at h
        · simp at h
        · next hip =>
          rw [if_neg hip]
          exact ⟨_, _, rfl, by rw [← Option.some.inj h, List.drop_take]⟩
    · next hvlan =>
      rw [if_neg hvlan]
      split at h
      · simp at h
      · next hip =>
        rw [if_neg hip]
        exact ⟨_, _, rfl, by rw [← Option.some.inj h, List.drop_take]⟩

theorem looksLikeBareIpv4_take {frame : Octets} {n : ℕ} :
    looksLikeBareIpv4 (frame.take n) = true ↔
      looksLikeBareIpv4 frame = true ∧ bigEndian (slice frame 2 4) ≤ n := by
  have h20 : IPV4_MIN_HEADER_SIZE = 20 := rfl
  have hn : (frame.take n).length = min n frame.length := List.length_take
  rw [looksLikeBareIpv4_iff, looksLikeBareIpv4_iff, hn]
  by_cases hshort : n < 20
  · constructor
    · rintro ⟨hmin, _⟩
      omega
    · rintro ⟨⟨_, _, hihl, _, htotal, _⟩, hle⟩
      omega
  · rw [octet_take (by omega), octet_take (by omega), slice_take (by omega)]
    constructor
    · rintro ⟨hmin, hversion, hihl, hprotocol, htotal, hle⟩
      exact ⟨⟨by omega, hversion, hihl, hprotocol, htotal, by omega⟩, by omega⟩
    · rintro ⟨⟨hmin, hversion, hihl, hprotocol, htotal, hle⟩, hcut⟩
      exact ⟨by omega, hversion, hihl, hprotocol, htotal, by omega⟩

/-- A frame cut after `n` octets reads as nothing, or as the whole frame does. -/
def AgreesWhenCut (frame : Octets) (n : ℕ) : Prop :=
  ∀ r', DhcpReply.fromFrame (frame.take n) = .ok (some r') →
    ∃ r, DhcpReply.fromFrame frame = .ok (some r) ∧ r'.Agrees r

/-- The frame looks bare, the cut is before its total length, and the octets behind the link
header hold another reply than the bare packet's. -/
structure Misread (frame : Octets) (n : ℕ) : Prop where
  bare : looksLikeBareIpv4 frame = true
  cut : n < bigEndian (slice frame 2 4)
  other : ∃ packet, linkPayload (frame.take n) = some packet ∧ HoldsReply packet ∧
    OtherReply packet frame

theorem fromFrame_of_ipPayload {frame packet : Octets} (h : ipPayload frame = some packet) :
    DhcpReply.fromFrame frame = DhcpReply.fromPacket packet := by
  rw [DhcpReply.fromFrame, h]

/-- Two packets, one what is left of the other, agree. -/
theorem agrees_of_take {packet : Octets} {n : ℕ} {r' : DhcpReply}
    (h : DhcpReply.fromPacket (packet.take n) = .ok (some r')) :
    ∃ r, DhcpReply.fromPacket packet = .ok (some r) ∧ r'.Agrees r := by
  have hleft := holdsReply_of_fromPacket h
  obtain ⟨hwhole, hsame⟩ := hleft.of_take
  obtain ⟨r, hr, hsays⟩ := hwhole.fromPacket
  exact ⟨r, hr, (agrees_iff_sameOffer hleft hwhole (says_of_fromPacket h) hsays).mpr hsame⟩

/-- The payload of what is left of a frame is what is left of the frame's, unless only the
frame looks bare. -/
theorem ipPayload_take {frame packet : Octets} {n : ℕ}
    (hlayout : looksLikeBareIpv4 frame = true → bigEndian (slice frame 2 4) ≤ n)
    (h : ipPayload (frame.take n) = some packet) :
    ∃ whole m, ipPayload frame = some whole ∧ packet = whole.take m := by
  rw [ipPayload_eq] at h
  rw [ipPayload_eq]
  by_cases hbare : looksLikeBareIpv4 frame = true
  · rw [if_pos (looksLikeBareIpv4_take.mpr ⟨hbare, hlayout hbare⟩)] at h
    rw [if_pos hbare]
    exact ⟨frame, n, rfl, (Option.some.inj h).symm⟩
  · rw [if_neg (fun hleft => hbare (looksLikeBareIpv4_take.mp hleft).1)] at h
    rw [if_neg hbare]
    exact linkPayload_take h

/-- **A cut changes the layout of a frame or it agrees.** -/
theorem agreesWhenCut_of_layout {frame : Octets} {n : ℕ}
    (hlayout : looksLikeBareIpv4 frame = true → bigEndian (slice frame 2 4) ≤ n) :
    AgreesWhenCut frame n := by
  intro r' h
  rw [DhcpReply.fromFrame] at h
  split at h
  · simp at h
  · next packet hpayload =>
    obtain ⟨whole, m, hwhole, rfl⟩ := ipPayload_take hlayout hpayload
    rw [fromFrame_of_ipPayload hwhole]
    exact agrees_of_take h

theorem agreesWhenCut_iff_not_misread (frame : Octets) (n : ℕ) :
    AgreesWhenCut frame n ↔ ¬ Misread frame n := by
  by_cases hlayout : looksLikeBareIpv4 frame = true → bigEndian (slice frame 2 4) ≤ n
  · refine iff_of_true (agreesWhenCut_of_layout hlayout) ?_
    rintro ⟨hbare, hcut, _⟩
    exact absurd (hlayout hbare) (Nat.not_le.mpr hcut)
  · rw [not_forall, exists_prop, not_le] at hlayout
    obtain ⟨hbare, hcut⟩ := hlayout
    have hwhole : DhcpReply.fromFrame frame = DhcpReply.fromPacket frame :=
      fromFrame_of_ipPayload (by rw [ipPayload_eq, if_pos hbare])
    have hleft : ipPayload (frame.take n) = linkPayload (frame.take n) := by
      rw [ipPayload_eq, if_neg]
      intro hleft
      have := (looksLikeBareIpv4_take.mp hleft).2
      omega
    constructor
    · rintro hagrees ⟨_, _, packet, hpacket, hholds, hother⟩
      obtain ⟨r', hr', hsays'⟩ := hholds.fromPacket
      obtain ⟨r, hr, hagree⟩ := hagrees r'
        (by rw [fromFrame_of_ipPayload (hleft.trans hpacket), hr'])
      rw [hwhole] at hr
      have hframe := holdsReply_of_fromPacket hr
      exact otherReply_iff.mp hother ⟨hframe,
        (agrees_iff_sameOffer hholds hframe hsays' (says_of_fromPacket hr)).mp hagree⟩
    · intro hfine r' hr'
      rw [DhcpReply.fromFrame, hleft] at hr'
      split at hr'
      · simp at hr'
      · next packet hpacket =>
        have hholds := holdsReply_of_fromPacket hr'
        by_contra hnone
        refine hfine ⟨hbare, hcut, packet, hpacket, hholds, otherReply_iff.mpr ?_⟩
        rintro ⟨hframe, hsame⟩
        obtain ⟨r, hr, hsays⟩ := hframe.fromPacket
        exact hnone ⟨r, hwhole.trans hr,
          (agrees_iff_sameOffer hholds hframe (says_of_fromPacket hr') hsays).mpr hsame⟩

/-- **A cut agrees with the whole frame, unless it is misread.**  Where the link header does
not happen to spell the server's address, it is misread as soon as the frame looks bare, the
cut is before its total length and a reply is behind the header. -/
theorem agreesWhenCut_iff (frame : Octets) (n : ℕ) :
    (AgreesWhenCut frame n ↔ ¬ Misread frame n) ∧
    (∀ packet, linkPayload (frame.take n) = some packet →
      slice packet 12 16 ≠ slice frame 12 16 →
        (AgreesWhenCut frame n ↔ ¬ (looksLikeBareIpv4 frame = true ∧
          n < bigEndian (slice frame 2 4) ∧ HoldsReply packet))) := by
  refine ⟨agreesWhenCut_iff_not_misread frame n, ?_⟩
  intro packet hpacket hserver
  rw [agreesWhenCut_iff_not_misread]
  refine not_congr ⟨?_, ?_⟩
  · rintro ⟨hbare, hcut, packet', hpacket', hholds, _⟩
    rw [hpacket] at hpacket'
    rw [← Option.some.inj hpacket'] at hholds
    exact ⟨hbare, hcut, hholds⟩
  · rintro ⟨hbare, hcut, hholds⟩
    exact ⟨hbare, hcut, packet, hpacket, hholds, .inr (.inr (.inr (.inl hserver)))⟩

/-- To `46:00:01:17:00:00` from `02:00:00:11:00:00` an offer and one octet of padding is
nothing; without the padding it is an offer of `192.0.2.50`. -/
def paddedOffer : Octets :=
  ethernet ⟨[0x46, 0, 1, 0x17, 0, 0], rfl⟩ ⟨[2, 0, 0, 17, 0, 0], rfl⟩ (offer 1)

theorem paddedOffer_cut : paddedOffer.length = 279 ∧
    DhcpReply.fromFrame paddedOffer = .ok none ∧ ¬ AgreesWhenCut paddedOffer 278 := by
  have hwhole : DhcpReply.fromFrame paddedOffer = .ok none := by decide +kernel
  refine ⟨by decide +kernel, hwhole, ?_⟩
  intro hagrees
  have hcut : ∃ r, DhcpReply.fromFrame (paddedOffer.take 278) = .ok (some r) := by
    have hsome : ((DhcpReply.fromFrame (paddedOffer.take 278)).toOption.bind id).isSome = true := by
      decide +kernel
    cases hread : DhcpReply.fromFrame (paddedOffer.take 278) with
    | error e =>
      rw [hread] at hsome
      simp [Except.toOption] at hsome
    | ok found =>
      rw [hread] at hsome
      obtain ⟨r, rfl⟩ := Option.isSome_iff_exists.mp hsome
      exact ⟨r, rfl⟩
  obtain ⟨r', hr'⟩ := hcut
  obtain ⟨r, hr, _⟩ := hagrees r' hr'
  rw [hwhole] at hr
  simp at hr

end IPScout
