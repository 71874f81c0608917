import IPScout.Dhcp.Bootp

/-!
# The shapes of a frame

One server packet may arrive alone, in an Ethernet frame, or in a frame with one
802.1Q tag.  Alone it reads as itself, and a frame that is not taken for a bare
packet reads as the packet it carries (`fromFrame_ethernet`, `fromFrame_vlan`).

A frame is taken for a bare packet by octets of its two hardware addresses: the
version and header length in the first octet of the destination, the protocol in
the fourth of the source, and a total length in the third and fourth of the
destination that is no more than the frame has (`BareLooking`).  A frame that is
not taken reads as the packet alone.  One that is taken is read with a piece of its
link header as the server's address, so that no reply from any other server comes
through (`shapes_agree_iff`).
-/

namespace IPScout

open Base Base.Octets

/-! ### Packets and frames -/

/-- An IPv4 UDP packet, whole and no later fragment, from a DHCP server's port to
one of the two DHCP ports. -/
structure ServerPacket (p : Octets) : Prop where
  version : octet p 0 / 16 = 4
  ihl : 5 ≤ octet p 0 % 16
  protocol : octet p 9 = IPPROTO_UDP
  total : bigEndian (slice p 2 4) = p.length
  whole : bigEndian (slice p 6 8) &&& 0x1fff = 0
  room : octet p 0 % 16 * 4 + UDP_HEADER_SIZE ≤ p.length
  source : bigEndian (slice p (octet p 0 % 16 * 4) (octet p 0 % 16 * 4 + 2)) = DHCP_SERVER_PORT
  destination : bigEndian (slice p (octet p 0 % 16 * 4 + 2) (octet p 0 % 16 * 4 + 4))
    ∈ [DHCP_SERVER_PORT, DHCP_CLIENT_PORT]

abbrev HardwareAddress := { m : Octets // m.length = MAC_LENGTH }

/-- An Ethernet II frame with an IPv4 packet. -/
def ethernet (dst src : HardwareAddress) (p : Octets) : Octets :=
  dst.val ++ (src.val ++ ([0x08, 0x00] ++ p))

def vlan (dst src : HardwareAddress) (tag : UInt8 × UInt8) (p : Octets) : Octets :=
  dst.val ++ (src.val ++ ([0x81, 0x00, tag.1, tag.2, 0x08, 0x00] ++ p))

/-- The two hardware addresses of a frame of `size` octets hold what the test for a bare
packet looks at. -/
def BareLooking (dst src : HardwareAddress) (size : Nat) : Prop :=
  octet dst.val 0 / 16 = 4 ∧ 5 ≤ octet dst.val 0 % 16 ∧ octet src.val 3 = IPPROTO_UDP ∧
    octet dst.val 0 % 16 * 4 ≤ bigEndian (slice dst.val 2 4) ∧
    bigEndian (slice dst.val 2 4) ≤ size

/-! ### The test for a bare packet -/

theorem looksLikeBareIpv4_iff {b : Octets} : looksLikeBareIpv4 b = true ↔
    IPV4_MIN_HEADER_SIZE ≤ b.length ∧ octet b 0 / 16 = 4 ∧ 5 ≤ octet b 0 % 16 ∧
      octet b 9 = IPPROTO_UDP ∧ octet b 0 % 16 * 4 ≤ bigEndian (slice b 2 4) ∧
      bigEndian (slice b 2 4) ≤ b.length := by
  rw [looksLikeBareIpv4]
  cases hlen : ipv4HeaderLength b with
  | none =>
    dsimp only
    constructor
    · intro h
      simp at h
    · rintro ⟨h20, hversion, hihl, _⟩
      have := ipv4HeaderLength_eq_some.mpr ⟨h20, hversion, hihl, rfl⟩
      rw [hlen] at this
      simp at this
  | some n =>
    obtain ⟨h20, hversion, hihl, rfl⟩ := ipv4HeaderLength_eq_some.mp hlen
    dsimp only
    by_cases hudp : octet b 9 = IPPROTO_UDP
    · rw [if_neg (by simp [hudp])]
      simp only [Bool.and_eq_true, decide_eq_true_eq]
      constructor
      · rintro ⟨⟨_, hmin⟩, hmax⟩
        exact ⟨h20, hversion, hihl, hudp, hmin, hmax⟩
      · rintro ⟨_, _, _, _, hmin, hmax⟩
        exact ⟨⟨by omega, hmin⟩, hmax⟩
    · rw [if_pos hudp]
      simp [hudp]

theorem ipPayload_of_serverPacket {p : Octets} (h : ServerPacket p) : ipPayload p = some p := by
  have hroom := h.room
  have hihl := h.ihl
  have htotal := h.total
  dsimp only [UDP_HEADER_SIZE] at hroom
  rw [ipPayload, if_pos (looksLikeBareIpv4_iff.mpr ⟨?_, h.version, hihl, h.protocol, ?_, ?_⟩)]
  · show 20 ≤ p.length
    omega
  · omega
  · omega

/-! ### Frames -/

section Frames

variable (dst src : HardwareAddress) (p : Octets)

theorem length_ethernet : (ethernet dst src p).length = 14 + p.length := by
  have hdst : dst.val.length = 6 := dst.property
  have hsrc : src.val.length = 6 := src.property
  simp only [ethernet, List.length_append, List.length_cons, List.length_nil]
  omega

theorem length_vlan (tag : UInt8 × UInt8) : (vlan dst src tag p).length = 18 + p.length := by
  have hdst : dst.val.length = 6 := dst.property
  have hsrc : src.val.length = 6 := src.property
  simp only [vlan, List.length_append, List.length_cons, List.length_nil]
  omega

/-- What follows the two addresses of a frame does not matter to the test for a bare
packet, its length apart. -/
theorem looksLikeBareIpv4_frame {rest : Octets} (hrest : 8 ≤ rest.length) :
    looksLikeBareIpv4 (dst.val ++ (src.val ++ rest)) = true ↔
      BareLooking dst src (12 + rest.length) := by
  have hdst : dst.val.length = 6 := dst.property
  have hsrc : src.val.length = 6 := src.property
  have hlen : (dst.val ++ (src.val ++ rest)).length = 12 + rest.length := by
    rw [List.length_append, List.length_append]
    omega
  have hfirst : octet (dst.val ++ (src.val ++ rest)) 0 = octet dst.val 0 :=
    octet_append_left (by omega)
  have hprotocol : octet (dst.val ++ (src.val ++ rest)) 9 = octet src.val 3 := by
    rw [octet_append_right (by omega), hdst, octet_append_left (by omega)]
  have htotal : slice (dst.val ++ (src.val ++ rest)) 2 4 = slice dst.val 2 4 :=
    slice_append_left (by omega)
  rw [looksLikeBareIpv4_iff, hlen, hfirst, hprotocol, htotal]
  constructor
  · rintro ⟨_, hversion, hihl, hudp, hmin, hmax⟩
    exact ⟨hversion, hihl, hudp, hmin, hmax⟩
  · rintro ⟨hversion, hihl, hudp, hmin, hmax⟩
    refine ⟨?_, hversion, hihl, hudp, hmin, hmax⟩
    show 20 ≤ 12 + rest.length
    omega

theorem slice_frame {rest : Octets} (lo hi : Nat) (hlo : 12 ≤ lo) :
    slice (dst.val ++ (src.val ++ rest)) lo hi = slice rest (lo - 12) (hi - 12) := by
  have hdst : dst.val.length = 6 := dst.property
  have hsrc : src.val.length = 6 := src.property
  rw [slice_append_right (by omega), slice_append_right (by omega), hdst, hsrc, Nat.sub_sub,
    Nat.sub_sub]

theorem drop_frame {rest : Octets} (n : Nat) :
    (dst.val ++ (src.val ++ rest)).drop (12 + n) = rest.drop n := by
  have hpre : (dst.val ++ src.val).length = 12 := by
    rw [List.length_append, dst.property, src.property]
    rfl
  rw [← List.append_assoc, ← hpre, List.drop_append]
  simp

/-- **A frame not taken for a bare packet carries its packet.** -/
theorem ipPayload_ethernet (hbare : looksLikeBareIpv4 (ethernet dst src p) = false) :
    ipPayload (ethernet dst src p) = some p := by
  have hlen := length_ethernet dst src p
  have h14 : ETHERNET_HEADER_SIZE = 14 := rfl
  have htype : slice (ethernet dst src p) 12 14 = [0x08, 0x00] := by
    rw [ethernet, slice_frame _ _ _ _ le_rfl]
    rfl
  have hdrop : (ethernet dst src p).drop ETHERNET_HEADER_SIZE = p := drop_frame dst src 2
  rw [ipPayload, if_neg (by rw [hbare]; decide), if_neg (by omega), htype, if_neg (by decide),
    if_neg (by decide), hdrop]

theorem ipPayload_vlan (tag : UInt8 × UInt8)
    (hbare : looksLikeBareIpv4 (vlan dst src tag p) = false) :
    ipPayload (vlan dst src tag p) = some p := by
  have hlen := length_vlan dst src p tag
  have h14 : ETHERNET_HEADER_SIZE = 14 := rfl
  have htype : slice (vlan dst src tag p) 12 14 = [0x81, 0x00] := by
    rw [vlan, slice_frame _ _ _ _ le_rfl]
    rfl
  have hinner : slice (vlan dst src tag p) 16 18 = [0x08, 0x00] := by
    rw [vlan, slice_frame _ _ _ _ (by omega)]
    rfl
  have hdrop : (vlan dst src tag p).drop (ETHERNET_HEADER_SIZE + 4) = p := drop_frame dst src 6
  rw [ipPayload, if_neg (by rw [hbare]; decide), if_neg (by omega), htype, if_pos (by decide),
    if_neg (by omega), hinner, if_neg (by decide), hdrop]

end Frames

/-! ### A packet to be misread -/

/-- The BOOTP message of an offer of `192.0.2.50` to `02:00:5e:10:00:00`. -/
def offerBody : Octets :=
  [2, 1, 6, 0, 0x12, 0x34, 0x56, 0x78] ++ List.replicate 8 0 ++ [192, 0, 2, 50] ++
    List.replicate 8 0 ++ [0x02, 0x00, 0x5e, 0x10, 0x00, 0x00] ++ List.replicate 202 0

/-- The offer in a packet from `192.0.2.1`, with `n` octets of padding. -/
def offer (n : Nat) : Octets :=
  [0x45, 0, UInt8.ofNat ((264 + n) / 256), UInt8.ofNat (264 + n), 0, 0, 0, 0, 64, 17, 0, 0,
    192, 0, 2, 1, 255, 255, 255, 255, 0, 67, 0, 68, 0, 0, 0, 0] ++
    (offerBody ++ List.replicate n 0)

theorem length_offer (n : Nat) : (offer n).length = 264 + n := by
  have hbody : offerBody.length = 236 := rfl
  simp only [offer, List.length_append, List.length_cons, List.length_nil, hbody,
    List.length_replicate]
  omega

theorem octets_offer (n : Nat) : octet (offer n) 0 = 0x45 ∧ octet (offer n) 9 = IPPROTO_UDP ∧
    slice (offer n) 6 8 = [0, 0] ∧ slice (offer n) 20 22 = [0, 67] ∧
    slice (offer n) 22 24 = [0, 68] :=
  ⟨rfl, rfl, rfl, rfl, rfl⟩

theorem serverPacket_offer {n : Nat} (hn : 264 + n ≤ 65535) : ServerPacket (offer n) := by
  obtain ⟨hfirst, hprotocol, hfragment, hsource, hdestination⟩ := octets_offer n
  have hlen := length_offer n
  have h8 : UDP_HEADER_SIZE = 8 := rfl
  have htotal : bigEndian (slice (offer n) 2 4)
      = (0 * 256 + (UInt8.ofNat ((264 + n) / 256)).toNat) * 256
        + (UInt8.ofNat (264 + n)).toNat := rfl
  rw [UInt8.toNat_ofNat', UInt8.toNat_ofNat'] at htotal
  refine ⟨?_, ?_, hprotocol, ?_, ?_, ?_, ?_, ?_⟩
  · rw [hfirst]
  · rw [hfirst]
  · omega
  · rw [hfragment]
    rfl
  · rw [hfirst]
    omega
  · rw [hfirst]
    show bigEndian (slice (offer n) 20 22) = DHCP_SERVER_PORT
    rw [hsource]
    decide
  · rw [hfirst]
    show bigEndian (slice (offer n) 22 24) ∈ [DHCP_SERVER_PORT, DHCP_CLIENT_PORT]
    rw [hdestination]
    decide

theorem udpPayload_offer (n : Nat) : udpPayload (offer n)
    = some ⟨inetNtoa [192, 0, 2, 1], offerBody ++ List.replicate n 0⟩ := by
  obtain ⟨hfirst, hprotocol, hfragment, hsource, hdestination⟩ := octets_offer n
  have hlen := length_offer n
  have h8 : UDP_HEADER_SIZE = 8 := rfl
  have h20 : IPV4_MIN_HEADER_SIZE = 20 := rfl
  have hheader : ipv4HeaderLength (offer n) = some 20 :=
    ipv4HeaderLength_eq_some.mpr ⟨by omega, by omega, by omega, by omega⟩
  rw [udpPayload, hheader]
  dsimp only
  rw [if_neg (by rw [hprotocol]; decide), hfragment, if_neg (by decide), if_neg (by omega),
    hsource, hdestination, if_neg (by decide)]
  rfl

theorem fromPacket_offer (n : Nat) : ∃ r, DhcpReply.fromPacket (offer n) = .ok (some r) := by
  have hfixed : BOOTP_FIXED_SIZE = 236 := rfl
  have hbody : (offerBody ++ List.replicate n 0).length = 236 + n := by
    have : offerBody.length = 236 := rfl
    rw [List.length_append, List.length_replicate, this]
  have hmac : formatMac (slice (offerBody ++ List.replicate n 0) 28 34)
      = some "02:00:5e:10:00:00".toList := rfl
  have haddress : slice (offerBody ++ List.replicate n 0) 16 20 = [192, 0, 2, 50] := rfl
  have hxid : bigEndian (slice (offerBody ++ List.replicate n 0) 4 8) = 0x12345678 := rfl
  have hoperation : octet (offerBody ++ List.replicate n 0) 0 = 2 ∧
      octet (offerBody ++ List.replicate n 0) 1 = 1 ∧
      octet (offerBody ++ List.replicate n 0) 2 = 6 := ⟨rfl, rfl, rfl⟩
  obtain ⟨r, hr⟩ := DhcpReply.make_ok (messageType (offerBody ++ List.replicate n 0))
    (show canonicalMac "02:00:5e:10:00:00".toList = .ok "02:00:5e:10:00:00".toList by
      decide +kernel)
    (show offeredIpv4Text (inetNtoa [192, 0, 2, 50]) = .ok "192.0.2.50".toList by decide +kernel)
    (show ipv4Text (inetNtoa [192, 0, 2, 1]) = .ok "192.0.2.1".toList by decide +kernel)
    (show 0x12345678 ≤ MAX_TRANSACTION_ID by decide)
  refine ⟨r, ?_⟩
  rw [DhcpReply.fromPacket, udpPayload_offer]
  dsimp only
  rw [DhcpReply.fromDatagram]
  dsimp only
  rw [if_neg (by omega), hoperation.1, hoperation.2.1, hoperation.2.2, haddress,
    if_neg (by decide), hmac, hxid]
  dsimp only
  rw [hr]
  rfl

/-! ### The three shapes -/

section Shapes

variable (dst src : HardwareAddress) (tag : UInt8 × UInt8)

theorem fromFrame_of_serverPacket {p : Octets} (h : ServerPacket p) :
    DhcpReply.fromFrame p = DhcpReply.fromPacket p := by
  rw [DhcpReply.fromFrame, ipPayload_of_serverPacket h]

theorem fromFrame_ethernet {p : Octets} (h : ServerPacket p)
    (hbare : looksLikeBareIpv4 (ethernet dst src p) = false) :
    DhcpReply.fromFrame (ethernet dst src p) = DhcpReply.fromFrame p := by
  rw [fromFrame_of_serverPacket h, DhcpReply.fromFrame, ipPayload_ethernet dst src p hbare]

theorem fromFrame_vlan {p : Octets} (h : ServerPacket p)
    (hbare : looksLikeBareIpv4 (vlan dst src tag p) = false) :
    DhcpReply.fromFrame (vlan dst src tag p) = DhcpReply.fromFrame p := by
  rw [fromFrame_of_serverPacket h, DhcpReply.fromFrame, ipPayload_vlan dst src p tag hbare]

theorem looksLikeBareIpv4_ethernet {p : Octets} (hp : ServerPacket p) :
    looksLikeBareIpv4 (ethernet dst src p) = true ↔ BareLooking dst src (14 + p.length) := by
  have hroom := hp.room
  have h8 : UDP_HEADER_SIZE = 8 := rfl
  have hsize : ([0x08, 0x00] ++ p).length = 2 + p.length := by
    simp only [List.length_append, List.length_cons, List.length_nil]
  rw [ethernet, looksLikeBareIpv4_frame _ _ (by omega), hsize, ← Nat.add_assoc]

theorem looksLikeBareIpv4_vlan {p : Octets} (hp : ServerPacket p) :
    looksLikeBareIpv4 (vlan dst src tag p) = true ↔ BareLooking dst src (18 + p.length) := by
  have hroom := hp.room
  have h8 : UDP_HEADER_SIZE = 8 := rfl
  have hsize : ([0x81, 0x00, tag.1, tag.2, 0x08, 0x00] ++ p).length = 6 + p.length := by
    simp only [List.length_append, List.length_cons, List.length_nil]
  rw [vlan, looksLikeBareIpv4_frame _ _ (by omega), hsize, ← Nat.add_assoc]

/-- **A frame taken for a bare packet has no reply of another server than the one its
link header names.** -/
theorem fromFrame_ne_of_bare {p frame : Octets} {r : DhcpReply} (hp : ServerPacket p)
    (hr : DhcpReply.fromFrame p = .ok (some r)) (hbare : looksLikeBareIpv4 frame = true)
    (hserver : slice p 12 16 ≠ slice frame 12 16) :
    DhcpReply.fromFrame frame ≠ DhcpReply.fromFrame p := by
  intro heq
  have hroom := hp.room
  have hihl := hp.ihl
  have h8 : UDP_HEADER_SIZE = 8 := rfl
  have h20 : IPV4_MIN_HEADER_SIZE = 20 := rfl
  have hframe := (looksLikeBareIpv4_iff.mp hbare).1
  have hfour : (slice p 12 16).length = 4 := by
    rw [length_slice]
    omega
  have hfour' : (slice frame 12 16).length = 4 := by
    rw [length_slice]
    omega
  have hmisread : DhcpReply.fromPacket frame = .ok (some r) := by
    rw [hr, DhcpReply.fromFrame, ipPayload, if_pos hbare] at heq
    exact heq
  rw [fromFrame_of_serverPacket hp] at hr
  have htrue := DhcpReply.serverIp_of_fromPacket hr
  have hfalse := DhcpReply.serverIp_of_fromPacket hmisread
  rw [ipv4Text_inetNtoa hfour] at htrue
  rw [ipv4Text_inetNtoa hfour', ← htrue] at hfalse
  exact hserver (inetNtoa_inj hfour hfour' (Except.ok.inj hfalse).symm)

/-- What a frame taken for a bare packet has for the address of the server. -/
theorem server_ethernet {p : Octets} (hp : 2 ≤ p.length) :
    slice (ethernet dst src p) 12 16 = [0x08, 0x00] ++ slice p 0 2 := by
  rw [ethernet, slice_frame _ _ _ _ le_rfl]
  rcases p with _ | ⟨a, _ | ⟨b, p⟩⟩
  · simp at hp
  · simp at hp
  · rfl

theorem server_vlan (p : Octets) :
    slice (vlan dst src tag p) 12 16 = [0x81, 0x00, tag.1, tag.2] := by
  rw [vlan, slice_frame _ _ _ _ le_rfl]
  rfl

/-- **Packet by packet, a reply is read alike in an Ethernet frame exactly when the frame
is not taken for a bare packet**, where the server is not the one the frame names. -/
theorem fromFrame_ethernet_iff {p : Octets} {r : DhcpReply} (hp : ServerPacket p)
    (hr : DhcpReply.fromFrame p = .ok (some r))
    (hserver : slice p 12 16 ≠ [0x08, 0x00] ++ slice p 0 2) :
    DhcpReply.fromFrame (ethernet dst src p) = DhcpReply.fromFrame p ↔
      ¬ BareLooking dst src (14 + p.length) := by
  have hroom := hp.room
  have h8 : UDP_HEADER_SIZE = 8 := rfl
  rw [← looksLikeBareIpv4_ethernet dst src hp, Bool.not_eq_true]
  constructor
  · intro heq
    by_contra hbare
    rw [Bool.not_eq_false] at hbare
    rw [← server_ethernet dst src (by omega)] at hserver
    exact fromFrame_ne_of_bare hp hr hbare hserver heq
  · exact fromFrame_ethernet dst src hp

theorem fromFrame_vlan_iff {p : Octets} {r : DhcpReply} (hp : ServerPacket p)
    (hr : DhcpReply.fromFrame p = .ok (some r))
    (hserver : slice p 12 16 ≠ [0x81, 0x00, tag.1, tag.2]) :
    DhcpReply.fromFrame (vlan dst src tag p) = DhcpReply.fromFrame p ↔
      ¬ BareLooking dst src (18 + p.length) := by
  rw [← looksLikeBareIpv4_vlan dst src tag hp, Bool.not_eq_true]
  constructor
  · intro heq
    by_contra hbare
    rw [Bool.not_eq_false] at hbare
    rw [← server_vlan dst src tag p] at hserver
    exact fromFrame_ne_of_bare hp hr hbare hserver heq
  · exact fromFrame_vlan dst src tag hp

/-- **Addresses that look bare misread an offer** of every length that has room for one. -/
theorem offer_misread {n : Nat} (hn : 264 + n ≤ 65535)
    (h : BareLooking dst src (18 + (264 + n))) :
    ServerPacket (offer n) ∧
      DhcpReply.fromFrame (vlan dst src tag (offer n)) ≠ DhcpReply.fromFrame (offer n) := by
  have hp := serverPacket_offer hn
  obtain ⟨r, hr⟩ := fromPacket_offer n
  rw [← fromFrame_of_serverPacket hp] at hr
  have hserver : slice (offer n) 12 16 = [192, 0, 2, 1] := rfl
  refine ⟨hp, ?_⟩
  intro heq
  refine (fromFrame_vlan_iff dst src tag hp hr ?_).mp heq ?_
  · rw [hserver]
    intro hnames
    exact absurd (List.cons.inj hnames).1 (by decide)
  · rwa [length_offer]

/-- **A packet is read alike in its three shapes when neither frame is taken for a bare
packet**, which the addresses and the length of the frame decide.  For a reply the
condition is exact, unless its server is the one the frame would name; and of every
length that has room for an offer, all packets are read alike exactly when it holds. -/
theorem shapes_agree_iff :
    (∀ p, ServerPacket p →
      (¬ BareLooking dst src (14 + p.length) →
        DhcpReply.fromFrame (ethernet dst src p) = DhcpReply.fromFrame p) ∧
      (¬ BareLooking dst src (18 + p.length) →
        DhcpReply.fromFrame (vlan dst src tag p) = DhcpReply.fromFrame p)) ∧
    (∀ p r, ServerPacket p → DhcpReply.fromFrame p = .ok (some r) →
      (slice p 12 16 ≠ [0x08, 0x00] ++ slice p 0 2 →
        (DhcpReply.fromFrame (ethernet dst src p) = DhcpReply.fromFrame p ↔
          ¬ BareLooking dst src (14 + p.length))) ∧
      (slice p 12 16 ≠ [0x81, 0x00, tag.1, tag.2] →
        (DhcpReply.fromFrame (vlan dst src tag p) = DhcpReply.fromFrame p ↔
          ¬ BareLooking dst src (18 + p.length)))) ∧
    (∀ n, 264 ≤ n → n ≤ 65535 →
      ((∀ p, ServerPacket p → p.length = n →
        DhcpReply.fromFrame (ethernet dst src p) = DhcpReply.fromFrame p ∧
          DhcpReply.fromFrame (vlan dst src tag p) = DhcpReply.fromFrame p) ↔
        ¬ BareLooking dst src (18 + n))) := by
  have hagree : ∀ p, ServerPacket p →
      (¬ BareLooking dst src (14 + p.length) →
        DhcpReply.fromFrame (ethernet dst src p) = DhcpReply.fromFrame p) ∧
      (¬ BareLooking dst src (18 + p.length) →
        DhcpReply.fromFrame (vlan dst src tag p) = DhcpReply.fromFrame p) := by
    intro p hp
    rw [← looksLikeBareIpv4_ethernet dst src hp, ← looksLikeBareIpv4_vlan dst src tag hp,
      Bool.not_eq_true, Bool.not_eq_true]
    exact ⟨fromFrame_ethernet dst src hp, fromFrame_vlan dst src tag hp⟩
  refine ⟨hagree, ?_, ?_⟩
  · intro p r hp hr
    exact ⟨fromFrame_ethernet_iff dst src hp hr, fromFrame_vlan_iff dst src tag hp hr⟩
  · intro n hmin hmax
    obtain ⟨k, rfl⟩ := Nat.exists_eq_add_of_le hmin
    constructor
    · intro h hbare
      obtain ⟨hp, hne⟩ := offer_misread dst src tag hmax hbare
      exact hne (h _ hp (length_offer k)).2
    · intro hbare p hp hlength
      obtain ⟨hethernet, hvlan⟩ := hagree p hp
      rw [hlength] at hethernet hvlan
      refine ⟨hethernet ?_, hvlan hbare⟩
      -- the tagged frame is the longer one
      rintro ⟨hversion, hihl, hudp, htotal, hfits⟩
      exact hbare ⟨hversion, hihl, hudp, htotal, by omega⟩

end Shapes

/-- To `45:00:00:40:00:00` from `02:00:00:11:00:00` the offer is lost. -/
theorem offer_lost : ServerPacket (offer 0) ∧
    (∃ r, DhcpReply.fromFrame (offer 0) = .ok (some r)) ∧
    DhcpReply.fromFrame (ethernet ⟨[0x45, 0, 0, 0x40, 0, 0], rfl⟩ ⟨[2, 0, 0, 17, 0, 0], rfl⟩
      (offer 0)) = .ok none := by
  have hp : ServerPacket (offer 0) := serverPacket_offer (by decide)
  refine ⟨hp, ?_, by decide +kernel⟩
  rw [fromFrame_of_serverPacket hp]
  exact fromPacket_offer 0

end IPScout
