import IPScout.Dhcp.Frames

/-!
# Whatever is captured reads

`from_frame` sees every frame on the segment.  Here it is read as the source writes
it, with every step that can raise: an index past the end, `struct.unpack` and
`inet_ntoa` of the wrong number of octets, a validator that refuses, and an option
walk by positions that runs on fuel.

`fromFrameAt_eq` says that none of it ever shows, so the reader is the total
`DhcpReply.fromFrame` of `Bootp.lean`; `carriesReply_of_fromPacket` says what a
packet that reads as a reply is.
-/

namespace IPScout

open Base Base.Octets Base.Text

/-! ### The validators accept what the reader hands them -/

theorem eq_replicate_of_bigEndian {b : Octets} (h : bigEndian b = 0) :
    b = List.replicate b.length 0 := by
  induction b with
  | nil => rfl
  | cons x b ih =>
    rw [bigEndian_cons] at h
    have hpos : 0 < 256 ^ b.length := Nat.pow_pos (by decide)
    have hx : x.toNat = 0 := by
      by_contra hne
      have := Nat.le_mul_of_pos_left (256 ^ b.length) (Nat.pos_of_ne_zero hne)
      omega
    have hzero : x = 0 := UInt8.toNat_inj.mp hx
    rw [List.length_cons, List.replicate_succ, ← ih (by omega), hzero]

theorem offeredIpv4Text_inetNtoa {b : Octets} (h : b.length = 4) (hb : b ≠ [0, 0, 0, 0]) :
    offeredIpv4Text (inetNtoa b) = .ok (inetNtoa b) := by
  have hlt : bigEndian b < 2 ^ 32 := by
    have := bigEndian_lt b
    rw [h] at this
    exact this
  have hzero : bigEndian b ≠ 0 := by
    intro hzero
    have := eq_replicate_of_bigEndian hzero
    rw [h] at this
    exact hb this
  have hread : requireAddress (inetNtoa b) .IPV4 = .ok (.v4 (BitVec.ofNat 32 (bigEndian b))) := by
    rw [requireAddress, parseAddress, ipAddress, ipv4Address_inetNtoa h]
    rfl
  have hset : (IPAddress.v4 (BitVec.ofNat 32 (bigEndian b))).isUnspecified .since313 = false := by
    rw [IPAddress.isUnspecified, IPAddress.property, beq_eq_false_iff_ne]
    intro heq
    have := congrArg BitVec.toNat heq
    rw [BitVec.toNat_ofNat, Nat.mod_eq_of_lt hlt] at this
    exact hzero this
  rw [offeredIpv4Text, hread]
  dsimp only
  rw [if_neg (by rw [hset]; simp), ipv4Text_inetNtoa h]

/-- No address but `0.0.0.0` is written so. -/
theorem inetNtoa_ne_unspecified {b : Octets} (h : b.length = 4) (hb : b ≠ [0, 0, 0, 0]) :
    inetNtoa b ≠ "0.0.0.0".toList := by
  intro heq
  have hoffered := offeredIpv4Text_inetNtoa h hb
  rw [heq] at hoffered
  have hrefused : offeredIpv4Text "0.0.0.0".toList = .error (.value [.text "0.0.0.0".toList,
      say " hands out no address: a request and a DHCPNAK carry it, an offer never does"]) := by
    decide
  rw [hrefused] at hoffered
  simp at hoffered

namespace DhcpReply

theorem make_canonical {client offered server : Text} {xid : Nat}
    (type : Option DhcpMessageType) (hc : canonicalMac client = .ok client)
    (ho : offeredIpv4Text offered = .ok offered) (hs : ipv4Text server = .ok server)
    (hx : xid ≤ MAX_TRANSACTION_ID) : make client offered server xid type
      = .ok ⟨client, offered, server, xid, type, hc, ⟨offered, ho⟩, ⟨server, hs⟩, hx⟩ := by
  unfold make
  split
  · next e he =>
    rw [hc] at he
    simp at he
  · next client' hc' =>
    split
    · next e he =>
      rw [ho] at he
      simp at he
    · next offered' ho' =>
      split
      · next e he =>
        rw [hs] at he
        simp at he
      · next server' hs' =>
        have hclient := Except.ok.inj (hc'.symm.trans hc)
        have hoffered := Except.ok.inj (ho'.symm.trans ho)
        have hserver := Except.ok.inj (hs'.symm.trans hs)
        subst hclient
        subst hoffered
        subst hserver
        rw [dif_pos hx]

end DhcpReply

/-! ### What a packet that reads as a reply is -/

/-- Where the UDP header of a packet starts. -/
def udpStart (packet : Octets) : Nat := octet packet 0 % 16 * 4

def bootpBody (packet : Octets) : Octets := packet.drop (udpStart packet + UDP_HEADER_SIZE)

/-- An IPv4 UDP packet, no later fragment, between the DHCP ports. -/
structure FromServer (packet : Octets) : Prop where
  version : octet packet 0 / 16 = 4
  header : IPV4_MIN_HEADER_SIZE ≤ udpStart packet
  length : udpStart packet + UDP_HEADER_SIZE ≤ packet.length
  protocol : octet packet 9 = IPPROTO_UDP
  offset : bigEndian (slice packet 6 8) &&& 0x1fff = 0
  sourcePort : bigEndian (slice packet (udpStart packet) (udpStart packet + 2)) = DHCP_SERVER_PORT
  destinationPort :
    bigEndian (slice packet (udpStart packet + 2) (udpStart packet + 4)) = DHCP_SERVER_PORT ∨
      bigEndian (slice packet (udpStart packet + 2) (udpStart packet + 4)) = DHCP_CLIENT_PORT

/-- A packet from a server that hands an address to an Ethernet client, and the reply
it reads as. -/
structure CarriesReply (packet : Octets) (r : DhcpReply) : Prop where
  fromServer : FromServer packet
  length : BOOTP_FIXED_SIZE ≤ (bootpBody packet).length
  operation : octet (bootpBody packet) 0 = bootpReply
  hardware : octet (bootpBody packet) 1 = HTYPE_ETHERNET ∧
    octet (bootpBody packet) 2 = MAC_LENGTH
  serverIp : r.serverIp = inetNtoa (slice packet 12 16)
  offeredIp : r.offeredIp = inetNtoa (slice (bootpBody packet) 16 20) ∧
    r.offeredIp ≠ "0.0.0.0".toList
  clientMac : formatMac (slice (bootpBody packet) 28 34) = some r.clientMac ∧
    canonicalMac r.clientMac = .ok r.clientMac ∧
    ∃ x ∈ slice (bootpBody packet) 28 34, x ≠ 0
  transactionId : r.transactionId = bigEndian (slice (bootpBody packet) 4 8)

theorem fromServer_of_udpPayload {packet : Octets} {datagram : ServerDatagram}
    (h : udpPayload packet = some datagram) :
    FromServer packet ∧ IPV4_MIN_HEADER_SIZE ≤ packet.length ∧
      datagram = ⟨inetNtoa (slice packet 12 16), bootpBody packet⟩ := by
  rw [udpPayload] at h
  split at h
  · simp at h
  · next headerLen hheader =>
    obtain ⟨hmin, hversion, hihl, rfl⟩ := ipv4HeaderLength_eq_some.mp hheader
    have h20 : IPV4_MIN_HEADER_SIZE = 20 := rfl
    split at h
    · simp at h
    · next hprotocol =>
      split at h
      · simp at h
      · next hoffset =>
        split at h
        · simp at h
        · next hlength =>
          dsimp only at h
          split at h
          · simp at h
          · next hports =>
            rw [not_or, not_and_or, not_not, not_not, not_not] at hports
            have hstart : IPV4_MIN_HEADER_SIZE ≤ udpStart packet := by
              rw [udpStart]
              omega
            exact ⟨⟨hversion, hstart, Nat.not_lt.mp hlength, not_not.mp hprotocol,
              not_not.mp hoffset, hports.1, hports.2⟩, hmin, (Option.some.inj h).symm⟩

/-- **A datagram reads without a refusal**, and a reply has the fields of its body. -/
theorem fromDatagram_cases {server : Octets} (hserver : server.length = 4) (body : Octets) :
    DhcpReply.fromDatagram ⟨inetNtoa server, body⟩ = .ok none ∨
      ∃ r : DhcpReply, DhcpReply.fromDatagram ⟨inetNtoa server, body⟩ = .ok (some r) ∧
        BOOTP_FIXED_SIZE ≤ body.length ∧ octet body 0 = bootpReply ∧
        (octet body 1 = HTYPE_ETHERNET ∧ octet body 2 = MAC_LENGTH) ∧
        r.serverIp = inetNtoa server ∧
        (r.offeredIp = inetNtoa (slice body 16 20) ∧ r.offeredIp ≠ "0.0.0.0".toList) ∧
        formatMac (slice body 28 34) = some r.clientMac ∧
        r.transactionId = bigEndian (slice body 4 8) := by
  rw [DhcpReply.fromDatagram]
  split
  · exact Or.inl rfl
  · next hlength =>
    have hlength : BOOTP_FIXED_SIZE ≤ body.length := Nat.not_lt.mp hlength
    have hfixed : BOOTP_FIXED_SIZE = 236 := rfl
    split
    · exact Or.inl rfl
    · next hfields =>
      rw [not_or, not_or, not_not, not_not, Prod.mk.injEq] at hfields
      obtain ⟨hop, hhardware, hoffer⟩ := hfields
      cases hmac : formatMac (slice body 28 34) with
      | none => exact Or.inl rfl
      | some mac =>
        right
        have hfour : (slice body 16 20).length = 4 := by
          rw [length_slice]
          omega
        have hxid : bigEndian (slice body 4 8) ≤ MAX_TRANSACTION_ID := by
          have hlt := bigEndian_lt (slice body 4 8)
          have hlen : (slice body 4 8).length = 4 := by
            rw [length_slice]
            omega
          rw [hlen] at hlt
          have hmax : MAX_TRANSACTION_ID + 1 = 256 ^ 4 := by decide
          omega
        have hmake := DhcpReply.make_canonical (messageType body) (canonicalMac_formatMac hmac)
          (offeredIpv4Text_inetNtoa hfour hoffer) (ipv4Text_inetNtoa hserver) hxid
        have hread := congrArg (Except.map some) hmake
        exact ⟨_, hread, hlength, hop, hhardware, rfl,
          ⟨rfl, inetNtoa_ne_unspecified hfour hoffer⟩, rfl, rfl⟩

/-- **A packet reads without a refusal**, and one that reads as a reply is what
`CarriesReply` says. -/
theorem fromPacket_cases (packet : Octets) :
    DhcpReply.fromPacket packet = .ok none ∨
      ∃ r, DhcpReply.fromPacket packet = .ok (some r) ∧ CarriesReply packet r := by
  rw [DhcpReply.fromPacket]
  cases hudp : udpPayload packet with
  | none => exact Or.inl rfl
  | some datagram =>
    obtain ⟨hserver, hmin, rfl⟩ := fromServer_of_udpPayload hudp
    have hfour : (slice packet 12 16).length = 4 := by
      have h20 : IPV4_MIN_HEADER_SIZE = 20 := rfl
      rw [length_slice]
      omega
    rcases fromDatagram_cases hfour (bootpBody packet) with hnone |
      ⟨r, hr, hlength, hop, hhardware, hip, hoffered, hmac, hxid⟩
    · exact Or.inl hnone
    · exact Or.inr ⟨r, hr, hserver, hlength, hop, hhardware, hip, hoffered,
        ⟨hmac, canonicalMac_formatMac hmac, (formatMac_eq_some_iff.mp hmac).2.1⟩, hxid⟩

/-! ### The reader with every step that can raise -/

/-- What ends a read: an `IndexError`, a `struct.error` or the `OSError` of
`inet_ntoa`, a validator, or no more fuel. -/
inductive FrameError
  | indexError
  | wrongSize
  | refused (e : PyError)
  | outOfFuel

/-- `b[i]`. -/
def octetAt (b : Octets) (i : Nat) : Except FrameError Nat :=
  match b[i]? with
  | some x => .ok x.toNat
  | none => .error .indexError

/-- A field of so many octets, as `unpack` and `inet_ntoa` take one. -/
def fieldOf (size : Nat) (b : Octets) : Except FrameError Octets :=
  if b.length = size then .ok b else .error .wrongSize

/-- `ipv4_header_length`. -/
def ipv4HeaderLengthAt (datagram : Octets) : Except FrameError (Option Nat) :=
  if datagram.length < IPV4_MIN_HEADER_SIZE then .ok none
  else do
    let first ← octetAt datagram 0
    if first / 16 ≠ AddressFamily.IPV4.ipVersion then .ok none
    else if IPV4_MIN_HEADER_SIZE ≤ first % 16 * 4 then .ok (some (first % 16 * 4))
    else .ok none

/-- `_looks_like_bare_ipv4`. -/
def looksLikeBareIpv4At (frame : Octets) : Except FrameError Bool := do
  match ← ipv4HeaderLengthAt frame with
  | none => .ok false
  | some headerLen =>
    let protocol ← octetAt frame 9
    if protocol ≠ IPPROTO_UDP then .ok false
    else
      let totalLen := bigEndian (slice frame 2 4)
      .ok (headerLen ≤ frame.length && headerLen ≤ totalLen && totalLen ≤ frame.length)

/-- `_ip_payload`. -/
def ipPayloadAt (frame : Octets) : Except FrameError (Option Octets) := do
  if ← looksLikeBareIpv4At frame then .ok (some frame)
  else if frame.length < ETHERNET_HEADER_SIZE then .ok none
  else
    let header ← fieldOf ETHERNET_HEADER_SIZE (frame.take ETHERNET_HEADER_SIZE)
    if bigEndian (slice header 12 14) = ETH_P_VLAN then
      if frame.length < ETHERNET_HEADER_SIZE + 4 then .ok none
      else if bigEndian (slice frame 16 18) ≠ ETH_P_IP then .ok none
      else .ok (some (frame.drop (ETHERNET_HEADER_SIZE + 4)))
    else if bigEndian (slice header 12 14) ≠ ETH_P_IP then .ok none
    else .ok (some (frame.drop ETHERNET_HEADER_SIZE))

/-- `_udp_payload`. -/
def udpPayloadAt (packet : Octets) : Except FrameError (Option ServerDatagram) := do
  match ← ipv4HeaderLengthAt packet with
  | none => .ok none
  | some headerLen =>
    let protocol ← octetAt packet 9
    if protocol ≠ IPPROTO_UDP then .ok none
    else if bigEndian (slice packet 6 8) &&& 0x1fff ≠ 0 then .ok none
    else if packet.length < headerLen + UDP_HEADER_SIZE then .ok none
    else
      let ports ← fieldOf 4 (slice packet headerLen (headerLen + 4))
      let sourcePort := bigEndian (slice ports 0 2)
      let destinationPort := bigEndian (slice ports 2 4)
      if sourcePort ≠ DHCP_SERVER_PORT ∨
          (destinationPort ≠ DHCP_SERVER_PORT ∧ destinationPort ≠ DHCP_CLIENT_PORT) then .ok none
      else
        let source ← fieldOf 4 (slice packet 12 16)
        .ok (some ⟨inetNtoa source, packet.drop (headerLen + UDP_HEADER_SIZE)⟩)

/-- The option walk of `_message_type` from a position on, so many turns at most. -/
def walkOptionsAt (body : Octets) : Nat → Nat → Except FrameError (Option DhcpMessageType)
  | 0, _ => .error .outOfFuel
  | fuel + 1, position =>
    if body.length ≤ position then .ok none
    else do
      let code ← octetAt body position
      if code = 255 then .ok none
      else if code = 0 then walkOptionsAt body fuel (position + 1)
      else if body.length < position + 2 then .ok none
      else
        let length ← octetAt body (position + 1)
        if body.length < position + 2 + length then .ok none
        else if code = 53 ∧ 1 ≤ length then
          let value ← octetAt body (position + 2)
          .ok (knownMessageType (UInt8.ofNat value))
        else walkOptionsAt body fuel (position + 2 + length)

/-- `_message_type`. -/
def messageTypeAt (fuel : Nat) (body : Octets) : Except FrameError (Option DhcpMessageType) :=
  if body.length < cookieEnd ∨ slice body BOOTP_FIXED_SIZE cookieEnd ≠ MAGIC_COOKIE then .ok none
  else walkOptionsAt body fuel cookieEnd

/-- `from_frame`. -/
def fromFrameAt (fuel : Nat) (frame : Octets) : Except FrameError (Option DhcpReply) := do
  match ← ipPayloadAt frame with
  | none => .ok none
  | some packet =>
    match ← udpPayloadAt packet with
    | none => .ok none
    | some datagram =>
      let body := datagram.body
      if body.length < BOOTP_FIXED_SIZE then .ok none
      else
        let header ← fieldOf BOOTP_FIXED_SIZE (body.take BOOTP_FIXED_SIZE)
        let yiaddr := slice header 16 20
        if octet header 0 ≠ bootpReply ∨
            (octet header 1, octet header 2) ≠ (HTYPE_ETHERNET, MAC_LENGTH) ∨
            yiaddr = [0, 0, 0, 0] then .ok none
        else
          match formatMac (slice header 28 34) with
          | none => .ok none
          | some clientMac =>
            let yiaddr ← fieldOf 4 yiaddr
            let type ← messageTypeAt fuel body
            ((DhcpReply.make clientMac (inetNtoa yiaddr) datagram.serverIp
              (bigEndian (slice header 4 8)) type).map some).mapError .refused

theorem octetAt_eq {b : Octets} {i : Nat} (h : i < b.length) : octetAt b i = .ok (octet b i) := by
  rw [octetAt, octet, List.getD_eq_getElem?_getD, List.getElem?_eq_getElem h]
  rfl

theorem fieldOf_eq {size : Nat} {b : Octets} (h : b.length = size) : fieldOf size b = .ok b :=
  if_pos h

theorem ipv4HeaderLengthAt_eq (datagram : Octets) :
    ipv4HeaderLengthAt datagram = .ok (ipv4HeaderLength datagram) := by
  have h20 : IPV4_MIN_HEADER_SIZE = 20 := rfl
  rw [ipv4HeaderLengthAt, ipv4HeaderLength]
  by_cases hlength : datagram.length < IPV4_MIN_HEADER_SIZE
  · rw [if_pos hlength, if_pos (Or.inl hlength)]
  · rw [if_neg hlength, octetAt_eq (by omega)]
    show (if octet datagram 0 / 16 ≠ AddressFamily.IPV4.ipVersion then _ else _) = _
    by_cases hversion : octet datagram 0 / 16 ≠ AddressFamily.IPV4.ipVersion
    · rw [if_pos hversion, if_pos (Or.inr hversion)]
    · rw [if_neg hversion, if_neg (not_or.mpr ⟨hlength, hversion⟩)]
      dsimp only
      split
      · rfl
      · rfl

theorem octetAt_protocol {b : Octets} {headerLen : Nat} (h : ipv4HeaderLength b = some headerLen) :
    octetAt b 9 = .ok (octet b 9) := by
  have h20 : IPV4_MIN_HEADER_SIZE = 20 := rfl
  have hmin := (ipv4HeaderLength_eq_some.mp h).1
  exact octetAt_eq (by omega)

theorem looksLikeBareIpv4At_eq (frame : Octets) :
    looksLikeBareIpv4At frame = .ok (looksLikeBareIpv4 frame) := by
  rw [looksLikeBareIpv4At, looksLikeBareIpv4, ipv4HeaderLengthAt_eq]
  cases hheader : ipv4HeaderLength frame with
  | none => rfl
  | some headerLen =>
    show (octetAt frame 9 >>= _) = _
    rw [octetAt_protocol hheader]
    show (if octet frame 9 ≠ IPPROTO_UDP then _ else _) = _
    dsimp only
    split
    · rfl
    · rfl

theorem ipPayloadAt_eq (frame : Octets) : ipPayloadAt frame = .ok (ipPayload frame) := by
  rw [ipPayloadAt, ipPayload, looksLikeBareIpv4At_eq]
  show (if looksLikeBareIpv4 frame = true then _ else _) = _
  split
  · rfl
  · split
    · rfl
    · next hlength =>
      have hsize : (frame.take ETHERNET_HEADER_SIZE).length = ETHERNET_HEADER_SIZE := by
        rw [List.length_take, Nat.min_eq_left (Nat.not_lt.mp hlength)]
      have htype : slice (frame.take ETHERNET_HEADER_SIZE) 12 14 = slice frame 12 14 :=
        slice_take (by decide)
      rw [fieldOf_eq hsize]
      show (if bigEndian (slice (frame.take ETHERNET_HEADER_SIZE) 12 14) = _ then _ else _) = _
      rw [htype]
      split
      · split
        · rfl
        · split
          · rfl
          · rfl
      · split
        · rfl
        · rfl

theorem udpPayloadAt_eq (packet : Octets) : udpPayloadAt packet = .ok (udpPayload packet) := by
  have h20 : IPV4_MIN_HEADER_SIZE = 20 := rfl
  have h8 : UDP_HEADER_SIZE = 8 := rfl
  rw [udpPayloadAt, udpPayload, ipv4HeaderLengthAt_eq]
  cases hheader : ipv4HeaderLength packet with
  | none => rfl
  | some headerLen =>
    have hmin := (ipv4HeaderLength_eq_some.mp hheader).1
    show (octetAt packet 9 >>= _) = _
    rw [octetAt_protocol hheader]
    show (if octet packet 9 ≠ IPPROTO_UDP then _ else _) = _
    dsimp only
    split
    · rfl
    · split
      · rfl
      · split
        · rfl
        · next hlength =>
          have hports : (slice packet headerLen (headerLen + 4)).length = 4 := by
            rw [length_slice]
            omega
          have hsource : (slice packet 12 16).length = 4 := by
            rw [length_slice]
            omega
          have hslice : ∀ lo hi, hi ≤ 4 → slice (slice packet headerLen (headerLen + 4)) lo hi
              = slice packet (headerLen + lo) (headerLen + hi) := by
            intro lo hi hhi
            rw [slice, slice, slice, List.take_drop, List.take_take, List.drop_drop,
              Nat.min_eq_left (by omega)]
          rw [fieldOf_eq hports]
          show (if bigEndian (slice (slice packet headerLen (headerLen + 4)) 0 2) ≠ _ ∨
            (bigEndian (slice (slice packet headerLen (headerLen + 4)) 2 4) ≠ _ ∧ _) then _
            else _) = _
          rw [hslice 0 2 (by omega), hslice 2 4 (by omega), Nat.add_zero]
          split
          · rfl
          · rw [fieldOf_eq hsource]
            rfl

theorem walkOptions_skip (skip : Nat) (data : Octets) :
    walkOptions skip data = walkOptions 0 (data.drop skip) := by
  induction skip generalizing data with
  | zero => rfl
  | succ skip ih =>
    rcases data with _ | ⟨x, data⟩
    · rfl
    · rw [walkOptions, ih, List.drop_succ_cons]

/-- **The walk ends**: each turn passes an octet, so an octet of fuel for each octet is
enough. -/
theorem walkOptionsAt_eq {body : Octets} {fuel position : Nat}
    (h : body.length ≤ position + fuel) :
    walkOptionsAt body (fuel + 1) position = .ok (walkOptions 0 (body.drop position)) := by
  induction fuel generalizing position with
  | zero =>
    rw [walkOptionsAt, if_pos (by omega), List.drop_eq_nil_of_le (by omega)]
    rfl
  | succ fuel ih =>
    rw [walkOptionsAt]
    by_cases hend : body.length ≤ position
    · rw [if_pos hend, List.drop_eq_nil_of_le hend]
      rfl
    · have hin : position < body.length := Nat.not_le.mp hend
      have hcode : octet body position = (body[position]).toNat := by
        rw [octet, List.getD_eq_getElem _ _ hin]
      have hnext : walkOptionsAt body (fuel + 1) (position + 1) =
          .ok (walkOptions 0 (body.drop (position + 1))) :=
        ih (by omega)
      rw [if_neg hend, octetAt_eq hin, List.drop_eq_getElem_cons hin, hcode]
      show (if (body[position]).toNat = 255 then _ else _) = _
      generalize body[position] = code
      have h255 : code.toNat = 255 ↔ code = 255 := UInt8.toNat_inj (b := 255)
      have h0 : code.toNat = 0 ↔ code = 0 := UInt8.toNat_inj (b := 0)
      have h53 : code.toNat = 53 ↔ code = 53 := UInt8.toNat_inj (b := 53)
      by_cases hlast : body.length ≤ position + 1
      · -- a code without a length
        rw [List.drop_eq_nil_of_le hlast] at hnext ⊢
        by_cases hpad : code = 0
        · subst hpad
          rw [if_neg (by decide), if_pos (show (0 : UInt8).toNat = 0 from rfl), hnext]
          rfl
        · rw [if_neg (fun hz => hpad (h0.mp hz)), if_pos (show body.length < position + 2 by omega),
            walkOptions, if_neg hpad]
          split
          · rfl
          · rfl
      · have hin1 : position + 1 < body.length := Nat.not_le.mp hlast
        have hlength : octet body (position + 1) = (body[position + 1]).toNat := by
          rw [octet, List.getD_eq_getElem _ _ hin1]
        rw [List.drop_eq_getElem_cons hin1] at hnext ⊢
        rw [if_neg (show ¬ body.length < position + 2 by omega), octetAt_eq hin1, hlength]
        generalize hsize : body[position + 1] = size at hnext
        have hdata : (body.drop (position + 1 + 1)).length = body.length - (position + 2) := by
          rw [List.length_drop]
        rw [walkOptions]
        by_cases hstop : code = 255
        · rw [if_pos (h255.mpr hstop), if_pos hstop]
        · rw [if_neg (fun hz => hstop (h255.mp hz)), if_neg hstop]
          by_cases hpad : code = 0
          · rw [if_pos (h0.mpr hpad), if_pos hpad, hnext]
          · rw [if_neg (fun hz => hpad (h0.mp hz)), if_neg hpad]
            show (if body.length < position + 2 + size.toNat then _ else _) = _
            by_cases hshort : body.length < position + 2 + size.toNat
            · rw [if_pos hshort, if_pos (show _ < size.toNat by omega)]
            · rw [if_neg hshort, if_neg (show ¬ _ < size.toNat by omega)]
              by_cases htype : code = 53 ∧ 1 ≤ size.toNat
              · rw [if_pos ⟨h53.mpr htype.1, htype.2⟩, if_pos htype,
                  octetAt_eq (show position + 2 < body.length by omega)]
                show Except.ok (knownMessageType (UInt8.ofNat (octet body (position + 2)))) = _
                have hvalue : (body.drop (position + 1 + 1)).getD 0 0 =
                    body.getD (position + 2) 0 := by
                  rw [List.getD_eq_getElem?_getD, List.getD_eq_getElem?_getD, List.getElem?_drop]
                rw [octet, UInt8.ofNat_toNat, hvalue]
              · rw [if_neg (fun hz => htype ⟨h53.mp hz.1, hz.2⟩), if_neg htype,
                  ih (by omega), walkOptions_skip size.toNat, List.drop_drop]

theorem messageTypeAt_eq {fuel : Nat} {body : Octets} (h : body.length < fuel) :
    messageTypeAt fuel body = .ok (messageType body) := by
  obtain ⟨n, rfl⟩ : ∃ n, fuel = n + 1 := ⟨fuel - 1, by omega⟩
  rw [messageTypeAt, messageType]
  split
  · rfl
  · exact walkOptionsAt_eq (by omega)

theorem length_body_le {frame packet : Octets} {datagram : ServerDatagram}
    (hpacket : ipPayload frame = some packet) (hudp : udpPayload packet = some datagram) :
    datagram.body.length ≤ frame.length := by
  have hle : packet.length ≤ frame.length := by
    rw [ipPayload] at hpacket
    split at hpacket
    · rw [Option.some.inj hpacket]
    · split at hpacket
      · simp at hpacket
      · split at hpacket
        · split at hpacket
          · simp at hpacket
          · split at hpacket
            · simp at hpacket
            · rw [← Option.some.inj hpacket, List.length_drop]
              omega
        · split at hpacket
          · simp at hpacket
          · rw [← Option.some.inj hpacket, List.length_drop]
            omega
  obtain ⟨_, _, rfl⟩ := fromServer_of_udpPayload hudp
  show (packet.drop _).length ≤ _
  rw [List.length_drop]
  omega

/-- **With fuel for every octet, nothing is raised but what a validator refuses.** -/
theorem fromFrameAt_eq {fuel : Nat} {frame : Octets} (h : frame.length < fuel) :
    fromFrameAt fuel frame = (DhcpReply.fromFrame frame).mapError .refused := by
  rw [fromFrameAt, DhcpReply.fromFrame, ipPayloadAt_eq]
  cases hpacket : ipPayload frame with
  | none => rfl
  | some packet =>
    show (udpPayloadAt packet >>= _) = _
    rw [udpPayloadAt_eq]
    dsimp only
    rw [DhcpReply.fromPacket]
    cases hudp : udpPayload packet with
    | none => rfl
    | some datagram =>
      have hbody := length_body_le hpacket hudp
      show (if datagram.body.length < BOOTP_FIXED_SIZE then _ else _) = _
      dsimp only
      rw [DhcpReply.fromDatagram]
      by_cases hfixed : datagram.body.length < BOOTP_FIXED_SIZE
      · rw [if_pos hfixed, if_pos hfixed]
        rfl
      · have hsize : (datagram.body.take BOOTP_FIXED_SIZE).length = BOOTP_FIXED_SIZE := by
          rw [List.length_take, Nat.min_eq_left (Nat.not_lt.mp hfixed)]
        have hoctet : ∀ i, i < 236 → octet (datagram.body.take BOOTP_FIXED_SIZE) i
            = octet datagram.body i := by
          intro i hi
          rw [octet, octet, List.getD_eq_getElem?_getD, List.getD_eq_getElem?_getD,
            List.getElem?_take_of_lt (show i < BOOTP_FIXED_SIZE from hi)]
        have hslice : ∀ lo hi, hi ≤ 236 → slice (datagram.body.take BOOTP_FIXED_SIZE) lo hi
            = slice datagram.body lo hi := fun lo hi hhi => slice_take hhi
        have hyiaddr : (slice datagram.body 16 20).length = 4 := by
          have h236 : BOOTP_FIXED_SIZE = 236 := rfl
          rw [length_slice]
          omega
        rw [if_neg hfixed, if_neg hfixed, fieldOf_eq hsize]
        show (if octet (datagram.body.take BOOTP_FIXED_SIZE) 0 ≠ bootpReply ∨
          (octet (datagram.body.take BOOTP_FIXED_SIZE) 1,
            octet (datagram.body.take BOOTP_FIXED_SIZE) 2) ≠ (HTYPE_ETHERNET, MAC_LENGTH) ∨
          slice (datagram.body.take BOOTP_FIXED_SIZE) 16 20 = [0, 0, 0, 0] then _ else _) = _
        rw [hoctet 0 (by decide), hoctet 1 (by decide), hoctet 2 (by decide),
          hslice 16 20 (by decide), hslice 28 34 (by decide), hslice 4 8 (by decide)]
        split
        · rfl
        · cases hmac : formatMac (slice datagram.body 28 34) with
          | none => rfl
          | some clientMac =>
            rw [fieldOf_eq hyiaddr]
            show (messageTypeAt fuel datagram.body >>= _) = _
            rw [messageTypeAt_eq (by omega)]
            rfl

/-- A frame reads without a refusal, and a reply is what `CarriesReply` says of the
packet in it. -/
theorem fromFrame_cases (frame : Octets) :
    ∃ result, DhcpReply.fromFrame frame = .ok result ∧
      ∀ r, result = some r → ∃ packet, ipPayload frame = some packet ∧ CarriesReply packet r := by
  rw [DhcpReply.fromFrame]
  cases hpacket : ipPayload frame with
  | none => exact ⟨none, rfl, by simp⟩
  | some packet =>
    rcases fromPacket_cases packet with hnone | ⟨r, hr, hcarries⟩
    · exact ⟨none, hnone, by simp⟩
    · refine ⟨some r, hr, ?_⟩
      intro r' heq
      rw [← Option.some.inj heq]
      exact ⟨packet, rfl, hcarries⟩

/-- **Whatever is captured reads without raising**: no index misses, no field has the
wrong size, the walk ends, and every validator accepts what it is handed.  A packet
that reads as a reply is one from a server to an Ethernet client. -/
theorem fromFrame_total (frame : Octets) :
    ∃ result, DhcpReply.fromFrame frame = .ok result ∧
      (∀ fuel, frame.length < fuel → fromFrameAt fuel frame = .ok result) ∧
      ∀ r, result = some r → ∃ packet, ipPayload frame = some packet ∧ CarriesReply packet r := by
  obtain ⟨result, hok, hfacts⟩ := fromFrame_cases frame
  refine ⟨result, hok, ?_, hfacts⟩
  intro fuel hfuel
  rw [fromFrameAt_eq hfuel, hok]
  rfl

end IPScout
