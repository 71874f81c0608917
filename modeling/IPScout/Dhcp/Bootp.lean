import IPScout.Echo.Packet
import IPScout.Net.Mac

/-!
# DHCP replies

`bootp.py`: the server reply a captured frame carries.  A capture may hand over a
frame with an Ethernet header, one with an 802.1Q tag, or a bare IPv4 packet, and
the bare form is recognised from the data (`looksLikeBareIpv4`) before the
Ethernet header is looked at.

Every reader is total.  A frame that is not a reply reads as `none`; the `Except`
of `fromFrame` is the validation of the record it builds.
-/

namespace IPScout

open Base Base.Octets

/-! ### The constants of the formats -/

def ETHERNET_HEADER_SIZE : Nat := 14

def ETH_P_IP : Nat := 0x0800

def ETH_P_VLAN : Nat := 0x8100

def IPPROTO_UDP : Nat := 17

def DHCP_SERVER_PORT : Nat := 67

def DHCP_CLIENT_PORT : Nat := 68

def BOOTP_FIXED_SIZE : Nat := 236

/-- `b"\x63\x82\x53\x63"`. -/
def MAGIC_COOKIE : Octets := [0x63, 0x82, 0x53, 0x63]

def cookieEnd : Nat := BOOTP_FIXED_SIZE + MAGIC_COOKIE.length

def HTYPE_ETHERNET : Nat := 1

def bootpReply : Nat := 2

inductive DhcpMessageType
  | DISCOVER
  | OFFER
  | REQUEST
  | DECLINE
  | ACK
  | NAK
  | RELEASE
  | INFORM
  deriving DecidableEq

def knownMessageType (value : UInt8) : Option DhcpMessageType :=
  match value.toNat with
  | 1 => some .DISCOVER
  | 2 => some .OFFER
  | 3 => some .REQUEST
  | 4 => some .DECLINE
  | 5 => some .ACK
  | 6 => some .NAK
  | 7 => some .RELEASE
  | 8 => some .INFORM
  | _ => none

/-! ### From a frame to a datagram -/

/-- Whether a buffer is an IPv4 UDP packet with no link header. -/
def looksLikeBareIpv4 (frame : Octets) : Bool :=
  match ipv4HeaderLength frame with
  | none => false
  | some headerLen =>
    if octet frame 9 ≠ IPPROTO_UDP then false
    else
      -- the first octet may be that of an Ethernet destination
      let totalLen := bigEndian (slice frame 2 4)
      headerLen ≤ frame.length && headerLen ≤ totalLen && totalLen ≤ frame.length

/-- `_ip_payload`: the IPv4 packet inside a captured frame. -/
def ipPayload (frame : Octets) : Option Octets :=
  if looksLikeBareIpv4 frame then some frame
  else if frame.length < ETHERNET_HEADER_SIZE then none
  else if bigEndian (slice frame 12 14) = ETH_P_VLAN then
    if frame.length < ETHERNET_HEADER_SIZE + 4 then none
    else if bigEndian (slice frame 16 18) ≠ ETH_P_IP then none
    else some (frame.drop (ETHERNET_HEADER_SIZE + 4))
  else if bigEndian (slice frame 12 14) ≠ ETH_P_IP then none
  else some (frame.drop ETHERNET_HEADER_SIZE)

/-- A UDP datagram that left a DHCP server. -/
structure ServerDatagram where
  serverIp : Text
  body : Octets
  deriving DecidableEq

/-- `_udp_payload`: the server address and BOOTP body of a reply. -/
def udpPayload (packet : Octets) : Option ServerDatagram :=
  match ipv4HeaderLength packet with
  | none => none
  | some headerLen =>
    if octet packet 9 ≠ IPPROTO_UDP then none
    -- a later fragment has no UDP header
    else if bigEndian (slice packet 6 8) &&& 0x1fff ≠ 0 then none
    else if packet.length < headerLen + UDP_HEADER_SIZE then none
    else
      let sourcePort := bigEndian (slice packet headerLen (headerLen + 2))
      let destinationPort := bigEndian (slice packet (headerLen + 2) (headerLen + 4))
      if sourcePort ≠ DHCP_SERVER_PORT ∨
          (destinationPort ≠ DHCP_SERVER_PORT ∧ destinationPort ≠ DHCP_CLIENT_PORT) then none
      else some ⟨inetNtoa (slice packet 12 16), packet.drop (headerLen + UDP_HEADER_SIZE)⟩

/-! ### Options -/

/-- The option walk from one option's code on; the first octets of the rest, as
many as `skip` says, are the data of an option already read. -/
def walkOptions : (skip : Nat) → Octets → Option DhcpMessageType
  | _, [] => none
  | skip + 1, _ :: rest => walkOptions skip rest
  | 0, [code] => if code = 0 then walkOptions 0 [] else none
  | 0, code :: length :: data =>
    if code = 255 then none
    else if code = 0 then walkOptions 0 (length :: data)
    else if data.length < length.toNat then none
    else if code = 53 ∧ 1 ≤ length.toNat then knownMessageType (data.getD 0 0)
    else walkOptions length.toNat data

/-- `_message_type`: option 53, when there is one. -/
def messageType (body : Octets) : Option DhcpMessageType :=
  if body.length < cookieEnd ∨ slice body BOOTP_FIXED_SIZE cookieEnd ≠ MAGIC_COOKIE then none
  else walkOptions 0 (body.drop cookieEnd)

/-! ### Replies -/

def ipv4Text (value : Text) : Except PyError Text :=
  match requireAddress value .IPV4 with
  | .error e => .error e
  | .ok (.v4 ip) => .ok (inetNtoa (packedNat 4 ip.toNat))
  -- the other family has been refused
  | .ok (.v6 _) => .error (.value [])

/-- **Four octets written out are an IPv4 text**, in the form the validator writes. -/
theorem ipv4Text_inetNtoa {b : Octets} (h : b.length = 4) :
    ipv4Text (inetNtoa b) = .ok (inetNtoa b) := by
  have hlt : bigEndian b < 2 ^ 32 := by
    have := bigEndian_lt b
    rw [h] at this
    exact this
  have hpacked : packedNat 4 (bigEndian b) = b := by
    have := packedNat_bigEndian b
    rwa [h] at this
  have hread : requireAddress (inetNtoa b) .IPV4 = .ok (.v4 (BitVec.ofNat 32 (bigEndian b))) := by
    rw [requireAddress, parseAddress, ipAddress, ipv4Address_inetNtoa h]
    rfl
  rw [ipv4Text, hread]
  dsimp only
  rw [BitVec.toNat_ofNat, Nat.mod_eq_of_lt hlt, hpacked]

def offeredIpv4Text (value : Text) : Except PyError Text :=
  match requireAddress value .IPV4 with
  | .error e => .error e
  | .ok address =>
    -- an IPv4 address has the same properties in every version of Python
    if address.isUnspecified .since313 then
      .error (.value [.text value,
        say " hands out no address: a request and a DHCPNAK carry it, an offer never does"])
    else ipv4Text value

def MAX_TRANSACTION_ID : Nat := 0xFFFFFFFF

/-- A server reply handing an address to one hardware address. -/
structure DhcpReply where
  clientMac : Text
  offeredIp : Text
  serverIp : Text
  transactionId : Nat
  messageType : Option DhcpMessageType
  client_canonical : canonicalMac clientMac = .ok clientMac
  offered_canonical : ∃ v, offeredIpv4Text v = .ok offeredIp
  server_canonical : ∃ v, ipv4Text v = .ok serverIp
  xid_le : transactionId ≤ MAX_TRANSACTION_ID
  deriving DecidableEq

namespace DhcpReply

/-- `DhcpReply(...)`. -/
def make (clientMac offeredIp serverIp : Text) (transactionId : Nat)
    (messageType : Option DhcpMessageType) : Except PyError DhcpReply :=
  match hc : canonicalMac clientMac with
  | .error e => .error e
  | .ok client =>
    match ho : offeredIpv4Text offeredIp with
    | .error e => .error e
    | .ok offered =>
      match hs : ipv4Text serverIp with
      | .error e => .error e
      | .ok server =>
        if hx : transactionId ≤ MAX_TRANSACTION_ID then
          .ok ⟨client, offered, server, transactionId, messageType, (canonicalMac_eq_ok hc).2,
            ⟨_, ho⟩, ⟨_, hs⟩, hx⟩
        else .error (.value [say "Input should be less than or equal to 4294967295"])

/-- What a BOOTP message from a server says. -/
def fromDatagram (datagram : ServerDatagram) : Except PyError (Option DhcpReply) :=
  let body := datagram.body
  if body.length < BOOTP_FIXED_SIZE then .ok none
  else if octet body 0 ≠ bootpReply ∨ (octet body 1, octet body 2) ≠ (HTYPE_ETHERNET, MAC_LENGTH) ∨
      slice body 16 20 = [0, 0, 0, 0] then .ok none
  else
    match formatMac (slice body 28 34) with
    | none => .ok none
    | some clientMac =>
      (make clientMac (inetNtoa (slice body 16 20)) datagram.serverIp (bigEndian (slice body 4 8))
        (IPScout.messageType body)).map some

def fromPacket (packet : Octets) : Except PyError (Option DhcpReply) :=
  match udpPayload packet with
  | none => .ok none
  | some datagram => fromDatagram datagram

/-- `DhcpReply.from_frame`: the reply a captured frame carries. -/
def fromFrame (frame : Octets) : Except PyError (Option DhcpReply) :=
  match ipPayload frame with
  | none => .ok none
  | some packet => fromPacket packet

theorem make_ok {clientMac offeredIp serverIp client offered server : Text} {xid : Nat}
    (type : Option DhcpMessageType) (hc : canonicalMac clientMac = .ok client)
    (ho : offeredIpv4Text offeredIp = .ok offered) (hs : ipv4Text serverIp = .ok server)
    (hx : xid ≤ MAX_TRANSACTION_ID) : ∃ r, make clientMac offeredIp serverIp xid type = .ok r := by
  unfold make
  split
  · next e he =>
    rw [hc] at he
    simp at he
  · split
    · next e he =>
      rw [ho] at he
      simp at he
    · split
      · next e he =>
        rw [hs] at he
        simp at he
      · rw [dif_pos hx]
        exact ⟨_, rfl⟩

/-- A record has the server address it was built with, as `ipv4Text` writes it. -/
theorem serverIp_of_make {client offered server : Text} {xid : Nat}
    {type : Option DhcpMessageType} {r : DhcpReply}
    (h : make client offered server xid type = .ok r) :
    ipv4Text server = .ok r.serverIp := by
  unfold make at h
  split at h
  · simp at h
  · split at h
    · simp at h
    · split at h
      · simp at h
      · next hs =>
        split at h
        · rw [← Except.ok.inj h]
          exact hs
        · simp at h

theorem serverIp_of_fromDatagram {datagram : ServerDatagram} {r : DhcpReply}
    (h : fromDatagram datagram = .ok (some r)) : ipv4Text datagram.serverIp = .ok r.serverIp := by
  rw [fromDatagram] at h
  split at h
  · simp at h
  · split at h
    · simp at h
    · split at h
      · simp at h
      · cases hmake : make _ _ datagram.serverIp _ _ with
        | error e =>
          rw [hmake] at h
          simp [Except.map] at h
        | ok r' =>
          rw [hmake] at h
          simp only [Except.map, Except.ok.injEq, Option.some.injEq] at h
          rw [← h]
          exact serverIp_of_make hmake

theorem serverIp_of_udpPayload {packet : Octets} {datagram : ServerDatagram}
    (h : udpPayload packet = some datagram) :
    datagram.serverIp = inetNtoa (slice packet 12 16) := by
  rw [udpPayload] at h
  split at h
  · simp at h
  · split at h
    · simp at h
    · split at h
      · simp at h
      · split at h
        · simp at h
        · dsimp only at h
          split at h
          · simp at h
          · rw [← Option.some.inj h]

/-- **A reply names the IPv4 source of the packet it was read from.** -/
theorem serverIp_of_fromPacket {packet : Octets} {r : DhcpReply}
    (h : fromPacket packet = .ok (some r)) :
    ipv4Text (inetNtoa (slice packet 12 16)) = .ok r.serverIp := by
  rw [fromPacket] at h
  cases hudp : udpPayload packet with
  | none =>
    rw [hudp] at h
    simp at h
  | some datagram =>
    rw [hudp] at h
    rw [← serverIp_of_udpPayload hudp]
    exact serverIp_of_fromDatagram h

end DhcpReply

end IPScout
