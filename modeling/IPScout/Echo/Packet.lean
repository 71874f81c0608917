import IPScout.Net.Address

/-!
# Echo datagrams

`packet.py`: what a received datagram says about the probe it answers.  Every
function here is total over octet strings.

An echo request of ours carries a payload of `MAGIC`, a token of eight octets
and filler, and a peer echoes it back.  A datagram may begin at the ICMP header
or at an IPv4 header before it (`stripIpHeader` tells them apart by the version
nibble); a router's Time Exceeded quotes the IP header and the start of the
request it discarded (`quotedEchoRequest`).

The fields of a decoded header are of the width the header gives them, which is
the range the record's own checks ask for.
-/

namespace IPScout

open Base Base.Octets

/-! ### The constants of the format -/

/-- An ICMP echo header: type, code, checksum, identifier, sequence. -/
def HEADER_SIZE : Nat := 8

/-- `b"IPSCOUT1"`. -/
def MAGIC : Octets := [0x49, 0x50, 0x53, 0x43, 0x4f, 0x55, 0x54, 0x31]

def TOKEN_SIZE : Nat := 8

def MIN_PAYLOAD_SIZE : Nat := MAGIC.length + TOKEN_SIZE

def IPV4_MIN_HEADER_SIZE : Nat := 20

def IPV6_HEADER_SIZE : Nat := 40

def UDP_HEADER_SIZE : Nat := 8

def MAX_IP_LENGTH : Nat := 65535

def MAX_PAYLOAD_SIZE_IPV4 : Nat := MAX_IP_LENGTH - IPV4_MIN_HEADER_SIZE - HEADER_SIZE

def MAX_PAYLOAD_SIZE_IPV6 : Nat := MAX_IP_LENGTH - HEADER_SIZE

/-- The most ICMP payload one echo of a family can carry. -/
def maxPayloadSize : AddressFamily → Nat
  | .IPV4 => MAX_PAYLOAD_SIZE_IPV4
  | .IPV6 => MAX_PAYLOAD_SIZE_IPV6

def maxFillerSize : Nat := MAX_PAYLOAD_SIZE_IPV6 - MIN_PAYLOAD_SIZE

def echoRequest : AddressFamily → UInt8
  | .IPV4 => 8
  | .IPV6 => 128

def echoReply : AddressFamily → UInt8
  | .IPV4 => 0
  | .IPV6 => 129

def timeExceeded : AddressFamily → UInt8
  | .IPV4 => 11
  | .IPV6 => 3

/-- The value naming ICMP in an IP header's protocol field. -/
def icmpProtocol : AddressFamily → UInt8
  | .IPV4 => 1
  | .IPV6 => 58

/-! ### Payloads -/

/-- A token: random octets unique to one request. -/
abbrev Token := { token : Octets // token.length = TOKEN_SIZE }

/-- The identifying content carried inside an echo request. -/
structure EchoPayload where
  token : Token
  filler : Octets
  filler_le : filler.length ≤ maxFillerSize
  deriving DecidableEq

namespace EchoPayload

/-- The payload as it goes on the wire. -/
def toBytes (p : EchoPayload) : Octets := MAGIC ++ p.token.val ++ p.filler

/-- The payload wire octets carry; `none` when it is foreign. -/
def fromBytes (raw : Octets) : Option EchoPayload :=
  if h : (MIN_PAYLOAD_SIZE ≤ raw.length ∧ raw.length ≤ MAX_PAYLOAD_SIZE_IPV6) ∧
      MAGIC.isPrefixOf raw then
    some {
      token := ⟨slice raw MAGIC.length (MAGIC.length + TOKEN_SIZE), by
        have hlen := h.1.1
        rw [length_slice]
        simp only [MIN_PAYLOAD_SIZE] at hlen
        omega⟩
      filler := raw.drop (MAGIC.length + TOKEN_SIZE)
      filler_le := by
        have hlen := h.1.2
        rw [List.length_drop, maxFillerSize, MIN_PAYLOAD_SIZE]
        omega }
  else none

/-- **A payload reads back as itself.** -/
theorem fromBytes_toBytes (p : EchoPayload) : fromBytes p.toBytes = some p := by
  obtain ⟨⟨token, htoken⟩, filler, hfiller⟩ := p
  have hpre : (MAGIC ++ token).length = MAGIC.length + TOKEN_SIZE := by
    rw [List.length_append, htoken]
  have hlen : (MAGIC ++ token ++ filler).length = MIN_PAYLOAD_SIZE + filler.length := by
    rw [List.length_append, hpre, MIN_PAYLOAD_SIZE]
  have hmax : MIN_PAYLOAD_SIZE + maxFillerSize = MAX_PAYLOAD_SIZE_IPV6 := by decide
  have hours : (MIN_PAYLOAD_SIZE ≤ (MAGIC ++ token ++ filler).length ∧
      (MAGIC ++ token ++ filler).length ≤ MAX_PAYLOAD_SIZE_IPV6) ∧
      MAGIC.isPrefixOf (MAGIC ++ token ++ filler) := by
    refine ⟨⟨by omega, by omega⟩, ?_⟩
    rw [List.isPrefixOf_iff_prefix, List.append_assoc]
    exact List.prefix_append _ _
  have htok : slice (MAGIC ++ token ++ filler) MAGIC.length (MAGIC.length + TOKEN_SIZE)
      = token := by
    rw [List.append_assoc]
    exact slice_append_append rfl (by rw [htoken])
  have hfil : (MAGIC ++ token ++ filler).drop (MAGIC.length + TOKEN_SIZE) = filler := by
    rw [← hpre, List.drop_left]
  rw [toBytes, fromBytes, dif_pos hours]
  simp only [htok, hfil]

end EchoPayload

/-! ### Headers -/

/-- The fields of a decoded echo message that identify which probe it answers. -/
structure ParsedReply where
  icmpType : UInt8
  code : UInt8
  identifier : UInt16
  sequence : UInt16
  payload : Option EchoPayload
  deriving DecidableEq

/-- The echoed token, or `none` when the message was not ours. -/
def ParsedReply.token (p : ParsedReply) : Option Token := p.payload.map EchoPayload.token

def uint16At (b : Octets) (i : Nat) : UInt16 := UInt16.ofNat (bigEndian (slice b i (i + 2)))

/-- The length of the IPv4 header a datagram starts with, if it starts with one. -/
def ipv4HeaderLength (datagram : Octets) : Option Nat :=
  if datagram.length < IPV4_MIN_HEADER_SIZE ∨
      octet datagram 0 / 16 ≠ AddressFamily.IPV4.ipVersion then none
  else
    let headerLen := octet datagram 0 % 16 * 4
    if IPV4_MIN_HEADER_SIZE ≤ headerLen then some headerLen else none

/-- The datagram with any leading IPv4 header removed. -/
def stripIpHeader (datagram : Octets) : Octets :=
  match ipv4HeaderLength datagram with
  | none => datagram
  | some headerLen => if datagram.length ≤ headerLen then datagram else datagram.drop headerLen

def parseEchoReply (datagram : Octets) : Option ParsedReply :=
  let body := stripIpHeader datagram
  if body.length < HEADER_SIZE then none
  else some {
    icmpType := body.getD 0 0
    code := body.getD 1 0
    identifier := uint16At body 4
    sequence := uint16At body 6
    payload := EchoPayload.fromBytes (body.drop HEADER_SIZE) }

def isEchoReply (parsed : ParsedReply) (family : AddressFamily) : Bool :=
  parsed.icmpType == echoReply family

def isTimeExceeded (datagram : Octets) (family : AddressFamily) : Bool :=
  match stripIpHeader datagram with
  | [] => false
  | first :: _ => first == timeExceeded family

/-- Octets read as one of our echo requests. -/
def parseEchoRequest (datagram : Octets) (family : AddressFamily) : Option ParsedReply :=
  if datagram.length < HEADER_SIZE then none
  else
    match parseEchoReply datagram with
    | none => none
    | some parsed => if parsed.icmpType = echoRequest family then some parsed else none

/-! ### Quoted requests -/

/-- The echo request a Time Exceeded message quotes, and where it was going. -/
structure QuotedRequest where
  request : ParsedReply
  destination : Octets
  deriving DecidableEq

/-- The IP header a Time Exceeded body quotes, and its length. -/
def quotedHeader (body : Octets) (family : AddressFamily) : Option (Octets × Nat) :=
  let quoted := body.drop HEADER_SIZE
  match family with
  | .IPV6 =>
    if quoted.length < IPV6_HEADER_SIZE ∨
        octet quoted 0 / 16 ≠ AddressFamily.IPV6.ipVersion then none
    else some (quoted, IPV6_HEADER_SIZE)
  | .IPV4 => (ipv4HeaderLength quoted).map fun headerLen => (quoted, headerLen)

/-- Where the protocol octet sits in a quoted IP header. -/
def protocolOffset : AddressFamily → Nat
  | .IPV4 => 9
  | .IPV6 => 6

/-- The destination address of a quoted IP header, packed. -/
def quotedDestination (header : Octets) : AddressFamily → Octets
  | .IPV4 => slice header 16 20
  | .IPV6 => slice header 24 40

/-- The echo request a received Time Exceeded message quotes. -/
def quotedEchoRequest (datagram : Octets) (family : AddressFamily) : Option QuotedRequest :=
  if isTimeExceeded datagram family = false then none
  else
    match quotedHeader (stripIpHeader datagram) family with
    | none => none
    | some (header, headerLen) =>
      if header.getD (protocolOffset family) 0 ≠ icmpProtocol family then none
      else
        (parseEchoRequest (header.drop headerLen) family).map fun request =>
          ⟨request, quotedDestination header family⟩

/-! ### What the readers accept -/

theorem ipv4HeaderLength_eq_some {b : Octets} {n : Nat} : ipv4HeaderLength b = some n ↔
    IPV4_MIN_HEADER_SIZE ≤ b.length ∧ octet b 0 / 16 = 4 ∧ 5 ≤ octet b 0 % 16 ∧
      n = octet b 0 % 16 * 4 := by
  have h20 : IPV4_MIN_HEADER_SIZE = 20 := rfl
  have h4 : AddressFamily.IPV4.ipVersion = 4 := rfl
  rw [ipv4HeaderLength]
  constructor
  · intro h
    split at h
    · simp at h
    · dsimp only at h
      split at h
      · have := Option.some.inj h
        omega
      · simp at h
  · rintro ⟨hlen, hversion, hihl, rfl⟩
    rw [if_neg (by omega)]
    dsimp only
    rw [if_pos (by omega)]

/-- **A datagram is not both an echo reply and a Time Exceeded**: the two are told
apart by the one type octet. -/
theorem quotedEchoRequest_of_isEchoReply {datagram : Octets} {parsed : ParsedReply}
    {family : AddressFamily} (hparsed : parseEchoReply datagram = some parsed)
    (hreply : isEchoReply parsed family = true) : quotedEchoRequest datagram family = none := by
  rw [quotedEchoRequest, if_pos]
  simp only [parseEchoReply] at hparsed
  split at hparsed
  · simp at hparsed
  · next hlen =>
    have hp := Option.some.inj hparsed
    subst hp
    simp only [isEchoReply, beq_iff_eq] at hreply
    rw [isTimeExceeded]
    cases hbody : stripIpHeader datagram with
    | nil => rfl
    | cons first rest =>
      rw [hbody, List.getD_cons_zero] at hreply
      subst hreply
      cases family <;> rfl

end IPScout
