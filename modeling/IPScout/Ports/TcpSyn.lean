import IPScout.Echo.Request
import IPScout.Routes.Message

/-!
# TCP SYN packets

`tcpsyn.py`: the SYN a half-open scan sends, and what a packet of a raw socket says
about a port.

A port is a number of 16 bits and a sequence number one of 32, which is what the
headers have room for.  Every reader is total: a packet that is no answer to the scan
reads as `none`.
-/

namespace IPScout

open Base Base.Octets

/-! ### The constants of the headers -/

def TCP_HEADER_SIZE : ℕ := 20

def SYN : UInt8 := 0x02

def RST : UInt8 := 0x04

def ACK : UInt8 := 0x10

def IPPROTO_TCP : UInt8 := 6

/-- `_VERSION_IHL`: an IPv4 header with no options. -/
def VERSION_IHL : UInt8 := 0x45

def DEFAULT_TTL : UInt8 := 64

/-- `_DATA_OFFSET`: a TCP header with no options. -/
def DATA_OFFSET : UInt8 := 0x50

def WINDOW : ℕ := 65535

/-! ### The packet that is sent -/

/-- `_IPV4.pack`, for a packet of a scan. -/
def packIpv4 (total checksum : ℕ) (source target : Octets) : Octets :=
  [VERSION_IHL, 0] ++ packedNat 2 total ++ packedNat 2 0 ++ packedNat 2 0 ++
    [DEFAULT_TTL, IPPROTO_TCP] ++ packedNat 2 checksum ++ source ++ target

/-- `_TCP.pack`, for a SYN. -/
def packTcp (sourcePort targetPort : UInt16) (sequence : UInt32) (checksum : ℕ) : Octets :=
  packedNat 2 sourcePort.toNat ++ packedNat 2 targetPort.toNat ++ packedNat 4 sequence.toNat ++
    packedNat 4 0 ++ [DATA_OFFSET, SYN] ++ packedNat 2 WINDOW ++ packedNat 2 checksum ++
    packedNat 2 0

def pseudoHeader (source target : Octets) (length : ℕ) : Octets :=
  source ++ target ++ [0, IPPROTO_TCP] ++ packedNat 2 length

/-- The TCP header of a SYN, with the checksum over its pseudo-header. -/
def synSegment (source target : Octets) (sourcePort targetPort : UInt16) (sequence : UInt32) :
    Octets :=
  let blank := packTcp sourcePort targetPort sequence 0
  packTcp sourcePort targetPort sequence
    (checksum (pseudoHeader source target blank.length ++ blank))

/-- The IPv4 header in front of a segment, with its checksum. -/
def synHeader (source target : Octets) (length : ℕ) : Octets :=
  let total := IPV4_MIN_HEADER_SIZE + length
  packIpv4 total (checksum (packIpv4 total 0 source target)) source target

def buildSyn (sourceIp targetIp : Text) (sourcePort targetPort : UInt16) (sequence : UInt32) :
    Except PyError Octets := do
  let source ← requireAddress sourceIp .IPV4
  let target ← requireAddress targetIp .IPV4
  let tcp := synSegment source.packed target.packed sourcePort targetPort sequence
  .ok (synHeader source.packed target.packed tcp.length ++ tcp)

/-! ### The packets that are read -/

/-- What a scan learned about one port. -/
inductive PortState
  | OPEN
  | CLOSED
  | FILTERED
  deriving DecidableEq

structure PortReply where
  port : UInt16
  state : PortState
  deriving DecidableEq

structure ReplyHeader where
  peerPort : UInt16
  flags : UInt8

def oursOrNone (packet : Octets) (sourcePort : UInt16) (peerIp : Option Text) :
    Option ReplyHeader :=
  match ipv4HeaderLength packet with
  | none => none
  | some headerLength =>
    if peerIp.any fun peer => inetNtoa (slice packet 12 16) ≠ peer then none
    else if packet.length < headerLength + TCP_HEADER_SIZE then none
    else if uint16At packet (headerLength + 2) = sourcePort then
      some ⟨uint16At packet headerLength, packet.getD (headerLength + 13) 0⟩
    else none

def readReply (packet : Octets) (sourcePort : UInt16) (peerIp : Option Text) : Option PortReply :=
  match oursOrNone packet sourcePort peerIp with
  | none => none
  | some ours =>
    if ours.flags &&& SYN ≠ 0 ∧ ours.flags &&& ACK ≠ 0 then some ⟨ours.peerPort, .OPEN⟩
    else if ours.flags &&& RST ≠ 0 then some ⟨ours.peerPort, .CLOSED⟩
    else none

def parseTcpReply (packet : Octets) (sourcePort targetPort : UInt16) (peerIp : Option Text) :
    Option PortState :=
  match readReply packet sourcePort peerIp with
  | none => none
  | some answer => if answer.port ≠ targetPort then none else some answer.state

/-- **A SYN is its two headers**, neither of them with options. -/
theorem buildSyn_eq {sourceIp targetIp : Text} {source target : IPAddress}
    (hsource : requireAddress sourceIp .IPV4 = .ok source)
    (htarget : requireAddress targetIp .IPV4 = .ok target) (sourcePort targetPort : UInt16)
    (sequence : UInt32) :
    buildSyn sourceIp targetIp sourcePort targetPort sequence =
      .ok (synHeader source.packed target.packed TCP_HEADER_SIZE ++
        synSegment source.packed target.packed sourcePort targetPort sequence) := by
  rw [buildSyn, hsource, htarget]
  rfl

end IPScout
