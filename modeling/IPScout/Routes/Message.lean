import IPScout.Net.Address
import IPScout.Net.Interfaces

/-!
# Routing messages

What `bsdroute.py` and `routes_macos.py` write to a routing socket and read from it.
`parseRouteReply` is a pure function of the octets of one message: it checks the
header (`usable`) and reads the route out of the sockaddrs that follow.

The machines with such sockets store a number lowest octet first.  The signed fields
of the header are read unsigned here: they are compared with zero or with a positive
number, or looked at bit by bit.
-/

namespace IPScout

open Base Base.Octets

/-! ### The header -/

def RTA_DST : ℕ := 0x01
def RTA_GATEWAY : ℕ := 0x02
def RTA_NETMASK : ℕ := 0x04
def RTA_GENMASK : ℕ := 0x08
def RTA_IFP : ℕ := 0x10
def RTA_IFA : ℕ := 0x20
def RTA_AUTHOR : ℕ := 0x40
def RTA_BRD : ℕ := 0x80

def RTF_UP : ℕ := 0x0001
def RTF_GATEWAY : ℕ := 0x0002

def RTM_GET : ℕ := 0x04
def RTM_VERSION : ℕ := 5

def RT_METRICS_SIZE : ℕ := 56

/-- `RT_MSGHDR.size`, of `=HBBH2xiiiiiiI56s`. -/
def RT_MSGHDR_SIZE : ℕ := 92

/-- The fields of `RT_MSGHDR` that a reply is read by. -/
structure RtMsghdr where
  messageLength : ℕ
  messageType : ℕ
  index : ℕ
  flags : ℕ
  addrs : ℕ
  pid : ℕ
  seq : ℕ
  errno : ℕ
  deriving DecidableEq

def RtMsghdr.unpack (data : Octets) : RtMsghdr where
  messageLength := littleEndian (slice data 0 2)
  messageType := octet data 3
  index := littleEndian (slice data 4 6)
  flags := littleEndian (slice data 8 12)
  addrs := littleEndian (slice data 12 16)
  pid := littleEndian (slice data 16 20)
  seq := littleEndian (slice data 20 24)
  errno := littleEndian (slice data 24 28)

theorem unpack_take (data : Octets) {n : ℕ} (h : 28 ≤ n) :
    RtMsghdr.unpack (data.take n) = RtMsghdr.unpack data := by
  have hslice : ∀ lo hi, hi ≤ 28 → slice (data.take n) lo hi = slice data lo hi := by
    intro lo hi hhi
    rw [slice, slice, List.take_take, min_eq_left (show hi ≤ n by omega)]
  have hoctet : octet (data.take n) 3 = octet data 3 := by
    rw [octet, octet, List.getD_eq_getElem?_getD, List.getD_eq_getElem?_getD,
      List.getElem?_take_of_lt (by omega)]
  rw [RtMsghdr.unpack, RtMsghdr.unpack, hoctet, hslice 0 2 (by omega), hslice 4 6 (by omega),
    hslice 8 12 (by omega), hslice 12 16 (by omega), hslice 16 20 (by omega),
    hslice 20 24 (by omega), hslice 24 28 (by omega)]

/-! ### The sockaddrs -/

/-- `roundup`: a zero length still takes a slot. -/
def roundup (length : ℕ) : ℕ := if length = 0 then 4 else 1 + ((length - 1) ||| 3)

/-- `AF_INET` and `AF_INET6` of these systems. -/
def afInet : AddressFamily → ℕ
  | .IPV4 => 2
  | .IPV6 => 30

def addressOf (chunk : Octets) : Option Text :=
  if chunk.length < 2 then none
  else if octet chunk 1 = afInet .IPV4 then
    if chunk.length < 4 + 4 then none else some (inetNtop .IPV4 (slice chunk 4 8))
  else if octet chunk 1 = afInet .IPV6 then
    if chunk.length < 8 + 16 then none else some (inetNtop .IPV6 (slice chunk 8 24))
  else none

structure SockaddrSet where
  destination : Option Octets
  gateway : Option Octets
  netmask : Option Octets
  interface : Option Octets
  interfaceAddress : Option Octets
  broadcast : Option Octets
  deriving DecidableEq

def sockaddrOrder : List ℕ :=
  [RTA_DST, RTA_GATEWAY, RTA_NETMASK, RTA_GENMASK, RTA_IFP, RTA_IFA, RTA_AUTHOR, RTA_BRD]

/-- The loop of `split_sockaddrs` over the bits left, from one position on. -/
def splitFrom (payload : Octets) (addrs : ℕ) : List ℕ → ℕ → List (ℕ × Octets)
  | [], _ => []
  | bit :: bits, position =>
    if addrs &&& bit = 0 then splitFrom payload addrs bits position
    else if position + 2 > payload.length then []
    else
      let length := octet payload position
      let rest := splitFrom payload addrs bits (position + roundup length)
      if length ≠ 0 ∧ position + length ≤ payload.length then
        (bit, slice payload position (position + length)) :: rest
      else rest

def splitSockaddrs (payload : Octets) (addrs : ℕ) : SockaddrSet :=
  let found := splitFrom payload addrs sockaddrOrder 0
  { destination := found.lookup RTA_DST
    gateway := found.lookup RTA_GATEWAY
    netmask := found.lookup RTA_NETMASK
    interface := found.lookup RTA_IFP
    interfaceAddress := found.lookup RTA_IFA
    broadcast := found.lookup RTA_BRD }

/-! ### The reply -/

structure RouteInfo where
  gateway : Option Text
  interface : Option Text
  source : Option Text
  deriving DecidableEq

def parseRouteReply (env : Interfaces) (data : Octets) (pid seq : Option ℕ) : Option RouteInfo :=
  if data.length < RT_MSGHDR_SIZE then none
  else
    let header := RtMsghdr.unpack (data.take RT_MSGHDR_SIZE)
    if header.messageType ≠ RTM_GET ∨ header.errno ≠ 0 then none
    else if pid.any (header.pid ≠ ·) then none
    else if seq.any (header.seq ≠ ·) then none
    else if header.flags &&& RTF_UP = 0 then none
    else
      let stop :=
        if header.messageLength = 0 then data.length else min header.messageLength data.length
      let sockaddrs := splitSockaddrs (slice data RT_MSGHDR_SIZE stop) header.addrs
      some
        { gateway := if header.flags &&& RTF_GATEWAY = 0 then none
            else sockaddrs.gateway.bind addressOf
          interface := interfaceName env header.index
          source := sockaddrs.interfaceAddress.bind addressOf }

/-- What a reply is accepted by: everything but the sockaddrs. -/
def usable (data : Octets) (pid seq : ℕ) : Bool :=
  let header := RtMsghdr.unpack (data.take RT_MSGHDR_SIZE)
  RT_MSGHDR_SIZE ≤ data.length && header.messageType == RTM_GET && header.errno == 0 &&
    header.pid == pid && header.seq == seq && header.flags &&& RTF_UP != 0

/-- **A message is answered by exactly when its header is accepted.** -/
theorem isSome_parseRouteReply (env : Interfaces) (data : Octets) (pid seq : ℕ) :
    (parseRouteReply env data (some pid) (some seq)).isSome = usable data pid seq := by
  rw [parseRouteReply, usable]
  by_cases hlength : data.length < RT_MSGHDR_SIZE
  · rw [if_pos hlength, Option.isSome_none, decide_eq_false (Nat.not_le_of_lt hlength)]
    rfl
  · rw [if_neg hlength]
    dsimp only
    generalize RtMsghdr.unpack (data.take RT_MSGHDR_SIZE) = header
    by_cases hkind : header.messageType ≠ RTM_GET ∨ header.errno ≠ 0
    · rw [if_pos hkind]
      rcases hkind with hkind | hkind <;> simp [hkind]
    · rw [if_neg hkind]
      by_cases hpid : header.pid = pid
      · by_cases hseq : header.seq = seq
        · by_cases hup : header.flags &&& RTF_UP = 0
          · simp [hpid, hseq, hup]
          · have hgood : header.messageType = RTM_GET ∧ header.errno = 0 := by
              simpa [not_or] using hkind
            simp [hpid, hseq, hup, hgood]
            omega
        · simp [hpid, hseq]
      · simp [hpid]

/-! ### The request -/

/-- An unsigned field of `count` octets, lowest first. -/
def packedLittle (count n : ℕ) : Octets := (packedNat count n).reverse

theorem length_packedLittle (count n : ℕ) : (packedLittle count n).length = count := by
  rw [packedLittle, List.length_reverse, length_packedNat]

theorem littleEndian_packedLittle (count n : ℕ) :
    littleEndian (packedLittle count n) = n % 256 ^ count := by
  rw [littleEndian, packedLittle, List.reverse_reverse, bigEndian_packedNat]

def packSockaddrIn (address : Octets) : Octets :=
  [16, 2] ++ packedLittle 2 0 ++ address ++ List.replicate 8 0

def packSockaddrIn6 (address : Octets) : Octets :=
  [28, 30] ++ packedLittle 2 0 ++ packedLittle 4 0 ++ address ++ packedLittle 4 0

/-- `_build_request`, by the process `pid`. -/
def buildRequest (pid : ℕ) (packedDestination : Octets) (family : AddressFamily) (seq : ℕ) :
    Octets :=
  let sockaddr := match family with
    | .IPV6 => packSockaddrIn6 packedDestination
    | .IPV4 => packSockaddrIn packedDestination
  packedLittle 2 (RT_MSGHDR_SIZE + sockaddr.length) ++ [UInt8.ofNat RTM_VERSION] ++
    [UInt8.ofNat RTM_GET] ++ packedLittle 2 0 ++ [0, 0] ++ packedLittle 4 0 ++
    packedLittle 4 RTA_DST ++ packedLittle 4 pid ++ packedLittle 4 seq ++ packedLittle 4 0 ++
    packedLittle 4 0 ++ packedLittle 4 0 ++ List.replicate RT_METRICS_SIZE 0 ++ sockaddr

/-- `.packed` of an address. -/
def IPAddress.packed : IPAddress → Octets
  | v4 ip => packedNat 4 ip.toNat
  | v6 a => packedNat 16 a.ip.toNat

end IPScout
