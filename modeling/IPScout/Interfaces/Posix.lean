import IPScout.Base.Utf8
import IPScout.Interfaces.Listing
import IPScout.Neighbours.Netlink
import IPScout.Routes.Dump

/-!
# Interfaces on POSIX

`interfaces_posix.py` walks the chain `getifaddrs` hands out: one entry for each address of each
interface and one for its hardware address, those of different interfaces in any order.  Linux
and the BSDs begin a sockaddr differently and keep a hardware address in different places.
-/

namespace IPScout.InterfacesPosix

open Base Base.Octets Base.Text Listing

/-! ### Sockaddrs -/

/-- How a sockaddr begins: Linux with two octets of the family, in the order of the host, the BSDs
with a length and one octet of the family. -/
inductive Sockaddrs
  | linux (order : ByteOrder)
  | bsd

def IFF_UP : ℕ := 0x1
def IFF_LOOPBACK : ℕ := 0x8

def AF_PACKET : ℕ := 17
def AF_LINK : ℕ := 18

def SOCKADDR_MAX : ℕ := 128

/-- `socket.AF_INET` and `socket.AF_INET6`. -/
def Sockaddrs.number : Sockaddrs → AddressFamily → ℕ
  | .linux _, family => RoutesLinux.socketFamily family
  | .bsd, family => afInet family

/-- `_raw_bytes`, of the memory a sockaddr begins. -/
def rawBytes (sockaddr : Octets) : Octets := sockaddr.take SOCKADDR_MAX

def familyOf (s : Sockaddrs) (sockaddr : Octets) : ℕ :=
  match s with
  | .linux order => order.read (slice sockaddr 0 2)
  | .bsd => (littleEndian (slice sockaddr 0 2) / 256) % 256

def addressOffset : AddressFamily → ℕ
  | .IPV4 => 4
  | .IPV6 => 8

/-- The octets where an address of a family is kept. -/
def addressField (family : AddressFamily) (sockaddr : Octets) : Octets :=
  slice (rawBytes sockaddr) (addressOffset family) (addressOffset family + family.packedSize)

/-- The address of a sockaddr of a family, unless it is cut short. -/
def decodedAddress (family : AddressFamily) (sockaddr : Octets) : Option (AddressFamily × Text) :=
  if (addressField family sockaddr).length ≠ family.packedSize then none
  else some (family, inetNtop family (addressField family sockaddr))

def addressOf (s : Sockaddrs) (sockaddr : Octets) : Option (AddressFamily × Text) :=
  if familyOf s sockaddr = s.number .IPV4 then decodedAddress .IPV4 sockaddr
  else if familyOf s sockaddr = s.number .IPV6 then decodedAddress .IPV6 sockaddr
  else none

/-- `bin(byte).count("1")`. -/
def onesOf (byte : UInt8) : ℕ := (Nat.toDigits 2 byte.toNat).count '1'

def prefixLength (netmask : Option Octets) (family : AddressFamily) : ℕ :=
  match netmask with
  | none => family.packedSize * 8
  | some mask => ((addressField family mask).map onesOf).sum

def macOf (s : Sockaddrs) (sockaddr : Octets) : Option Text :=
  let raw := rawBytes sockaddr
  match s with
  | .linux _ =>
    if familyOf s sockaddr ≠ AF_PACKET then none
    else
      let halen := octet raw 11
      if ¬ (1 ≤ halen ∧ halen ≤ 8) then none
      else formatHardwareAddress (slice raw 12 (12 + halen))
  | .bsd =>
    if familyOf s sockaddr ≠ AF_LINK then none
    else
      let nlen := octet raw 5
      let alen := octet raw 6
      if ¬ (1 ≤ alen ∧ alen ≤ 8) ∨ nlen > 64 then none
      else formatHardwareAddress (slice raw (8 + nlen) (8 + nlen + alen))

/-! ### The walk -/

/-- `struct ifaddrs`; each sockaddr is the memory it begins. -/
structure IfAddrs where
  name : Option Octets
  flags : ℕ
  addr : Option Octets
  netmask : Option Octets

structure Accumulator where
  flags : ℕ
  ipv4 : List Subnets.InterfaceAddress
  ipv6 : List Subnets.InterfaceAddress
  mac : Option Text

/-- The name an entry is about; it may have none. -/
def IfAddrs.text (entry : IfAddrs) : Text :=
  match entry.name with
  | none => []
  | some name => decodeUtf8 name

/-- `_absorb`; `none` is a refused address. -/
def absorb (s : Sockaddrs) (record : Accumulator) (entry : IfAddrs) : Option Accumulator :=
  match entry.addr with
  | none => some record
  | some sockaddr =>
    match macOf s sockaddr with
    | some mac => some { record with mac := some mac }
    | none =>
      match addressOf s sockaddr with
      | none => some record
      | some (family, address) =>
        (makeAddress address (prefixLength entry.netmask family)).map fun found =>
          match family with
          | .IPV6 => { record with ipv6 := record.ipv6 ++ [found] }
          | .IPV4 => { record with ipv4 := record.ipv4 ++ [found] }

/-- One turn of the loop of `list_interfaces`. -/
def collect (s : Sockaddrs) (collected : Dict Text Accumulator) (entry : IfAddrs) :
    Option (Dict Text Accumulator) :=
  if entry.text = [] then some collected
  else
    (absorb s ((collected.get? entry.text).getD ⟨entry.flags, [], [], none⟩) entry).map
      fun record => collected.set entry.text record

/-! ### Records -/

/-- What a host answers about an interface it names. -/
structure PosixHost where
  /-- The digits `int` reads. -/
  table : DigitTable
  /-- `socket.if_nametoindex`. -/
  ifNametoindex : Text → Option ℕ
  /-- The text of `/sys/class/net/<name>/mtu`. -/
  sysfsMtu : Text → Option Text
  /-- The answer to `SIOCGIFMTU`, by the `struct ifreq` of the request. -/
  ioctlMtu : Octets → Option Octets

def IFREQ_SIZE : ℕ := 32
def IFNAME_MAX : ℕ := 15

/-- `value or None`. -/
def orNone {α : Type} [Zero α] [DecidableEq α] (value : α) : Option α :=
  if value = 0 then none else some value

/-- The request of `_mtu_by_ioctl`. -/
def ifreq (name : Text) : Octets :=
  let shortened := (encodeUtf8 name).take IFNAME_MAX
  shortened ++ List.replicate (IFREQ_SIZE - shortened.length) 0

/-- `_mtu_of`, and `_mtu_by_ioctl`. -/
def mtuOf (s : Sockaddrs) (host : PosixHost) (name : Text) : Option ℤ :=
  match s with
  | .linux _ => ((host.sysfsMtu name).bind fun text => readInt host.table (strip text)).bind orNone
  | .bsd => (host.ioctlMtu (ifreq name)).bind fun answer =>
      orNone (littleEndian (slice answer 16 20) : ℤ)

def Accumulator.toInterface (s : Sockaddrs) (host : PosixHost) (name : Text)
    (record : Accumulator) : Option Interface :=
  InterfaceFields.make
    { name := name
      index := host.ifNametoindex name
      ipv4 := record.ipv4
      ipv6 := record.ipv6
      mac := record.mac
      isUp := record.flags &&& IFF_UP != 0
      isLoopback := record.flags &&& IFF_LOOPBACK != 0
      mtu := mtuOf s host name }

/-- `list_interfaces`, by the chain `getifaddrs` hands out, if it does; the outer `none` is a
record that is refused. -/
def listInterfaces (s : Sockaddrs) (host : PosixHost) :
    Option (List IfAddrs) → Option (List Interface)
  | none => some []
  | some entries => do
    let collected ← entries.foldlM (collect s) Dict.empty
    collected.entries.mapM fun (name, record) => record.toInterface s host name

end IPScout.InterfacesPosix
