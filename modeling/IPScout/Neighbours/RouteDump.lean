import IPScout.Neighbours.Dump
import IPScout.Routes.Sockaddrs
import Mathlib.Data.List.Forall2

/-!
# The neighbour table of macOS

`neighbours_macos.py`: a dump of the kernel's table is a list of routing messages, each an
aligned record with a header that begins with the length.  The destination of a message is
the address of a neighbour and the gateway its hardware address.

A dump gives the records of its messages in order, of those about a host of the family asked
for whose hardware address is not zero (`parseNeighbourDump_messages`).  Octets that are no
dump are decoded as well (`exists_parseNeighbourDump`).
-/

namespace IPScout.NeighboursMacos

open Base Base.Octets

/-! ### The decoder -/

/-- The messages the loop of `parse_neighbour_dump` reads, from one position on. -/
def dumpMessages (data : Octets) (position : ℕ) : List (RtMsghdr × Octets) :=
  if _h : position + RT_MSGHDR_SIZE ≤ data.length then
    let header := RtMsghdr.unpack (slice data position (position + RT_MSGHDR_SIZE))
    if header.messageLength < RT_MSGHDR_SIZE ∨
        position + header.messageLength > data.length then []
    else
      (header, slice data (position + RT_MSGHDR_SIZE) (position + header.messageLength)) ::
        dumpMessages data (position + roundup header.messageLength)
  else []
termination_by data.length - position
decreasing_by
  have hsize : 0 < RT_MSGHDR_SIZE := by decide
  exact Nat.sub_lt_sub_left (by omega) (Nat.lt_add_of_pos_right (roundup_pos _))

def neighbourFromMessage (env : Interfaces) (family : AddressFamily) (header : RtMsghdr)
    (payload : Octets) : Except PyError (Option NeighbourRecord) :=
  let sockaddrs := splitSockaddrs payload header.addrs
  match sockaddrs.destination.bind addressOf, sockaddrs.gateway.bind linkAddressOf with
  | some ip, some mac =>
    match parseAddress ip with
    | .error e => .error e
    | .ok address =>
      if !namesANeighbour env.python address || address.version != family.ipVersion then .ok none
      else
        (NeighbourRecord.make ip mac (interfaceName env header.index) .OTHER family).map some
  | _, _ => .ok none

def readMessages (env : Interfaces) (family : AddressFamily) :
    List (RtMsghdr × Octets) → List NeighbourRecord → Except PyError (List NeighbourRecord)
  | [], found => .ok found
  | (header, payload) :: rest, found =>
    match neighbourFromMessage env family header payload with
    | .error e => .error e
    | .ok neighbour => readMessages env family rest (found ++ neighbour.toList)

def parseNeighbourDump (env : Interfaces) (data : Octets) (family : AddressFamily) :
    Except PyError (List NeighbourRecord) :=
  readMessages env family (dumpMessages data 0) []

/-! ### Messages as records -/

/-- A routing message: the header begins with the length. -/
def RTMSG : RecordFormat where
  size := RT_MSGHDR_SIZE
  lengthOf header := littleEndian (slice header 0 2)
  size_pos := by decide

theorem roundup_eq_aligned {length : ℕ} (h : 0 < length) : roundup length = aligned length :=
  roundup_eq h

/-- **The loop walks over aligned records.** -/
theorem dumpMessages_eq (data : Octets) {fuel position : ℕ} (h : data.length ≤ position + fuel) :
    dumpMessages data position = (recordsFrom RTMSG data fuel position).map fun m =>
      (RtMsghdr.unpack m.1, m.2) := by
  have hsize : 0 < RT_MSGHDR_SIZE := by decide
  have hformat : RTMSG.size = RT_MSGHDR_SIZE := rfl
  induction fuel generalizing position with
  | zero =>
    rw [dumpMessages, dif_neg (by omega)]
    rfl
  | succ fuel ih =>
    rw [dumpMessages, recordsFrom]
    by_cases hroom : position + RT_MSGHDR_SIZE ≤ data.length
    · have hlength : RTMSG.lengthOf (slice data position (position + RT_MSGHDR_SIZE)) =
          (RtMsghdr.unpack (slice data position (position + RT_MSGHDR_SIZE))).messageLength := rfl
      rw [hformat, dif_pos hroom, if_pos hroom]
      dsimp only
      rw [hlength]
      by_cases hbad : (RtMsghdr.unpack (slice data position
          (position + RT_MSGHDR_SIZE))).messageLength < RT_MSGHDR_SIZE ∨
          position + (RtMsghdr.unpack (slice data position
            (position + RT_MSGHDR_SIZE))).messageLength > data.length
      · rw [if_pos hbad, if_pos hbad]
        rfl
      · rw [if_neg hbad, if_neg hbad, roundup_eq_aligned (by omega), List.map_cons, ih]
        have hle := le_aligned (RtMsghdr.unpack (slice data position
          (position + RT_MSGHDR_SIZE))).messageLength
        omega
    · rw [hformat, dif_neg hroom, if_neg hroom]
      rfl

/-! ### One message -/

/-- Whether sockaddrs are those of a neighbour with a record in a listing of the family. -/
def isReported (env : Interfaces) (family : AddressFamily) (s : SockaddrSet) : Bool :=
  (s.destination.bind sockaddrAddress).any
      (fun a => namesANeighbour env.python a && decide (a.family = family)) &&
    (s.gateway.bind hardwareOctets).any fun raw => raw.any (· != 0)

/-- The record of such sockaddrs. -/
structure IsRecord (env : Interfaces) (family : AddressFamily) (index : ℕ) (s : SockaddrSet)
    (r : NeighbourRecord) : Prop where
  address : ipAddress r.ip = s.destination.bind sockaddrAddress
  family : r.family = family
  mac : r.mac.map Subtype.val = (s.gateway.bind hardwareOctets).bind formatMac
  interface : r.interface = interfaceName env index
  state : r.state = .OTHER

theorem bind_linkAddressOf (gateway : Option Octets) :
    gateway.bind linkAddressOf = (gateway.bind hardwareOctets).bind formatMac := by
  cases gateway with
  | none => rfl
  | some s => exact linkAddressOf_eq s

theorem bind_addressOf_cases (destination : Option Octets) :
    (destination.bind addressOf = none ∧ destination.bind sockaddrAddress = none) ∨
      ∃ family b, b.length = family.packedSize ∧
        destination.bind addressOf = some (inetNtop family b) ∧
        destination.bind sockaddrAddress = some (.ofNat family (bigEndian b)) := by
  cases destination with
  | none => exact Or.inl ⟨rfl, rfl⟩
  | some s => exact addressOf_cases s

theorem family_ofNat (family : AddressFamily) (n : ℕ) :
    (IPAddress.ofNat family n).family = family := by
  cases family <;> rfl

theorem version_ne_iff (a : IPAddress) (family : AddressFamily) :
    (a.version != family.ipVersion) = !decide (a.family = family) := by
  rw [IPAddress.version]
  cases a.family <;> cases family <;> rfl

/-- A message with both addresses has a record if the address is a neighbour's, of the family
asked for. -/
theorem neighbourFromMessage_of_addresses (env : Interfaces) (family : AddressFamily)
    (header : RtMsghdr) (payload : Octets) {other : AddressFamily} {b raw : Octets} {mac : Text}
    (hb : b.length = other.packedSize)
    (hip : (splitSockaddrs payload header.addrs).destination.bind addressOf =
      some (inetNtop other b))
    (hlink : (splitSockaddrs payload header.addrs).gateway.bind linkAddressOf = some mac)
    (hmac : formatMac raw = some mac) :
    ((namesANeighbour env.python (.ofNat other (bigEndian b)) && decide (other = family)) = false ∧
        neighbourFromMessage env family header payload = .ok none) ∨
      ∃ r, (namesANeighbour env.python (.ofNat other (bigEndian b)) &&
        decide (other = family)) = true ∧
        neighbourFromMessage env family header payload = .ok (some r) ∧
        r.ip = inetNtop other b ∧ r.family = family ∧ r.mac.map Subtype.val = some mac ∧
        r.interface = interfaceName env header.index ∧ r.state = .OTHER := by
  rw [neighbourFromMessage, hip, hlink]
  dsimp only
  rw [parseAddress_eq_ok.mpr (ipAddress_inetNtop hb).1]
  dsimp only
  rw [version_ne_iff, family_ofNat, ← Bool.not_and]
  cases hwanted : namesANeighbour env.python (.ofNat other (bigEndian b)) &&
      decide (other = family) with
  | false => exact Or.inl ⟨rfl, rfl⟩
  | true =>
    right
    obtain rfl : other = family := of_decide_eq_true (Bool.and_eq_true_iff.mp hwanted).2
    obtain ⟨r, hr, hfields⟩ := NeighbourRecord.make_eq (interfaceName env header.index) .OTHER hb
      hmac
    refine ⟨r, rfl, ?_, hfields⟩
    rw [hr]
    rfl

/-- **A message that is reported has its record, and no other message has one.** -/
theorem neighbourFromMessage_cases (env : Interfaces) (family : AddressFamily)
    (header : RtMsghdr) (payload : Octets) :
    (isReported env family (splitSockaddrs payload header.addrs) = false ∧
        neighbourFromMessage env family header payload = .ok none) ∨
      ∃ r, isReported env family (splitSockaddrs payload header.addrs) = true ∧
        neighbourFromMessage env family header payload = .ok (some r) ∧
        IsRecord env family header.index (splitSockaddrs payload header.addrs) r := by
  rcases bind_addressOf_cases (splitSockaddrs payload header.addrs).destination with
    ⟨hnone, haddress⟩ | ⟨other, b, hb, hip, haddress⟩
  · left
    rw [neighbourFromMessage, isReported, hnone, haddress]
    exact ⟨rfl, rfl⟩
  have hlink := bind_linkAddressOf (splitSockaddrs payload header.addrs).gateway
  rw [isReported, haddress, Option.any_some, family_ofNat]
  cases hraw : (splitSockaddrs payload header.addrs).gateway.bind hardwareOctets with
  | none =>
    left
    rw [hraw] at hlink
    rw [neighbourFromMessage, hip, hlink]
    exact ⟨Bool.and_false _, rfl⟩
  | some raw =>
    have hsome : (formatMac raw).isSome = raw.any (· != 0) := by
      obtain ⟨s, -, hs⟩ := Option.bind_eq_some_iff.mp hraw
      rw [isSome_formatMac, length_of_hardwareOctets hs]
      exact Bool.true_and _
    rw [hraw, Option.bind_some] at hlink
    rw [Option.any_some, ← hsome]
    cases hmac : formatMac raw with
    | none =>
      left
      rw [neighbourFromMessage, hip, hlink, hmac]
      exact ⟨Bool.and_false _, rfl⟩
    | some mac =>
      rw [Option.isSome_some, Bool.and_true]
      rcases neighbourFromMessage_of_addresses env family header payload hb hip
        (hlink.trans hmac) hmac with hskipped | ⟨r, hwanted, hr, hrip, hfamily, hrmac, hrest⟩
      · exact Or.inl hskipped
      · refine Or.inr ⟨r, hwanted, hr, ?_, hfamily, ?_, hrest.1, hrest.2⟩
        · rw [hrip, (ipAddress_inetNtop hb).1, haddress]
        · rw [hrmac, hraw, Option.bind_some, hmac]

/-! ### A dump -/

/-- **Messages give the records of those that are reported**, in order. -/
theorem readMessages_eq (env : Interfaces) (family : AddressFamily)
    (messages : List (RtMsghdr × Octets)) (found : List NeighbourRecord) :
    ∃ records, readMessages env family messages found = .ok (found ++ records) ∧
      List.Forall₂ (fun m r =>
          IsRecord env family m.1.index (splitSockaddrs m.2 m.1.addrs) r)
        (messages.filter fun m => isReported env family (splitSockaddrs m.2 m.1.addrs))
        records := by
  induction messages generalizing found with
  | nil => exact ⟨[], by rw [List.append_nil]; rfl, .nil⟩
  | cons m messages ih =>
    obtain ⟨header, payload⟩ := m
    rw [readMessages]
    rcases neighbourFromMessage_cases env family header payload with ⟨hreported, hparse⟩ |
      ⟨r, hreported, hparse, hr⟩
    · obtain ⟨records, hrecords, hall⟩ := ih found
      rw [hparse, List.filter_cons_of_neg (by rw [hreported]; decide)]
      refine ⟨records, ?_, hall⟩
      rw [← hrecords]
      exact congrArg _ (List.append_nil found)
    · obtain ⟨records, hrecords, hall⟩ := ih (found ++ [r])
      rw [hparse, List.filter_cons_of_pos (by rw [hreported])]
      refine ⟨r :: records, ?_, .cons hr hall⟩
      rw [← List.singleton_append, ← List.append_assoc]
      exact hrecords

/-- **Any octets are decoded.** -/
theorem exists_parseNeighbourDump (env : Interfaces) (data : Octets) (family : AddressFamily) :
    ∃ found, parseNeighbourDump env data family = .ok found := by
  obtain ⟨records, hrecords, -⟩ := readMessages_eq env family (dumpMessages data 0) []
  exact ⟨[] ++ records, hrecords⟩

/-- A message of a dump: any header that says how long it is, and behind it the sockaddrs its
mask names. -/
structure RouteMessage where
  record : Record RTMSG
  slots : ℕ → Slot
  rest : Octets
  value_eq : record.value = layout (RtMsghdr.unpack record.header).addrs slots ++ rest

namespace RouteMessage

def header (m : RouteMessage) : RtMsghdr := RtMsghdr.unpack m.record.header

def sockaddrs (m : RouteMessage) : SockaddrSet := namedSockaddrs m.header.addrs m.slots

theorem splitSockaddrs_value (m : RouteMessage) :
    splitSockaddrs m.record.value m.header.addrs = m.sockaddrs := by
  rw [m.value_eq]
  exact splitSockaddrs_layout _ _ _

end RouteMessage

/-- **A dump gives the records of its messages that are reported**, in order. -/
theorem parseNeighbourDump_messages (env : Interfaces) (family : AddressFamily)
    (messages : List RouteMessage) :
    ∃ found, parseNeighbourDump env (messages.flatMap fun m => m.record.octets) family =
        .ok found ∧
      List.Forall₂ (fun m r => IsRecord env family m.header.index m.sockaddrs r)
        (messages.filter fun m => isReported env family m.sockaddrs) found := by
  generalize hdata : (messages.flatMap fun m => m.record.octets) = data
  have hbuffer : IsBuffer (messages.map RouteMessage.record) data := by
    rw [← hdata, ← List.flatMap_map]
    exact isBuffer_flatMap _
  have hwalk : dumpMessages data 0 = messages.map fun m => (m.header, m.record.value) := by
    have hfound := recordsFrom_of_isBuffer hbuffer [] le_rfl
    rw [List.nil_append, List.length_nil] at hfound
    rw [@dumpMessages_eq data data.length 0 (by omega), hfound, List.map_map, List.map_map]
    rfl
  obtain ⟨records, hrecords, hall⟩ := readMessages_eq env family (dumpMessages data 0) []
  refine ⟨records, hrecords, ?_⟩
  rw [hwalk, List.filter_map, List.forall₂_map_left_iff] at hall
  simp only [Function.comp_def, RouteMessage.splitSockaddrs_value] at hall
  exact hall

end IPScout.NeighboursMacos
