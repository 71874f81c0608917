import IPScout.Neighbours.Lookup
import IPScout.Neighbours.Netlink
import IPScout.Net.Printed

/-!
# The neighbour table of Linux

`neighbours_linux.py`: a dump of the kernel's table is a list of `RTM_NEWNEIGH` messages
in chunks, and `parse_neighbour_dump` makes the records of one chunk.  Its decoder asks
what an address is of `inet_ntop` and `format_mac`, and what these write a record takes,
so it never raises (`exists_parseNeighbourDump`).
-/

namespace IPScout

open Base Base.Octets Base.Text

/-! ### Records -/

inductive NeighbourState
  | REACHABLE
  | STALE
  | PERMANENT
  | INCOMPLETE
  | FAILED
  | OTHER
  deriving DecidableEq

/-- A `Neighbour` with the state of its entry. -/
structure NeighbourRecord extends Neighbour where
  state : NeighbourState

/-- `Neighbour(...)`. -/
def NeighbourRecord.make (ip mac : Text) (interface : Option Text) (state : NeighbourState)
    (family : AddressFamily) : Except PyError NeighbourRecord :=
  if hmac : isMac mac = true then
    if hbare : '%' ∈ ip then
      .error (.value [.quoted ip, say " carries a zone; the link is the interface field"])
    else
      match hliteral : requireAddress ip family with
      | .error e => .error e
      | .ok a => .ok {
          ip := ip
          mac := some ⟨mac, hmac⟩
          interface := interface
          family := family
          bare := hbare
          literal := ⟨a, hliteral⟩
          state := state }
  else .error (.value [.quoted mac,
    say " is not a hardware address in the aa:bb:cc:dd:ee:ff form"])

/-! ### Entries on the wire -/

def RTM_NEWNEIGH : ℕ := 28

def NLM_F_REQUEST : ℕ := 0x01
def NLM_F_ACK : ℕ := 0x04
def NLM_F_REPLACE : ℕ := 0x100
def NLM_F_CREATE : ℕ := 0x400

def NLMSG_ERROR : ℕ := 0x02
def NLMSG_DONE : ℕ := 0x03

def NDA_DST : ℕ := 1
def NDA_LLADDR : ℕ := 2

def NUD_INCOMPLETE : ℕ := 0x01
def NUD_REACHABLE : ℕ := 0x02
def NUD_STALE : ℕ := 0x04
def NUD_FAILED : ℕ := 0x20
def NUD_PERMANENT : ℕ := 0x80

/-- `_STATE_NAMES`, in its order. -/
def stateNames : List (ℕ × NeighbourState) :=
  [(NUD_INCOMPLETE, .INCOMPLETE), (NUD_REACHABLE, .REACHABLE), (NUD_STALE, .STALE),
    (NUD_FAILED, .FAILED), (NUD_PERMANENT, .PERMANENT)]

def stateOf (state : ℕ) : NeighbourState :=
  match stateNames.find? fun (bit, _) => state &&& bit ≠ 0 with
  | some (_, name) => name
  | none => .OTHER

def AF_INET : ℕ := 2
def AF_INET6 : ℕ := 10

def AddressFamily.ofSocketFamily (value : ℕ) : Option AddressFamily :=
  if value = AF_INET then some .IPV4 else if value = AF_INET6 then some .IPV6 else none

/-- The size of `struct ndmsg`: family, pad, pad, ifindex, state, flags, type. -/
def NDMSG_SIZE : ℕ := 12

/-- What is read of a `struct ndmsg`. -/
structure Ndmsg where
  family : ℕ
  ifindex : ℤ
  state : ℕ

def Ndmsg.unpack (order : ByteOrder) (payload : Octets) : Ndmsg where
  family := octet payload 0
  ifindex := (BitVec.ofNat 32 (order.read (slice payload 4 8))).toInt
  state := order.read (slice payload 8 10)

/-- A packed `struct ndmsg`, its other fields 0; `none` is a `struct.error`. -/
def Ndmsg.pack (order : ByteOrder) (m : Ndmsg) : Option Octets := do
  let family ← order.field 1 m.family
  let ifindex ← order.signedField m.ifindex
  let state ← order.field 2 m.state
  some (family ++ List.replicate 3 0 ++ ifindex ++ state ++ List.replicate 2 0)

/-! ### The decoder -/

@[ext]
structure EntryAddresses where
  ip : Option Text
  mac : Option Text

/-- One attribute of the loop of `_read_address_attributes`. -/
def EntryAddresses.read (family : AddressFamily) (addresses : EntryAddresses) :
    ℕ × Octets → EntryAddresses
  | (kind, value) =>
    if kind = NDA_DST then
      -- `inet_ntop` raises `ValueError` for another length, and the address stays as it was
      if value.length = family.packedSize then
        { addresses with ip := some (inetNtop family value) }
      else addresses
    else if kind = NDA_LLADDR then { addresses with mac := formatMac value }
    else addresses

def readAddressAttributes (order : ByteOrder) (payload : Octets) (family : AddressFamily) :
    EntryAddresses :=
  (iterAttributes order payload NDMSG_SIZE).foldl (EntryAddresses.read family) ⟨none, none⟩

def neighbourFromPayload (order : ByteOrder) (env : Interfaces) (payload : Octets) :
    Except PyError (Option NeighbourRecord) :=
  let header := Ndmsg.unpack order payload
  if header.state &&& (NUD_INCOMPLETE ||| NUD_FAILED) ≠ 0 then .ok none
  else
    match AddressFamily.ofSocketFamily header.family with
    | none => .ok none
    | some family =>
      let addresses := readAddressAttributes order payload family
      match addresses.ip, addresses.mac with
      | some ip, some mac =>
        match parseAddress ip with
        | .error e => .error e
        | .ok address =>
          if namesANeighbour env.python address then
            (NeighbourRecord.make ip mac (interfaceName env header.ifindex.toNat)
              (stateOf header.state) family).map some
          else .ok none
      | _, _ => .ok none

structure NeighbourDumpChunk where
  entries : List NeighbourRecord
  done : Bool

/-- The loop of `parse_neighbour_dump` over the messages of a chunk. -/
def parseMessages (order : ByteOrder) (env : Interfaces) :
    List (ℕ × Octets) → List NeighbourRecord → Except PyError NeighbourDumpChunk
  | [], found => .ok ⟨found, false⟩
  | (kind, payload) :: rest, found =>
    if kind = NLMSG_DONE ∨ kind = NLMSG_ERROR then .ok ⟨found, true⟩
    else if kind ≠ RTM_NEWNEIGH ∨ payload.length < NDMSG_SIZE then parseMessages order env rest found
    else
      match neighbourFromPayload order env payload with
      | .error e => .error e
      | .ok neighbour => parseMessages order env rest (found ++ neighbour.toList)

def parseNeighbourDump (order : ByteOrder) (env : Interfaces) (data : Octets) :
    Except PyError NeighbourDumpChunk :=
  parseMessages order env (iterMessages order data) []

/-! ### The encoder -/

/-- `build_set_request`; the inner `none` is a `struct.error`. -/
def buildSetRequest (order : ByteOrder) (ip : Text) (mac : Octets) (ifindex : ℤ) (sequence : ℕ) :
    Except PyError (Option Octets) :=
  match Ndmsg.pack order ⟨AF_INET, ifindex, NUD_PERMANENT⟩ with
  | none => .ok none
  | some header => do
    let address ← requireAddress ip .IPV4
    .ok do
      let destination ← buildAttribute order NDA_DST address.packed
      let link ← buildAttribute order NDA_LLADDR mac
      buildMessage order RTM_NEWNEIGH
        (NLM_F_REQUEST ||| NLM_F_ACK ||| NLM_F_CREATE ||| NLM_F_REPLACE)
        (header ++ destination ++ link) sequence

/-! ### What is decoded of any octets -/

theorem NeighbourRecord.make_eq {family : AddressFamily} {b raw : Octets} {mac : Text}
    (interface : Option Text) (state : NeighbourState) (hb : b.length = family.packedSize)
    (hmac : formatMac raw = some mac) :
    ∃ r, NeighbourRecord.make (inetNtop family b) mac interface state family = .ok r ∧
      r.ip = inetNtop family b ∧ r.family = family ∧ r.mac.map Subtype.val = some mac ∧
      r.interface = interface ∧ r.state = state := by
  obtain ⟨hip, hbare⟩ := ipAddress_inetNtop hb
  have hliteral := requireAddress_eq_ok hip
  have hfamily : (IPAddress.ofNat family (bigEndian b)).family = family := by cases family <;> rfl
  rw [hfamily] at hliteral
  unfold NeighbourRecord.make
  rw [dif_pos (isMac_formatMac hmac), dif_neg hbare]
  split
  · next e he =>
    rw [hliteral] at he
    simp at he
  · exact ⟨_, rfl, rfl, rfl, rfl, rfl, rfl⟩

/-- The values of the attributes of one type. -/
def valuesOf (kind : ℕ) (attributes : List (ℕ × Octets)) : List Octets :=
  (attributes.filter fun a => a.1 == kind).map Prod.snd

theorem valuesOf_cons_self (kind : ℕ) (value : Octets) (rest : List (ℕ × Octets)) :
    valuesOf kind ((kind, value) :: rest) = value :: valuesOf kind rest := by
  rw [valuesOf, List.filter_cons_of_pos (by simp), List.map_cons, valuesOf]

theorem valuesOf_cons_of_ne {kind other : ℕ} (h : other ≠ kind) (value : Octets)
    (rest : List (ℕ × Octets)) : valuesOf kind ((other, value) :: rest) = valuesOf kind rest := by
  rw [valuesOf, List.filter_cons_of_neg (by simpa using h), valuesOf]

theorem foldl_read_ip (family : AddressFamily) (attributes : List (ℕ × Octets))
    (addresses : EntryAddresses) :
    (attributes.foldl (EntryAddresses.read family) addresses).ip =
      (valuesOf NDA_DST attributes).foldl (fun ip value =>
        if value.length = family.packedSize then some (inetNtop family value) else ip)
        addresses.ip := by
  induction attributes generalizing addresses with
  | nil => rfl
  | cons a rest ih =>
    obtain ⟨kind, value⟩ := a
    rw [List.foldl_cons, ih, EntryAddresses.read]
    by_cases hdst : kind = NDA_DST
    · rw [if_pos hdst, hdst, valuesOf_cons_self, List.foldl_cons]
      split <;> rfl
    · rw [if_neg hdst, valuesOf_cons_of_ne hdst]
      split <;> rfl

theorem foldl_read_mac (family : AddressFamily) (attributes : List (ℕ × Octets))
    (addresses : EntryAddresses) :
    (attributes.foldl (EntryAddresses.read family) addresses).mac =
      (valuesOf NDA_LLADDR attributes).foldl (fun _ value => formatMac value) addresses.mac := by
  induction attributes generalizing addresses with
  | nil => rfl
  | cons a rest ih =>
    obtain ⟨kind, value⟩ := a
    rw [List.foldl_cons, ih, EntryAddresses.read]
    by_cases hlink : kind = NDA_LLADDR
    · rw [if_neg (by rw [hlink]; decide), if_pos hlink, hlink, valuesOf_cons_self,
        List.foldl_cons]
    · rw [if_neg hlink, valuesOf_cons_of_ne hlink]
      split
      · split <;> rfl
      · rfl

theorem exists_of_readAddressAttributes_ip {order : ByteOrder} {payload : Octets}
    {family : AddressFamily} {ip : Text}
    (h : (readAddressAttributes order payload family).ip = some ip) :
    ∃ b : Octets, b.length = family.packedSize ∧ ip = inetNtop family b := by
  rw [readAddressAttributes, foldl_read_ip] at h
  generalize valuesOf NDA_DST (iterAttributes order payload NDMSG_SIZE) = values at h
  induction values using List.reverseRecOn with
  | nil => simp at h
  | append_singleton values value ih =>
    rw [List.foldl_append, List.foldl_cons, List.foldl_nil] at h
    split at h
    · next hlength => exact ⟨value, hlength, (Option.some.inj h).symm⟩
    · exact ih h

theorem exists_of_readAddressAttributes_mac {order : ByteOrder} {payload : Octets}
    {family : AddressFamily} {mac : Text}
    (h : (readAddressAttributes order payload family).mac = some mac) :
    ∃ raw, formatMac raw = some mac := by
  rw [readAddressAttributes, foldl_read_mac] at h
  rcases (valuesOf NDA_LLADDR (iterAttributes order payload NDMSG_SIZE)).eq_nil_or_concat with
    hnil | ⟨values, value, hvalues⟩
  · rw [hnil] at h
    simp at h
  · rw [hvalues, List.concat_eq_append, List.foldl_append] at h
    exact ⟨value, h⟩

/-- **A payload never makes the decoder raise.** -/
theorem exists_neighbourFromPayload (order : ByteOrder) (env : Interfaces) (payload : Octets) :
    ∃ neighbour, neighbourFromPayload order env payload = .ok neighbour := by
  unfold neighbourFromPayload
  dsimp only
  split
  · exact ⟨_, rfl⟩
  · split
    · exact ⟨_, rfl⟩
    · next family _ =>
      split
      · next ip mac hip hmac =>
        obtain ⟨b, hb, rfl⟩ := exists_of_readAddressAttributes_ip hip
        obtain ⟨raw, hraw⟩ := exists_of_readAddressAttributes_mac hmac
        rw [parseAddress_eq_ok.mpr (ipAddress_inetNtop hb).1]
        dsimp only
        split
        · obtain ⟨r, hr, -⟩ := NeighbourRecord.make_eq
            (interfaceName env (Ndmsg.unpack order payload).ifindex.toNat)
            (stateOf (Ndmsg.unpack order payload).state) hb hraw
          exact ⟨some r, by rw [hr]; rfl⟩
        · exact ⟨_, rfl⟩
      · exact ⟨_, rfl⟩

/-- **Whatever is read from the socket is decoded.** -/
theorem exists_parseNeighbourDump (order : ByteOrder) (env : Interfaces) (data : Octets) :
    ∃ chunk, parseNeighbourDump order env data = .ok chunk := by
  have hloop : ∀ messages found, ∃ chunk, parseMessages order env messages found = .ok chunk := by
    intro messages
    induction messages with
    | nil => exact fun found => ⟨_, rfl⟩
    | cons message rest ih =>
      intro found
      obtain ⟨kind, payload⟩ := message
      rw [parseMessages]
      split
      · exact ⟨_, rfl⟩
      · split
        · exact ih found
        · obtain ⟨neighbour, hneighbour⟩ := exists_neighbourFromPayload order env payload
          rw [hneighbour]
          exact ih _
  exact hloop _ _

end IPScout
