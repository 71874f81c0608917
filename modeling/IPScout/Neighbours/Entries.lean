import IPScout.Neighbours.Dump
import Mathlib.Data.List.Forall2
import Mathlib.Data.Nat.Bitwise

/-!
# Entries of the kernel's table

What the kernel reports of its neighbour table, and the records the decoder makes of it.
An entry has its record when it is about a host, the kernel knows its hardware address,
and neither of two state bits says that it does not (`KernelEntry.isReported`).  A chunk
gives the records of its entries in order, so it does not matter where a dump is cut, and
`build_set_request` writes an entry that the decoder reads (`neighbour_dump_decoded`).
-/

namespace IPScout

open Base Base.Octets Base.Text

/-! ### What the kernel reports -/

def attributesOf (order : ByteOrder) (attributes : List (Record (RTATTR order))) :
    List (ℕ × Octets) :=
  attributes.map fun a => (rtattrType order a.header, a.value)

/-- An entry of the kernel's table as it is reported: the fields of its `ndmsg`, and attributes
of which one is the destination and at most one a hardware address. -/
structure KernelEntry (order : ByteOrder) where
  family : UInt8
  pads : Octets
  ifindex : BitVec 32
  state : BitVec 16
  flags : UInt8
  kind : UInt8
  attributes : List (Record (RTATTR order))
  destination : Octets
  link : Option Octets
  pads_length : pads.length = 3
  destination_eq : valuesOf NDA_DST (attributesOf order attributes) = [destination]
  link_eq : valuesOf NDA_LLADDR (attributesOf order attributes) = link.toList

namespace KernelEntry

variable {order : ByteOrder}

/-- Its `ndmsg`. -/
def ndmsg (e : KernelEntry order) : Octets :=
  e.family :: e.pads ++ (order.pack 4 e.ifindex.toNat ++ (order.pack 2 e.state.toNat ++
    [e.flags, e.kind]))

def IsMessage (e : KernelEntry order) (m : Record (NLMSGHDR order)) : Prop :=
  nlmsgType order m.header = RTM_NEWNEIGH ∧
    ∃ data, IsBuffer e.attributes data ∧ m.value = e.ndmsg ++ data

/-- The address an entry is about, if it is an IPv4 or IPv6 entry. -/
def address (e : KernelEntry order) : Option IPAddress := do
  let family ← AddressFamily.ofSocketFamily e.family.toNat
  if e.destination.length = family.packedSize then
    some (.ofNat family (bigEndian e.destination))
  else none

/-- Whether an entry has a record. -/
def isReported (env : Interfaces) (e : KernelEntry order) : Bool :=
  e.address.any (namesANeighbour env.python) &&
    !e.state.getLsbD 0 && !e.state.getLsbD 5 &&
    e.link.any fun raw => raw.length == 6 && raw.any (· != 0)

/-- The state of an entry that has a record. -/
def nudState (e : KernelEntry order) : NeighbourState :=
  if e.state.getLsbD 1 then .REACHABLE
  else if e.state.getLsbD 2 then .STALE
  else if e.state.getLsbD 7 then .PERMANENT
  else .OTHER

/-- The record of an entry. -/
structure IsRecord (env : Interfaces) (e : KernelEntry order) (r : NeighbourRecord) : Prop where
  address : ipAddress r.ip = e.address
  family : some r.family = e.address.map IPAddress.family
  mac : r.mac.map Subtype.val = e.link.bind formatMac
  interface : r.interface = interfaceName env e.ifindex.toInt.toNat
  state : r.state = e.nudState

end KernelEntry

/-! ### One entry -/

namespace KernelEntry

variable {order : ByteOrder} {env : Interfaces}

theorem length_ndmsg (e : KernelEntry order) : e.ndmsg.length = NDMSG_SIZE := by
  simp only [ndmsg, List.length_append, List.length_cons, List.length_nil, e.pads_length,
    ByteOrder.length_pack]
  rfl

theorem unpack_ndmsg (e : KernelEntry order) (data : Octets) :
    Ndmsg.unpack order (e.ndmsg ++ data) =
      ⟨e.family.toNat, e.ifindex.toInt, e.state.toNat⟩ := by
  have hbefore : (e.family :: e.pads).length = 4 := by rw [List.length_cons, e.pads_length]
  have hindex : slice (e.ndmsg ++ data) 4 8 = order.pack 4 e.ifindex.toNat := by
    rw [ndmsg, List.append_assoc, List.append_assoc]
    exact slice_append_append hbefore (by rw [ByteOrder.length_pack])
  have hstate : slice (e.ndmsg ++ data) 8 10 = order.pack 2 e.state.toNat := by
    have hassoc : e.ndmsg ++ data = (e.family :: e.pads ++ order.pack 4 e.ifindex.toNat) ++
        (order.pack 2 e.state.toNat ++ ([e.flags, e.kind] ++ data)) := by
      simp only [ndmsg, List.append_assoc]
    rw [hassoc]
    exact slice_append_append (by rw [List.length_append, hbefore, ByteOrder.length_pack])
      (by rw [ByteOrder.length_pack])
  rw [Ndmsg.unpack, hindex, hstate, order.read_pack e.ifindex.isLt, order.read_pack e.state.isLt,
    BitVec.ofNat_toNat, BitVec.setWidth_eq]
  rfl

theorem readAddressAttributes_eq (e : KernelEntry order) {data : Octets}
    (h : IsBuffer e.attributes data) (family : AddressFamily) :
    readAddressAttributes order (e.ndmsg ++ data) family =
      ⟨if e.destination.length = family.packedSize then some (inetNtop family e.destination)
        else none, e.link.bind formatMac⟩ := by
  have hattributes : iterAttributes order (e.ndmsg ++ data) NDMSG_SIZE =
      attributesOf order e.attributes := by
    rw [← e.length_ndmsg]
    exact iterAttributes_of_isBuffer h e.ndmsg
  have hip := foldl_read_ip family (attributesOf order e.attributes) ⟨none, none⟩
  have hmac := foldl_read_mac family (attributesOf order e.attributes) ⟨none, none⟩
  rw [e.destination_eq] at hip
  rw [e.link_eq] at hmac
  rw [readAddressAttributes, hattributes]
  apply EntryAddresses.ext
  · exact hip
  · rw [hmac]
    cases e.link <;> rfl

theorem address_eq (e : KernelEntry order) {family : AddressFamily}
    (hfamily : AddressFamily.ofSocketFamily e.family.toNat = some family)
    (hlength : e.destination.length = family.packedSize) :
    e.address = some (.ofNat family (bigEndian e.destination)) := by
  rw [address, hfamily]
  exact if_pos hlength

theorem exists_family (e : KernelEntry order) (h : e.address ≠ none) :
    ∃ family, AddressFamily.ofSocketFamily e.family.toNat = some family ∧
      e.destination.length = family.packedSize := by
  obtain ⟨a, ha⟩ := Option.ne_none_iff_exists'.mp h
  rw [address, Option.bind_eq_bind, Option.bind_eq_some_iff] at ha
  obtain ⟨family, hfamily, hif⟩ := ha
  exact ⟨family, hfamily, (Option.ite_none_right_eq_some.mp hif).1⟩

theorem and_mask (state : BitVec 16) (i : ℕ) :
    decide (state.toNat &&& 2 ^ i ≠ 0) = state.getLsbD i := by
  rw [Nat.and_two_pow, BitVec.testBit_toNat]
  cases state.getLsbD i <;> simp

theorem state_and_eq_zero_iff (state : BitVec 16) :
    state.toNat &&& (NUD_INCOMPLETE ||| NUD_FAILED) = 0 ↔
      state.getLsbD 0 = false ∧ state.getLsbD 5 = false := by
  rw [Nat.and_or_distrib_left, Nat.or_eq_zero_iff, ← and_mask, ← and_mask, decide_eq_false_iff_not,
    decide_eq_false_iff_not, not_not, not_not]
  rfl

theorem stateOf_eq_nudState (e : KernelEntry order) (h0 : e.state.getLsbD 0 = false)
    (h5 : e.state.getLsbD 5 = false) : stateOf e.state.toNat = e.nudState := by
  have hmask := and_mask e.state
  rw [stateOf, stateNames, nudState]
  simp only [List.find?_cons, List.find?_nil, show NUD_INCOMPLETE = 2 ^ 0 from rfl,
    show NUD_REACHABLE = 2 ^ 1 from rfl, show NUD_STALE = 2 ^ 2 from rfl,
    show NUD_FAILED = 2 ^ 5 from rfl, show NUD_PERMANENT = 2 ^ 7 from rfl, hmask, h0, h5]
  cases e.state.getLsbD 1
  · cases e.state.getLsbD 2
    · cases e.state.getLsbD 7 <;> rfl
    · rfl
  · rfl

theorem isReported_eq (env : Interfaces) (e : KernelEntry order) :
    e.isReported env = (e.address.any (namesANeighbour env.python) && !e.state.getLsbD 0 &&
      !e.state.getLsbD 5 && (e.link.bind formatMac).isSome) := by
  rw [isReported]
  cases e.link with
  | none => rfl
  | some raw =>
    rw [Option.bind_some, isSome_formatMac]
    rfl

/-- An entry that is resolved, with an address and a hardware address, has its record if the
address names a host. -/
theorem neighbourFromPayload_of_learned (e : KernelEntry order) {data : Octets}
    (h : IsBuffer e.attributes data)
    (hbits : e.state.toNat &&& (NUD_INCOMPLETE ||| NUD_FAILED) = 0) {family : AddressFamily}
    (hfamily : AddressFamily.ofSocketFamily e.family.toNat = some family)
    (hlength : e.destination.length = family.packedSize) {mac : Text}
    (hlink : e.link.bind formatMac = some mac) :
    (namesANeighbour env.python (.ofNat family (bigEndian e.destination)) = false ∧
      neighbourFromPayload order env (e.ndmsg ++ data) = .ok none) ∨
    ∃ r, namesANeighbour env.python (.ofNat family (bigEndian e.destination)) = true ∧
      neighbourFromPayload order env (e.ndmsg ++ data) = .ok (some r) ∧ e.IsRecord env r := by
  obtain ⟨h0, h5⟩ := (state_and_eq_zero_iff e.state).mp hbits
  obtain ⟨raw, -, hraw⟩ := Option.bind_eq_some_iff.mp hlink
  obtain ⟨r, hr, hip, hrfamily, hmac, hinterface, hstate⟩ := NeighbourRecord.make_eq
    (interfaceName env e.ifindex.toInt.toNat) (stateOf e.state.toNat) hlength hraw
  have hliteral := (ipAddress_inetNtop hlength).1
  have haddress := e.address_eq hfamily hlength
  unfold neighbourFromPayload
  rw [e.unpack_ndmsg]
  dsimp only
  rw [if_neg (not_not.mpr hbits), hfamily]
  dsimp only
  rw [e.readAddressAttributes_eq h, if_pos hlength, hlink]
  dsimp only
  rw [parseAddress_eq_ok.mpr hliteral]
  dsimp only
  cases hnames : namesANeighbour env.python (.ofNat family (bigEndian e.destination)) with
  | false =>
    left
    exact ⟨rfl, rfl⟩
  | true =>
    right
    rw [if_pos rfl, hr]
    refine ⟨r, rfl, rfl, ?_, ?_, ?_, hinterface, ?_⟩
    · rw [hip, hliteral, haddress]
    · rw [hrfamily, haddress]
      cases family <;> rfl
    · rw [hmac, hlink]
    · rw [hstate, e.stateOf_eq_nudState h0 h5]

theorem neighbourFromPayload_eq_none (e : KernelEntry order) {data : Octets}
    (h : IsBuffer e.attributes data)
    (hlacks : ¬ (e.state.toNat &&& (NUD_INCOMPLETE ||| NUD_FAILED) = 0) ∨ e.address = none ∨
      e.link.bind formatMac = none) :
    neighbourFromPayload order env (e.ndmsg ++ data) = .ok none := by
  unfold neighbourFromPayload
  rw [e.unpack_ndmsg]
  dsimp only
  by_cases hbits : e.state.toNat &&& (NUD_INCOMPLETE ||| NUD_FAILED) = 0
  · rw [if_neg (not_not.mpr hbits)]
    cases hfamily : AddressFamily.ofSocketFamily e.family.toNat with
    | none => rfl
    | some family =>
      dsimp only
      rw [e.readAddressAttributes_eq h]
      by_cases hlength : e.destination.length = family.packedSize
      · rw [e.address_eq hfamily hlength] at hlacks
        rcases hlacks with hnot | hnone | hnone
        · exact absurd hbits hnot
        · simp at hnone
        · rw [if_pos hlength, hnone]
      · rw [if_neg hlength]
  · rw [if_pos hbits]

/-- **The decoder makes the record of an entry that is reported, and of no other.** -/
theorem neighbourFromPayload_eq (e : KernelEntry order) {data : Octets}
    (h : IsBuffer e.attributes data) :
    (e.isReported env = false ∧ neighbourFromPayload order env (e.ndmsg ++ data) = .ok none) ∨
      ∃ r, e.isReported env = true ∧
        neighbourFromPayload order env (e.ndmsg ++ data) = .ok (some r) ∧ e.IsRecord env r := by
  by_cases hlacks : ¬ (e.state.toNat &&& (NUD_INCOMPLETE ||| NUD_FAILED) = 0) ∨
      e.address = none ∨ e.link.bind formatMac = none
  · left
    refine ⟨?_, e.neighbourFromPayload_eq_none h hlacks⟩
    rw [isReported_eq]
    rcases hlacks with hbits | hnone | hnone
    · rw [state_and_eq_zero_iff, not_and_or, Bool.not_eq_false, Bool.not_eq_false] at hbits
      rcases hbits with h0 | h5
      · rw [h0, Bool.not_true, Bool.and_false, Bool.false_and, Bool.false_and]
      · rw [h5, Bool.not_true, Bool.and_false, Bool.false_and]
    · rw [hnone]
      rfl
    · rw [hnone, Option.isSome_none, Bool.and_false]
  · rw [not_or, not_or, not_not] at hlacks
    obtain ⟨hbits, haddress, hlink⟩ := hlacks
    obtain ⟨mac, hlink⟩ := Option.ne_none_iff_exists'.mp hlink
    obtain ⟨family, hfamily, hlength⟩ := e.exists_family haddress
    obtain ⟨h0, h5⟩ := (state_and_eq_zero_iff e.state).mp hbits
    have hreported : e.isReported env =
        namesANeighbour env.python (.ofNat family (bigEndian e.destination)) := by
      rw [isReported_eq, e.address_eq hfamily hlength, hlink, h0, h5]
      simp
    rw [hreported]
    exact e.neighbourFromPayload_of_learned h hbits hfamily hlength hlink

/-! ### Messages and chunks -/

/-- **Messages give the records of the entries that are reported**, in order. -/
theorem parseMessages_eq {entries : List (KernelEntry order)}
    {messages : List (Record (NLMSGHDR order))} (h : List.Forall₂ IsMessage entries messages)
    (found : List NeighbourRecord) :
    ∃ records, parseMessages order env
        (messages.map fun m => (nlmsgType order m.header, m.value)) found =
          .ok ⟨found ++ records, false⟩ ∧
      List.Forall₂ (IsRecord env) (entries.filter (isReported env)) records := by
  induction h generalizing found with
  | nil => exact ⟨[], by rw [List.append_nil]; rfl, .nil⟩
  | @cons e m entries messages hmessage _ ih =>
    obtain ⟨hkind, data, hdata, hvalue⟩ := hmessage
    have hlong : ¬ (e.ndmsg ++ data).length < NDMSG_SIZE := by
      rw [List.length_append, e.length_ndmsg]
      omega
    rw [List.map_cons, hkind, hvalue, parseMessages, if_neg (by decide),
      if_neg (not_or.mpr ⟨not_not.mpr rfl, hlong⟩)]
    rcases e.neighbourFromPayload_eq hdata with ⟨hreported, hparse⟩ | ⟨r, hreported, hparse, hr⟩
    · obtain ⟨records, hrecords, hall⟩ := ih found
      rw [hparse, List.filter_cons_of_neg (by rw [hreported]; decide)]
      refine ⟨records, ?_, hall⟩
      rw [← hrecords]
      exact congrArg _ (List.append_nil found)
    · obtain ⟨records, hrecords, hall⟩ := ih (found ++ [r])
      rw [hparse, List.filter_cons_of_pos hreported]
      refine ⟨r :: records, ?_, .cons hr hall⟩
      rw [← List.singleton_append, ← List.append_assoc]
      exact hrecords

theorem parseNeighbourDump_eq (env : Interfaces) {entries : List (KernelEntry order)}
    {messages : List (Record (NLMSGHDR order))} {data : Octets}
    (h : List.Forall₂ IsMessage entries messages) (hdata : IsBuffer messages data) :
    ∃ records, parseNeighbourDump order env data = .ok ⟨records, false⟩ ∧
      List.Forall₂ (IsRecord env) (entries.filter (isReported env)) records := by
  rw [parseNeighbourDump, iterMessages_of_isBuffer hdata]
  exact parseMessages_eq h []

/-- **Wherever a dump is cut, its chunks give the records of its entries.** -/
theorem mapM_parseNeighbourDump {chunks : List (List (Record (NLMSGHDR order)))}
    {data : List Octets} (hdata : List.Forall₂ IsBuffer chunks data)
    {entries : List (KernelEntry order)} (h : List.Forall₂ IsMessage entries chunks.flatten) :
    ∃ parsed, data.mapM (parseNeighbourDump order env) = .ok parsed ∧
      (∀ chunk ∈ parsed, chunk.done = false) ∧
      List.Forall₂ (IsRecord env) (entries.filter (isReported env))
        (parsed.flatMap NeighbourDumpChunk.entries) := by
  induction hdata generalizing entries with
  | nil =>
    cases h
    exact ⟨[], rfl, by simp, .nil⟩
  | @cons messages octets chunks data hbuffer _ ih =>
    rw [List.flatten_cons] at h
    obtain ⟨records, hparse, hrecords⟩ :=
      parseNeighbourDump_eq env (List.forall₂_take_append _ _ _ h) hbuffer
    obtain ⟨parsed, hrest, hdone, hall⟩ := ih (List.forall₂_drop_append _ _ _ h)
    refine ⟨⟨records, false⟩ :: parsed, ?_, ?_, ?_⟩
    · rw [List.mapM_cons, hparse, hrest]
      rfl
    · intro chunk hchunk
      rcases List.mem_cons.mp hchunk with rfl | hchunk
      · rfl
      · exact hdone chunk hchunk
    · rw [← List.take_append_drop messages.length entries, List.filter_append, List.flatMap_cons]
      exact List.rel_append hrecords hall

/-! ### What is written -/

theorem pack_ndmsg (order : ByteOrder) {ifindex : ℤ} (h : -2 ^ 31 ≤ ifindex ∧ ifindex < 2 ^ 31) :
    Ndmsg.pack order ⟨AF_INET, ifindex, NUD_PERMANENT⟩ = some (2 :: List.replicate 3 0 ++
      (order.pack 4 (BitVec.ofInt 32 ifindex).toNat ++ (order.pack 2 NUD_PERMANENT ++ [0, 0]))) := by
  have hfamily : order.pack 1 AF_INET = [2] := by cases order <;> rfl
  rw [Ndmsg.pack, order.field_of_lt (show AF_INET < 256 ^ 1 by decide),
    order.field_of_lt (show NUD_PERMANENT < 256 ^ 2 by decide), ByteOrder.signedField, if_pos h,
    hfamily]
  simp

theorem pack_ndmsg_eq_none (order : ByteOrder) {ifindex : ℤ}
    (h : ¬ (-2 ^ 31 ≤ ifindex ∧ ifindex < 2 ^ 31)) :
    Ndmsg.pack order ⟨AF_INET, ifindex, NUD_PERMANENT⟩ = none := by
  rw [Ndmsg.pack, order.field_of_lt (show AF_INET < 256 ^ 1 by decide), ByteOrder.signedField,
    if_neg h]
  rfl

def ofRequest (ifindex : ℤ) (destination link : Record (RTATTR order))
    (hdestination : rtattrType order destination.header = NDA_DST)
    (hlink : rtattrType order link.header = NDA_LLADDR) : KernelEntry order where
  family := 2
  pads := List.replicate 3 0
  ifindex := BitVec.ofInt 32 ifindex
  state := 0x80
  flags := 0
  kind := 0
  attributes := [destination, link]
  destination := destination.value
  link := some link.value
  pads_length := List.length_replicate
  destination_eq := by
    rw [attributesOf, List.map_cons, List.map_singleton, hdestination, hlink]
    rfl
  link_eq := by
    rw [attributesOf, List.map_cons, List.map_singleton, hdestination, hlink]
    rfl

/-- **What `build_set_request` encodes is a message of an entry**, with the address, the
hardware address and the index it was asked for. -/
theorem exists_entry_of_buildSetRequest {ip : Text} {mac : Octets} {ifindex : ℤ} {sequence : ℕ}
    {message : Octets} (h : buildSetRequest order ip mac ifindex sequence = .ok (some message)) :
    ∃ (e : KernelEntry order) (m : Record (NLMSGHDR order)) (a : IPAddress),
      IsBuffer [m] message ∧ e.IsMessage m ∧ requireAddress ip .IPV4 = .ok a ∧
      e.family = 2 ∧ e.destination = a.packed ∧ e.link = some mac ∧
      e.ifindex.toInt = ifindex ∧ e.state = 0x80 := by
  unfold buildSetRequest at h
  by_cases hindex : -2 ^ 31 ≤ ifindex ∧ ifindex < 2 ^ 31
  · rw [pack_ndmsg order hindex] at h
    cases hip : requireAddress ip .IPV4 with
    | error e =>
      rw [hip] at h
      simp [bind, Except.bind] at h
    | ok a =>
      rw [hip] at h
      simp only [bind, Except.bind, Except.ok.injEq, Option.bind_eq_some_iff] at h
      obtain ⟨_, hdestination, _, hlink, hmessage⟩ := h
      obtain ⟨destination, rfl, hdst, hpacked⟩ := exists_record_of_buildAttribute hdestination
      obtain ⟨link, rfl, hlladdr, hmac⟩ := exists_record_of_buildAttribute hlink
      obtain ⟨m, hbuffer, -, hkind, hvalue⟩ := exists_record_of_buildMessage hmessage
      refine ⟨.ofRequest ifindex destination link hdst hlladdr, m, a, hbuffer,
        ⟨hkind, destination.octets ++ link.octets, .cons destination (.single link), ?_⟩, rfl, rfl,
        hpacked, congrArg some hmac, ?_, rfl⟩
      · rw [hvalue, List.append_assoc]
        rfl
      · exact BitVec.toInt_ofInt_eq_self (by decide) hindex.1 hindex.2
  · rw [pack_ndmsg_eq_none order hindex] at h
    simp at h

/-- The request for an IPv4 address and an Ethernet address is encoded when the index and the
number of the request fit their fields. -/
theorem exists_buildSetRequest_iff {ip : Text} {ip4 : BitVec 32} {mac : Octets} {ifindex : ℤ}
    {sequence : ℕ} (hip : requireAddress ip .IPV4 = .ok (.v4 ip4)) (hmac : mac.length = 6) :
    (∃ message, buildSetRequest order ip mac ifindex sequence = .ok (some message)) ↔
      (-2 ^ 31 ≤ ifindex ∧ ifindex < 2 ^ 31) ∧ sequence < 2 ^ 32 := by
  unfold buildSetRequest
  by_cases hindex : -2 ^ 31 ≤ ifindex ∧ ifindex < 2 ^ 31
  · rw [pack_ndmsg order hindex, hip]
    have hpacked : (IPAddress.v4 ip4).packed.length = 4 := length_packedNat 4 ip4.toNat
    obtain ⟨destination, hdestination, hlength⟩ := exists_buildAttribute order NDA_DST
      (IPAddress.v4 ip4).packed (by rw [hpacked]; decide) (by decide)
    obtain ⟨link, hlink, hlength'⟩ := exists_buildAttribute order NDA_LLADDR mac
      (by rw [hmac]; decide) (by decide)
    rw [hpacked] at hlength
    rw [hmac] at hlength'
    simp only [bind, Except.bind, Except.ok.injEq, hdestination, hlink, Option.bind_some]
    rw [exists_buildMessage_iff]
    simp only [List.length_append, List.length_cons, List.length_replicate, List.length_nil,
      ByteOrder.length_pack, hlength, hlength']
    constructor
    · rintro ⟨-, -, -, hsequence⟩
      exact ⟨hindex, hsequence⟩
    · rintro ⟨-, hsequence⟩
      refine ⟨?_, by decide, by decide, hsequence⟩
      show 16 + _ < 256 ^ 4
      decide
  · rw [pack_ndmsg_eq_none order hindex]
    constructor
    · rintro ⟨message, h⟩
      simp at h
    · rintro ⟨hfits, -⟩
      exact absurd hfits hindex

end KernelEntry

/-- **What `build_set_request` encodes is read back.** -/
theorem parseNeighbourDump_buildSetRequest {order : ByteOrder} (env : Interfaces) {ip : Text}
    {a : IPAddress} {mac : Octets} {ifindex : ℤ} {sequence : ℕ} {message : Octets}
    (hip : requireAddress ip .IPV4 = .ok a) (hnames : namesANeighbour env.python a = true)
    (hmac : mac.length = 6) (hlearned : mac.any (· != 0) = true)
    (h : buildSetRequest order ip mac ifindex sequence = .ok (some message)) :
    ∃ r, parseNeighbourDump order env message = .ok ⟨[r], false⟩ ∧ ipAddress r.ip = some a ∧
      r.family = .IPV4 ∧ r.mac.map Subtype.val = formatMac mac ∧
      r.interface = interfaceName env ifindex.toNat ∧ r.state = .PERMANENT := by
  obtain ⟨ip4, rfl⟩ := exists_v4_of_requireAddress hip
  obtain ⟨e, m, a, hbuffer, hmessage, ha, hfamily, hdestination, hlink, hindex, hstate⟩ :=
    KernelEntry.exists_entry_of_buildSetRequest h
  rw [hip] at ha
  obtain rfl := Except.ok.inj ha
  have hpacked : e.destination.length = 4 := by
    rw [hdestination]
    exact length_packedNat 4 ip4.toNat
  have haddress : e.address = some (.v4 ip4) := by
    have hnumber : bigEndian e.destination = ip4.toNat := by
      rw [hdestination]
      exact (bigEndian_packedNat 4 ip4.toNat).trans (Nat.mod_eq_of_lt ip4.isLt)
    have hipv4 : AddressFamily.ofSocketFamily e.family.toNat = some .IPV4 := by
      rw [hfamily]
      rfl
    rw [e.address_eq hipv4 hpacked, hnumber, IPAddress.ofNat, BitVec.ofNat_toNat,
      BitVec.setWidth_eq]
  have hreported : e.isReported env = true := by
    rw [KernelEntry.isReported, haddress, hstate, hlink, Option.any_some, hnames, Option.any_some,
      hmac, hlearned]
    rfl
  obtain ⟨records, hparse, hrecords⟩ :=
    KernelEntry.parseNeighbourDump_eq env (.cons hmessage .nil) hbuffer
  rw [List.filter_cons_of_pos hreported, List.filter_nil] at hrecords
  obtain ⟨r, rest, hr, hrest, rfl⟩ := List.forall₂_cons_left_iff.mp hrecords
  obtain rfl := List.forall₂_nil_left_iff.mp hrest
  refine ⟨r, hparse, hr.address.trans haddress, ?_, ?_, ?_, ?_⟩
  · have := hr.family
    rw [haddress] at this
    exact Option.some.inj this
  · rw [hr.mac, hlink]
    rfl
  · rw [hr.interface, hindex]
  · rw [hr.state, KernelEntry.nudState, hstate]
    rfl

/-- **A dump is decoded to the records of its entries.**  The chunks it is read in may end at
any message; octets that are no dump are decoded as well; and the request for a static entry
is decoded to that entry. -/
theorem neighbour_dump_decoded (order : ByteOrder) (env : Interfaces) :
    (∀ (entries : List (KernelEntry order)) (chunks : List (List (Record (NLMSGHDR order))))
        (data : List Octets), List.Forall₂ KernelEntry.IsMessage entries chunks.flatten →
      List.Forall₂ IsBuffer chunks data →
      ∃ parsed, data.mapM (parseNeighbourDump order env) = .ok parsed ∧
        (∀ chunk ∈ parsed, chunk.done = false) ∧
        List.Forall₂ (KernelEntry.IsRecord env) (entries.filter (KernelEntry.isReported env))
          (parsed.flatMap NeighbourDumpChunk.entries)) ∧
    (∀ data, (∃ chunk, parseNeighbourDump order env data = .ok chunk) ∧
      ∀ fuel, data.length ≤ fuel →
        recordsFrom (NLMSGHDR order) data fuel 0 =
          recordsFrom (NLMSGHDR order) data data.length 0 ∧
        ∀ offset, recordsFrom (RTATTR order) data fuel offset =
          recordsFrom (RTATTR order) data data.length offset) ∧
    ∀ (ip : Text) (a : IPAddress) (mac : Octets) (ifindex : ℤ) (sequence : ℕ),
      requireAddress ip .IPV4 = .ok a → namesANeighbour env.python a = true → mac.length = 6 →
      mac.any (· != 0) = true →
      ((∃ message, buildSetRequest order ip mac ifindex sequence = .ok (some message)) ↔
        (-2 ^ 31 ≤ ifindex ∧ ifindex < 2 ^ 31) ∧ sequence < 2 ^ 32) ∧
      ∀ message, buildSetRequest order ip mac ifindex sequence = .ok (some message) →
        ∃ r, parseNeighbourDump order env message = .ok ⟨[r], false⟩ ∧ ipAddress r.ip = some a ∧
          r.family = .IPV4 ∧ r.mac.map Subtype.val = formatMac mac ∧
          r.interface = interfaceName env ifindex.toNat ∧ r.state = .PERMANENT := by
  refine ⟨?_, ?_, ?_⟩
  · intro entries chunks data hentries hdata
    exact KernelEntry.mapM_parseNeighbourDump hdata hentries
  · intro data
    refine ⟨exists_parseNeighbourDump order env data, fun fuel hfuel => ⟨?_, fun offset => ?_⟩⟩
    · exact recordsFrom_eq data (by omega) (by omega)
    · exact recordsFrom_eq data (by omega) (by omega)
  · intro ip a mac ifindex sequence hip hnames hmac hlearned
    obtain ⟨ip4, rfl⟩ := exists_v4_of_requireAddress hip
    exact ⟨KernelEntry.exists_buildSetRequest_iff hip hmac, fun message h =>
      parseNeighbourDump_buildSetRequest env hip hnames hmac hlearned h⟩

/-- `NDA_DST` of an address in 192.0.2.0/24. -/
def destinationAttribute (host : UInt8) : Record (RTATTR .little) :=
  .ofValue [8, 0, 1, 0] [192, 0, 2, host] rfl rfl

/-- `NDA_PROBES`. -/
def probesAttribute : Record (RTATTR .little) := .ofValue [8, 0, 4, 0] [1, 0, 0, 0] rfl rfl

/-- `NDA_LLADDR`. -/
def linkAttribute (host : UInt8) : Record (RTATTR .little) :=
  .ofValue [10, 0, 2, 0] [2, 0, 0, 0, 0, host] rfl rfl

/-- The entry of a host on the interface 2. -/
def hostEntry (host : UInt8) (state : BitVec 16) : KernelEntry .little where
  family := 2
  pads := [0, 0, 0]
  ifindex := 2
  state := state
  flags := 0
  kind := 1
  attributes := [destinationAttribute host, probesAttribute, linkAttribute host]
  destination := [192, 0, 2, host]
  link := some [2, 0, 0, 0, 0, host]
  pads_length := rfl
  destination_eq := rfl
  link_eq := rfl

/-- The attributes of that entry, as a dump has them. -/
def hostAttributes (host : UInt8) : Octets :=
  (destinationAttribute host).octets ++ (probesAttribute.octets ++ (linkAttribute host).octets)

theorem length_hostAttributes (host : UInt8) : (hostAttributes host).length = 28 := by
  simp only [hostAttributes, List.length_append, Record.length_octets, destinationAttribute,
    probesAttribute, linkAttribute, Record.ofValue, List.length_replicate, List.length_cons,
    List.length_nil]
  rfl

def hostMessage (host : UInt8) (state : BitVec 16) : Record (NLMSGHDR .little) :=
  .ofValue [56, 0, 0, 0, 28, 0, 2, 0, 1, 0, 0, 0, 0, 0, 0, 0]
    ((hostEntry host state).ndmsg ++ hostAttributes host) rfl
    (by rw [List.length_append, KernelEntry.length_ndmsg, length_hostAttributes]; rfl)

theorem isMessage_hostMessage (host : UInt8) (state : BitVec 16) :
    (hostEntry host state).IsMessage (hostMessage host state) :=
  ⟨rfl, _, .cons _ (.cons _ (.single _)), rfl⟩

/-- A host that answered is decoded between a stale one and one that failed, in a dump of two
chunks; and a request for the same address is. -/
theorem neighbour_dump_decoded_of_three_hosts :
    (∃ parsed stale answered,
      [(hostMessage 3 4).octets ++ (hostMessage 7 2).octets, (hostMessage 9 32).octets].mapM
        (parseNeighbourDump .little noInterfaces) = .ok parsed ∧
      parsed.flatMap NeighbourDumpChunk.entries = [stale, answered] ∧
      ipAddress stale.ip = some (.v4 0xC0000203) ∧ stale.state = .STALE ∧
      ipAddress answered.ip = some (.v4 0xC0000207) ∧ answered.state = .REACHABLE) ∧
    ∃ message r,
      buildSetRequest .big "192.0.2.7".toList [2, 0, 0, 0, 0, 7] 2 1 = .ok (some message) ∧
      parseNeighbourDump .big noInterfaces message = .ok ⟨[r], false⟩ ∧
      ipAddress r.ip = some (.v4 0xC0000207) ∧ r.state = .PERMANENT := by
  constructor
  · obtain ⟨parsed, hparsed, -, hrecords⟩ :=
      (neighbour_dump_decoded .little noInterfaces).1
        [hostEntry 3 4, hostEntry 7 2, hostEntry 9 32]
        [[hostMessage 3 4, hostMessage 7 2], [hostMessage 9 32]] _
        (.cons (isMessage_hostMessage 3 4) (.cons (isMessage_hostMessage 7 2)
          (.cons (isMessage_hostMessage 9 32) .nil)))
        (.cons (.cons _ (.single _)) (.cons (.single _) .nil))
    have hstale : (hostEntry 3 4).isReported noInterfaces = true := by decide +kernel
    have hanswered : (hostEntry 7 2).isReported noInterfaces = true := by decide +kernel
    have hfailed : ¬ (hostEntry 9 32).isReported noInterfaces = true := by decide +kernel
    rw [List.filter_cons_of_pos hstale, List.filter_cons_of_pos hanswered,
      List.filter_cons_of_neg hfailed, List.filter_nil] at hrecords
    obtain ⟨first, rest, hfirst, hrest, hall⟩ := List.forall₂_cons_left_iff.mp hrecords
    obtain ⟨second, rest, hsecond, hnone, rfl⟩ := List.forall₂_cons_left_iff.mp hrest
    obtain rfl := List.forall₂_nil_left_iff.mp hnone
    exact ⟨parsed, first, second, hparsed, hall, hfirst.address, hfirst.state,
      hsecond.address, hsecond.state⟩
  · obtain ⟨hiff, hread⟩ := (neighbour_dump_decoded .big
      noInterfaces).2.2 "192.0.2.7".toList (.v4 0xC0000207)
      [2, 0, 0, 0, 0, 7] 2 1 (by decide +kernel) (by decide) rfl rfl
    obtain ⟨message, hmessage⟩ := hiff.mpr (by decide)
    obtain ⟨r, hparse, haddress, -, -, -, hstate⟩ := hread message hmessage
    exact ⟨message, r, hmessage, hparse, haddress, hstate⟩

end IPScout
