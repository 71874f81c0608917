import IPScout.Neighbours.RouteDump

/-!
# Static entries of macOS

`build_add_message` writes the routing message that makes an IPv4 entry permanent: the address
in its destination and the hardware address in its gateway.  It lays its sockaddrs out as the
kernel does, so the readers find both (`readsBack_buildAddMessage`).

The splitter, the reader of a dump and this writer share one layout (`routing_messages_spec`).
-/

namespace IPScout.NeighboursMacos

open Base Base.Octets

/-! ### The encoder -/

def RTM_ADD : ℕ := 0x01

def RTF_HOST : ℕ := 0x0004
def RTF_LLINFO : ℕ := 0x0400
def RTF_STATIC : ℕ := 0x0800

def RTV_EXPIRE : ℕ := 0x04

def STATIC_FLAGS : ℕ := RTF_HOST ||| RTF_STATIC ||| RTF_LLINFO

/-- `_header`; `none` is a `struct.error`. -/
def header (messageType addrs payloadLength : ℕ) (pid seq : ℤ) : Option Octets := do
  let length ← ByteOrder.little.field 2 (RT_MSGHDR_SIZE + payloadLength)
  let pid ← ByteOrder.little.signedField pid
  let seq ← ByteOrder.little.signedField seq
  some (length ++ [UInt8.ofNat RTM_VERSION, UInt8.ofNat messageType] ++ packedLittle 2 0 ++
    [0, 0] ++ packedLittle 4 STATIC_FLAGS ++ packedLittle 4 addrs ++ pid ++ seq ++
    packedLittle 4 0 ++ packedLittle 4 0 ++ packedLittle 4 RTV_EXPIRE ++
    List.replicate RT_METRICS_SIZE 0)

/-- `build_add_message`; the inner `none` is a `struct.error`. -/
def buildAddMessage (ip : Text) (mac : Octets) (ifindex : ℕ) (pid seq : ℤ) :
    Except PyError (Option Octets) :=
  match requireAddress ip .IPV4 with
  | .error e => .error e
  | .ok address =>
    match packSockaddrDl ifindex mac with
    | .error e => .error e
    | .ok none => .ok none
    | .ok (some gateway) =>
      let addresses := packSockaddrIn address.packed ++ gateway
      .ok ((header RTM_ADD (RTA_DST ||| RTA_GATEWAY) addresses.length pid seq).map (· ++ addresses))

/-! ### Its sockaddrs -/

def inetSockaddr (ip : BitVec 32) : Sockaddr where
  tail := [2] ++ packedLittle 2 0 ++ packedNat 4 ip.toNat ++ List.replicate 8 0
  short := by
    simp only [List.length_append, length_packedLittle, length_packedNat, List.length_cons,
      List.length_nil, List.length_replicate]
    omega

def linkSockaddr (index : ℕ) (mac : Octets) (h : mac.length = MAC_LENGTH) : Sockaddr where
  tail := [UInt8.ofNat AF_LINK] ++ packedLittle 2 index ++ [UInt8.ofNat IFT_ETHER, 0] ++
    packedLittle 1 MAC_LENGTH ++ [0] ++ mac ++ List.replicate 6 0
  short := by
    simp only [List.length_append, length_packedLittle, List.length_cons, List.length_nil,
      List.length_replicate, h]
    decide

theorem length_inetSockaddr (ip : BitVec 32) : (inetSockaddr ip).length = 16 := by
  simp only [Sockaddr.length, inetSockaddr, List.length_append, length_packedLittle,
    length_packedNat, List.length_cons, List.length_nil, List.length_replicate]

theorem length_linkSockaddr (index : ℕ) {mac : Octets} (h : mac.length = MAC_LENGTH) :
    (linkSockaddr index mac h).length = SOCKADDR_DL_SIZE := by
  simp only [Sockaddr.length, linkSockaddr, List.length_append, length_packedLittle,
    List.length_cons, List.length_nil, List.length_replicate, h]
  rfl

theorem octets_inetSockaddr (ip : BitVec 32) :
    (inetSockaddr ip).octets = packSockaddrIn (IPAddress.v4 ip).packed := by
  rw [Sockaddr.octets, length_inetSockaddr]
  rfl

def addSlots (ip : BitVec 32) (index : ℕ) (mac : Octets) (h : mac.length = MAC_LENGTH)
    (bit : ℕ) : Slot :=
  if bit = RTA_DST then
    .holding (inetSockaddr ip) [] (by rw [length_inetSockaddr]; rfl)
  else .holding (linkSockaddr index mac h) [] (by rw [length_linkSockaddr]; rfl)

theorem layout_addSlots (ip : BitVec 32) (index : ℕ) {mac : Octets} (h : mac.length = MAC_LENGTH) :
    layout (RTA_DST ||| RTA_GATEWAY) (addSlots ip index mac h) =
      (inetSockaddr ip).octets ++ (linkSockaddr index mac h).octets := by
  have hnamed : (sockaddrOrder.filter fun bit => (RTA_DST ||| RTA_GATEWAY) &&& bit ≠ 0) =
      [RTA_DST, RTA_GATEWAY] := by decide
  have hdestination : (addSlots ip index mac h RTA_DST).octets = (inetSockaddr ip).octets :=
    List.append_nil _
  have hgateway : (addSlots ip index mac h RTA_GATEWAY).octets =
      (linkSockaddr index mac h).octets := List.append_nil _
  rw [layout, slotOctets, hnamed, List.flatMap_cons, List.flatMap_singleton, hdestination,
    hgateway]

theorem packSockaddrDl_eq {index : ℕ} (hindex : index < 2 ^ 16) {mac : Octets}
    (h : mac.length = MAC_LENGTH) :
    packSockaddrDl index mac = .ok (some (linkSockaddr index mac h).octets) := by
  rw [packSockaddrDl, ByteOrder.field_of_lt .little (show index < 256 ^ 2 by omega), h,
    ByteOrder.field_of_lt .little (show MAC_LENGTH < 256 ^ 1 by decide)]
  dsimp only
  rw [if_neg (by decide), Sockaddr.octets, length_linkSockaddr]
  simp only [linkSockaddr, List.append_assoc, List.cons_append, List.nil_append]
  rfl

/-! ### Reading them back -/

theorem bind_ipAddress_addressOf (s : Octets) :
    (addressOf s).bind ipAddress = sockaddrAddress s := by
  rcases addressOf_cases s with ⟨hnone, haddress⟩ | ⟨family, b, hb, hsome, haddress⟩
  · rw [hnone, haddress]
    rfl
  · rw [hsome, haddress, Option.bind_some, (ipAddress_inetNtop hb).1]

theorem sockaddrAddress_inetSockaddr (ip : BitVec 32) :
    sockaddrAddress (inetSockaddr ip).octets = some (.v4 ip) := by
  have hslice : slice (inetSockaddr ip).octets 4 8 = packedNat 4 ip.toNat := by
    have hsplit : (inetSockaddr ip).octets = (UInt8.ofNat (inetSockaddr ip).length ::
        ([2] ++ packedLittle 2 0)) ++ (packedNat 4 ip.toNat ++ List.replicate 8 0) := by
      simp only [Sockaddr.octets, inetSockaddr, List.append_assoc, List.cons_append,
        List.nil_append]
    rw [hsplit]
    exact slice_append_append rfl (by rw [length_packedNat])
  have hfamily : octet (inetSockaddr ip).octets 1 = afInet .IPV4 := rfl
  have hsize : 8 ≤ (inetSockaddr ip).octets.length := by
    rw [Sockaddr.length_octets, length_inetSockaddr]
    decide
  rw [sockaddrAddress, if_pos ⟨hfamily, hsize⟩, hslice, bigEndian_packedNat,
    Nat.mod_eq_of_lt (show ip.toNat < 256 ^ 4 from ip.isLt)]
  show some (IPAddress.v4 (BitVec.ofNat 32 ip.toNat)) = _
  rw [BitVec.ofNat_toNat, BitVec.setWidth_eq]

theorem hardwareOctets_linkSockaddr (index : ℕ) {mac : Octets} (h : mac.length = MAC_LENGTH) :
    hardwareOctets (linkSockaddr index mac h).octets = some mac := by
  obtain ⟨x, y, hindex⟩ := List.length_eq_two.mp (length_packedLittle 2 index)
  have hoctets : (linkSockaddr index mac h).octets =
      [20, 18, x, y, 6, 0, 6, 0] ++ (mac ++ List.replicate 6 0) := by
    rw [Sockaddr.octets, length_linkSockaddr]
    show UInt8.ofNat SOCKADDR_DL_SIZE :: ([UInt8.ofNat AF_LINK] ++ packedLittle 2 index ++
      [UInt8.ofNat IFT_ETHER, 0] ++ packedLittle 1 MAC_LENGTH ++ [0] ++ mac ++
      List.replicate 6 0) = _
    rw [hindex]
    simp only [List.append_assoc, List.cons_append, List.nil_append]
    rfl
  have hlength : (linkSockaddr index mac h).octets.length = SOCKADDR_DL_SIZE := by
    rw [Sockaddr.length_octets, length_linkSockaddr]
  have hkind : octet (linkSockaddr index mac h).octets 1 = AF_LINK := by
    rw [hoctets]
    rfl
  have hname : octet (linkSockaddr index mac h).octets 5 = 0 := by
    rw [hoctets]
    rfl
  have haddress : octet (linkSockaddr index mac h).octets 6 = MAC_LENGTH := by
    rw [hoctets]
    rfl
  have hslice : slice (linkSockaddr index mac h).octets (SOCKADDR_DL_FIXED + 0)
      (SOCKADDR_DL_FIXED + 0 + MAC_LENGTH) = mac := by
    rw [hoctets]
    exact slice_append_append rfl (by rw [h])
  rw [hardwareOctets, hname, hslice, if_pos ⟨hkind, haddress, by rw [hlength]; decide⟩]

/-! ### The message -/

theorem length_of_signedField {i : ℤ} {octets : Octets}
    (h : ByteOrder.little.signedField i = some octets) : octets.length = 4 := by
  rw [ByteOrder.signedField] at h
  split at h
  · rw [← Option.some.inj h, ByteOrder.length_pack]
  · simp at h

theorem addrs_unpack (data : Octets) :
    (RtMsghdr.unpack data).addrs = littleEndian (slice data 12 16) := rfl

theorem unpack_header {addrs payloadLength : ℕ} (haddrs : addrs < 256 ^ 4) {pid seq : ℤ}
    {octets : Octets} (h : header RTM_ADD addrs payloadLength pid seq = some octets)
    (rest : Octets) :
    octets.length = RT_MSGHDR_SIZE ∧ (RtMsghdr.unpack (octets ++ rest)).addrs = addrs := by
  simp only [header, Option.bind_eq_bind, Option.bind_eq_some_iff, Option.some.injEq] at h
  obtain ⟨length, hlength, pid', hpid, seq', hseq, rfl⟩ := h
  obtain ⟨-, rfl⟩ := ByteOrder.field_eq_some hlength
  have hpid' := length_of_signedField hpid
  have hseq' := length_of_signedField hseq
  constructor
  · simp only [List.length_append, ByteOrder.length_pack, length_packedLittle, hpid', hseq',
      List.length_cons, List.length_nil, List.length_replicate]
    rfl
  · have hbefore : (ByteOrder.little.pack 2 (RT_MSGHDR_SIZE + payloadLength) ++
        [UInt8.ofNat RTM_VERSION, UInt8.ofNat RTM_ADD] ++ packedLittle 2 0 ++ [0, 0] ++
        packedLittle 4 STATIC_FLAGS).length = 12 := by
      simp only [List.length_append, ByteOrder.length_pack, length_packedLittle, List.length_cons,
        List.length_nil]
    have hfield := @slice_append_append _ (packedLittle 4 addrs) (pid' ++ seq' ++
      packedLittle 4 0 ++ packedLittle 4 0 ++ packedLittle 4 RTV_EXPIRE ++
      List.replicate RT_METRICS_SIZE 0 ++ rest) 12 16
      hbefore (congrArg (12 + ·) (length_packedLittle 4 addrs))
    have hread : littleEndian (packedLittle 4 addrs) = addrs :=
      (littleEndian_packedLittle 4 addrs).trans (Nat.mod_eq_of_lt haddrs)
    rw [addrs_unpack]
    simp only [List.append_assoc] at hfield ⊢
    rw [hfield, hread]

theorem isSome_header_iff (addrs : ℕ) {payloadLength : ℕ} (hlength : payloadLength < 65000)
    (pid seq : ℤ) :
    (header RTM_ADD addrs payloadLength pid seq).isSome = true ↔
      (-2 ^ 31 ≤ pid ∧ pid < 2 ^ 31) ∧ -2 ^ 31 ≤ seq ∧ seq < 2 ^ 31 := by
  have hfits : RT_MSGHDR_SIZE + payloadLength < 256 ^ 2 := by
    rw [show RT_MSGHDR_SIZE = 92 from rfl]
    omega
  rw [header, ByteOrder.field_of_lt .little hfits, ByteOrder.signedField, ByteOrder.signedField]
  by_cases hpid : -2 ^ 31 ≤ pid ∧ pid < 2 ^ 31
  · by_cases hseq : -2 ^ 31 ≤ seq ∧ seq < 2 ^ 31
    · rw [if_pos hpid, if_pos hseq]
      exact ⟨fun _ => ⟨hpid, hseq⟩, fun _ => rfl⟩
    · rw [if_pos hpid, if_neg hseq]
      exact ⟨fun h => absurd h (by simp), fun h => absurd h.2 hseq⟩
  · rw [if_neg hpid]
    exact ⟨fun h => absurd h (by simp), fun h => absurd h.1 hpid⟩

theorem buildAddMessage_eq {ip : Text} {ip4 : BitVec 32} {mac : Octets}
    (hip : requireAddress ip .IPV4 = .ok (.v4 ip4)) (hmac : mac.length = MAC_LENGTH)
    (ifindex : BitVec 16) (pid seq : ℤ) :
    buildAddMessage ip mac ifindex.toNat pid seq =
      .ok ((header RTM_ADD (RTA_DST ||| RTA_GATEWAY)
        (layout (RTA_DST ||| RTA_GATEWAY) (addSlots ip4 ifindex.toNat mac hmac)).length pid seq).map
          (· ++ layout (RTA_DST ||| RTA_GATEWAY) (addSlots ip4 ifindex.toNat mac hmac))) := by
  rw [buildAddMessage, hip]
  dsimp only
  rw [packSockaddrDl_eq ifindex.isLt hmac, layout_addSlots, octets_inetSockaddr]

/-- **A message is built unless a number does not fit**, and its sockaddrs are read back. -/
theorem readsBack_buildAddMessage {ip : Text} {a : IPAddress} {mac : Octets}
    (hip : requireAddress ip .IPV4 = .ok a) (hmac : mac.length = MAC_LENGTH)
    (ifindex : BitVec 16) (pid seq : ℤ) :
    ((∃ message, buildAddMessage ip mac ifindex.toNat pid seq = .ok (some message)) ↔
      (-2 ^ 31 ≤ pid ∧ pid < 2 ^ 31) ∧ -2 ^ 31 ≤ seq ∧ seq < 2 ^ 31) ∧
    ∀ message, buildAddMessage ip mac ifindex.toNat pid seq = .ok (some message) →
      let sockaddrs := splitSockaddrs (message.drop RT_MSGHDR_SIZE) (RtMsghdr.unpack message).addrs
      (sockaddrs.destination.bind addressOf).bind ipAddress = some a ∧
        sockaddrs.gateway.bind linkAddressOf = formatMac mac := by
  obtain ⟨ip4, rfl⟩ := exists_v4_of_requireAddress hip
  rw [buildAddMessage_eq hip hmac]
  generalize haddresses : layout (RTA_DST ||| RTA_GATEWAY) (addSlots ip4 ifindex.toNat mac hmac) =
    addresses
  have hlength : addresses.length < 65000 := by
    rw [← haddresses, layout_addSlots, List.length_append, Sockaddr.length_octets,
      Sockaddr.length_octets, length_inetSockaddr, length_linkSockaddr]
    decide
  constructor
  · rw [← isSome_header_iff (RTA_DST ||| RTA_GATEWAY) hlength pid seq]
    cases header RTM_ADD (RTA_DST ||| RTA_GATEWAY) addresses.length pid seq with
    | none => simp
    | some octets => simp
  · intro message hmessage
    obtain ⟨octets, hoctets, rfl⟩ := Option.map_eq_some_iff.mp (Except.ok.inj hmessage)
    obtain ⟨hsize, haddrs⟩ := unpack_header (by decide) hoctets addresses
    have hsplit := splitSockaddrs_layout (RTA_DST ||| RTA_GATEWAY)
      (addSlots ip4 ifindex.toNat mac hmac) []
    rw [List.append_nil, haddresses] at hsplit
    dsimp only
    rw [haddrs, List.drop_left' hsize, hsplit]
    have hdestination : (namedSockaddrs (RTA_DST ||| RTA_GATEWAY)
        (addSlots ip4 ifindex.toNat mac hmac)).destination = some (inetSockaddr ip4).octets := rfl
    have hgateway : (namedSockaddrs (RTA_DST ||| RTA_GATEWAY)
        (addSlots ip4 ifindex.toNat mac hmac)).gateway =
        some (linkSockaddr ifindex.toNat mac hmac).octets := rfl
    constructor
    · rw [hdestination, Option.bind_some, bind_ipAddress_addressOf, sockaddrAddress_inetSockaddr]
    · rw [hgateway, Option.bind_some, linkAddressOf_eq, hardwareOctets_linkSockaddr,
        Option.bind_some]

/-- **The splitter, the reader of a dump and the writer share one layout.**  The splitter finds
each sockaddr a mask names, whatever follows them, and of octets that are cut short it finds
each or none in its place.  A dump gives the records of its messages that are reported, in
order, and any octets are decoded.  A message that makes an entry permanent is read back. -/
theorem routing_messages_spec (env : Interfaces) :
    (∀ (addrs : ℕ) (slots : ℕ → Slot) (rest : Octets),
      splitSockaddrs (layout addrs slots ++ rest) addrs = namedSockaddrs addrs slots ∧
        ∀ n, (splitSockaddrs ((layout addrs slots ++ rest).take n) addrs).LeftOf
          (namedSockaddrs addrs slots)) ∧
    (∀ (family : AddressFamily) (messages : List RouteMessage),
      ∃ found, parseNeighbourDump env (messages.flatMap fun m => m.record.octets) family =
          .ok found ∧
        List.Forall₂ (fun m r => IsRecord env family m.header.index m.sockaddrs r)
          (messages.filter fun m => isReported env family m.sockaddrs) found) ∧
    (∀ (data : Octets) (family : AddressFamily),
      ∃ found, parseNeighbourDump env data family = .ok found) ∧
    ∀ (ip : Text) (a : IPAddress) (mac : Octets) (ifindex : BitVec 16) (pid seq : ℤ),
      requireAddress ip .IPV4 = .ok a → mac.length = MAC_LENGTH → mac.any (· != 0) = true →
      ((∃ message, buildAddMessage ip mac ifindex.toNat pid seq = .ok (some message)) ↔
        (-2 ^ 31 ≤ pid ∧ pid < 2 ^ 31) ∧ -2 ^ 31 ≤ seq ∧ seq < 2 ^ 31) ∧
      ∀ message, buildAddMessage ip mac ifindex.toNat pid seq = .ok (some message) →
        let sockaddrs :=
          splitSockaddrs (message.drop RT_MSGHDR_SIZE) (RtMsghdr.unpack message).addrs
        (sockaddrs.destination.bind addressOf).bind ipAddress = some a ∧
          sockaddrs.gateway.bind linkAddressOf = formatMac mac ∧
          (formatMac mac).isSome = true := by
  refine ⟨?_, parseNeighbourDump_messages env, exists_parseNeighbourDump env, ?_⟩
  · intro addrs slots rest
    have hsplit := splitSockaddrs_layout addrs slots rest
    refine ⟨hsplit, ?_⟩
    intro n
    rw [← hsplit]
    exact splitSockaddrs_take _ n addrs
  · intro ip a mac ifindex pid seq hip hmac hany
    obtain ⟨hbuilt, hread⟩ := readsBack_buildAddMessage hip hmac ifindex pid seq
    refine ⟨hbuilt, ?_⟩
    intro message hmessage
    obtain ⟨haddress, hlink⟩ := hread message hmessage
    refine ⟨haddress, hlink, ?_⟩
    rw [isSome_formatMac, hmac, hany]
    rfl

/-- The message for one entry is built and read back. -/
theorem routing_messages_spec_of_one_entry :
    ∃ message, buildAddMessage "192.0.2.7".toList [2, 0, 0, 0, 0, 7] 4 1 1 = .ok (some message) ∧
      let sockaddrs :=
        splitSockaddrs (message.drop RT_MSGHDR_SIZE) (RtMsghdr.unpack message).addrs
      (sockaddrs.destination.bind addressOf).bind ipAddress = some (.v4 0xC0000207) ∧
        sockaddrs.gateway.bind linkAddressOf = formatMac [2, 0, 0, 0, 0, 7] ∧
        (formatMac [2, 0, 0, 0, 0, 7]).isSome = true := by
  obtain ⟨hbuilt, hread⟩ := (routing_messages_spec noInterfaces).2.2.2
    "192.0.2.7".toList (.v4 0xC0000207) [2, 0, 0, 0, 0, 7] 4 1 1 (by decide +kernel) rfl rfl
  obtain ⟨message, hmessage⟩ := hbuilt.mpr (by decide)
  exact ⟨message, hmessage, hread message hmessage⟩

end IPScout.NeighboursMacos
