import IPScout.Base.Layout
import IPScout.Neighbours.Arp
import IPScout.Neighbours.Dump
import IPScout.Neighbours.Entries
import IPScout.Neighbours.Remove

/-!
# Requests and acknowledgements on netlink

The octets between the Linux backend and the kernel: the requests `build_set_request` and
`build_remove_request`, `parse_ack`, and the reads of `_exchange`.

A request says the change it was built for (`changeOf_buildSetRequest`,
`changeOf_buildRemoveRequest`), and the number of an acknowledgement is read from whatever else
is in its datagram (`parseAck_of_acknowledges`).  A kernel may refuse a request, lose it or lose
its answer, and may send other datagrams first; the backend on octets does what the backend of
`Neighbours/Static.lean` does on changes (`linux_backend_refines`).
-/

namespace IPScout

open Base Base.Octets Base.Text Base.Exchange

/-! ### Requests -/

def RTM_DELNEIGH : ℕ := 29

/-- `build_remove_request`; the inner `none` is a `struct.error`. -/
def buildRemoveRequest (order : ByteOrder) (ip : Text) (ifindex : ℤ) (sequence : ℕ) :
    Except PyError (Option Octets) :=
  match Ndmsg.pack order ⟨AF_INET, ifindex, 0⟩ with
  | none => .ok none
  | some header => do
    let address ← requireAddress ip .IPV4
    .ok do
      let destination ← buildAttribute order NDA_DST address.packed
      buildMessage order RTM_DELNEIGH (NLM_F_REQUEST ||| NLM_F_ACK) (header ++ destination) sequence

/-- The value of the first attribute of a type. -/
def attributeValue (kind : ℕ) (attributes : List (ℕ × Octets)) : Option Octets :=
  (attributes.find? fun a => a.1 = kind).map Prod.snd

/-- The change a message of a type asks for, by its header and its attributes. -/
def changeAsked (kind : ℕ) (header : Ndmsg) (attributes : List (ℕ × Octets)) :
    Option TableChange :=
  if header.family ≠ AF_INET then none
  else
    match attributeValue NDA_DST attributes with
    | none => none
    | some destination =>
      if kind = RTM_DELNEIGH then
        some (.delete (inetNtoa destination) (some header.ifindex.toNat))
      else if kind = RTM_NEWNEIGH ∧ header.state = NUD_PERMANENT then
        (attributeValue NDA_LLADDR attributes).map
          (TableChange.replace (inetNtoa destination) header.ifindex.toNat)
      else none

/-- The change a request asks for, as a kernel reads it. -/
def changeOf (order : ByteOrder) (request : Octets) : Option TableChange :=
  match iterMessages order request with
  | [(kind, payload)] =>
    changeAsked kind (Ndmsg.unpack order payload) (iterAttributes order payload NDMSG_SIZE)
  | _ => none

theorem octet_pack (order : ByteOrder) {n : ℕ} (h : n < 256) (rest : Octets) :
    octet (order.pack 1 n ++ rest) 0 = n := by
  have hone : order.pack 1 n = [UInt8.ofNat n] := by
    cases order with
    | little => exact congrArg (fun x => [UInt8.ofNat x]) (Nat.div_one n)
    | big => exact congrArg (fun x => [UInt8.ofNat x]) (Nat.div_one n)
  rw [hone]
  exact UInt8.toNat_ofNat'.trans (Nat.mod_eq_of_lt h)

theorem unpack_of_pack {order : ByteOrder} {m : Ndmsg} {header : Octets}
    (h : Ndmsg.pack order m = some header) (rest : Octets) :
    header.length = NDMSG_SIZE ∧ Ndmsg.unpack order (header ++ rest) = m := by
  simp only [Ndmsg.pack, Option.bind_eq_bind, Option.bind_eq_some_iff, Option.some.injEq] at h
  obtain ⟨family, hfamily, ifindex, hifindex, state, hstate, rfl⟩ := h
  obtain ⟨hfamilyLt, rfl⟩ := ByteOrder.field_eq_some hfamily
  obtain ⟨hstateLt, rfl⟩ := ByteOrder.field_eq_some hstate
  rw [ByteOrder.signedField] at hifindex
  split at hifindex
  · next hrange =>
    obtain rfl := Option.some.inj hifindex
    have hfields : order.pack 1 m.family ++ List.replicate 3 0 ++
        order.pack 4 (BitVec.ofInt 32 m.ifindex).toNat ++ order.pack 2 m.state ++
        List.replicate 2 0 = [order.pack 1 m.family, List.replicate 3 0,
          order.pack 4 (BitVec.ofInt 32 m.ifindex).toNat, order.pack 2 m.state,
          List.replicate 2 0].flatten := by
      simp
    have hsizes : [order.pack 1 m.family, List.replicate 3 0,
        order.pack 4 (BitVec.ofInt 32 m.ifindex).toNat, order.pack 2 m.state,
        List.replicate 2 0].map List.length = [1, 3, 4, 2, 2] := by
      simp [ByteOrder.length_pack]
    rw [hfields]
    generalize hflat : [order.pack 1 m.family, List.replicate 3 0,
        order.pack 4 (BitVec.ofInt 32 m.ifindex).toNat, order.pack 2 m.state,
        List.replicate 2 0].flatten = header
    have hindex : slice (header ++ rest) 4 8 = order.pack 4 (BitVec.ofInt 32 m.ifindex).toNat := by
      rw [← hflat]
      exact slice_fields hsizes rest (i := 2) (by simp) rfl rfl
    have hstate : slice (header ++ rest) 8 10 = order.pack 2 m.state := by
      rw [← hflat]
      exact slice_fields hsizes rest (i := 3) (by simp) rfl rfl
    have hfamily : octet (header ++ rest) 0 = m.family := by
      rw [← hflat, List.flatten_cons, List.append_assoc]
      exact octet_pack order hfamilyLt _
    refine ⟨by rw [← hflat, List.length_flatten, hsizes]; rfl, ?_⟩
    rw [Ndmsg.unpack, hindex, hstate, hfamily, order.read_pack (BitVec.ofInt 32 m.ifindex).isLt,
      order.read_pack hstateLt, BitVec.ofNat_toNat, BitVec.setWidth_eq,
      BitVec.toInt_ofInt_eq_self (by decide) hrange.1 hrange.2]
  · cases hifindex

theorem iterAttributes_of_records {order : ByteOrder} {header : Octets}
    (hheader : header.length = NDMSG_SIZE) (attributes : List (Record (RTATTR order))) :
    iterAttributes order (header ++ attributes.flatMap Record.octets) NDMSG_SIZE =
      attributes.map fun a => (rtattrType order a.header, a.value) := by
  rw [← hheader]
  exact iterAttributes_of_isBuffer (isBuffer_flatMap attributes) header

theorem changeOf_of_built {order : ByteOrder} {kind flags sequence : ℕ} {m : Ndmsg}
    {header message : Octets} (attributes : List (Record (RTATTR order)))
    (hheader : Ndmsg.pack order m = some header)
    (hmessage : buildMessage order kind flags
      (header ++ attributes.flatMap Record.octets) sequence = some message) :
    changeOf order message =
      changeAsked kind m (attributes.map fun a => (rtattrType order a.header, a.value)) := by
  obtain ⟨hsize, hunpack⟩ := unpack_of_pack hheader (attributes.flatMap Record.octets)
  rw [changeOf, iterMessages_buildMessage hmessage]
  dsimp only
  rw [hunpack, iterAttributes_of_records hsize]

/-- The text of an address that `require_address` has read is the text it was read from. -/
theorem inetNtoa_packed_of_requireAddress {ip : Text} {address : IPAddress}
    (h : requireAddress ip .IPV4 = .ok address) : inetNtoa address.packed = ip := by
  obtain ⟨bits, rfl⟩ := exists_v4_of_requireAddress h
  exact (exists_inetNtoa_of_ipv4Address
    (ipv4Address_of_ipAddress (requireAddress_eq_ok_iff.mp h).1)).symm

/-- **A request to add an entry asks for that entry.** -/
theorem changeOf_buildSetRequest {order : ByteOrder} {ip : Text} {mac message : Octets}
    {ifindex sequence : ℕ}
    (h : buildSetRequest order ip mac ifindex sequence = .ok (some message)) :
    changeOf order message = some (.replace ip ifindex mac) := by
  rw [buildSetRequest] at h
  split at h
  · cases h
  · next header hheader =>
    obtain ⟨address, haddress, h⟩ := bind_eq_ok.mp h
    have h := Except.ok.inj h
    simp only [Option.bind_eq_bind, Option.bind_eq_some_iff] at h
    obtain ⟨_, hdestination, _, hlink, hmessage⟩ := h
    obtain ⟨destination, rfl, hdst, hpacked⟩ := exists_record_of_buildAttribute hdestination
    obtain ⟨link, rfl, hlladdr, hmac⟩ := exists_record_of_buildAttribute hlink
    rw [changeOf_of_built [destination, link] hheader (by simpa using hmessage)]
    have hfirst : attributeValue NDA_DST (List.map
        (fun a => (rtattrType order a.header, a.value)) [destination, link]) =
          some address.packed := by
      simp [attributeValue, hdst, hpacked]
    have hsecond : attributeValue NDA_LLADDR (List.map
        (fun a => (rtattrType order a.header, a.value)) [destination, link]) = some mac := by
      simp [attributeValue, hdst, hlladdr, hmac, NDA_DST, NDA_LLADDR]
    rw [changeAsked, if_neg (not_not.mpr rfl), hfirst]
    dsimp only
    rw [if_neg (by decide), if_pos ⟨rfl, rfl⟩, hsecond, Option.map_some, Int.toNat_natCast,
      inetNtoa_packed_of_requireAddress haddress]

/-- **A request to delete an entry asks for that.** -/
theorem changeOf_buildRemoveRequest {order : ByteOrder} {ip : Text} {message : Octets}
    {ifindex sequence : ℕ}
    (h : buildRemoveRequest order ip ifindex sequence = .ok (some message)) :
    changeOf order message = some (.delete ip (some ifindex)) := by
  rw [buildRemoveRequest] at h
  split at h
  · cases h
  · next header hheader =>
    obtain ⟨address, haddress, h⟩ := bind_eq_ok.mp h
    have h := Except.ok.inj h
    simp only [Option.bind_eq_bind, Option.bind_eq_some_iff] at h
    obtain ⟨_, hdestination, hmessage⟩ := h
    obtain ⟨destination, rfl, hdst, hpacked⟩ := exists_record_of_buildAttribute hdestination
    rw [changeOf_of_built [destination] hheader (by simpa using hmessage)]
    have hfirst : attributeValue NDA_DST (List.map
        (fun a => (rtattrType order a.header, a.value)) [destination]) = some address.packed := by
      simp [attributeValue, hdst, hpacked]
    rw [changeAsked, if_neg (not_not.mpr rfl), hfirst]
    dsimp only
    rw [if_pos rfl, Int.toNat_natCast, inetNtoa_packed_of_requireAddress haddress]

theorem exists_buildRemoveRequest (order : ByteOrder) {ip : Text} {address : IPAddress}
    {ifindex : ℕ} (hip : requireAddress ip .IPV4 = .ok address) (hindex : ifindex < 2 ^ 31) :
    ∃ message, buildRemoveRequest order ip ifindex 1 = .ok (some message) := by
  obtain ⟨bits, rfl⟩ := exists_v4_of_requireAddress hip
  have hpacked : (IPAddress.v4 bits).packed.length = 4 := length_packedNat 4 bits.toNat
  have hrange : -2 ^ 31 ≤ (ifindex : ℤ) ∧ (ifindex : ℤ) < 2 ^ 31 := by omega
  obtain ⟨destination, hdestination, hlength⟩ := exists_buildAttribute order NDA_DST
    (IPAddress.v4 bits).packed (by rw [hpacked]; decide) (by decide)
  rw [buildRemoveRequest, Ndmsg.pack, ByteOrder.signedField, if_pos hrange,
    order.field_of_lt (show AF_INET < 256 ^ 1 by decide),
    order.field_of_lt (show 0 < 256 ^ 2 by decide), hip]
  simp only [Bind.bind, Except.bind, Except.ok.injEq, hdestination, Option.bind_some]
  refine exists_buildMessage_iff.mpr ⟨?_, by decide, by decide, by decide⟩
  simp only [List.length_append, List.length_replicate, ByteOrder.length_pack, hlength, hpacked]
  show 16 + _ < 256 ^ 4
  decide

/-! ### Answers -/

def parseAck (order : ByteOrder) (data : Octets) : Option ℤ :=
  (iterMessages order data).findSome? fun (kind, payload) =>
    if kind = NLMSG_ERROR ∧ 4 ≤ payload.length then
      some (-(BitVec.ofNat 32 (order.read (slice payload 0 4))).toInt)
    else none

/-- A datagram that answers a request with a number, whatever it echoes. -/
def Acknowledges (order : ByteOrder) (datagram : Octets) (error : ℕ) : Prop :=
  ∃ before echo after, iterMessages order datagram =
      before ++ (NLMSG_ERROR, order.pack 4 (BitVec.ofInt 32 (-error)).toNat ++ echo) :: after ∧
    ∀ m ∈ before, m.1 ≠ NLMSG_ERROR

/-- **The number of an acknowledgement is read.** -/
theorem parseAck_of_acknowledges {order : ByteOrder} {datagram : Octets} {error : ℕ}
    (h : Acknowledges order datagram error) (herror : error < 2 ^ 31) :
    parseAck order datagram = some (error : ℤ) := by
  obtain ⟨before, echo, after, hmessages, hbefore⟩ := h
  have hnone : before.findSome? (fun (kind, payload) =>
      if kind = NLMSG_ERROR ∧ 4 ≤ payload.length then
        some (-(BitVec.ofNat 32 (order.read (slice payload 0 4))).toInt)
      else none) = none := by
    rw [List.findSome?_eq_none_iff]
    intro m hm
    exact if_neg fun hkind => hbefore m hm hkind.1
  have hcode : slice (order.pack 4 (BitVec.ofInt 32 (-(error : ℤ))).toNat ++ echo) 0 4 =
      order.pack 4 (BitVec.ofInt 32 (-(error : ℤ))).toNat :=
    slice_append_zero (order.length_pack 4 _) echo
  rw [parseAck, hmessages, List.findSome?_append, hnone, Option.none_or, List.findSome?_cons]
  dsimp only
  rw [if_pos ⟨rfl, by rw [List.length_append, order.length_pack]; omega⟩, hcode,
    order.read_pack (BitVec.isLt _), BitVec.ofNat_toNat, BitVec.setWidth_eq,
    BitVec.toInt_ofInt_eq_self (by decide) (by omega) (by omega), neg_neg]

/-! ### The backend on octets -/

/-- A host with the texts of every number, `os.strerror` of an `int`. -/
structure NetlinkHost extends StationHost where
  strerrorInt : ℤ → Text
  strerrorInt_natCast : ∀ n : ℕ, strerrorInt n = strerror n

/-- What `_exchange` asks of its socket. -/
inductive NetlinkCall
  | send (message : Octets)
  | recv

abbrev NetlinkCall.Answer : NetlinkCall → Type
  | send _ => Except OSErr Unit
  | recv => Except OSErr Octets

namespace NeighboursLinux

def raiseForAck (host : NetlinkHost) (action : NeighbourChange) :
    Option ℤ → Except PyError Unit
  | none => .error (.scout .IPScoutError [say "the kernel did not acknowledge the request to ",
      .text action.value, say " the neighbour entry"])
  | some error =>
    if error = 0 then .ok ()
    else if error ∈ PERMISSION_ERRNOS.map Int.ofNat then
      .error (.scout .IPScoutPermissionError
        [say "changing the neighbour table needs root or CAP_NET_ADMIN: ",
          .text (host.strerrorInt error), say (". Run as root, or grant it with " ++
            "'setcap cap_net_admin+ep $(readlink -f $(which python3))'")])
    else .error (.scout .IPScoutError [say "the kernel refused to ", .text action.value,
      say " the neighbour entry: ", .text (host.strerrorInt error), say " (errno ",
      .text (decimalInt error), say ")"])

def removedFromAck (host : NetlinkHost) (error : Option ℤ) : Except PyError Bool :=
  if error = some (LinuxBackend.ENOENT : ℤ) then .ok false
  else do
    raiseForAck host .REMOVE error
    .ok true

def MAX_ACK_READS : ℕ := 8

/-- The reads of `_exchange`. -/
def awaitAck (order : ByteOrder) : ℕ → Exchange NetlinkCall NetlinkCall.Answer (Option ℤ)
  | 0 => .done none
  | reads + 1 => .ask .recv fun received : Except OSErr Octets =>
    match received with
    | .error _ => .done none
    | .ok data =>
      match parseAck order data with
      | some error => .done (some error)
      | none => awaitAck order reads

/-- `_exchange` on a socket that is open. -/
def exchange (order : ByteOrder) (message : Octets) :
    Exchange NetlinkCall NetlinkCall.Answer (Option ℤ) :=
  .ask (.send message) fun sent : Except OSErr Unit =>
    match sent with
    | .error _ => .done none
    | .ok _ => awaitAck order MAX_ACK_READS

/-- `_exchange` of a request that is built, and what is made of its answer; the outer `none`
is a `struct.error`. -/
def exchangeRequest {α : Type} (order : ByteOrder) (host : NetlinkHost)
    (request : Except PyError (Option Octets)) (conclude : Option ℤ → Except PyError α) :
    Exchange NetlinkCall NetlinkCall.Answer (Option (Except PyError α)) :=
  match request with
  | .error error => .done (some (.error error))
  | .ok none => .done none
  | .ok (some message) =>
    if host.hasNetlink then
      (exchange order message).bind fun error => .done (some (conclude error))
    else .done (some (.error (.scout .IPScoutUnsupportedError
      [say "no netlink socket on this host, so the neighbour table cannot be changed"])))

def setStaticNeighbour (order : ByteOrder) (host : NetlinkHost) (ip : Text) (mac : Octets)
    (ifindex : ℕ) : Exchange NetlinkCall NetlinkCall.Answer (Option (Except PyError Unit)) :=
  exchangeRequest order host (buildSetRequest order ip mac ifindex 1) (raiseForAck host .ADD)

def removeStaticNeighbour (order : ByteOrder) (host : NetlinkHost) (ip : Text) (ifindex : ℕ) :
    Exchange NetlinkCall NetlinkCall.Answer (Option (Except PyError Bool)) :=
  exchangeRequest order host (buildRemoveRequest order ip ifindex 1) (removedFromAck host)

end NeighboursLinux

/-! ### A kernel that reads requests -/

/-- The kernel behind the socket of one exchange. -/
structure NetlinkKernel where
  table : NeighbourTable
  /-- The datagrams that wait to be read. -/
  queue : List Octets

/-- What the kernel may do with a call: it answers a request it has read, or one it refuses,
with an acknowledgement, and anything may get lost. -/
inductive NetlinkServes (order : ByteOrder) :
    NetlinkKernel → (q : NetlinkCall) → q.Answer → NetlinkKernel → Prop
  | accepted {k : NetlinkKernel} {message ack : Octets} {change : TableChange} :
      changeOf order message = some change → Acknowledges order ack 0 →
      NetlinkServes order k (.send message) (.ok ()) ⟨k.table.apply change, k.queue ++ [ack]⟩
  | refused {k : NetlinkKernel} {message ack : Octets} {error : ℕ} : error ≠ 0 →
      error < 2 ^ 31 → Acknowledges order ack error →
      NetlinkServes order k (.send message) (.ok ()) ⟨k.table, k.queue ++ [ack]⟩
  | silent {k : NetlinkKernel} {message : Octets} {change : TableChange} :
      changeOf order message = some change →
      NetlinkServes order k (.send message) (.ok ()) ⟨k.table.apply change, k.queue⟩
  | ignored {k : NetlinkKernel} {message : Octets} :
      NetlinkServes order k (.send message) (.ok ()) k
  | unsent {k : NetlinkKernel} {message : Octets} {error : OSErr} :
      NetlinkServes order k (.send message) (.error error) k
  | delivered {t : NeighbourTable} {datagram : Octets} {rest : List Octets} :
      NetlinkServes order ⟨t, datagram :: rest⟩ .recv (.ok datagram) ⟨t, rest⟩
  | other {k : NetlinkKernel} {datagram : Octets} : parseAck order datagram = none →
      NetlinkServes order k .recv (.ok datagram) k
  | unread {k : NetlinkKernel} {error : OSErr} :
      NetlinkServes order k .recv (.error error) k

namespace NeighboursLinux

/-- **What is read of an answer is a datagram that waits**, and reading changes no entry. -/
theorem ensures_awaitAck {order : ByteOrder} (reads : ℕ) (k : NetlinkKernel) :
    Ensures (NetlinkServes order) k (awaitAck order reads) fun a u =>
      u.table = k.table ∧ (a = none ∨ ∃ datagram ∈ k.queue, parseAck order datagram = a) := by
  induction reads generalizing k with
  | zero => exact ensures_done.mpr ⟨rfl, Or.inl rfl⟩
  | succ reads ih =>
    refine ensures_ask.mpr ?_
    intro r u hserve
    cases hserve with
    | unread => exact ensures_done.mpr ⟨rfl, Or.inl rfl⟩
    | other hsilent =>
      dsimp only
      rw [hsilent]
      exact ih k
    | @delivered t datagram rest =>
      dsimp only
      cases hparse : parseAck order datagram with
      | some error => exact ensures_done.mpr ⟨rfl, Or.inr ⟨datagram, List.mem_cons_self, hparse⟩⟩
      | none =>
        refine (ih ⟨t, rest⟩).mono ?_
        rintro a u ⟨htable, hanswer⟩
        refine ⟨htable, hanswer.imp_right ?_⟩
        rintro ⟨other, hother, hread⟩
        exact ⟨other, List.mem_cons_of_mem _ hother, hread⟩

/-- **An exchange on octets is an exchange of the change it encodes.** -/
theorem ensures_exchange {order : ByteOrder} {message : Octets} {change : TableChange}
    (h : changeOf order message = some change) (t : NeighbourTable) :
    Ensures (NetlinkServes order) ⟨t, []⟩ (exchange order message) fun a u =>
      ∃ answer : Option ℕ, a = answer.map Int.ofNat ∧
        KernelServes t (.exchange change) answer u.table := by
  refine ensures_ask.mpr ?_
  intro r u hserve
  cases hserve with
  | @accepted _ _ ack asked hasked hack =>
    obtain rfl : asked = change := Option.some.inj (hasked.symm.trans h)
    refine (ensures_awaitAck MAX_ACK_READS _).mono ?_
    rintro a v ⟨htable, hanswer⟩
    rw [htable]
    rcases hanswer with rfl | ⟨datagram, hqueue, rfl⟩
    · exact ⟨none, rfl, .lost⟩
    · obtain rfl := List.mem_singleton.mp hqueue
      exact ⟨some 0, parseAck_of_acknowledges hack (by decide), .acknowledged⟩
  | @refused _ _ ack error herror hsmall hack =>
    refine (ensures_awaitAck MAX_ACK_READS _).mono ?_
    rintro a v ⟨htable, hanswer⟩
    rw [htable]
    rcases hanswer with rfl | ⟨datagram, hqueue, rfl⟩
    · exact ⟨none, rfl, .unanswered⟩
    · obtain rfl := List.mem_singleton.mp hqueue
      exact ⟨some error, parseAck_of_acknowledges hack hsmall, .refused herror⟩
  | @silent _ _ asked hasked =>
    obtain rfl : asked = change := Option.some.inj (hasked.symm.trans h)
    refine (ensures_awaitAck MAX_ACK_READS _).mono ?_
    rintro a v ⟨htable, hanswer⟩
    rw [htable]
    rcases hanswer with rfl | ⟨datagram, hqueue, _⟩
    · exact ⟨none, rfl, .lost⟩
    · cases hqueue
  | ignored =>
    refine (ensures_awaitAck MAX_ACK_READS _).mono ?_
    rintro a v ⟨htable, hanswer⟩
    rw [htable]
    rcases hanswer with rfl | ⟨datagram, hqueue, _⟩
    · exact ⟨none, rfl, .unanswered⟩
    · cases hqueue
  | unsent => exact ensures_done.mpr ⟨none, rfl, .unanswered⟩

theorem raiseForAck_map (host : NetlinkHost) (action : NeighbourChange) (answer : Option ℕ) :
    raiseForAck host action (answer.map Int.ofNat) =
      LinuxBackend.raiseForAck host.toStationHost action answer := by
  cases answer with
  | none => rfl
  | some error =>
    have hmem : Int.ofNat error ∈ PERMISSION_ERRNOS.map Int.ofNat ↔
        PERMISSION_ERRNOS.contains error = true := by
      rw [List.contains_iff_mem, List.mem_map_of_injective fun _ _ => Int.ofNat.inj]
    have hzero : Int.ofNat error = 0 ↔ error = 0 := Int.natCast_eq_zero
    have htext : host.strerrorInt (Int.ofNat error) = host.strerror error :=
      host.strerrorInt_natCast error
    have hdecimal : decimalInt (Int.ofNat error) = decimal error :=
      if_neg (Int.not_lt.mpr (Int.natCast_nonneg error))
    simp only [raiseForAck, LinuxBackend.raiseForAck, Option.map_some, hmem, hzero, htext,
      hdecimal, NeighbourChange.refusedByKernel]

theorem removedFromAck_map (host : NetlinkHost) (answer : Option ℕ) :
    removedFromAck host (answer.map Int.ofNat) =
      LinuxBackend.removedFromAck host.toStationHost answer := by
  have hgone : answer.map Int.ofNat = some (LinuxBackend.ENOENT : ℤ) ↔
      answer = some LinuxBackend.ENOENT := by
    cases answer with
    | none => simp
    | some error => simp
  simp only [removedFromAck, LinuxBackend.removedFromAck, hgone, raiseForAck_map]

theorem ensures_exchangeRequest {α : Type} {order : ByteOrder} {host : NetlinkHost}
    {message : Octets} {change : TableChange} {request : Except PyError (Option Octets)}
    {conclude : Option ℤ → Except PyError α} {conclude' : Option ℕ → Except PyError α}
    {refused : PyError} (hrequest : request = .ok (some message))
    (hchange : changeOf order message = some change)
    (hconclude : ∀ answer : Option ℕ, conclude (answer.map Int.ofNat) = conclude' answer)
    (hrefused : refused = .scout .IPScoutUnsupportedError
      [say "no netlink socket on this host, so the neighbour table cannot be changed"])
    (t : NeighbourTable) :
    Ensures (NetlinkServes order) ⟨t, []⟩ (exchangeRequest order host request conclude)
      fun a u => ∃ outcome trace, a = some outcome ∧ Exchange.Runs KernelServes t
        (if host.hasNetlink then
          .ask (.exchange change) fun error => .done (conclude' error)
        else .done (.error refused)) trace outcome u.table := by
  subst hrequest hrefused
  rw [exchangeRequest]
  split
  · refine ensures_bind.mpr ((ensures_exchange hchange t).mono ?_)
    rintro a u ⟨answer, rfl, hserve⟩
    rw [hconclude]
    exact ensures_done.mpr ⟨conclude' answer, _, rfl, .ask hserve .done⟩
  · exact ensures_done.mpr ⟨_, [], rfl, .done⟩

end NeighboursLinux

/-- **The backend on octets refines the backend on changes**: whatever its kernel does with the
datagrams, `set_static_neighbour` and `remove_static_neighbour` end as they may end on a
kernel that serves the change itself, with the table it leaves. -/
theorem linux_backend_refines (order : ByteOrder) (host : NetlinkHost) {ip : Text}
    {address : IPAddress} (hip : requireAddress ip .IPV4 = .ok address) {mac : Octets}
    (hmac : mac.length = 6) {ifindex : ℕ} (hindex : ifindex < 2 ^ 31) (t : NeighbourTable) :
    (Ensures (NetlinkServes order) ⟨t, []⟩
      (NeighboursLinux.setStaticNeighbour order host ip mac ifindex) fun a u =>
        ∃ outcome trace, a = some outcome ∧ Exchange.Runs KernelServes t
          (LinuxBackend.setStaticNeighbour host.toStationHost ip mac ifindex) trace outcome
          u.table) ∧
    Ensures (NetlinkServes order) ⟨t, []⟩
      (NeighboursLinux.removeStaticNeighbour order host ip ifindex) fun a u =>
        ∃ outcome trace, a = some outcome ∧ Exchange.Runs KernelServes t
          (LinuxBackend.removeStaticNeighbour host.toStationHost ip ifindex) trace outcome
          u.table := by
  refine ⟨?_, ?_⟩
  · obtain ⟨bits, rfl⟩ := exists_v4_of_requireAddress hip
    have hrange : -2 ^ 31 ≤ (ifindex : ℤ) ∧ (ifindex : ℤ) < 2 ^ 31 := by omega
    have hsequence : 1 < 2 ^ 32 := by omega
    obtain ⟨message, hmessage⟩ : ∃ message, buildSetRequest order ip mac ifindex 1 =
        .ok (some message) :=
      (KernelEntry.exists_buildSetRequest_iff hip hmac).mpr ⟨hrange, hsequence⟩
    exact NeighboursLinux.ensures_exchangeRequest hmessage (changeOf_buildSetRequest hmessage)
      (NeighboursLinux.raiseForAck_map host .ADD) rfl t
  · obtain ⟨message, hmessage⟩ := exists_buildRemoveRequest order hip hindex
    exact NeighboursLinux.ensures_exchangeRequest hmessage (changeOf_buildRemoveRequest hmessage)
      (NeighboursLinux.removedFromAck_map host) rfl t

/-- A host whose `os.strerror` names every number the same. -/
def netlinkHost : NetlinkHost where
  toStationHost := stationHost
  strerrorInt := fun _ => "Network is unreachable".toList
  strerrorInt_natCast := fun _ => rfl

theorem linux_backend_refines_learned :
    Ensures (NetlinkServes .little) ⟨learnedTable, []⟩
      (NeighboursLinux.removeStaticNeighbour .little netlinkHost "192.0.2.7".toList 4) fun a u =>
        ∃ outcome trace, a = some outcome ∧ Exchange.Runs KernelServes learnedTable
          (LinuxBackend.removeStaticNeighbour netlinkHost.toStationHost "192.0.2.7".toList 4)
          trace outcome u.table :=
  have hip : requireAddress "192.0.2.7".toList .IPV4 = .ok (.v4 0xc0000207) := by decide +kernel
  have hmac : ([0, 0, 0x5e, 0, 0x53, 7] : Octets).length = 6 := rfl
  (linux_backend_refines .little netlinkHost hip hmac (by decide) learnedTable).2

end IPScout
