import IPScout.Neighbours.Acks
import IPScout.Neighbours.Framing
import IPScout.Net.Winapi
import IPScout.Routes.Dump

/-!
# Asking Linux for a route

`query_route` of `routes_linux.py`: one request for one destination, and one reply.

Of each field the last attribute that decodes counts, whatever other attributes there are and
in whatever order (`parseRoute_eq`).  So a lookup of a literal reports the route a kernel has
for the bare address of the literal (`queryRoute_of_kernel`).
-/

namespace IPScout.RoutesLinux

open Base Base.Octets

/-! ### The functions -/

def RTA_DST : ℕ := 1

/-- `RECEIVE_SIZE` of `netlink.py`. -/
def RECEIVE_SIZE : ℕ := 65535

/-- `_build_query`: the other fields of the `struct rtmsg` are 0. -/
def buildQuery (order : ByteOrder) (packedDestination : Octets) (family : AddressFamily) :
    Option Octets := do
  let dstLen ← order.field 1 (packedDestination.length * 8)
  let destination ← buildAttribute order RTA_DST packedDestination
  buildMessage order RTM_GETROUTE NLM_F_REQUEST
    (order.pack 1 (socketFamily family) ++ dstLen ++ List.replicate 10 0 ++ destination) 1

/-- `_route_in`: the first message decides. -/
def routeIn (order : ByteOrder) (env : Interfaces) (data : Octets) (family : AddressFamily) :
    Option RouteInfo :=
  match iterMessages order data with
  | [] => none
  | (messageType, payload) :: _ =>
    if messageType = NLMSG_ERROR ∨ payload.length < RTMSG_SIZE then none
    else if RTN_UNREACHABLE ≤ (Rtmsg.unpack payload).routeType then none
    else some (parseRoute order env payload family)

/-- `query_route`, by the socket there is to open and the datagram it answers a request with;
the outer `none` is a `struct.error`. -/
def queryRoute (order : ByteOrder) (env : Interfaces)
    (socket : Option (Octets → Except OSErr Octets)) (destination : Text)
    (family : AddressFamily) : Option (Option RouteInfo) :=
  match requireAddress destination family, socket with
  | .error _, _ => some none
  | .ok _, none => some none
  | .ok address, some exchange =>
    match buildQuery order address.packed family with
    | none => none
    | some request =>
      match exchange request with
      | .error _ => some none
      | .ok data => some (routeIn order env (data.take RECEIVE_SIZE) family)

/-! ### Attributes -/

section Attributes

variable (order : ByteOrder) (env : Interfaces) (family : AddressFamily)

/-- The last of the attributes of a type that has the size of an address, written out. -/
def lastAddress (kind : ℕ) (attributes : List (ℕ × Octets)) : Option Text :=
  ((attributes.filter fun a => a.1 = kind ∧ a.2.length = family.packedSize).getLast?).map
    fun a => inetNtop family a.2

def lastIndex (attributes : List (ℕ × Octets)) : Option ℕ :=
  ((attributes.filter fun a => a.1 = RTA_OIF ∧ IFINDEX_SIZE ≤ a.2.length).getLast?).map
    fun a => order.read (a.2.take IFINDEX_SIZE)

theorem getLast?_filter_concat {α : Type} (p : α → Bool) (l : List α) (a : α) :
    ((l ++ [a]).filter p).getLast? = if p a then some a else (l.filter p).getLast? := by
  rw [List.filter_append, List.filter_cons]
  split
  · rw [List.filter_nil, List.getLast?_concat]
  · rw [List.filter_nil, List.append_nil]

theorem lastAddress_concat (kind : ℕ) (attributes : List (ℕ × Octets)) (a : ℕ × Octets) :
    lastAddress family kind (attributes ++ [a]) =
      if a.1 = kind ∧ a.2.length = family.packedSize then some (inetNtop family a.2)
      else lastAddress family kind attributes := by
  rw [lastAddress, getLast?_filter_concat, lastAddress]
  by_cases h : a.1 = kind ∧ a.2.length = family.packedSize
  · rw [if_pos h, if_pos (decide_eq_true h)]
    rfl
  · rw [if_neg h, if_neg (by rwa [decide_eq_true_iff])]

theorem lastIndex_concat (attributes : List (ℕ × Octets)) (a : ℕ × Octets) :
    lastIndex order (attributes ++ [a]) =
      if a.1 = RTA_OIF ∧ IFINDEX_SIZE ≤ a.2.length then some (order.read (a.2.take IFINDEX_SIZE))
      else lastIndex order attributes := by
  rw [lastIndex, getLast?_filter_concat, lastIndex]
  by_cases h : a.1 = RTA_OIF ∧ IFINDEX_SIZE ≤ a.2.length
  · rw [if_pos h, if_pos (decide_eq_true h)]
    rfl
  · rw [if_neg h, if_neg (by rwa [decide_eq_true_iff])]

theorem foldl_readAttribute (attributes : List (ℕ × Octets)) :
    attributes.foldl (readAttribute order env family) ⟨none, none, none⟩ =
      ⟨lastAddress family RTA_GATEWAY attributes,
        (lastIndex order attributes).bind (interfaceName env),
        lastAddress family RTA_PREFSRC attributes⟩ := by
  induction attributes using List.reverseRecOn with
  | nil => rfl
  | append_singleton attributes a ih =>
    obtain ⟨kind, value⟩ := a
    rw [List.foldl_append, ih, List.foldl_cons, List.foldl_nil, lastAddress_concat,
      lastAddress_concat, lastIndex_concat, readAttribute]
    by_cases hgateway : kind = RTA_GATEWAY
    · subst hgateway
      by_cases hsize : value.length = family.packedSize <;>
        simp [hsize, RTA_GATEWAY, RTA_PREFSRC, RTA_OIF]
    · by_cases hsource : kind = RTA_PREFSRC
      · subst hsource
        by_cases hsize : value.length = family.packedSize <;>
          simp [hsize, RTA_GATEWAY, RTA_PREFSRC, RTA_OIF]
      · simp only [hgateway, hsource, if_false, false_and]
        split <;> rfl

/-- **Of each field the last attribute that decodes counts.** -/
theorem parseRoute_eq (payload : Octets) :
    parseRoute order env payload family =
      ⟨lastAddress family RTA_GATEWAY (iterAttributes order payload RTMSG_SIZE),
        (lastIndex order (iterAttributes order payload RTMSG_SIZE)).bind (interfaceName env),
        lastAddress family RTA_PREFSRC (iterAttributes order payload RTMSG_SIZE)⟩ :=
  foldl_readAttribute order env family _

end Attributes

/-! ### The kernel -/

/-- A route of the kernel. -/
structure KernelRoute where
  routeType : ℕ
  gateway : Option Octets
  oif : Option ℕ
  source : Option Octets

/-- What is reported of a route: nothing of one that does not forward. -/
def KernelRoute.info (env : Interfaces) (family : AddressFamily) (r : KernelRoute) :
    Option RouteInfo :=
  if RTN_UNREACHABLE ≤ r.routeType then none
  else some ⟨r.gateway.map (inetNtop family), r.oif.bind (interfaceName env),
    r.source.map (inetNtop family)⟩

/-- Attributes that say a route: one for each field it has, and any others of other types. -/
structure Says (order : ByteOrder) (family : AddressFamily) (r : KernelRoute)
    (attributes : List (ℕ × Octets)) : Prop where
  gateway : ∀ value, (RTA_GATEWAY, value) ∈ attributes ↔ r.gateway = some value
  source : ∀ value, (RTA_PREFSRC, value) ∈ attributes ↔ r.source = some value
  oif : ∀ value, (RTA_OIF, value) ∈ attributes ↔ ∃ n, r.oif = some n ∧ order.pack 4 n = value
  gateway_length : ∀ value, r.gateway = some value → value.length = family.packedSize
  source_length : ∀ value, r.source = some value → value.length = family.packedSize
  oif_lt : ∀ n, r.oif = some n → n < 256 ^ 4

/-- The address a request asks about, with the number of its family, as a kernel reads it. -/
def asked (order : ByteOrder) (request : Octets) : Option (ℕ × Octets) :=
  match iterMessages order request with
  | [(kind, payload)] =>
    if kind ≠ RTM_GETROUTE then none
    else
      ((iterAttributes order payload RTMSG_SIZE).find? fun a => a.1 = RTA_DST).bind fun a =>
        if octet payload 1 = a.2.length * 8 then some (octet payload 0, a.2) else none
  | _ => none

/-- A datagram that answers with a route, or says that there is none. -/
def IsReply (order : ByteOrder) (family : AddressFamily) (reply : Octets) :
    Option KernelRoute → Prop
  | none => ∃ payload rest, iterMessages order reply = (NLMSG_ERROR, payload) :: rest
  | some r => ∃ (header : Octets) (attributes : List NetlinkAttribute) (chunks : List Octets)
      (flags sequence : ℕ), header.length = RTMSG_SIZE ∧
      octet header 7 = r.routeType ∧ (∀ a ∈ attributes, NetlinkAttribute.Fits a) ∧
      Says order family r (attributes.map fun a => (a.attributeType, a.value)) ∧
      attributes.mapM (NetlinkAttribute.build order) = some chunks ∧
      buildMessage order RTM_NEWROUTE flags (header ++ chunks.flatten) sequence = some reply

/-- A kernel with a table: it answers the requests it can read. -/
def Serves (order : ByteOrder) (family : AddressFamily) (table : Octets → Option KernelRoute)
    (exchange : Octets → Except OSErr Octets) : Prop :=
  ∀ request packed, asked order request = some (socketFamily family, packed) →
    ∃ reply, exchange request = .ok reply ∧ reply.length ≤ RECEIVE_SIZE ∧
      IsReply order family reply (table packed)

/-! ### What is read -/

theorem map_getLast?_filter {α β : Type} {p : α → Bool} {f : α → β} {l : List α} {r : Option β}
    (h : ∀ a ∈ l, p a = true → r = some (f a)) (h' : r.isSome → ∃ a ∈ l, p a = true) :
    ((l.filter p).getLast?).map f = r := by
  cases hlast : (l.filter p).getLast? with
  | none =>
    rw [List.getLast?_eq_none_iff, List.filter_eq_nil_iff] at hlast
    cases r with
    | none => rfl
    | some b =>
      obtain ⟨a, ha, hp⟩ := h' rfl
      exact absurd hp (hlast a ha)
  | some a =>
    obtain ⟨ha, hp⟩ := List.mem_filter.mp (List.mem_of_getLast? hlast)
    exact (h a ha hp).symm

theorem lastAddress_of_says {family : AddressFamily} {kind : ℕ} {field : Option Octets}
    {attributes : List (ℕ × Octets)}
    (h : ∀ value, (kind, value) ∈ attributes ↔ field = some value)
    (hlength : ∀ value, field = some value → value.length = family.packedSize) :
    lastAddress family kind attributes = field.map (inetNtop family) := by
  refine map_getLast?_filter ?_ ?_
  · rintro ⟨k, value⟩ hmem hp
    obtain ⟨rfl, -⟩ := of_decide_eq_true hp
    rw [(h value).mp hmem]
    rfl
  · intro hsome
    obtain ⟨value, rfl⟩ := Option.isSome_iff_exists.mp (Option.isSome_map.symm.trans hsome)
    exact ⟨(kind, value), (h value).mpr rfl, decide_eq_true ⟨rfl, hlength value rfl⟩⟩

theorem lastIndex_of_says {order : ByteOrder} {oif : Option ℕ} {attributes : List (ℕ × Octets)}
    (h : ∀ value, (RTA_OIF, value) ∈ attributes ↔ ∃ n, oif = some n ∧ order.pack 4 n = value)
    (hlt : ∀ n, oif = some n → n < 256 ^ 4) : lastIndex order attributes = oif := by
  refine map_getLast?_filter ?_ ?_
  · rintro ⟨k, value⟩ hmem hp
    obtain ⟨rfl, -⟩ := of_decide_eq_true hp
    obtain ⟨n, rfl, rfl⟩ := (h value).mp hmem
    have hwhole : (order.pack 4 n).take IFINDEX_SIZE = order.pack 4 n :=
      List.take_of_length_le (order.length_pack 4 n).le
    rw [hwhole, order.read_pack (hlt n rfl)]
  · intro hsome
    obtain ⟨n, rfl⟩ := Option.isSome_iff_exists.mp hsome
    exact ⟨(RTA_OIF, order.pack 4 n), (h _).mpr ⟨n, rfl, rfl⟩,
      decide_eq_true ⟨rfl, (order.length_pack 4 n).ge⟩⟩

/-- **A request is read as the address it asks about.** -/
theorem asked_buildQuery {order : ByteOrder} {family : AddressFamily} {packed request : Octets}
    (h : buildQuery order packed family = some request) :
    asked order request = some (socketFamily family, packed) := by
  simp only [buildQuery, Option.bind_eq_bind, Option.bind_eq_some_iff] at h
  obtain ⟨_, hlen, destination, hdestination, hrequest⟩ := h
  obtain ⟨hfits, rfl⟩ := ByteOrder.field_eq_some hlen
  have hheader : (order.pack 1 (socketFamily family) ++ order.pack 1 (packed.length * 8) ++
      List.replicate 10 0).length = RTMSG_SIZE := by
    rw [List.length_append, List.length_append, order.length_pack, order.length_pack,
      List.length_replicate]
    rfl
  have hattributes : iterAttributes order (order.pack 1 (socketFamily family) ++
      order.pack 1 (packed.length * 8) ++ List.replicate 10 0 ++ destination) RTMSG_SIZE =
        [(RTA_DST, packed)] := by
    obtain ⟨a, rfl, hkind, rfl⟩ := exists_record_of_buildAttribute hdestination
    have hread := iterAttributes_of_isBuffer (isBuffer_flatMap [a])
      (order.pack 1 (socketFamily family) ++ order.pack 1 (a.value.length * 8) ++
        List.replicate 10 0)
    rw [hheader, List.flatMap_singleton, List.map_singleton, hkind] at hread
    exact hread
  have hfamily : octet (order.pack 1 (socketFamily family) ++ order.pack 1 (packed.length * 8) ++
      List.replicate 10 0 ++ destination) 0 = socketFamily family := by
    rw [List.append_assoc, List.append_assoc]
    exact octet_pack order (by cases family <;> decide) _
  have hprefix : octet (order.pack 1 (socketFamily family) ++ order.pack 1 (packed.length * 8) ++
      List.replicate 10 0 ++ destination) 1 = packed.length * 8 := by
    rw [List.append_assoc, List.append_assoc,
      octet_append_right (order.length_pack 1 (socketFamily family)).le, order.length_pack]
    exact octet_pack order hfits _
  have hfound : [(RTA_DST, packed)].find? (fun a => a.1 = RTA_DST) = some (RTA_DST, packed) := rfl
  rw [asked, iterMessages_buildMessage hrequest]
  dsimp only
  rw [if_neg (not_not_intro rfl), hattributes, hfound, Option.bind_some, hprefix, hfamily]
  exact if_pos rfl

theorem exists_buildQuery (order : ByteOrder) {family : AddressFamily} {packed : Octets}
    (h : packed.length = family.packedSize) :
    ∃ request, buildQuery order packed family = some request := by
  have hlength : packed.length ≤ 16 := by
    rw [h]
    cases family <;> decide
  obtain ⟨destination, hdestination, hsize⟩ := exists_buildAttribute order RTA_DST packed
    (show _ < 65536 by omega) (by decide)
  rw [aligned] at hsize
  rw [buildQuery, order.field_of_lt (show packed.length * 8 < 256 ^ 1 by omega), hdestination]
  refine exists_buildMessage_iff.mpr ⟨?_, by decide, by decide, by decide⟩
  simp only [List.length_append, order.length_pack, List.length_replicate, hsize]
  exact show 16 + _ < 4294967296 by omega

/-- **A reply is read as the route it answers with.** -/
theorem routeIn_of_isReply {order : ByteOrder} (env : Interfaces) {family : AddressFamily}
    {reply : Octets} {found : Option KernelRoute} (h : IsReply order family reply found) :
    routeIn order env reply family = found.bind (KernelRoute.info env family) := by
  cases found with
  | none =>
    obtain ⟨payload, rest, hmessages⟩ := h
    rw [routeIn, hmessages]
    exact if_pos (Or.inl rfl)
  | some r =>
    obtain ⟨header, attributes, chunks, flags, sequence, hheader, htype, hfits, hsays, hchunks,
      hreply⟩ := h
    obtain ⟨chunks', hchunks', hread, -⟩ := iterAttributes_build order header hfits
    obtain rfl : chunks' = chunks := Option.some.inj (hchunks'.symm.trans hchunks)
    have hsize : RTMSG_SIZE ≤ (header ++ chunks'.flatten).length := by
      rw [List.length_append, hheader]
      exact Nat.le_add_right _ _
    have hunpack : (Rtmsg.unpack (header ++ chunks'.flatten)).routeType = r.routeType := by
      rw [← htype]
      exact octet_append_left (show 7 < header.length by rw [hheader]; decide)
    rw [hheader] at hread
    rw [routeIn, iterMessages_buildMessage hreply]
    dsimp only
    rw [if_neg (by rintro (hkind | hshort); exacts [absurd hkind (by decide), by omega]), hunpack,
      Option.bind_some, KernelRoute.info, parseRoute_eq, hread,
      lastAddress_of_says hsays.gateway hsays.gateway_length,
      lastAddress_of_says hsays.source hsays.source_length,
      lastIndex_of_says hsays.oif hsays.oif_lt]

/-- **A lookup reports the route the kernel has for the bare address**, or nothing: for what is
no literal of the family, and for a route that does not forward. -/
theorem queryRoute_of_kernel {order : ByteOrder} (env : Interfaces) {family : AddressFamily}
    {table : Octets → Option KernelRoute} {exchange : Octets → Except OSErr Octets}
    (h : Serves order family table exchange) (destination : Text) :
    queryRoute order env (some exchange) destination family =
      some ((requireAddress destination family).toOption.bind fun address =>
        (table address.packed).bind (KernelRoute.info env family)) := by
  unfold queryRoute
  cases hdestination : requireAddress destination family with
  | error e => rfl
  | ok address =>
    have hlength : address.packed.length = family.packedSize := by
      rw [Winapi.length_packed, (requireAddress_eq_ok_iff.mp hdestination).2]
    obtain ⟨request, hrequest⟩ := exists_buildQuery order hlength
    obtain ⟨reply, hreply, hshort, hanswer⟩ := h request address.packed
      (asked_buildQuery hrequest)
    dsimp only
    rw [hrequest]
    dsimp only
    rw [hreply]
    dsimp only
    rw [List.take_of_length_le hshort, routeIn_of_isReply env hanswer]
    rfl

/-! ### A kernel with one route -/

/-- 192.0.2.9 is behind 192.0.2.1, on the interface 2. -/
def oneRoute (packed : Octets) : Option KernelRoute :=
  if packed = [192, 0, 2, 9] then some ⟨1, some [192, 0, 2, 1], some 2, none⟩ else none

def oneRouteAttributes : List NetlinkAttribute :=
  [⟨15, [254, 0, 0, 0]⟩, ⟨RTA_GATEWAY, [192, 0, 2, 1]⟩, ⟨RTA_OIF, [2, 0, 0, 0]⟩]

def oneRouteReply : Octets :=
  ((oneRouteAttributes.mapM (NetlinkAttribute.build .little)).bind fun chunks =>
    buildMessage .little RTM_NEWROUTE 0
      ([2, 32, 0, 0, 254, 0, 0, 1, 0, 0, 0, 0] ++ chunks.flatten) 1).getD []

def noRouteReply : Octets :=
  (buildMessage .little NLMSG_ERROR 0 (List.replicate 20 0) 1).getD []

def oneRouteKernel (request : Octets) : Except OSErr Octets :=
  match asked .little request with
  | none => .error ⟨.TimeoutError, none, none, none, []⟩
  | some (_, packed) =>
    .ok (if packed = [192, 0, 2, 9] then oneRouteReply else noRouteReply)

theorem oneRouteKernel_serves : Serves .little .IPV4 oneRoute oneRouteKernel := by
  intro request packed hasked
  rw [oneRouteKernel, hasked, oneRoute]
  refine ⟨_, rfl, ?_⟩
  by_cases hpacked : packed = [192, 0, 2, 9]
  · rw [if_pos hpacked, if_pos hpacked]
    refine ⟨by decide +kernel, [2, 32, 0, 0, 254, 0, 0, 1, 0, 0, 0, 0], oneRouteAttributes, _, 0, 1,
      rfl, rfl, ?_, ?_, rfl, rfl⟩
    · intro a ha
      simp only [oneRouteAttributes, List.mem_cons, List.not_mem_nil, or_false] at ha
      rcases ha with rfl | rfl | rfl <;> exact ⟨by decide, by decide⟩
    · refine ⟨?_, ?_, ?_, ?_, ?_, ?_⟩
      all_goals
        simp [oneRouteAttributes, RTA_GATEWAY, RTA_PREFSRC, RTA_OIF, eq_comm]
      all_goals decide
  · rw [if_neg hpacked, if_neg hpacked]
    exact ⟨by decide +kernel, List.replicate 20 0, [], by decide +kernel⟩

theorem queryRoute_of_kernel_oneRoute :
    queryRoute .little noInterfaces (some oneRouteKernel) "192.0.2.9".toList .IPV4 =
      some ((requireAddress "192.0.2.9".toList .IPV4).toOption.bind fun address =>
        (oneRoute address.packed).bind (KernelRoute.info noInterfaces .IPV4)) :=
  queryRoute_of_kernel noInterfaces oneRouteKernel_serves "192.0.2.9".toList

end IPScout.RoutesLinux
