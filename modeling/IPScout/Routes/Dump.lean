import IPScout.Neighbours.Dump
import IPScout.Neighbours.Framing
import IPScout.Routes.Message

/-!
# The default route of Linux

`default_gateway` of `routes_linux.py` asks for a dump of the routing table and reads it
chunk by chunk until a default route turns up.  A chunk that ends the dump is like one
that has no route yet, so the end is waited for only as long as there is a route before it:
`defaultGateway_right_iff` is exact about the streams that are read no further than their
end and answered by what precedes it.
-/

namespace IPScout

open Base Base.Octets

/-! ### Streams that end -/

section Streams

variable {α : Type} (ends wanted : α → Bool)

/-- The first element that is wanted, of those before the first that ends the stream. -/
def firstBeforeEnd (stream : List α) : Option α :=
  (stream.takeWhile fun a => !ends a).find? wanted

@[simp] theorem firstBeforeEnd_nil : firstBeforeEnd ends wanted [] = none := rfl

theorem firstBeforeEnd_cons (a : α) (stream : List α) :
    firstBeforeEnd ends wanted (a :: stream) =
      if ends a then none
      else if wanted a then some a else firstBeforeEnd ends wanted stream := by
  rw [firstBeforeEnd, List.takeWhile_cons]
  cases hends : ends a
  · rw [if_pos (by rfl), if_neg (by simp), List.find?_cons]
    cases wanted a <;> rfl
  · rfl

theorem firstBeforeEnd_append {first : List α} (h : ∀ a ∈ first, ends a = false)
    (second : List α) : firstBeforeEnd ends wanted (first ++ second) =
      (firstBeforeEnd ends wanted first).or (firstBeforeEnd ends wanted second) := by
  induction first with
  | nil => rfl
  | cons a first ih =>
    rw [List.cons_append, firstBeforeEnd_cons, firstBeforeEnd_cons,
      ih fun b hb => h b (List.mem_cons_of_mem _ hb), h a List.mem_cons_self]
    cases wanted a <;> rfl

theorem firstBeforeEnd_append_of_settled {first : List α}
    (h : (∃ a ∈ first, ends a = true) ∨ (firstBeforeEnd ends wanted first).isSome)
    (second : List α) : firstBeforeEnd ends wanted (first ++ second) =
      firstBeforeEnd ends wanted first := by
  induction first with
  | nil => simp at h
  | cons a first ih =>
    rw [List.cons_append, firstBeforeEnd_cons, firstBeforeEnd_cons]
    rw [firstBeforeEnd_cons] at h
    cases hends : ends a
    · cases hwanted : wanted a
      · rw [hends, hwanted] at h
        have hrest : (∃ b ∈ first, ends b = true) ∨
            (firstBeforeEnd ends wanted first).isSome := by
          rcases h with ⟨b, hb, hbends⟩ | hsome
          · rcases List.mem_cons.mp hb with rfl | hb
            · rw [hends] at hbends
              simp at hbends
            · exact Or.inl ⟨b, hb, hbends⟩
          · exact Or.inr hsome
        rw [ih hrest]
      · rfl
    · rfl

end Streams

/-! ### The program -/

namespace RoutesLinux

def RTM_NEWROUTE : ℕ := 24
def RTM_GETROUTE : ℕ := 26

def RTA_OIF : ℕ := 4
def RTA_GATEWAY : ℕ := 5
def RTA_PREFSRC : ℕ := 7

def RTN_UNREACHABLE : ℕ := 7
def RT_TABLE_MAIN : ℕ := 254
def MAX_DUMP_CHUNKS : ℕ := 64
def IFINDEX_SIZE : ℕ := 4

def NLM_F_DUMP : ℕ := 0x300

/-- The size of `struct rtmsg`: family, dst_len, src_len, tos, table, protocol, scope, type,
flags. -/
def RTMSG_SIZE : ℕ := 12

/-- What is read of a `struct rtmsg`. -/
structure Rtmsg where
  dstLen : ℕ
  table : ℕ
  routeType : ℕ

def Rtmsg.unpack (payload : Octets) : Rtmsg where
  dstLen := octet payload 1
  table := octet payload 4
  routeType := octet payload 7

def socketFamily : AddressFamily → ℕ
  | .IPV4 => AF_INET
  | .IPV6 => AF_INET6

/-- `_build_dump`: the fields of the `struct rtmsg` after the family are 0. -/
def buildDump (order : ByteOrder) (family : AddressFamily) : Option Octets :=
  buildMessage order RTM_GETROUTE (NLM_F_REQUEST ||| NLM_F_DUMP)
    (order.pack 1 (socketFamily family) ++ List.replicate 11 0) 1

/-- One attribute of the loop of `_parse_route`. -/
def readAttribute (order : ByteOrder) (env : Interfaces) (family : AddressFamily)
    (route : RouteInfo) : ℕ × Octets → RouteInfo
  | (kind, value) =>
    if kind = RTA_GATEWAY then
      -- `inet_ntop` raises for another length, and the route stays as it was
      if value.length = family.packedSize then
        { route with gateway := some (inetNtop family value) }
      else route
    else if kind = RTA_PREFSRC then
      if value.length = family.packedSize then
        { route with source := some (inetNtop family value) }
      else route
    else if kind = RTA_OIF ∧ IFINDEX_SIZE ≤ value.length then
      { route with interface := interfaceName env (order.read (value.take IFINDEX_SIZE)) }
    else route

def parseRoute (order : ByteOrder) (env : Interfaces) (payload : Octets)
    (family : AddressFamily) : RouteInfo :=
  (iterAttributes order payload RTMSG_SIZE).foldl (readAttribute order env family)
    ⟨none, none, none⟩

/-- The loop of `_default_route_in` over the messages of a chunk. -/
def defaultRouteAmong (order : ByteOrder) (env : Interfaces) (family : AddressFamily) :
    List (ℕ × Octets) → Option RouteInfo
  | [] => none
  | (messageType, payload) :: rest =>
    if messageType = NLMSG_DONE ∨ messageType = NLMSG_ERROR then none
    else if messageType ≠ RTM_NEWROUTE ∨ payload.length < RTMSG_SIZE then
      defaultRouteAmong order env family rest
    else
      let header := Rtmsg.unpack (payload.take RTMSG_SIZE)
      if header.dstLen = 0 ∧ header.table = RT_TABLE_MAIN ∧
          header.routeType < RTN_UNREACHABLE then
        let route := parseRoute order env payload family
        if route.gateway ≠ none then some route else defaultRouteAmong order env family rest
      else defaultRouteAmong order env family rest

def defaultRouteIn (order : ByteOrder) (env : Interfaces) (data : Octets)
    (family : AddressFamily) : Option RouteInfo :=
  defaultRouteAmong order env family (iterMessages order data)

/-- The loop of `default_gateway`: the reads made and the route.  After the last chunk
a read ends in the timeout, which is an `OSError`. -/
def readDump (order : ByteOrder) (env : Interfaces) (family : AddressFamily) :
    ℕ → List Octets → ℕ × Option RouteInfo
  | 0, _ => (0, none)
  | _ + 1, [] => (1, none)
  | left + 1, chunk :: chunks =>
    match defaultRouteIn order env chunk family with
    | some route => (1, some route)
    | none =>
      let (reads, route) := readDump order env family left chunks
      (reads + 1, route)

/-- A netlink socket: whether it takes the request, and the chunks it delivers. -/
structure NetlinkSocket where
  sends : Bool
  chunks : List Octets

/-- What a call of `default_gateway` did: the octets sent, the reads made and the route
returned. -/
structure GatewayQuery where
  sent : Option Octets
  reads : ℕ
  route : Option RouteInfo
  deriving DecidableEq

/-- `default_gateway`; there may be no socket to open. -/
def defaultGateway (order : ByteOrder) (env : Interfaces) (family : AddressFamily) :
    Option NetlinkSocket → GatewayQuery
  | none => ⟨none, 0, none⟩
  | some sock =>
    if sock.sends then
      let (reads, route) := readDump order env family MAX_DUMP_CHUNKS sock.chunks
      ⟨buildDump order family, reads, route⟩
    else ⟨none, 0, none⟩

/-- **The request is built for either family**: one message that asks for the table. -/
theorem exists_buildDump (order : ByteOrder) (family : AddressFamily) :
    ∃ request, buildDump order family = some request ∧ iterMessages order request =
      [(RTM_GETROUTE, order.pack 1 (socketFamily family) ++ List.replicate 11 0)] := by
  have hbuilt : ∃ request, buildDump order family = some request := by
    refine exists_buildMessage_iff.mpr ⟨?_, by decide, by decide, by decide⟩
    rw [List.length_append, order.length_pack, List.length_replicate]
    exact show (28 : ℕ) < 256 ^ 4 by decide
  obtain ⟨request, hrequest⟩ := hbuilt
  obtain ⟨m, hbuffer, -, hkind, hbody⟩ := exists_record_of_buildMessage hrequest
  refine ⟨request, hrequest, ?_⟩
  rw [iterMessages_of_isBuffer hbuffer, List.map_singleton, hkind, hbody]

/-! ### The messages of a dump -/

section Messages

variable (order : ByteOrder) (env : Interfaces) (family : AddressFamily)

/-- The kernel says that the dump is over, or that there is none. -/
def isDumpEnd (message : ℕ × Octets) : Bool :=
  message.1 = NLMSG_DONE ∨ message.1 = NLMSG_ERROR

/-- A usable default route: the zero-length prefix, in the main table, of a type that
forwards, with a gateway. -/
def isDefaultRoute (message : ℕ × Octets) : Bool :=
  message.1 = RTM_NEWROUTE ∧ RTMSG_SIZE ≤ message.2.length ∧
    (Rtmsg.unpack (message.2.take RTMSG_SIZE)).dstLen = 0 ∧
    (Rtmsg.unpack (message.2.take RTMSG_SIZE)).table = RT_TABLE_MAIN ∧
    (Rtmsg.unpack (message.2.take RTMSG_SIZE)).routeType < RTN_UNREACHABLE ∧
    (parseRoute order env message.2 family).gateway ≠ none

/-- The first usable default route before the end of a dump. -/
def firstDefaultRoute (messages : List (ℕ × Octets)) : Option RouteInfo :=
  (firstBeforeEnd isDumpEnd (isDefaultRoute order env family) messages).map
    fun message => parseRoute order env message.2 family

/-- There is a usable default route before the end. -/
def HasRouteBeforeEnd (messages : List (ℕ × Octets)) : Prop :=
  ∃ message ∈ messages.takeWhile fun m => !isDumpEnd m,
    isDefaultRoute order env family message = true

/-- Some message of these chunks ends the dump. -/
def EndsWithin (chunks : List Octets) : Prop :=
  ∃ message ∈ chunks.flatMap (iterMessages order), isDumpEnd message = true

/-- No read is made after a chunk that ends the dump. -/
def NoReadAfterEnd (chunks : List Octets) (reads : ℕ) : Prop :=
  ∀ earlier chunk later, chunks = earlier ++ chunk :: later → EndsWithin order [chunk] →
    reads ≤ earlier.length + 1

/-- What is asked of the reader of a dump: that it stops at the end, that it answers with
what precedes it, and that the answer is the same for the same messages in other chunks. -/
structure ReadsTheDump (chunks : List Octets) : Prop where
  stops : NoReadAfterEnd order chunks
    (defaultGateway order env family (some ⟨true, chunks⟩)).reads
  answers : (defaultGateway order env family (some ⟨true, chunks⟩)).route =
    firstDefaultRoute order env family (chunks.flatMap (iterMessages order))
  sameAnswer : ∀ others : List Octets, others.length ≤ MAX_DUMP_CHUNKS →
    others.flatMap (iterMessages order) = chunks.flatMap (iterMessages order) →
    (defaultGateway order env family (some ⟨true, others⟩)).route =
      (defaultGateway order env family (some ⟨true, chunks⟩)).route

/-- The dump does not end before the last chunk that is read, or there is a usable default
route before its end. -/
def EndsLateOrHasRoute (left : ℕ) (chunks : List Octets) : Prop :=
  EndsWithin order (chunks.take (left - 1)) →
    HasRouteBeforeEnd order env family (chunks.flatMap (iterMessages order))

/-- If there is a usable default route anywhere, or the dump ends before the last chunk
that is read, there is a usable default route before the end. -/
def RoutePrecedesEnd (chunks : List Octets) : Prop :=
  ((∃ message ∈ chunks.flatMap (iterMessages order),
      isDefaultRoute order env family message = true) ∨
    EndsWithin order (chunks.take (MAX_DUMP_CHUNKS - 1))) →
  HasRouteBeforeEnd order env family (chunks.flatMap (iterMessages order))

theorem isSome_firstDefaultRoute_iff {messages : List (ℕ × Octets)} :
    (firstDefaultRoute order env family messages).isSome ↔
      HasRouteBeforeEnd order env family messages := by
  rw [firstDefaultRoute, Option.isSome_map, firstBeforeEnd, List.find?_isSome]
  rfl

theorem isDumpEnd_iff {messageType : ℕ} {payload : Octets} :
    isDumpEnd (messageType, payload) = true ↔
      messageType = NLMSG_DONE ∨ messageType = NLMSG_ERROR :=
  decide_eq_true_iff

theorem isDefaultRoute_iff {messageType : ℕ} {payload : Octets} :
    isDefaultRoute order env family (messageType, payload) = true ↔
      messageType = RTM_NEWROUTE ∧ RTMSG_SIZE ≤ payload.length ∧
        (Rtmsg.unpack (payload.take RTMSG_SIZE)).dstLen = 0 ∧
        (Rtmsg.unpack (payload.take RTMSG_SIZE)).table = RT_TABLE_MAIN ∧
        (Rtmsg.unpack (payload.take RTMSG_SIZE)).routeType < RTN_UNREACHABLE ∧
        (parseRoute order env payload family).gateway ≠ none :=
  decide_eq_true_iff

/-- **A chunk is searched for its first usable default route.** -/
theorem defaultRouteAmong_eq (messages : List (ℕ × Octets)) :
    defaultRouteAmong order env family messages =
      firstDefaultRoute order env family messages := by
  induction messages with
  | nil => rfl
  | cons message rest ih =>
    obtain ⟨messageType, payload⟩ := message
    rw [defaultRouteAmong, firstDefaultRoute, firstBeforeEnd_cons, ih, firstDefaultRoute]
    by_cases hend : messageType = NLMSG_DONE ∨ messageType = NLMSG_ERROR
    · rw [if_pos hend, if_pos (isDumpEnd_iff.mpr hend)]
      rfl
    · rw [if_neg hend, if_neg (fun h => hend (isDumpEnd_iff.mp h))]
      dsimp only
      by_cases hkind : messageType ≠ RTM_NEWROUTE ∨ payload.length < RTMSG_SIZE
      · rw [if_pos hkind, if_neg]
        intro hdefault
        obtain ⟨htype, hsize, -⟩ := (isDefaultRoute_iff order env family).mp hdefault
        rcases hkind with hkind | hkind
        · exact hkind htype
        · exact absurd hkind (Nat.not_lt.mpr hsize)
      · rw [if_neg hkind]
        have htype : messageType = RTM_NEWROUTE := by_contra fun h => hkind (Or.inl h)
        have hsize : RTMSG_SIZE ≤ payload.length :=
          Nat.not_lt.mp fun h => hkind (Or.inr h)
        by_cases hheader : (Rtmsg.unpack (payload.take RTMSG_SIZE)).dstLen = 0 ∧
            (Rtmsg.unpack (payload.take RTMSG_SIZE)).table = RT_TABLE_MAIN ∧
            (Rtmsg.unpack (payload.take RTMSG_SIZE)).routeType < RTN_UNREACHABLE
        · rw [if_pos hheader]
          obtain ⟨hlen, htable, hroute⟩ := hheader
          by_cases hgateway : (parseRoute order env payload family).gateway ≠ none
          · rw [if_pos hgateway, if_pos]
            · rfl
            · exact (isDefaultRoute_iff order env family).mpr
                ⟨htype, hsize, hlen, htable, hroute, hgateway⟩
          · rw [if_neg hgateway, if_neg]
            intro hdefault
            obtain ⟨-, -, -, -, -, h⟩ := (isDefaultRoute_iff order env family).mp hdefault
            exact hgateway h
        · rw [if_neg hheader, if_neg]
          intro hdefault
          obtain ⟨-, -, hlen, htable, hroute, -⟩ :=
            (isDefaultRoute_iff order env family).mp hdefault
          exact hheader ⟨hlen, htable, hroute⟩

/-! ### One chunk more -/

theorem endsWithin_cons {chunk : Octets} {chunks : List Octets} :
    EndsWithin order (chunk :: chunks) ↔ EndsWithin order [chunk] ∨ EndsWithin order chunks := by
  simp only [EndsWithin, List.flatMap_cons, List.flatMap_nil, List.append_nil, List.mem_append]
  constructor
  · rintro ⟨m, hm | hm, hend⟩
    · exact Or.inl ⟨m, hm, hend⟩
    · exact Or.inr ⟨m, hm, hend⟩
  · rintro (⟨m, hm, hend⟩ | ⟨m, hm, hend⟩)
    · exact ⟨m, Or.inl hm, hend⟩
    · exact ⟨m, Or.inr hm, hend⟩

theorem noReadAfterEnd_cons {chunk : Octets} {chunks : List Octets} {reads : ℕ}
    (h : ¬ EndsWithin order [chunk]) :
    NoReadAfterEnd order (chunk :: chunks) (reads + 1) ↔ NoReadAfterEnd order chunks reads := by
  constructor
  · intro hstops earlier last later hchunks hend
    have hreads := hstops (chunk :: earlier) last later (by rw [hchunks]; rfl) hend
    rw [List.length_cons] at hreads
    omega
  · intro hstops earlier last later hchunks hend
    cases earlier with
    | nil =>
      obtain ⟨rfl, -⟩ := List.cons.inj hchunks
      exact absurd hend h
    | cons _ earlier =>
      obtain ⟨-, hchunks⟩ := List.cons.inj hchunks
      have hreads := hstops earlier last later hchunks hend
      rw [List.length_cons]
      omega

theorem noReadAfterEnd_cons_of_end {chunk : Octets} {chunks : List Octets} {reads : ℕ}
    (h : EndsWithin order [chunk]) :
    NoReadAfterEnd order (chunk :: chunks) reads ↔ reads ≤ 1 := by
  constructor
  · intro hstops
    exact hstops [] chunk chunks rfl h
  · intro hreads earlier _ _ _ _
    omega

theorem firstDefaultRoute_append_of_some {first : List (ℕ × Octets)} {route : RouteInfo}
    (h : firstDefaultRoute order env family first = some route)
    (second : List (ℕ × Octets)) :
    firstDefaultRoute order env family (first ++ second) = some route := by
  rw [← h, firstDefaultRoute, firstDefaultRoute,
    firstBeforeEnd_append_of_settled _ _ (Or.inr ?_)]
  have hsome : (firstDefaultRoute order env family first).isSome := by rw [h]; rfl
  rwa [firstDefaultRoute, Option.isSome_map] at hsome

theorem firstDefaultRoute_append_of_end {first : List (ℕ × Octets)}
    (h : firstDefaultRoute order env family first = none)
    (hend : ∃ m ∈ first, isDumpEnd m = true) (second : List (ℕ × Octets)) :
    firstDefaultRoute order env family (first ++ second) = none := by
  rw [← h, firstDefaultRoute, firstDefaultRoute,
    firstBeforeEnd_append_of_settled _ _ (Or.inl hend)]

/-- Without a route in the first chunk the others have the answer if it does not end the
dump. -/
theorem firstDefaultRoute_append_of_none {first : List (ℕ × Octets)}
    (h : firstDefaultRoute order env family first = none)
    (hgoes : ¬ ∃ m ∈ first, isDumpEnd m = true) (second : List (ℕ × Octets)) :
    firstDefaultRoute order env family (first ++ second) =
      firstDefaultRoute order env family second := by
  have hends : ∀ m ∈ first, isDumpEnd m = false := by
    intro m hm
    exact Bool.eq_false_iff.mpr fun hend => hgoes ⟨m, hm, hend⟩
  rw [firstDefaultRoute, Option.map_eq_none_iff] at h
  rw [firstDefaultRoute, firstBeforeEnd_append _ _ hends, h, Option.none_or, firstDefaultRoute]

/-! ### Reading -/

theorem one_le_readDump (left : ℕ) (chunks : List Octets) :
    1 ≤ (readDump order env family (left + 1) chunks).1 := by
  cases chunks with
  | nil => exact le_rfl
  | cons chunk chunks =>
    rw [readDump]
    split
    · exact le_rfl
    · exact Nat.le_add_left _ _

/-- The chunks are read no further than the end, and answered by what precedes it. -/
def RightlyRead (left : ℕ) (chunks : List Octets) : Prop :=
  NoReadAfterEnd order chunks (readDump order env family left chunks).1 ∧
    (readDump order env family left chunks).2 =
      firstDefaultRoute order env family (chunks.flatMap (iterMessages order))

section Chunk

variable {left : ℕ} {chunk : Octets} {chunks : List Octets}

theorem endsWithin_singleton : EndsWithin order [chunk] ↔
    ∃ m ∈ iterMessages order chunk, isDumpEnd m = true := by
  rw [EndsWithin, List.flatMap_singleton]

/-- A chunk with a route is the last one read, and the route is the answer. -/
theorem rightlyRead_of_route {route : RouteInfo}
    (h : firstDefaultRoute order env family (iterMessages order chunk) = some route) :
    RightlyRead order env family (left + 1) (chunk :: chunks) := by
  rw [RightlyRead, readDump, defaultRouteIn, defaultRouteAmong_eq, h, List.flatMap_cons,
    firstDefaultRoute_append_of_some _ _ _ h]
  refine ⟨?_, rfl⟩
  intro earlier _ _ _ _
  exact Nat.le_add_left _ _

/-- A chunk that ends the dump without a route is read past, unless it is the last read. -/
theorem rightlyRead_of_end
    (h : firstDefaultRoute order env family (iterMessages order chunk) = none)
    (hend : EndsWithin order [chunk]) :
    RightlyRead order env family (left + 1) (chunk :: chunks) ↔ left = 0 := by
  rw [RightlyRead, readDump, defaultRouteIn, defaultRouteAmong_eq, h, List.flatMap_cons,
    noReadAfterEnd_cons_of_end order hend,
    firstDefaultRoute_append_of_end _ _ _ h ((endsWithin_singleton order).mp hend)]
  dsimp only
  cases left with
  | zero => exact ⟨fun _ => rfl, fun _ => ⟨le_rfl, rfl⟩⟩
  | succ left =>
    have hread := one_le_readDump order env family left chunks
    constructor
    · rintro ⟨hreads, -⟩
      omega
    · intro hzero
      omega

/-- A chunk with neither is passed over. -/
theorem rightlyRead_of_more
    (h : firstDefaultRoute order env family (iterMessages order chunk) = none)
    (hend : ¬ EndsWithin order [chunk]) :
    RightlyRead order env family (left + 1) (chunk :: chunks) ↔
      RightlyRead order env family left chunks := by
  rw [RightlyRead, readDump, defaultRouteIn, defaultRouteAmong_eq, h, List.flatMap_cons,
    firstDefaultRoute_append_of_none _ _ _ h
      (fun hends => hend ((endsWithin_singleton order).mpr hends))]
  dsimp only
  rw [noReadAfterEnd_cons order hend, RightlyRead]

theorem endsLateOrHasRoute_of_route {route : RouteInfo}
    (h : firstDefaultRoute order env family (iterMessages order chunk) = some route) :
    EndsLateOrHasRoute order env family (left + 1) (chunk :: chunks) := by
  intro _
  rw [List.flatMap_cons, ← isSome_firstDefaultRoute_iff,
    firstDefaultRoute_append_of_some _ _ _ h]
  rfl

theorem endsLateOrHasRoute_of_end
    (h : firstDefaultRoute order env family (iterMessages order chunk) = none)
    (hend : EndsWithin order [chunk]) :
    EndsLateOrHasRoute order env family (left + 1) (chunk :: chunks) ↔ left = 0 := by
  rw [EndsLateOrHasRoute, List.flatMap_cons, ← isSome_firstDefaultRoute_iff,
    firstDefaultRoute_append_of_end _ _ _ h ((endsWithin_singleton order).mp hend),
    Nat.add_sub_cancel]
  cases left with
  | zero =>
    refine ⟨fun _ => rfl, ?_⟩
    rintro - ⟨m, hm, -⟩
    exact absurd hm List.not_mem_nil
  | succ left =>
    constructor
    · intro hlate
      have hsome := hlate ((endsWithin_cons order).mpr (Or.inl hend))
      simp at hsome
    · intro hzero
      omega

theorem endsLateOrHasRoute_of_more
    (h : firstDefaultRoute order env family (iterMessages order chunk) = none)
    (hend : ¬ EndsWithin order [chunk]) (hlength : chunks.length ≤ left) :
    EndsLateOrHasRoute order env family (left + 1) (chunk :: chunks) ↔
      EndsLateOrHasRoute order env family left chunks := by
  rw [EndsLateOrHasRoute, EndsLateOrHasRoute, List.flatMap_cons, ← isSome_firstDefaultRoute_iff,
    ← isSome_firstDefaultRoute_iff, firstDefaultRoute_append_of_none _ _ _ h
      (fun hends => hend ((endsWithin_singleton order).mpr hends)), Nat.add_sub_cancel]
  cases left with
  | zero =>
    rw [List.length_eq_zero_iff.mp (Nat.le_zero.mp hlength)]
    exact Iff.rfl
  | succ left =>
    rw [List.take_succ_cons, endsWithin_cons order]
    constructor
    · intro hlate hlater
      exact hlate (Or.inr hlater)
    · rintro hlate (hfirst | hlater)
      · exact absurd hfirst hend
      · exact hlate hlater

end Chunk

/-- **When a dump is read no further than its end**, and answered by what precedes it.
By induction on the chunks: the first has a route, or ends the dump, or is passed over. -/
theorem rightlyRead_iff {left : ℕ} {chunks : List Octets} (h : chunks.length ≤ left) :
    RightlyRead order env family left chunks ↔
      EndsLateOrHasRoute order env family left chunks := by
  induction chunks generalizing left with
  | nil =>
    have hroute : (readDump order env family left []).2 = none := by cases left <;> rfl
    constructor
    · rintro - ⟨m, hm, -⟩
      rw [List.take_nil] at hm
      exact absurd hm List.not_mem_nil
    · intro _
      refine ⟨?_, hroute⟩
      intro earlier _ _ hchunks _
      simp at hchunks
  | cons chunk chunks ih =>
    obtain ⟨left, rfl⟩ : ∃ n, left = n + 1 := ⟨left - 1, by rw [List.length_cons] at h; omega⟩
    have hlength : chunks.length ≤ left := Nat.le_of_succ_le_succ h
    cases hroute : firstDefaultRoute order env family (iterMessages order chunk) with
    | some route =>
      exact iff_of_true (rightlyRead_of_route order env family hroute)
        (endsLateOrHasRoute_of_route order env family hroute)
    | none =>
      by_cases hend : EndsWithin order [chunk]
      · rw [rightlyRead_of_end order env family hroute hend,
          endsLateOrHasRoute_of_end order env family hroute hend]
      · rw [rightlyRead_of_more order env family hroute hend,
          endsLateOrHasRoute_of_more order env family hroute hend hlength]
        exact ih hlength

/-! ### Other chunks -/

theorem exists_isDefaultRoute_of_readDump {left : ℕ} {chunks : List Octets} {route : RouteInfo}
    (h : (readDump order env family left chunks).2 = some route) :
    ∃ message ∈ chunks.flatMap (iterMessages order),
      isDefaultRoute order env family message = true := by
  induction chunks generalizing left with
  | nil => cases left <;> simp [readDump] at h
  | cons chunk chunks ih =>
    cases left with
    | zero => simp [readDump] at h
    | succ left =>
      rw [List.flatMap_cons]
      rw [readDump] at h
      split at h
      · next found hfound =>
        have hsome : (firstDefaultRoute order env family (iterMessages order chunk)).isSome := by
          rw [← defaultRouteAmong_eq, ← defaultRouteIn, hfound]
          rfl
        obtain ⟨m, hm, hdefault⟩ := (isSome_firstDefaultRoute_iff order env family).mp hsome
        exact ⟨m, List.mem_append_left _ ((List.takeWhile_sublist _).mem hm), hdefault⟩
      · obtain ⟨m, hm, hdefault⟩ := ih h
        exact ⟨m, List.mem_append_right _ hm, hdefault⟩

theorem not_isDumpEnd_of_isDefaultRoute {message : ℕ × Octets}
    (h : isDefaultRoute order env family message = true) : isDumpEnd message = false := by
  obtain ⟨messageType, payload⟩ := message
  obtain ⟨htype, -⟩ := (isDefaultRoute_iff order env family).mp h
  rw [isDumpEnd, htype]
  rfl

/-- **A usable default route behind the end is found in other chunks**: those that are cut
right before it. -/
theorem exists_others (chunks : List Octets) {message : ℕ × Octets}
    (hmem : message ∈ chunks.flatMap (iterMessages order))
    (hdefault : isDefaultRoute order env family message = true) :
    ∃ others : List Octets, others.length ≤ MAX_DUMP_CHUNKS ∧
      others.flatMap (iterMessages order) = chunks.flatMap (iterMessages order) ∧
      (defaultGateway order env family (some ⟨true, others⟩)).route ≠ none := by
  obtain ⟨before, after, hsplit⟩ := List.append_of_mem hmem
  have hread : ∀ m ∈ chunks.flatMap (iterMessages order),
      ∃ data, m ∈ iterMessages order data := by
    intro m hm
    obtain ⟨chunk, -, hchunk⟩ := List.mem_flatMap.mp hm
    exact ⟨chunk, hchunk⟩
  rw [hsplit] at hread ⊢
  obtain ⟨first, hfirst⟩ := exists_iterMessages_eq order
    fun m hm => hread m (List.mem_append_left _ hm)
  obtain ⟨second, hsecond⟩ := exists_iterMessages_eq order
    fun m hm => hread m (List.mem_append_right _ hm)
  refine ⟨[first, second], show 2 ≤ MAX_DUMP_CHUNKS by decide, ?_, ?_⟩
  · rw [List.flatMap_cons, List.flatMap_singleton, hfirst, hsecond]
  · have hfound : defaultRouteIn order env second family =
        some (parseRoute order env message.2 family) := by
      rw [defaultRouteIn, hsecond, defaultRouteAmong_eq, firstDefaultRoute, firstBeforeEnd_cons,
        not_isDumpEnd_of_isDefaultRoute order env family hdefault, hdefault]
      rfl
    have hgateway : (defaultGateway order env family (some ⟨true, [first, second]⟩)).route =
        (readDump order env family MAX_DUMP_CHUNKS [first, second]).2 := rfl
    rw [hgateway, MAX_DUMP_CHUNKS, readDump, readDump, hfound]
    split <;> simp

end Messages

/-- **When a dump is read no further than its end.**  The reader stops there, answers with
the first usable default route before it, and gives that answer for every way to cut the
messages into chunks, if and only if such a route precedes the end, or there is none at all
and the dump does not end before the last chunk that is read. -/
theorem defaultGateway_right_iff (order : ByteOrder) (env : Interfaces) (family : AddressFamily)
    (chunks : List Octets) (h : chunks.length ≤ MAX_DUMP_CHUNKS) :
    ReadsTheDump order env family chunks ↔ RoutePrecedesEnd order env family chunks := by
  have hright := rightlyRead_iff order env family h
  constructor
  · rintro ⟨hstops, hanswers, hsame⟩
    rintro (⟨message, hmem, hdefault⟩ | hends)
    · obtain ⟨others, hlength, hmessages, hfound⟩ :=
        exists_others order env family chunks hmem hdefault
      rw [hsame others hlength hmessages, hanswers] at hfound
      rw [← isSome_firstDefaultRoute_iff]
      exact Option.isSome_iff_ne_none.mpr hfound
    · exact hright.mp ⟨hstops, hanswers⟩ hends
  · intro hcondition
    obtain ⟨hstops, hanswers⟩ := hright.mpr fun hends => hcondition (Or.inr hends)
    refine ⟨hstops, hanswers, ?_⟩
    intro others hlength hmessages
    by_cases hroute : HasRouteBeforeEnd order env family (chunks.flatMap (iterMessages order))
    · obtain ⟨-, hothers⟩ := (rightlyRead_iff order env family hlength).mpr fun _ => by
        rw [hmessages]
        exact hroute
      rw [hmessages] at hothers
      exact hothers.trans hanswers.symm
    · -- there is no usable default route, so none is found in any chunks
      have hnone : ∀ cut : List Octets,
          cut.flatMap (iterMessages order) = chunks.flatMap (iterMessages order) →
          (readDump order env family MAX_DUMP_CHUNKS cut).2 = none := by
        intro cut hcut
        refine Option.eq_none_iff_forall_ne_some.mpr ?_
        intro route hfound
        have hexists := exists_isDefaultRoute_of_readDump order env family hfound
        rw [hcut] at hexists
        exact hroute (hcondition (Or.inl hexists))
      exact (hnone others hmessages).trans (hnone chunks rfl).symm

/-- `NLMSG_DONE`, the whole dump of an empty table. -/
def endOfDump : Octets :=
  [20, 0, 0, 0, 3, 0, 2, 0, 1, 0, 0, 0, 0, 0, 0, 0, 0, 0, 0, 0]

/-- The route to the gateway 192.0.2.1, in the main table. -/
def routeMessage : Octets :=
  [36, 0, 0, 0, 24, 0, 2, 0, 1, 0, 0, 0, 0, 0, 0, 0,
    2, 0, 0, 0, 254, 3, 0, 1, 0, 0, 0, 0, 8, 0, 5, 0, 192, 0, 2, 1]

theorem defaultGateway_right_of_a_route :
    ReadsTheDump .little noInterfaces .IPV4 [routeMessage ++ endOfDump] :=
  (defaultGateway_right_iff .little noInterfaces .IPV4 [routeMessage ++ endOfDump]
    (by decide)).mpr fun _ => (isSome_firstDefaultRoute_iff _ _ _).mp (by decide)

/-- **A dump without a default route is read past its end**, until the timeout. -/
theorem defaultGateway_reads_past_the_end :
    [endOfDump].length ≤ MAX_DUMP_CHUNKS ∧
      ¬ ReadsTheDump .little noInterfaces .IPV4 [endOfDump] := by
  refine ⟨by decide, ?_⟩
  intro h
  have hends : EndsWithin .little [endOfDump] :=
    ⟨(NLMSG_DONE, [0, 0, 0, 0]), by decide, by decide⟩
  have hreads := h.stops [] endOfDump [] rfl hends
  revert hreads
  decide

end RoutesLinux

end IPScout
