import IPScout.Echo.Posix
import IPScout.Echo.Quoted
import IPScout.Echo.Traceroute
import IPScout.Net.Printed
import IPScout.Net.Resolve

/-!
# The path over a POSIX transport

`traceroute` with `open_hop_socket` of `transport_posix.py`.  A walk is refused where its socket
shows no expired hops, and otherwise every hop is what the wait of its own probe came to: the
target's reply, a router's report about that probe, or silence.  The reports of earlier hops go
on arriving; a report concerns the probe of one hop only, and what a router quotes of a hop's own
request is its report (`traceroute_over_posix`).
-/

namespace IPScout

open Base Base.Octets

def DEFAULT_PAYLOAD_SIZE : ℕ := 56

/-- `open_hop_socket`; whether the socket is a raw one. -/
def openHopSocket (world : SocketWorld) : Except PyError Bool := do
  let isRaw ← openSocket world
  -- `_hop_socket`
  if world.errorQueue || isRaw then .ok isRaw
  else
    match world.raw with
    | .ok () => .ok true
    | .error _ => .ok false

namespace PosixTransport

def supportsTtlDiscovery (t : PosixTransport) : Bool := t.errorQueue || t.isRaw

/-- The transport as a walk meets it: each hop limit meets a world of its own. -/
def hopTransport (t : PosixTransport) (worlds : ℕ → ProbeWorld) : HopTransport where
  supportsTtlDiscovery := t.supportsTtlDiscovery
  probe call := (t.probe (worlds call.ttl) call.sequence call.timeout (some call.ttl)).toOption.getD
    .silence

end PosixTransport

def traceroute (env : Interfaces) (getaddrinfo : Getaddrinfo) (world : SocketWorld)
    (worlds : ℕ → ProbeWorld) (names : ℕ → Text → HostByAddr) (target : Text)
    (family : Option AddressFamily) (settings : TracerouteSettings) : Except PyError Walk := do
  let resolved ← resolveOne env getaddrinfo target family
  let t ← PosixTransport.make env world resolved.address resolved.family DEFAULT_PAYLOAD_SIZE
    openHopSocket
  walk (t.hopTransport worlds) names settings

/-! ### What a hop says -/

/-- The call with a hop limit is answered by an event: its request went out, and the event is
what first ends its wait. -/
structure HopAnswered (t : PosixTransport) (w : ProbeWorld) (ttl : ℕ) (timeout : ℚ)
    (event : Event) (arrival : Arrival) : Prop where
  sent : goesOut [w.first, w.second] = true
  first : EndsAt t.socket (t.probeOf w.token ttl (some ttl)) (w.inTime timeout) event
  ends : ending t.socket (t.probeOf w.token ttl (some ttl)) event = some (some arrival)

theorem le_field_of_hop {ttl : ℕ} (h : ttl ≤ MAX_HOP_LIMIT) : ttl ≤ MAX_ICMP_FIELD16 :=
  h.trans (by decide)

section Hops

variable {t : PosixTransport} {w : ProbeWorld} {ttl : ℕ} {timeout : ℚ}

theorem hop_outcome_iff {arrival : Arrival} :
    t.outcome w ttl timeout (some ttl) = some arrival ↔
      ∃ event, HopAnswered t w ttl timeout event arrival := by
  rw [PosixTransport.outcome]
  by_cases hsent : goesOut [w.first, w.second] = true
  · rw [if_pos hsent, await_eq_some_iff]
    constructor
    · rintro ⟨event, hfirst, hend⟩
      exact ⟨event, hsent, hfirst, hend⟩
    · rintro ⟨event, hanswered⟩
      exact ⟨event, hanswered.first, hanswered.ends⟩
  · rw [if_neg hsent]
    constructor
    · intro h
      simp at h
    · rintro ⟨event, hanswered⟩
      exact absurd hanswered.sent hsent

theorem HopAnswered.cases {event : Event} {arrival : Arrival}
    (h : HopAnswered t w ttl timeout event arrival) :
    (arrival.ttlExpired = false ∧
      FromReply t.socket (t.probeOf w.token ttl (some ttl)) event arrival) ∨
    (arrival.ttlExpired = true ∧
      FromTimeExceeded t.socket (t.probeOf w.token ttl (some ttl)) event arrival) := by
  rcases ending_eq_some_some h.ends with hreply | hreport
  · refine Or.inl ⟨?_, hreply⟩
    cases event with
    | oserror entries => exact hreply.elim
    | datagram raw peer finished =>
      obtain ⟨_, _, _, _, _, rfl⟩ := hreply
      rfl
  · exact Or.inr ⟨by obtain ⟨_, _, _, _, hexpired, _⟩ := hreport; exact hexpired, hreport⟩

theorem ttl_eq_of_concerns {error : IcmpError} {token token' : Token} {ttl' : ℕ}
    {destination : Option Octets} (hle : ttl ≤ MAX_HOP_LIMIT) (hle' : ttl' ≤ MAX_HOP_LIMIT)
    (h : concerns error (t.probeOf token ttl (some ttl)) destination = true)
    (h' : concerns error (t.probeOf token' ttl' (some ttl')) destination = true) : ttl = ttl' := by
  have hsequence : ∀ {token : Token} {n : ℕ},
      concerns error (t.probeOf token n (some n)) destination = true →
      error.probe.sequence = UInt16.ofNat n := by
    intro token n hn
    simp only [concerns, Bool.and_eq_true, beq_iff_eq] at hn
    exact hn.1.1.1.1
  exact sequence_inj (le_field_of_hop hle) (le_field_of_hop hle')
    ((hsequence h).symm.trans (hsequence h'))

/-- What a router quotes of a hop's own request ends the wait of that hop. -/
theorem ending_of_quoted (hle : ttl ≤ MAX_HOP_LIMIT)
    (hsize : t.payloadSize ≤ maxPayloadSize t.socket.family) {q : EchoRequest}
    (hq : t.request w ttl = .ok q) {destination outer inner : Octets}
    (hdestination : t.socket.ownDestination = some destination)
    (houter : MayPrecede t.socket.family outer)
    (hinner : IsQuotedHeader t.socket.family destination inner) {n : ℕ} (hn : HEADER_SIZE ≤ n)
    (code : UInt8) (checksum unused unused' : ℕ) (peer : Text) (finished : ℚ) :
    ending t.socket (t.probeOf w.token ttl (some ttl)) (.datagram (outer ++
      timeExceededMessage t.socket.family code checksum unused unused'
        (inner ++ q.datagram.take n)) peer finished) = some (some ⟨finished, peer, true⟩) := by
  rw [PosixTransport.request_eq (le_field_of_hop hle) hsize, Except.ok.injEq] at hq
  obtain ⟨k, hdatagram⟩ := requestDatagram_eq t.socket.family t.identifier.toNat ttl
    (requestPayload w.token t.payloadSize t.socket.family hsize).toBytes
  have hquote := @parseEchoRequest_take t.socket.family k t.identifier.toNat ttl
    (requestPayload w.token t.payloadSize t.socket.family hsize).toBytes n hn
  have hread := quotedEchoRequest_message houter hinner code checksum unused unused'
    (q.datagram.take n)
  rw [← hq] at hread ⊢
  dsimp only at hread ⊢
  rw [hdatagram] at hread ⊢
  rw [hquote, Option.map_some] at hread
  generalize hraw : outer ++ timeExceededMessage t.socket.family code checksum unused unused'
    (inner ++ _) = raw at hread ⊢
  -- no echo reply quotes a request
  have hnoReply : (parseEchoReply raw).filter (replyMatches · (UInt16.ofNat ttl) w.token
      t.socket.family) = none := by
    rw [Option.filter_eq_none_iff]
    intro parsed hparsed hmatch
    have hreply : isEchoReply parsed t.socket.family = true := by
      simp only [replyMatches, Bool.and_eq_true] at hmatch
      exact hmatch.1.1
    rw [quotedEchoRequest_of_isEchoReply hparsed hreply] at hread
    simp at hread
  have htoken := token_take (requestPayload w.token t.payloadSize t.socket.family hsize)
    (n - HEADER_SIZE)
  have hconcerns : concerns ⟨⟨echoRequest t.socket.family, 0, UInt16.ofNat t.identifier.toNat,
      UInt16.ofNat ttl, EchoPayload.fromBytes ((requestPayload w.token t.payloadSize
        t.socket.family hsize).toBytes.take (n - HEADER_SIZE))⟩, some destination,
      some ⟨finished, peer, true⟩⟩ (t.probeOf w.token ttl (some ttl)) t.socket.ownDestination
      = true := by
    simp only [concerns, ParsedReply.token, htoken, hdestination, PosixTransport.probeOf]
    cases t.isRaw <;> split <;> simp [requestPayload]
  rw [ending_datagram, answerIn]
  split
  · next answered hanswered => exact absurd (hnoReply.symm.trans hanswered) (by simp)
  · rw [timeExceededDatagram, hread]
    dsimp only
    rw [if_pos hconcerns]
    rfl

end Hops

/-! ### Who answers -/

/-- What the kernel hands over with a datagram is an address. -/
def PeersAreLiterals (worlds : ℕ → ProbeWorld) : Prop :=
  ∀ n, ∀ turn ∈ (worlds n).turns, ∀ raw peer finished, turn.2 = .datagram raw peer finished →
    ∃ a, parseAddress peer = .ok a

theorem parseAddress_of_offenderAddress {control : Octets} {family : AddressFamily} {router : Text}
    (h : offenderAddress control family = some router) : ∃ a, parseAddress router = .ok a := by
  rw [offenderAddress] at h
  split at h
  · simp at h
  · split at h
    · simp at h
    · dsimp only at h
      split at h
      · simp at h
      · next hlong =>
        have hlength : (slice (control.drop extendedErrSize) (offenderSlice family).1
            (offenderSlice family).2).length = family.packedSize := by
          rw [length_slice, Nat.min_eq_left (not_lt.mp hlong)]
          cases family <;> rfl
        obtain ⟨haddress, _⟩ := ipAddress_inetNtop hlength
        rw [← Option.some.inj h, parseAddress, haddress]
        exact ⟨_, rfl⟩

theorem parseAddress_of_queuedError {entry : QueueEntry} {family : AddressFamily} {e : IcmpError}
    {a : Arrival} (h : queuedError entry family = some e) (ha : e.arrival = some a) :
    ∃ address, parseAddress a.source = .ok address := by
  rw [queuedError] at h
  split at h
  · simp at h
  · obtain ⟨control, _, hcontrol⟩ := List.exists_of_findSome?_eq_some h
    rw [controlError] at hcontrol
    split at hcontrol
    · next router hrouter =>
      rw [← Option.some.inj hcontrol] at ha
      rw [← Option.some.inj ha]
      exact parseAddress_of_offenderAddress hrouter
    · split at hcontrol
      · rw [← Option.some.inj hcontrol] at ha
        simp at ha
      · simp at hcontrol

/-- **Whoever answers a hop is an address.** -/
theorem HopAnswered.literal {t : PosixTransport} {worlds : ℕ → ProbeWorld} {ttl : ℕ} {timeout : ℚ}
    {event : Event} {arrival : Arrival} (hpeers : PeersAreLiterals worlds)
    (h : HopAnswered t (worlds ttl) ttl timeout event arrival) :
    ∃ a, parseAddress arrival.source = .ok a := by
  have hdatagram : ∀ raw peer finished, event = .datagram raw peer finished →
      ∃ a, parseAddress peer = .ok a := by
    intro raw peer finished hevent
    obtain ⟨before, after, hsplit, _⟩ := h.first
    have hmem : event ∈ (worlds ttl).inTime timeout := by rw [hsplit]; simp
    obtain ⟨turn, hturn, heq⟩ := List.mem_map.mp hmem
    exact hpeers ttl turn ((List.takeWhile_prefix _).subset hturn) raw peer finished
      (heq.trans hevent)
  rcases h.cases with ⟨_, hreply⟩ | ⟨_, error, hreport, _, harrival, _⟩
  · cases event with
    | oserror entries => exact hreply.elim
    | datagram raw peer finished =>
      obtain ⟨_, _, _, _, _, rfl⟩ := hreply
      exact hdatagram raw peer finished rfl
  · cases event with
    | datagram raw peer finished =>
      rw [arrival_of_timeExceededDatagram hreport] at harrival
      rw [← Option.some.inj harrival]
      exact hdatagram raw peer finished rfl
    | oserror entries =>
      obtain ⟨entry, _, hqueued⟩ := hreport
      exact parseAddress_of_queuedError hqueued harrival

/-! ### The walk -/

/-- A hop is what the wait of its own probe came to. -/
structure SaysHop (t : PosixTransport) (w : ProbeWorld) (timeout : ℚ) (hop : TraceHop) : Prop where
  address : ∀ source, hop.address = some source ↔
    ∃ event arrival, HopAnswered t w hop.ttl timeout event arrival ∧ arrival.source = source
  target : hop.reached = true ↔ ∃ event arrival, HopAnswered t w hop.ttl timeout event arrival ∧
    FromReply t.socket (t.probeOf w.token hop.ttl (some hop.ttl)) event arrival
  router : hop.address.isSome = true ∧ hop.reached = false ↔
    ∃ event arrival, HopAnswered t w hop.ttl timeout event arrival ∧
      FromTimeExceeded t.socket (t.probeOf w.token hop.ttl (some hop.ttl)) event arrival

/-- A hop built from what a call of `probe` returned says what its wait came to. -/
theorem saysHop_of_hopOf {t : PosixTransport} {w : ProbeWorld} {timeout : ℚ} {r : EchoResult}
    {hostname : Option Text} {hop : TraceHop} (hof : HopOf hop.ttl r hostname hop)
    (hresult : ResultOf (t.outcome w hop.ttl timeout (some hop.ttl)) w.started r) :
    SaysHop t w timeout hop := by
  have hreply : r.isReply = (t.outcome w hop.ttl timeout (some hop.ttl)).any
      fun a => !a.ttlExpired := by
    rw [EchoResult.isReply, hresult.rttMs, hresult.ttlExpired]
    cases t.outcome w hop.ttl timeout (some hop.ttl) <;> simp
  refine ⟨?_, ?_, ?_⟩
  · intro source
    rw [hof.address, hresult.source, Option.map_eq_some_iff]
    constructor
    · rintro ⟨arrival, harrival, rfl⟩
      obtain ⟨event, hanswered⟩ := hop_outcome_iff.mp harrival
      exact ⟨event, arrival, hanswered, rfl⟩
    · rintro ⟨event, arrival, hanswered, rfl⟩
      exact ⟨arrival, hop_outcome_iff.mpr ⟨event, hanswered⟩, rfl⟩
  · rw [hof.reached, hreply, Option.any_eq_true]
    constructor
    · rintro ⟨arrival, harrival, hmark⟩
      obtain ⟨event, hanswered⟩ := hop_outcome_iff.mp harrival
      rcases hanswered.cases with ⟨_, hfrom⟩ | ⟨hexpired, _⟩
      · exact ⟨event, arrival, hanswered, hfrom⟩
      · rw [hexpired] at hmark
        simp at hmark
    · rintro ⟨event, arrival, hanswered, hfrom⟩
      refine ⟨arrival, hop_outcome_iff.mpr ⟨event, hanswered⟩, ?_⟩
      cases event with
      | oserror entries => exact hfrom.elim
      | datagram raw peer finished =>
        obtain ⟨_, _, _, _, _, rfl⟩ := hfrom
        rfl
  · rw [hof.address, hof.reached, hreply, hresult.source]
    constructor
    · rintro ⟨hsome, hmark⟩
      cases hout : t.outcome w hop.ttl timeout (some hop.ttl) with
      | none =>
        rw [hout] at hsome
        simp at hsome
      | some arrival =>
        obtain ⟨event, hanswered⟩ := hop_outcome_iff.mp hout
        rcases hanswered.cases with ⟨hplain, _⟩ | ⟨_, hfrom⟩
        · rw [hout] at hmark
          simp [hplain] at hmark
        · exact ⟨event, arrival, hanswered, hfrom⟩
    · rintro ⟨event, arrival, hanswered, hfrom⟩
      rw [hop_outcome_iff.mpr ⟨event, hanswered⟩]
      obtain ⟨_, _, _, _, hexpired, _⟩ := hfrom
      simp [hexpired]

theorem walk_of_discovery {transport : HopTransport} {names : ℕ → Text → HostByAddr}
    {settings : TracerouteSettings} (h : transport.supportsTtlDiscovery = true) :
    walk transport names settings =
      walkFrom transport names settings (List.range' 1 settings.maxHops) := by
  rw [walk, h]
  rfl

theorem walk_of_no_discovery {transport : HopTransport} (names : ℕ → Text → HostByAddr)
    (settings : TracerouteSettings) (h : ¬ transport.supportsTtlDiscovery = true) :
    ∃ e, requireWalkable false = .error e ∧ walk transport names settings = .error e := by
  rw [Bool.not_eq_true] at h
  refine ⟨_, rfl, ?_⟩
  rw [walk, h]
  rfl

section Walks

variable {env : Interfaces} {world : SocketWorld} {t : PosixTransport} {address : Text}
  {family : AddressFamily} (worlds : ℕ → ProbeWorld) (settings : TracerouteSettings)

theorem fits_of_default
    (hmake : PosixTransport.make env world address family DEFAULT_PAYLOAD_SIZE openHopSocket =
      .ok t) : t.payloadSize ≤ maxPayloadSize t.socket.family := by
  rw [(PosixTransport.make_eq_ok hmake).2]
  cases t.socket.family <;> decide

theorem exists_hop_result
    (hmake : PosixTransport.make env world address family DEFAULT_PAYLOAD_SIZE openHopSocket =
      .ok t) (haccepts : ∀ n, 1 ≤ n → n ≤ MAX_HOP_LIMIT → world.accepts n = true) {ttl : ℕ}
    (hmin : 1 ≤ ttl) (hmax : ttl ≤ MAX_HOP_LIMIT) :
    ResultOf (t.outcome (worlds ttl) ttl settings.timeout (some ttl)) (worlds ttl).started
      (outcomeAt (t.hopTransport worlds) settings ttl) := by
  have haccepted : t.accepts = world.accepts := by
    obtain ⟨destination, _, hrest⟩ := bind_eq_ok.mp hmake
    obtain ⟨isRaw, _, hrest⟩ := bind_eq_ok.mp hrest
    split at hrest
    · simp at hrest
    · rw [← Except.ok.inj hrest]
  have hlimit : (some ttl).all t.accepts = true := by
    rw [Option.all_some, haccepted]
    exact haccepts ttl hmin hmax
  have hprobe : ∃ r, t.probe (worlds ttl) ttl settings.timeout (some ttl) = .ok r ∧
      ResultOf (t.outcome (worlds ttl) ttl settings.timeout (some ttl)) (worlds ttl).started r :=
    PosixTransport.probe_ok (le_field_of_hop hmax) (fits_of_default hmake) hlimit
  obtain ⟨r, hr, hresult⟩ := hprobe
  have hat : outcomeAt (t.hopTransport worlds) settings ttl = r := by
    show (t.probe (worlds ttl) ttl settings.timeout (some ttl)).toOption.getD .silence = r
    rw [hr, Except.toOption, Option.getD_some]
  rw [hat]
  exact hresult

theorem bounds_of_mem_limits {ttl : ℕ} (h : ttl ∈ List.range' 1 settings.maxHops) :
    1 ≤ ttl ∧ ttl ≤ MAX_HOP_LIMIT := by
  have hmax := settings.hops_bounds.2
  rw [List.mem_range'_1] at h
  omega

theorem exists_path (names : ℕ → Text → HostByAddr)
    (hmake : PosixTransport.make env world address family DEFAULT_PAYLOAD_SIZE openHopSocket =
      .ok t) (haccepts : ∀ n, 1 ≤ n → n ≤ MAX_HOP_LIMIT → world.accepts n = true)
    (hpeers : PeersAreLiterals worlds) :
    ∃ w, walkFrom (t.hopTransport worlds) names settings (List.range' 1 settings.maxHops) = .ok w ∧
      PathOf (t.hopTransport worlds) names settings (List.range' 1 settings.maxHops) w := by
  refine pathOf_walkFrom names (fun _ httl => bounds_of_mem_limits settings httl) ?_
  intro ttl httl source hsource
  obtain ⟨hmin, hmax⟩ := bounds_of_mem_limits settings httl
  have hresult := exists_hop_result worlds settings hmake haccepts hmin hmax
  rw [hresult.source, Option.map_eq_some_iff] at hsource
  obtain ⟨arrival, harrival, rfl⟩ := hsource
  obtain ⟨event, hanswered⟩ := hop_outcome_iff.mp harrival
  exact hanswered.literal hpeers

theorem numbered_of_path {names : ℕ → Text → HostByAddr} {transport : HopTransport} {w : Walk}
    (hpath : PathOf transport names settings (List.range' 1 settings.maxHops) w) :
    w.hops.length ≤ settings.maxHops ∧ w.hops.map (·.ttl) = List.range' 1 w.hops.length := by
  have hlength := hpath.length_le
  rw [List.length_range'] at hlength
  obtain ⟨n, hn⟩ := Nat.exists_eq_add_of_le hlength
  refine ⟨hlength, ?_⟩
  rw [hpath.numbered, hn, ← List.range'_append_1, List.take_left' List.length_range']

/-- **The hops of a path are what the waits of their own probes came to.** -/
theorem saysHop_of_path {names : ℕ → Text → HostByAddr} {w : Walk}
    (hmake : PosixTransport.make env world address family DEFAULT_PAYLOAD_SIZE openHopSocket =
      .ok t) (haccepts : ∀ n, 1 ≤ n → n ≤ MAX_HOP_LIMIT → world.accepts n = true)
    (hpath : PathOf (t.hopTransport worlds) names settings (List.range' 1 settings.maxHops) w) :
    ∀ hop ∈ w.hops, hop.ttl ≤ MAX_HOP_LIMIT ∧
      SaysHop t (worlds hop.ttl) settings.timeout hop := by
  intro hop hmem
  obtain ⟨hlength, hnumbered⟩ := numbered_of_path settings hpath
  have hin : hop.ttl ∈ List.range' 1 w.hops.length := by
    rw [← hnumbered]
    exact List.mem_map_of_mem hmem
  have hlimit : hop.ttl ∈ List.range' 1 settings.maxHops := by
    rw [List.mem_range'_1] at hin ⊢
    omega
  obtain ⟨hmin, hmax⟩ := bounds_of_mem_limits settings hlimit
  exact ⟨hmax, saysHop_of_hopOf (hpath.hopOf hop hmem)
    (exists_hop_result worlds settings hmake haccepts hmin hmax)⟩

end Walks

/-- **The path over a POSIX transport.**  Whatever arrives while the hops are probed, a walk fails
only where resolving the target or opening the socket does, or where the socket shows no expired
hops.  Otherwise its hops are numbered from 1 on without a gap and end at the target, if they do
not reach the limit, and each of them is what the wait of its own probe came to.  An error
concerns the probe of one hop at most; and what a router quotes of a hop's own request makes it
that hop, if nothing has ended the wait before. -/
theorem traceroute_over_posix (env : Interfaces) (getaddrinfo : Getaddrinfo) {world : SocketWorld}
    {worlds : ℕ → ProbeWorld} (names : ℕ → Text → HostByAddr) (target : Text)
    (family : Option AddressFamily) (settings : TracerouteSettings)
    (haccepts : ∀ n, 1 ≤ n → n ≤ MAX_HOP_LIMIT → world.accepts n = true)
    (hpeers : PeersAreLiterals worlds) :
    (∀ e, traceroute env getaddrinfo world worlds names target family settings = .error e →
      resolveOne env getaddrinfo target family = .error e ∨
      ∃ resolved, resolveOne env getaddrinfo target family = .ok resolved ∧
        (PosixTransport.make env world resolved.address resolved.family DEFAULT_PAYLOAD_SIZE
            openHopSocket = .error e ∨
          ∃ t, PosixTransport.make env world resolved.address resolved.family DEFAULT_PAYLOAD_SIZE
              openHopSocket = .ok t ∧ t.errorQueue = false ∧ t.isRaw = false ∧
            requireWalkable false = .error e)) ∧
    ∀ w, traceroute env getaddrinfo world worlds names target family settings = .ok w →
      ∃ resolved t, resolveOne env getaddrinfo target family = .ok resolved ∧
        PosixTransport.make env world resolved.address resolved.family DEFAULT_PAYLOAD_SIZE
          openHopSocket = .ok t ∧
        w.hops.map (·.ttl) = List.range' 1 w.hops.length ∧ w.hops.length ≤ settings.maxHops ∧
        (∀ hop ∈ w.hops.dropLast, hop.reached = false) ∧
        (w.hops.length < settings.maxHops → ∃ hop ∈ w.hops.getLast?, hop.reached = true) ∧
        (∀ hop ∈ w.hops, SaysHop t (worlds hop.ttl) settings.timeout hop) ∧
        (∀ i ≤ MAX_HOP_LIMIT, ∀ j ≤ MAX_HOP_LIMIT, ∀ error token token',
          concerns error (t.probeOf token i (some i)) t.socket.ownDestination = true →
          concerns error (t.probeOf token' j (some j)) t.socket.ownDestination = true → i = j) ∧
        ∀ hop ∈ w.hops, ∃ q, t.request (worlds hop.ttl) hop.ttl = .ok q ∧
          ∀ destination outer inner n code checksum unused unused' peer finished,
            t.socket.ownDestination = some destination →
            MayPrecede t.socket.family outer →
            IsQuotedHeader t.socket.family destination inner → HEADER_SIZE ≤ n →
            goesOut [(worlds hop.ttl).first, (worlds hop.ttl).second] = true →
            EndsAt t.socket (t.probeOf (worlds hop.ttl).token hop.ttl (some hop.ttl))
              ((worlds hop.ttl).inTime settings.timeout)
              (.datagram (outer ++ timeExceededMessage t.socket.family code checksum unused unused'
                (inner ++ q.datagram.take n)) peer finished) →
            hop.address = some peer ∧ hop.reached = false := by
  refine ⟨?_, ?_⟩
  · intro e he
    rcases bind_eq_error.mp he with he | ⟨resolved, hresolved, he⟩
    · exact Or.inl he
    · refine Or.inr ⟨resolved, hresolved, ?_⟩
      rcases bind_eq_error.mp he with he | ⟨t, hmake, he⟩
      · exact Or.inl he
      · refine Or.inr ⟨t, hmake, ?_⟩
        by_cases hdiscovery : t.supportsTtlDiscovery = true
        · obtain ⟨w, hw, _⟩ := exists_path worlds settings names hmake haccepts hpeers
          rw [walk_of_discovery hdiscovery, hw] at he
          simp at he
        · have hnone : t.errorQueue = false ∧ t.isRaw = false := by
            simpa [PosixTransport.supportsTtlDiscovery] using hdiscovery
          have hshows : ¬ (t.hopTransport worlds).supportsTtlDiscovery = true := hdiscovery
          obtain ⟨refusal, hrefusal, hwalk⟩ := walk_of_no_discovery names settings hshows
          rw [hwalk, Except.error.injEq] at he
          exact ⟨hnone.1, hnone.2, he ▸ hrefusal⟩
  · intro w hw
    obtain ⟨resolved, hresolved, hw⟩ := bind_eq_ok.mp hw
    obtain ⟨t, hmake, hw⟩ := bind_eq_ok.mp hw
    have hdiscovery : t.supportsTtlDiscovery = true := by
      by_contra hnone
      have hshows : ¬ (t.hopTransport worlds).supportsTtlDiscovery = true := hnone
      obtain ⟨_, _, hwalk⟩ := walk_of_no_discovery names settings hshows
      rw [hwalk] at hw
      simp at hw
    obtain ⟨w', hw', hpath⟩ := exists_path worlds settings names hmake haccepts hpeers
    rw [walk_of_discovery hdiscovery, hw', Except.ok.injEq] at hw
    subst hw
    obtain ⟨hlength, hnumbered⟩ := numbered_of_path settings hpath
    have hhop := saysHop_of_path worlds settings hmake haccepts hpath
    have hfits := fits_of_default hmake
    refine ⟨resolved, t, hresolved, hmake, hnumbered, hlength, hpath.onlyLast, ?_,
      fun hop h => (hhop hop h).2, ?_, ?_⟩
    · intro hlt
      exact hpath.stopped (by rwa [List.length_range'])
    · intro i hi j hj error token token' h h'
      exact ttl_eq_of_concerns hi hj h h'
    · intro hop hmem
      obtain ⟨hmax, hreports⟩ := hhop hop hmem
      refine ⟨_, PosixTransport.request_eq (le_field_of_hop hmax) hfits, ?_⟩
      intro destination outer inner n code checksum unused unused' peer finished hown houter hinner
        hn hsent hends
      have hanswered : HopAnswered t (worlds hop.ttl) hop.ttl settings.timeout _
          ⟨finished, peer, true⟩ := ⟨hsent, hends, ending_of_quoted hmax hfits
        (PosixTransport.request_eq (le_field_of_hop hmax) hfits) hown houter hinner hn code checksum
        unused unused' peer finished⟩
      refine ⟨(hreports.address peer).mpr ⟨_, _, hanswered, rfl⟩, ?_⟩
      rcases hanswered.cases with ⟨hplain, _⟩ | ⟨_, hfrom⟩
      · simp at hplain
      · exact (hreports.router.mpr ⟨_, _, hanswered, hfrom⟩).2

def oneHost : Getaddrinfo := fun _ _ => .ok [.inet ⟨"192.0.2.1".toList, rfl⟩]

def thirtyHops : TracerouteSettings := ⟨30, 2, false, by decide, two_seconds_bounds⟩

/-- The request of the first hop in the error queue, which `192.0.2.254` discarded. -/
def discarded : QueueEntry where
  data := [8, 0, 0, 0, 0, 7, 0, 1] ++ MAGIC ++ letterToken.val
  ancillary := [[113, 0, 0, 0, 2, 11, 0, 0, 0, 0, 0, 0, 0, 0, 0, 0, 2, 0, 0, 0, 192, 0, 2, 254]]
  address := some "192.0.2.1".toList
  finished := 1

/-- A wait of one event, heard after a second. -/
def hearing (event : Event) (h : event.clocks = [1]) : ProbeWorld where
  token := letterToken
  started := 0
  first := .sent
  second := .sent
  turns := [(0, event)]
  monotonic := by
    intro turn hturn finished hfinished
    rw [List.mem_singleton.mp hturn, h] at hfinished
    rw [List.mem_singleton.mp hfinished]
    decide

/-- A router reports the first request, and the target answers the second. -/
def routerThenTarget (ttl : ℕ) : ProbeWorld :=
  if ttl = 1 then hearing (.oserror [discarded]) rfl else hearing (replyEvent 2 1) rfl

/-- A walk over one router, whose report comes through the error queue. -/
theorem traceroute_over_posix_queued : ∃ w,
    traceroute noInterfaces oneHost plainHost routerThenTarget
        (fun _ _ => .name "host".toList) "host".toList none thirtyHops = .ok w ∧
      w.hops.map (·.toTraceHopData) =
        [⟨1, some "192.0.2.254".toList, some 1000, false, none⟩,
          ⟨2, some "192.0.2.1".toList, some 1000, true, none⟩] ∧
      ∃ t, PosixTransport.make noInterfaces plainHost "192.0.2.1".toList .IPV4
          DEFAULT_PAYLOAD_SIZE openHopSocket = .ok t ∧
        ∀ hop ∈ w.hops, SaysHop t (routerThenTarget hop.ttl) 2 hop := by
  have hpeers : PeersAreLiterals routerThenTarget := by
    intro ttl turn hturn raw peer finished hevent
    rw [routerThenTarget] at hturn
    split at hturn
    · rw [List.mem_singleton.mp hturn] at hevent
      simp at hevent
    · rw [List.mem_singleton.mp hturn] at hevent
      obtain ⟨rfl, rfl, rfl⟩ := Event.datagram.inj hevent
      exact ⟨_, rfl⟩
  have haccepts : ∀ n, 1 ≤ n → n ≤ MAX_HOP_LIMIT → plainHost.accepts n = true := fun _ _ _ => rfl
  obtain ⟨_, hwalks⟩ := traceroute_over_posix noInterfaces oneHost
    (fun _ _ => .name "host".toList) "host".toList none thirtyHops haccepts hpeers
  have hfound : (traceroute noInterfaces oneHost plainHost routerThenTarget
      (fun _ _ => .name "host".toList) "host".toList none thirtyHops).map
        (fun w => w.hops.map (·.toTraceHopData)) =
      .ok [⟨1, some "192.0.2.254".toList, some 1000, false, none⟩,
        ⟨2, some "192.0.2.1".toList, some 1000, true, none⟩] := by
    decide +kernel
  have hresolve : resolveOne noInterfaces oneHost "host".toList none =
      .ok ⟨"192.0.2.1".toList, .IPV4⟩ := by decide +kernel
  cases hroute : traceroute noInterfaces oneHost plainHost routerThenTarget
      (fun _ _ => .name "host".toList) "host".toList none thirtyHops with
  | error e =>
    rw [hroute] at hfound
    simp [Except.map] at hfound
  | ok w =>
    rw [hroute, Except.map, Except.ok.injEq] at hfound
    obtain ⟨resolved, t, hresolved, hmake, _, _, _, _, hsays, _⟩ := hwalks w hroute
    rw [hresolve, Except.ok.injEq] at hresolved
    subst hresolved
    exact ⟨w, rfl, hfound, t, hmake, hsays⟩

end IPScout
