import IPScout.Base.Outcome
import IPScout.Echo.Await
import IPScout.Echo.HopLimit
import IPScout.Echo.Ping
import IPScout.Echo.Request
import IPScout.Net.Interfaces

/-!
# A ping over a POSIX transport

`PosixEchoTransport` of `transport_posix.py`: its socket is opened, and every probe sends one
request on it and waits for what answers.  One socket serves a whole ping, so the wait of one
echo may read what was sent to another: a late reply, a duplicate, an error about an earlier
echo, or the traffic of other processes.

A wait ends with the first event before its deadline that ends it (`await_eq_some_iff`), so a
probe is answered exactly by a reply with its own sequence and token (`probe_of_plain`).  An echo
has its own sequence, whatever the token, so no datagram is counted for two echoes
(`ping_over_posix`).
-/

namespace IPScout

open Base

/-! ### Opening a transport -/

/-- What the system does while a transport is built. -/
structure SocketWorld where
  /-- `socket(family, SOCK_DGRAM, proto)`. -/
  dgram : Except OSErr Unit
  /-- `socket(family, SOCK_RAW, proto)`. -/
  raw : Except OSErr Unit
  /-- The calls of `_fit_buffers`. -/
  buffers : Except OSErr Unit
  /-- Whether `_enable_error_queue` finds a queue to read. -/
  errorQueue : Bool
  identifier : UInt16
  /-- The hop limits `setsockopt` takes. -/
  accepts : ℕ → Bool

/-- `open_socket`; whether the socket is a raw one. -/
def openSocket (world : SocketWorld) : Except PyError Bool :=
  match world.dgram with
  | .ok () => .ok false
  | .error dgramError =>
    match world.raw with
    | .ok () => .ok true
    | .error rawError =>
      .error (.scout .IPScoutPermissionError
        [say ("unprivileged ICMP is unavailable and no raw socket could be opened. Fix any one " ++
          "of:\n  - Linux: sysctl -w net.ipv4.ping_group_range=\"0 2147483647\"\n" ++
          "    (persist it in /etc/sysctl.d/ to survive a reboot)\n" ++
          "  - grant the process CAP_NET_RAW\n" ++
          "  - pass allow_tcp_fallback=True to probe over TCP instead of ICMP" ++
          "\n  (datagram socket: "), .text dgramError.str, say "; raw socket: ",
          .text rawError.str, say ")"])

/-- The host and the scope id of a sockaddr. -/
structure EchoDestination where
  host : Text
  scopeId : ℕ
  deriving DecidableEq

def destinationFor (env : Interfaces) (address : Text) (family : AddressFamily) :
    Except PyError EchoDestination :=
  match family with
  | .IPV4 => .ok ⟨address, 0⟩
  | .IPV6 =>
    match (splitZone address).zone with
    | none => .ok ⟨(splitZone address).address, 0⟩
    | some zone => (zoneIndex env zone).map fun index => ⟨(splitZone address).address, index⟩

/-- A `PosixEchoTransport`. -/
structure PosixTransport where
  socket : EchoSocket
  destination : EchoDestination
  payloadSize : ℤ
  errorQueue : Bool
  identifier : UInt16
  isRaw : Bool
  accepts : ℕ → Bool

namespace PosixTransport

/-- `__init__`. -/
def make (env : Interfaces) (world : SocketWorld) (address : Text) (family : AddressFamily)
    (payloadSize : ℤ) (socketFactory : SocketWorld → Except PyError Bool) :
    Except PyError PosixTransport := do
  let destination ← destinationFor env address family
  let isRaw ← socketFactory world
  match world.buffers with
  | .error e => .error (.os e)
  | .ok () =>
    -- `_own_destination`
    .ok ⟨⟨family, inetPton family destination.host⟩, destination, payloadSize, world.errorQueue,
      world.identifier, isRaw, world.accepts⟩

theorem make_eq_ok {env : Interfaces} {world : SocketWorld} {address : Text}
    {family : AddressFamily} {payloadSize : ℤ} {socketFactory : SocketWorld → Except PyError Bool}
    {t : PosixTransport} (h : make env world address family payloadSize socketFactory = .ok t) :
    t.socket.family = family ∧ t.payloadSize = payloadSize := by
  obtain ⟨destination, _, h⟩ := bind_eq_ok.mp h
  obtain ⟨isRaw, _, h⟩ := bind_eq_ok.mp h
  split at h
  · simp at h
  · rw [← Except.ok.inj h]
    exact ⟨rfl, rfl⟩

end PosixTransport

/-! ### Probes -/

def Event.clocks : Event → List ℚ
  | .datagram _ _ finished => [finished]
  | .oserror entries => entries.map QueueEntry.finished

/-- What the world does to one call of `probe`: the token that is drawn, what becomes of the two
attempts to send, and the turns of the wait.  The clock does not go back. -/
structure ProbeWorld where
  token : Token
  started : ℚ
  first : SendAnswer
  second : SendAnswer
  turns : List (ℚ × Event)
  monotonic : ∀ turn ∈ turns, ∀ finished ∈ turn.2.clocks, started ≤ finished

def ProbeWorld.inTime (w : ProbeWorld) (timeout : ℚ) : List Event :=
  (w.turns.takeWhile fun turn => decide (turn.1 < w.started + timeout)).map (·.2)

/-- `_result`; the record refuses a negative round trip. -/
def echoResult (arrival : Option Arrival) (started : ℚ) : Except PyError EchoResult :=
  match arrival with
  | none => .ok .silence
  | some a =>
    if h : 0 ≤ (a.finished - started) * 1000 then .ok (.answer _ a.source a.ttlExpired h)
    else .error (.value [say "Input should be greater than or equal to 0"])

namespace PosixTransport

def request (t : PosixTransport) (w : ProbeWorld) (sequence : ℕ) : Except PyError EchoRequest :=
  buildEchoRequest w.token sequence t.payloadSize t.socket.family t.identifier.toNat none

/-- `_Probe(...)`. -/
def probeOf (t : PosixTransport) (token : Token) (sequence : ℕ) (ttl : Option ℕ) : Probe :=
  ⟨UInt16.ofNat sequence, token, if t.isRaw then some t.identifier else none, ttl.isSome⟩

def probe (t : PosixTransport) (w : ProbeWorld) (sequence : ℕ) (timeout : ℚ) (ttl : Option ℕ) :
    Except PyError EchoResult :=
  if ttl.all t.accepts then do
    let request ← t.request w sequence
    if goesOut [w.first, w.second] then
      echoResult (await t.socket (t.probeOf request.token sequence ttl) (w.started + timeout)
        w.turns) w.started
    else
      -- an unreachable network refuses at send time
      .ok .silence
  else .error (.os invalidArgument)

end PosixTransport

/-- A result says what ended the wait. -/
structure ResultOf (arrival : Option Arrival) (started : ℚ) (r : EchoResult) : Prop where
  rttMs : r.rttMs = arrival.map fun a => (a.finished - started) * 1000
  source : r.source = arrival.map Arrival.source
  ttlExpired : r.ttlExpired = arrival.any Arrival.ttlExpired

theorem echoResult_ok {arrival : Option Arrival} {started : ℚ}
    (h : ∀ a, arrival = some a → started ≤ a.finished) :
    ∃ r, echoResult arrival started = .ok r ∧ ResultOf arrival started r := by
  cases arrival with
  | none => exact ⟨.silence, rfl, rfl, rfl, rfl⟩
  | some a =>
    have hnonneg : 0 ≤ (a.finished - started) * 1000 :=
      mul_nonneg (sub_nonneg.mpr (h a rfl)) (by decide)
    rw [echoResult, dif_pos hnonneg]
    exact ⟨_, rfl, rfl, rfl, rfl⟩

/-! ### What ends a wait -/

/-- The first of the events that ends the wait. -/
def EndsAt (socket : EchoSocket) (probe : Probe) (events : List Event) (event : Event) : Prop :=
  ∃ before after, events = before ++ event :: after ∧ ∀ e ∈ before, ending socket probe e = none

theorem await_takeWhile (socket : EchoSocket) (probe : Probe) (deadline : ℚ)
    (turns : List (ℚ × Event)) :
    await socket probe deadline turns =
      await socket probe deadline (turns.takeWhile fun turn => decide (turn.1 < deadline)) := by
  induction turns with
  | nil => rfl
  | cons turn rest ih =>
    obtain ⟨now, event⟩ := turn
    rw [List.takeWhile_cons]
    by_cases hnow : now < deadline
    · rw [if_pos (decide_eq_true hnow)]
      unfold await
      rw [if_neg (not_le.mpr hnow), if_neg (not_le.mpr hnow), ih]
    · rw [if_neg (by simpa using hnow)]
      unfold await
      rw [if_pos (not_lt.mp hnow)]

/-- **A wait is answered by the first event before its deadline that ends it.** -/
theorem await_eq_some_iff {socket : EchoSocket} {probe : Probe} {w : ProbeWorld} {timeout : ℚ}
    {arrival : Arrival} :
    await socket probe (w.started + timeout) w.turns = some arrival ↔
      ∃ event, EndsAt socket probe (w.inTime timeout) event ∧
        ending socket probe event = some (some arrival) := by
  have hbefore : ∀ turn ∈ w.turns.takeWhile fun turn => decide (turn.1 < w.started + timeout),
      turn.1 < w.started + timeout := by
    intro turn hturn
    simpa using List.mem_takeWhile_imp hturn
  have hread : await socket probe (w.started + timeout) w.turns =
      ((w.inTime timeout).findSome? (ending socket probe)).join := by
    rw [await_takeWhile, await_eq_findSome socket probe hbefore, ProbeWorld.inTime,
      List.findSome?_map]
    rfl
  rw [hread, Option.join_eq_some_iff, List.findSome?_eq_some_iff]
  constructor
  · rintro ⟨before, event, after, hsplit, hend, hquiet⟩
    exact ⟨event, ⟨before, after, hsplit, hquiet⟩, hend⟩
  · rintro ⟨event, ⟨before, after, hsplit, hquiet⟩, hend⟩
    exact ⟨before, event, after, hsplit, hend, hquiet⟩

theorem ending_of_fromReply {socket : EchoSocket} {probe : Probe} {event : Event}
    {arrival : Arrival} (h : FromReply socket probe event arrival) :
    ending socket probe event = some (some arrival) := by
  cases event with
  | oserror entries => exact h.elim
  | datagram raw peer finished =>
    obtain ⟨parsed, hparsed, htype, hsequence, htoken, rfl⟩ := h
    have hmatch : replyMatches parsed probe.sequence probe.token socket.family = true :=
      replyMatches_iff.mpr ⟨htype, hsequence, htoken⟩
    rw [ending_datagram, answerIn, hparsed, Option.filter_some, if_pos hmatch]
    rfl

theorem finished_of_queuedError {entry : QueueEntry} {family : AddressFamily} {e : IcmpError}
    {a : Arrival} (h : queuedError entry family = some e) (ha : e.arrival = some a) :
    a.finished = entry.finished := by
  rw [queuedError] at h
  split at h
  · simp at h
  · obtain ⟨control, _, hcontrol⟩ := List.exists_of_findSome?_eq_some h
    rw [controlError] at hcontrol
    split at hcontrol
    · rw [← Option.some.inj hcontrol] at ha
      rw [← Option.some.inj ha]
    · split at hcontrol
      · rw [← Option.some.inj hcontrol] at ha
        simp at ha
      · simp at hcontrol

theorem finished_mem_clocks {socket : EchoSocket} {probe : Probe} {event : Event}
    {arrival : Arrival} (h : ending socket probe event = some (some arrival)) :
    arrival.finished ∈ event.clocks := by
  rcases ending_eq_some_some h with hreply | ⟨error, hreport, _, harrival, _⟩
  · cases event with
    | oserror entries => exact hreply.elim
    | datagram raw peer finished =>
      obtain ⟨_, _, _, _, _, rfl⟩ := hreply
      exact List.mem_singleton_self _
  · cases event with
    | datagram raw peer finished =>
      rw [arrival_of_timeExceededDatagram hreport] at harrival
      rw [← Option.some.inj harrival]
      exact List.mem_singleton_self _
    | oserror entries =>
      obtain ⟨entry, hentry, hqueued⟩ := hreport
      rw [finished_of_queuedError hqueued harrival]
      exact List.mem_map_of_mem hentry

/-! ### One probe -/

theorem toNat_sequence {n : ℕ} (h : n ≤ MAX_ICMP_FIELD16) : (UInt16.ofNat n).toNat = n := by
  rw [MAX_ICMP_FIELD16] at h
  exact UInt16.toNat_ofNat_of_lt' (by rw [UInt16.size]; omega)

theorem sequence_inj {m n : ℕ} (hm : m ≤ MAX_ICMP_FIELD16) (hn : n ≤ MAX_ICMP_FIELD16)
    (h : UInt16.ofNat m = UInt16.ofNat n) : m = n := by
  rw [← toNat_sequence hm, ← toNat_sequence hn, h]

namespace PosixTransport

variable {t : PosixTransport} {w : ProbeWorld} {sequence : ℕ} {timeout : ℚ} {ttl : Option ℕ}

theorem request_eq (hsequence : sequence ≤ MAX_ICMP_FIELD16)
    (hsize : t.payloadSize ≤ maxPayloadSize t.socket.family) :
    t.request w sequence = .ok ⟨requestDatagram t.socket.family t.identifier.toNat sequence
      (requestPayload w.token t.payloadSize t.socket.family hsize).toBytes, w.token⟩ := by
  have hbuilt := buildEchoRequest_ok w.token t.socket.family (UInt16.ofNat sequence) t.identifier
    hsize none
  rw [toNat_sequence hsequence] at hbuilt
  exact hbuilt

/-- What ends the wait of a call, if it went out. -/
def outcome (t : PosixTransport) (w : ProbeWorld) (sequence : ℕ) (timeout : ℚ)
    (ttl : Option ℕ) : Option Arrival :=
  if goesOut [w.first, w.second] then
    await t.socket (t.probeOf w.token sequence ttl) (w.started + timeout) w.turns
  else none

theorem probe_eq (hsequence : sequence ≤ MAX_ICMP_FIELD16)
    (hsize : t.payloadSize ≤ maxPayloadSize t.socket.family) (httl : ttl.all t.accepts = true) :
    t.probe w sequence timeout ttl = echoResult (t.outcome w sequence timeout ttl) w.started := by
  rw [probe, if_pos httl, request_eq hsequence hsize, outcome]
  simp only [bind, Except.bind]
  split
  · rfl
  · rfl

theorem started_le_finished {arrival : Arrival}
    (h : t.outcome w sequence timeout ttl = some arrival) : w.started ≤ arrival.finished := by
  rw [outcome] at h
  split at h
  · obtain ⟨event, ⟨before, after, hsplit, _⟩, hend⟩ := await_eq_some_iff.mp h
    have hmem : event ∈ w.inTime timeout := by rw [hsplit]; simp
    obtain ⟨turn, hturn, rfl⟩ := List.mem_map.mp hmem
    exact w.monotonic turn ((List.takeWhile_prefix _).subset hturn) _ (finished_mem_clocks hend)
  · simp at h

/-- **A call of `probe` returns**, if its arguments can be sent. -/
theorem probe_ok (hsequence : sequence ≤ MAX_ICMP_FIELD16)
    (hsize : t.payloadSize ≤ maxPayloadSize t.socket.family) (httl : ttl.all t.accepts = true) :
    ∃ r, t.probe w sequence timeout ttl = .ok r ∧
      ResultOf (t.outcome w sequence timeout ttl) w.started r := by
  rw [probe_eq hsequence hsize httl]
  exact echoResult_ok fun arrival harrival => started_le_finished harrival

theorem fromReply_peerReply {q : EchoRequest} (hq : t.request w sequence = .ok q)
    (hsequence : sequence ≤ MAX_ICMP_FIELD16)
    (hsize : t.payloadSize ≤ maxPayloadSize t.socket.family) {before : Octets}
    (hbefore : MayPrecede t.socket.family before) (checksum identifier : ℕ) (peer : Text)
    (finished : ℚ) :
    FromReply t.socket (t.probeOf w.token sequence ttl)
      (.datagram (before ++ peerReply t.socket.family checksum identifier q.datagram) peer finished)
      ⟨finished, peer, false⟩ := by
  rw [request_eq hsequence hsize, Except.ok.injEq] at hq
  obtain ⟨k, hdatagram⟩ := requestDatagram_eq t.socket.family t.identifier.toNat sequence
    (requestPayload w.token t.payloadSize t.socket.family hsize).toBytes
  rw [← hq]
  dsimp only
  refine ⟨⟨echoReply t.socket.family, 0, UInt16.ofNat identifier, UInt16.ofNat sequence,
    EchoPayload.fromBytes (requestPayload w.token t.payloadSize _ hsize).toBytes⟩, ?_, rfl, rfl,
    ?_, rfl⟩
  · rw [hdatagram, peerReply_packHeader, parseEchoReply_icmp hbefore (echoReply_div_ne _)]
  · rw [ParsedReply.token, EchoPayload.fromBytes_toBytes]
    rfl

end PosixTransport

/-! ### Plain probes -/

/-- An echo is answered by an event: its request went out, and what first ends its wait is a
reply with its own sequence and token. -/
structure EchoAnswered (t : PosixTransport) (w : ProbeWorld) (sequence : ℕ) (timeout : ℚ)
    (event : Event) (arrival : Arrival) : Prop where
  sent : goesOut [w.first, w.second] = true
  first : EndsAt t.socket (t.probeOf w.token sequence none) (w.inTime timeout) event
  reply : FromReply t.socket (t.probeOf w.token sequence none) event arrival

section Plain

variable {t : PosixTransport} {w : ProbeWorld} {sequence : ℕ} {timeout : ℚ}

/-- **A plain probe is answered by a reply of its own, and by nothing else.** -/
theorem plain_outcome_iff {arrival : Arrival} :
    t.outcome w sequence timeout none = some arrival ↔
      ∃ event, EchoAnswered t w sequence timeout event arrival := by
  rw [PosixTransport.outcome]
  by_cases hsent : goesOut [w.first, w.second] = true
  · rw [if_pos hsent, await_eq_some_iff]
    constructor
    · rintro ⟨event, hfirst, hend⟩
      rcases ending_eq_some_some hend with hreply | ⟨error, _, _, _, _, hlimited⟩
      · exact ⟨event, hsent, hfirst, hreply⟩
      · -- a router's report concerns only a probe with a hop limit
        simp [PosixTransport.probeOf] at hlimited
    · rintro ⟨event, hanswered⟩
      exact ⟨event, hanswered.first, ending_of_fromReply hanswered.reply⟩
  · rw [if_neg hsent]
    constructor
    · intro h
      simp at h
    · rintro ⟨event, hanswered⟩
      exact absurd hanswered.sent hsent

theorem plain_not_expired {arrival : Arrival}
    (h : t.outcome w sequence timeout none = some arrival) : arrival.ttlExpired = false := by
  obtain ⟨event, hanswered⟩ := plain_outcome_iff.mp h
  have hreply := hanswered.reply
  cases event with
  | oserror entries => exact hreply.elim
  | datagram raw peer finished =>
    obtain ⟨_, _, _, _, _, rfl⟩ := hreply
    rfl

/-- **One datagram answers one echo**, however often and whenever it is read. -/
theorem EchoAnswered.sequence_eq {w' : ProbeWorld} {sequence' : ℕ} {timeout' : ℚ} {raw : Octets}
    {peer peer' : Text} {finished finished' : ℚ} {arrival arrival' : Arrival}
    (h : EchoAnswered t w sequence timeout (.datagram raw peer finished) arrival)
    (h' : EchoAnswered t w' sequence' timeout' (.datagram raw peer' finished') arrival')
    (hle : sequence ≤ MAX_ICMP_FIELD16) (hle' : sequence' ≤ MAX_ICMP_FIELD16) :
    sequence = sequence' := by
  obtain ⟨parsed, hparsed, _, hsequence, _⟩ := h.reply
  obtain ⟨parsed', hparsed', _, hsequence', _⟩ := h'.reply
  rw [hparsed, Option.some.injEq] at hparsed'
  subst hparsed'
  exact sequence_inj hle hle' (hsequence.symm.trans hsequence')

end Plain

/-! ### A whole ping -/

namespace PosixTransport

/-- The transport and the clock as a ping meets them: each echo meets a world of its own. -/
def pingEnv (t : PosixTransport) (worlds : ℕ → ProbeWorld) (clock : ℕ → ℚ) : PingEnv ℕ where
  probe sequence timeout n :=
    ((t.probe (worlds n) sequence timeout none).toOption.getD .silence, n + 1)
  perfCounter n := (clock n, n)
  sleep _ n := n

variable (t : PosixTransport) (worlds : ℕ → ProbeWorld) (clock : ℕ → ℚ)

theorem pause_pingEnv (request : PingRequest) (started : ℚ) (index n : ℕ) :
    pause request (t.pingEnv worlds clock) started index n = n := by
  rw [pause]
  split <;> rfl

theorem pingLoop_pingEnv (request : PingRequest) (started : ℚ) (n k : ℕ) :
    (pingLoop request (t.pingEnv worlds clock) started (List.range' n k) n).1 =
      (List.range' n k).map fun i =>
        (t.probe (worlds i) (i + 1) request.timeout none).toOption.getD .silence := by
  induction k generalizing n with
  | zero => rfl
  | succ k ih =>
    have hprobe : (t.pingEnv worlds clock).probe (n + 1) request.timeout n =
        ((t.probe (worlds n) (n + 1) request.timeout none).toOption.getD .silence, n + 1) := rfl
    rw [List.range'_succ, List.map_cons, pingLoop, hprobe]
    dsimp only
    rw [pause_pingEnv, ih (n + 1)]

/-- The outcome of an echo is what its call of `probe` returns. -/
theorem getElem?_outcomes {request : PingRequest} {i : ℕ} {r : EchoResult}
    (hi : i < request.times) (hr : t.probe (worlds i) (i + 1) request.timeout none = .ok r) :
    (outcomes request (t.pingEnv worlds clock) 0)[i]? = some r := by
  have hall : outcomes request (t.pingEnv worlds clock) 0 = (List.range request.times).map fun i =>
      (t.probe (worlds i) (i + 1) request.timeout none).toOption.getD .silence := by
    rw [outcomes, List.range_eq_range']
    exact t.pingLoop_pingEnv worlds clock request _ 0 request.times
  rw [hall, List.getElem?_map, List.getElem?_range hi, Option.map_some, hr, Except.toOption,
    Option.getD_some]

/-- What a ping over the transport finds at each echo. -/
structure Finds (request : PingRequest) (response : ResponseObject) : Prop where
  runs : runPing request (t.pingEnv worlds clock) 0 = .ok response
  probes : ∀ i < request.times, ∃ r, t.probe (worlds i) (i + 1) request.timeout none = .ok r ∧
    ResultOf (t.outcome (worlds i) (i + 1) request.timeout none) (worlds i).started r ∧
    response.rttsMs[i]? = some r.rttMs
  reached : response.reached = response.rttsMs.any Option.isSome
  length : response.rttsMs.length = request.times

theorem sequence_le_of_request {request : PingRequest} {i : ℕ} (hi : i < request.times) :
    i + 1 ≤ MAX_ICMP_FIELD16 := by
  have htimes := request.times_bounds.2
  rw [MAX_TIMES] at htimes
  rw [MAX_ICMP_FIELD16]
  omega

theorem fits_of_request {t : PosixTransport} {request : PingRequest}
    (hfamily : t.socket.family = request.family) (hsize : t.payloadSize = request.payloadSize) :
    t.payloadSize ≤ maxPayloadSize t.socket.family := by
  rw [hsize, hfamily]
  exact_mod_cast request.payload_fits

/-- **A ping has one round trip for each echo**, that of its own probe. -/
theorem exists_finds {t : PosixTransport} {request : PingRequest}
    (hfamily : t.socket.family = request.family) (hsize : t.payloadSize = request.payloadSize) :
    ∃ response, Finds t worlds clock request response := by
  obtain ⟨response, hrun, hdata⟩ :=
    buildResponse_ok (length_outcomes request (t.pingEnv worlds clock) 0)
  have hrtts : response.rttsMs =
      (outcomes request (t.pingEnv worlds clock) 0).map EchoResult.rttMs := by
    rw [hdata]
    rfl
  refine ⟨response, hrun, ?_, ?_, ?_⟩
  · intro i hi
    have hprobe : ∃ r, t.probe (worlds i) (i + 1) request.timeout none = .ok r ∧
        ResultOf (t.outcome (worlds i) (i + 1) request.timeout none) (worlds i).started r :=
      probe_ok (sequence_le_of_request hi) (fits_of_request hfamily hsize) rfl
    obtain ⟨r, hr, hresult⟩ := hprobe
    refine ⟨r, hr, hresult, ?_⟩
    rw [hrtts, List.getElem?_map, t.getElem?_outcomes worlds clock hi hr, Option.map_some]
  · rw [hrtts, hdata]
    show decide (0 < List.countP _ _) = _
    rw [Bool.eq_iff_iff, decide_eq_true_iff, List.countP_pos_iff, List.any_eq_true]
  · rw [hrtts, List.length_map, length_outcomes]

section Found

variable {t : PosixTransport} {worlds : ℕ → ProbeWorld} {clock : ℕ → ℚ} {request : PingRequest}
  {response : ResponseObject} (hfinds : Finds t worlds clock request response)
include hfinds

/-- **An echo has a round trip exactly when it is answered.** -/
theorem Finds.rtt_iff (i : ℕ) (rtt : ℚ) :
    response.rttsMs[i]? = some (some rtt) ↔ i < request.times ∧ ∃ event arrival,
      EchoAnswered t (worlds i) (i + 1) request.timeout event arrival ∧
        rtt = (arrival.finished - (worlds i).started) * 1000 := by
  by_cases hi : i < request.times
  · obtain ⟨r, _, hresult, hget⟩ := hfinds.probes i hi
    rw [hget, Option.some.injEq, hresult.rttMs, Option.map_eq_some_iff]
    constructor
    · rintro ⟨arrival, harrival, rfl⟩
      obtain ⟨event, hanswered⟩ := plain_outcome_iff.mp harrival
      exact ⟨hi, event, arrival, hanswered, rfl⟩
    · rintro ⟨_, event, arrival, hanswered, rfl⟩
      exact ⟨arrival, plain_outcome_iff.mpr ⟨event, hanswered⟩, rfl⟩
  · rw [List.getElem?_eq_none (by rw [hfinds.length]; omega)]
    simp [hi]

/-- **The target is reached exactly when an echo is answered.** -/
theorem Finds.reached_iff : response.reached = true ↔ ∃ i < request.times, ∃ event arrival,
    EchoAnswered t (worlds i) (i + 1) request.timeout event arrival := by
  rw [hfinds.reached, List.any_eq_true]
  constructor
  · rintro ⟨found, hmem, hsome⟩
    obtain ⟨i, hget⟩ := List.mem_iff_getElem?.mp hmem
    obtain ⟨rtt, rfl⟩ := Option.isSome_iff_exists.mp hsome
    obtain ⟨hi, event, arrival, hanswered, _⟩ := (hfinds.rtt_iff i rtt).mp hget
    exact ⟨i, hi, event, arrival, hanswered⟩
  · rintro ⟨i, hi, event, arrival, hanswered⟩
    exact ⟨some _, List.mem_iff_getElem?.mpr
      ⟨i, (hfinds.rtt_iff i _).mpr ⟨hi, event, arrival, hanswered, rfl⟩⟩, rfl⟩

end Found

end PosixTransport

/-- **A ping over a POSIX transport counts the target's replies to its own echoes.**  Every
probe of it returns, and none reports a router.  An echo has a round trip exactly when its
request went out and what first ended its wait is a reply with its own sequence and token; the
target is reached exactly when there is one.  A datagram answers one echo at most, whichever
waits read it, and what the target makes of an echo's own request answers it if nothing has ended
the wait before. -/
theorem ping_over_posix {env : Interfaces} {world : SocketWorld} {request : PingRequest}
    {t : PosixTransport}
    (hmake : PosixTransport.make env world request.address request.family request.payloadSize
      openSocket = .ok t) (worlds : ℕ → ProbeWorld) (clock : ℕ → ℚ) :
    ∃ response, runPing request (t.pingEnv worlds clock) 0 = .ok response ∧
      (∀ i < request.times, ∃ r, t.probe (worlds i) (i + 1) request.timeout none = .ok r ∧
        r.ttlExpired = false ∧ response.rttsMs[i]? = some r.rttMs) ∧
      (∀ i rtt, response.rttsMs[i]? = some (some rtt) ↔ i < request.times ∧ ∃ event arrival,
        EchoAnswered t (worlds i) (i + 1) request.timeout event arrival ∧
          rtt = (arrival.finished - (worlds i).started) * 1000) ∧
      (response.reached = true ↔ ∃ i < request.times, ∃ event arrival,
        EchoAnswered t (worlds i) (i + 1) request.timeout event arrival) ∧
      (∀ i < request.times, ∀ j < request.times,
        ∀ raw peer peer' finished finished' arrival arrival',
        EchoAnswered t (worlds i) (i + 1) request.timeout (.datagram raw peer finished) arrival →
        EchoAnswered t (worlds j) (j + 1) request.timeout (.datagram raw peer' finished') arrival' →
        i = j) ∧
      ∀ i < request.times, ∃ q, t.request (worlds i) (i + 1) = .ok q ∧
        ∀ before checksum identifier peer finished, MayPrecede request.family before →
          goesOut [(worlds i).first, (worlds i).second] = true →
          EndsAt t.socket (t.probeOf (worlds i).token (i + 1) none)
            ((worlds i).inTime request.timeout)
            (.datagram (before ++ peerReply request.family checksum identifier q.datagram) peer
              finished) →
          response.rttsMs[i]? = some (some ((finished - (worlds i).started) * 1000)) := by
  obtain ⟨hfamily, hsize⟩ := PosixTransport.make_eq_ok hmake
  obtain ⟨response, hfinds⟩ := PosixTransport.exists_finds worlds clock hfamily hsize
  have hsequence : ∀ i < request.times, i + 1 ≤ MAX_ICMP_FIELD16 :=
    fun _ hi => PosixTransport.sequence_le_of_request hi
  have hfits := PosixTransport.fits_of_request hfamily hsize
  refine ⟨response, hfinds.runs, ?_, hfinds.rtt_iff, hfinds.reached_iff, ?_, ?_⟩
  · intro i hi
    obtain ⟨r, hr, hresult, hget⟩ := hfinds.probes i hi
    refine ⟨r, hr, ?_, hget⟩
    rw [hresult.ttlExpired]
    cases hout : t.outcome (worlds i) (i + 1) request.timeout none with
    | none => rfl
    | some arrival => exact plain_not_expired hout
  · intro i hi j hj raw peer peer' finished finished' arrival arrival' h h'
    have := h.sequence_eq h' (hsequence i hi) (hsequence j hj)
    omega
  · intro i hi
    refine ⟨_, PosixTransport.request_eq (hsequence i hi) hfits, ?_⟩
    intro before checksum identifier peer finished hbefore hsent hends
    rw [← hfamily] at hbefore hends
    have hreply := @PosixTransport.fromReply_peerReply t (worlds i) (i + 1) none _
      (PosixTransport.request_eq (hsequence i hi) hfits) (hsequence i hi) hfits _ hbefore checksum
      identifier peer finished
    exact (hfinds.rtt_iff i _).mpr ⟨hi, _, _, ⟨hsent, hends, hreply⟩, rfl⟩

def plainHost : SocketWorld := ⟨.ok (), .ok (), .ok (), true, 7, fun _ => true⟩

/-- A transport to `192.0.2.1`. -/
def plainTransport : PosixTransport :=
  ⟨⟨.IPV4, inetPton .IPV4 onePing.address⟩, ⟨onePing.address, 0⟩, 56, true, 7, false,
    fun _ => true⟩

/-- A reply to the echo with the sequence number. -/
def replyEvent (sequence : UInt8) (finished : ℚ) : Event :=
  .datagram ([0, 0, 0, 0, 0, 7, 0, sequence] ++ MAGIC ++ letterToken.val)
    "192.0.2.1".toList finished

/-- The reply to another echo comes first, then the one to the first echo. -/
def lateThenOwn : ProbeWorld where
  token := letterToken
  started := 0
  first := .refused true
  second := .sent
  turns := [(0, replyEvent 9 1), (1, replyEvent 1 2)]
  monotonic := by
    intro turn hturn finished hfinished
    simp only [List.mem_cons, List.not_mem_nil, or_false] at hturn
    rcases hturn with rfl | rfl
    · rw [List.mem_singleton.mp hfinished]
      decide
    · rw [List.mem_singleton.mp hfinished]
      decide

theorem lateThenOwn_answered :
    EchoAnswered plainTransport lateThenOwn 1 onePing.timeout (replyEvent 1 2)
      ⟨2, "192.0.2.1".toList, false⟩ := by
  refine ⟨rfl, ⟨[replyEvent 9 1], [], ?_, ?_⟩, ?_⟩
  · have h0 : (0 : ℚ) < 0 + 2 := by decide +kernel
    have h1 : (1 : ℚ) < 0 + 2 := by decide +kernel
    show List.map (·.2) (List.takeWhile (fun turn : ℚ × Event => decide (turn.1 < 0 + 2))
      [(0, replyEvent 9 1), (1, replyEvent 1 2)]) = _
    rw [List.takeWhile_cons, if_pos (decide_eq_true h0), List.takeWhile_cons,
      if_pos (decide_eq_true h1)]
    rfl
  · intro e he
    rw [List.mem_singleton.mp he]
    decide +kernel
  · exact ⟨⟨0, 0, 7, 1, some ⟨letterToken, [], by decide⟩⟩, by decide +kernel, rfl, rfl, rfl, rfl⟩

/-- A ping of one echo is answered by its own reply, after a late one. -/
theorem ping_over_posix_late : ∃ response,
    runPing onePing (plainTransport.pingEnv (fun _ => lateThenOwn) fun _ => 0) 0 = .ok response ∧
      response.reached = true := by
  have hmake : PosixTransport.make noInterfaces plainHost
      onePing.address onePing.family onePing.payloadSize openSocket = .ok plainTransport := rfl
  obtain ⟨response, hrun, _, _, hreached, _⟩ :=
    ping_over_posix hmake (fun _ => lateThenOwn) fun _ => 0
  exact ⟨response, hrun, hreached.mpr ⟨0, by decide, _, _, lateThenOwn_answered⟩⟩

end IPScout
