import IPScout.Echo.Packet
import Mathlib.Algebra.Order.Ring.Rat
import Mathlib.Data.Nat.Cast.Order.Ring

/-!
# Ping

`run_ping` and `arun_ping` of `service.py` send the requested echoes over a
transport, one after the other, and fold the outcomes into a `ResponseObject`.
The transport, the clock and the sleep are an environment on an arbitrary state,
so a run is one for every transport, and for every way in which other tasks move
while an asynchronous run waits.

An outcome is an `EchoResult`: silence, a reply, or a router's Time Exceeded,
which has a round trip and a source as a reply has.  `buildResponse` counts every
round trip.  The record it builds always passes its own checks
(`buildResponse_ok`), and it counts exactly the replies when no outcome is a Time
Exceeded and never otherwise (`ping_counts_replies_iff`).
-/

namespace IPScout

open Base

/-! ### Outcomes -/

/-- The outcome of one probe attempt. -/
structure EchoResult where
  rttMs : Option ℚ
  source : Option Text
  ttlExpired : Bool
  rtt_nonneg : ∀ rtt ∈ rttMs, 0 ≤ rtt
  together : rttMs.isSome = source.isSome
  expired_answered : ttlExpired = true → rttMs.isSome = true

namespace EchoResult

/-- `EchoResult()`: nothing answered. -/
def silence : EchoResult := ⟨none, none, false, by simp, rfl, by simp⟩

/-- An answer from `source`: the target's, or a router's Time Exceeded. -/
def answer (rtt : ℚ) (source : Text) (ttlExpired : Bool) (h : 0 ≤ rtt) : EchoResult :=
  ⟨some rtt, some source, ttlExpired, by simpa using h, rfl, fun _ => rfl⟩

def isReply (r : EchoResult) : Bool := r.rttMs.isSome && !r.ttlExpired

end EchoResult

/-- The `IP_STATUS` codes with a member. -/
inductive IpStatus
  | SUCCESS
  | BUF_TOO_SMALL
  | DEST_NET_UNREACHABLE
  | DEST_HOST_UNREACHABLE
  | DEST_PROT_UNREACHABLE
  | DEST_PORT_UNREACHABLE
  | NO_RESOURCES
  | PACKET_TOO_BIG
  | REQ_TIMED_OUT
  | TTL_EXPIRED_TRANSIT
  deriving DecidableEq

/-- `IpStatus.parse`; an unlisted code has no member. -/
def IpStatus.parse : Nat → Option IpStatus
  | 0 => some SUCCESS
  | 11001 => some BUF_TOO_SMALL
  | 11002 => some DEST_NET_UNREACHABLE
  | 11003 => some DEST_HOST_UNREACHABLE
  | 11004 => some DEST_PROT_UNREACHABLE
  | 11005 => some DEST_PORT_UNREACHABLE
  | 11006 => some NO_RESOURCES
  | 11009 => some PACKET_TOO_BIG
  | 11010 => some REQ_TIMED_OUT
  | 11013 => some TTL_EXPIRED_TRANSIT
  | _ => none

def measuredMs (elapsedMs : ℚ) (apiRttMs : Nat) : ℚ := if 0 < elapsedMs then elapsedMs else apiRttMs

theorem measuredMs_nonneg (elapsedMs : ℚ) (apiRttMs : Nat) : 0 ≤ measuredMs elapsedMs apiRttMs := by
  rw [measuredMs]
  split
  · next h => exact h.le
  · exact Nat.cast_nonneg _

/-- `echo_outcome` of `transport_windows.py`. -/
def echoOutcome (status : Option IpStatus) (elapsedMs : ℚ) (apiRttMs : Nat) (source : Text) :
    EchoResult :=
  match status with
  | some .SUCCESS => .answer _ source false (measuredMs_nonneg elapsedMs apiRttMs)
  -- a router answered: not a reply to ping, and what traceroute needs
  | some .TTL_EXPIRED_TRANSIT => .answer _ source true (measuredMs_nonneg elapsedMs apiRttMs)
  | _ => .silence

/-! ### Requests -/

def MAX_TIMES : Nat := 0xFFFF

def MAX_TIMEOUT : ℚ := 2147483

def MIN_PORT : Nat := 1

def MAX_PORT : Nat := 65535

inductive ProbeMethod
  | ICMP
  | TCP
  deriving DecidableEq

/-- Validated parameters for one ping. -/
structure PingRequest where
  target : Text
  address : Text
  family : AddressFamily
  times : Nat
  timeout : ℚ
  interval : ℚ
  payloadSize : Nat
  tcpPort : Nat
  method : ProbeMethod
  target_text : isBlankTarget target = false
  address_fits : ∃ a, requireAddress address family = .ok a
  times_bounds : 1 ≤ times ∧ times ≤ MAX_TIMES
  timeout_bounds : 0 < timeout ∧ timeout ≤ MAX_TIMEOUT
  interval_bounds : 0 ≤ interval ∧ interval ≤ MAX_TIMEOUT
  payload_fits : payloadSize ≤ maxPayloadSize family
  port_bounds : MIN_PORT ≤ tcpPort ∧ tcpPort ≤ MAX_PORT

/-! ### Responses -/

/-- What a `ResponseObject` is built from. -/
structure ResponseData where
  target : Text
  reached : Bool
  ip : Text
  numberOfPings : Nat
  rttsMs : List (Option ℚ)
  packetsSent : Nat
  packetsReceived : Nat
  family : AddressFamily
  method : ProbeMethod
  error : Option Text

namespace ResponseData

def checkFields (d : ResponseData) : Except PyError Unit :=
  if MAX_TIMES < d.numberOfPings ∨ MAX_TIMES < d.packetsSent ∨ MAX_TIMES < d.packetsReceived then
    .error (.value [say "Input should be less than or equal to 65535"])
  else if d.rttsMs.any (fun rtt => rtt.any (· < 0)) then
    .error (.value [say "Input should be greater than or equal to 0"])
  else if d.error = some [] then
    .error (.value [say "String should have at least 1 character"])
  else .ok ()

/-- What `_counts_agree` finds broken, and what it says about it. -/
def problems (d : ResponseData) : List (Bool × Message) :=
  [(d.packetsSent != d.numberOfPings,
      [say "packets_sent must equal number_of_pings: a run sends every echo it asks for"]),
    (d.rttsMs.length != d.packetsSent, [say "rtts_ms must hold one entry per packet sent"]),
    (d.rttsMs.countP Option.isSome != d.packetsReceived,
      [say "packets_received must count the round trips in rtts_ms that came back"]),
    (d.reached != decide (0 < d.packetsReceived),
      [say "reached must be True exactly when a packet was received"]),
    (d.error.isSome && decide (0 < d.packetsSent),
      [say "error is set only on a result that sent nothing"])]

/-- The field checks and `_counts_agree`. -/
def check (d : ResponseData) : Except PyError Unit := do
  d.checkFields
  let _ ← requireAddress d.ip d.family
  match d.problems.find? (·.1) with
  | some (_, msg) => .error (.value msg)
  | none => .ok ()

end ResponseData

/-- The result of pinging one target. -/
structure ResponseObject extends ResponseData where
  counts_agree : toResponseData.check = .ok ()

/-- `ResponseObject(...)`. -/
def ResponseObject.make (d : ResponseData) : Except PyError ResponseObject :=
  match h : d.check with
  | .ok () => .ok ⟨d, h⟩
  | .error e => .error e

/-- What `_build_response` folds a list of probe outcomes into. -/
def responseData (request : PingRequest) (results : List EchoResult) : ResponseData :=
  let rtts := results.map EchoResult.rttMs
  let received := rtts.countP Option.isSome
  { target := request.target
    reached := decide (0 < received)
    ip := request.address
    numberOfPings := request.times
    rttsMs := rtts
    packetsSent := results.length
    packetsReceived := received
    family := request.family
    method := request.method
    error := none }

def buildResponse (request : PingRequest) (results : List EchoResult) :
    Except PyError ResponseObject := ResponseObject.make (responseData request results)

/-! ### Runs -/

/-- What a run uses of its surroundings: the transport's probe, the clock and the
sleep, each a step of an arbitrary state. -/
structure PingEnv (σ : Type*) where
  probe : (sequence : Nat) → (timeout : ℚ) → σ → EchoResult × σ
  perfCounter : σ → ℚ × σ
  sleep : ℚ → σ → σ

variable {σ : Type*}

/-- `_pace`: how long to sleep so that echo `index + 1` starts on schedule. -/
def pace (now started : ℚ) (index : Nat) (interval : ℚ) : ℚ :=
  max 0 (started + (index + 1) * interval - now)

/-- The sleep after echo `index`, if there is one. -/
def pause (request : PingRequest) (env : PingEnv σ) (started : ℚ) (index : Nat) (s : σ) : σ :=
  if index + 1 < request.times ∧ 0 < request.interval then
    let (now, s) := env.perfCounter s
    env.sleep (pace now started index request.interval) s
  else s

/-- The echoes at the given indices, in order. -/
def pingLoop (request : PingRequest) (env : PingEnv σ) (started : ℚ) :
    List Nat → σ → List EchoResult × σ
  | [], s => ([], s)
  | index :: rest, s =>
    let (result, s) := env.probe (index + 1) request.timeout s
    let (results, s) := pingLoop request env started rest (pause request env started index s)
    (result :: results, s)

/-- The outcomes of a run, in order. -/
def outcomes (request : PingRequest) (env : PingEnv σ) (s : σ) : List EchoResult :=
  let (started, s) := env.perfCounter s
  (pingLoop request env started (List.range request.times) s).1

def runPing (request : PingRequest) (transport : PingEnv σ) (s : σ) :
    Except PyError ResponseObject := buildResponse request (outcomes request transport s)

/-- `arun_ping`: the same loop, its probes and sleeps awaited. -/
def arunPing (request : PingRequest) (transport : PingEnv σ) (s : σ) :
    Except PyError ResponseObject := buildResponse request (outcomes request transport s)

theorem length_pingLoop (request : PingRequest) (env : PingEnv σ) (started : ℚ)
    (indices : List Nat) (s : σ) :
    (pingLoop request env started indices s).1.length = indices.length := by
  induction indices generalizing s with
  | nil => rfl
  | cons index rest ih => rw [pingLoop, List.length_cons, List.length_cons, ih]

theorem length_outcomes (request : PingRequest) (env : PingEnv σ) (s : σ) :
    (outcomes request env s).length = request.times := by
  rw [outcomes, length_pingLoop, List.length_range]

/-! ### The record is always valid -/

theorem checkFields_responseData {request : PingRequest} {results : List EchoResult}
    (hlen : results.length = request.times) :
    (responseData request results).checkFields = .ok () := by
  have htimes := request.times_bounds.2
  have hcount : (responseData request results).packetsReceived ≤ results.length := by
    calc (results.map EchoResult.rttMs).countP Option.isSome
        ≤ (results.map EchoResult.rttMs).length := List.countP_le_length
      _ = results.length := List.length_map _
  have hlimits : ¬ (MAX_TIMES < (responseData request results).numberOfPings ∨
      MAX_TIMES < (responseData request results).packetsSent ∨
      MAX_TIMES < (responseData request results).packetsReceived) := by
    show ¬ (MAX_TIMES < request.times ∨ MAX_TIMES < results.length ∨ _)
    omega
  have hneg : ¬ (responseData request results).rttsMs.any (fun rtt => rtt.any (· < 0)) = true := by
    rw [Bool.not_eq_true, List.any_eq_false]
    intro rtt hrtt
    obtain ⟨r, _, rfl⟩ := List.mem_map.mp hrtt
    cases h : r.rttMs with
    | none => simp
    | some x => simpa using r.rtt_nonneg x h
  have hnoerror : ¬ (responseData request results).error = some [] := by
    show ¬ none = some []
    simp
  rw [ResponseData.checkFields, if_neg hlimits, if_neg hneg, if_neg hnoerror]

/-- **The counts of a run always agree**: no response is refused. -/
theorem buildResponse_ok {request : PingRequest} {results : List EchoResult}
    (hlen : results.length = request.times) :
    ∃ response, buildResponse request results = .ok response ∧
      response.toResponseData = responseData request results := by
  have hcheck : (responseData request results).check = .ok () := by
    obtain ⟨a, ha⟩ := request.address_fits
    have haddr : requireAddress (responseData request results).ip
        (responseData request results).family = .ok a := ha
    have hprob : (responseData request results).problems.find? (·.1) = none := by
      simp [ResponseData.problems, responseData, hlen]
    rw [ResponseData.check, checkFields_responseData hlen, haddr]
    simp only [bind, Except.bind, hprob]
  refine ⟨⟨_, hcheck⟩, ?_, rfl⟩
  rw [buildResponse, ResponseObject.make]
  split
  · rfl
  · next e he =>
    rw [hcheck] at he
    simp at he

/-! ### What the record counts -/

/-- The response counts exactly the echo replies, lists a round trip for exactly
those, and says the target was reached when there is one. -/
def CountsReplies (results : List EchoResult) (response : ResponseObject) : Prop :=
  response.packetsReceived = results.countP EchoResult.isReply ∧
    response.rttsMs = results.map (fun r => if r.isReply then r.rttMs else none) ∧
    (response.reached = true ↔ ∃ r ∈ results, r.isReply = true)

theorem isReply_eq_isSome {r : EchoResult} (h : r.ttlExpired = false) :
    r.isReply = r.rttMs.isSome := by
  rw [EchoResult.isReply, h, Bool.not_false, Bool.and_true]

theorem countsReplies_iff {request : PingRequest} {results : List EchoResult}
    {response : ResponseObject}
    (hresponse : response.toResponseData = responseData request results) :
    CountsReplies results response ↔ ∀ r ∈ results, r.ttlExpired = false := by
  rw [CountsReplies, hresponse]
  constructor
  · rintro ⟨_, hrtts, _⟩ r hr
    have hr' := (List.map_inj_left.mp hrtts) r hr
    by_contra hexp
    rw [Bool.not_eq_false] at hexp
    have hsome := r.expired_answered hexp
    rw [hr'] at hsome
    simp [EchoResult.isReply, hexp] at hsome
  · intro h
    have hcount : (results.map EchoResult.rttMs).countP Option.isSome
        = results.countP EchoResult.isReply := by
      rw [List.countP_map]
      apply List.countP_congr
      intro r hr
      rw [isReply_eq_isSome (h r hr)]
      rfl
    refine ⟨hcount, List.map_congr_left fun r hr => ?_, ?_⟩
    · rw [isReply_eq_isSome (h r hr)]
      cases r.rttMs <;> rfl
    · show decide (0 < _) = true ↔ _
      rw [decide_eq_true_iff, hcount, List.countP_pos_iff]

/-- **Both runs report exactly the target's replies when, and only when, no outcome
is a router's Time Exceeded.** -/
theorem ping_counts_replies_iff (request : PingRequest) (transport : PingEnv σ) (s : σ) :
    (∃ response, runPing request transport s = .ok response ∧
      (CountsReplies (outcomes request transport s) response ↔
        ∀ r ∈ outcomes request transport s, r.ttlExpired = false)) ∧
    (∃ response, arunPing request transport s = .ok response ∧
      (CountsReplies (outcomes request transport s) response ↔
        ∀ r ∈ outcomes request transport s, r.ttlExpired = false)) := by
  obtain ⟨response, hok, hdata⟩ := buildResponse_ok (length_outcomes request transport s)
  exact ⟨⟨response, hok, countsReplies_iff hdata⟩, ⟨response, hok, countsReplies_iff hdata⟩⟩

theorem two_seconds_bounds : 0 < (2 : ℚ) ∧ 2 ≤ MAX_TIMEOUT := by decide +kernel

/-- One echo to `192.0.2.1`. -/
def onePing : PingRequest where
  target := "192.0.2.1".toList
  address := "192.0.2.1".toList
  family := .IPV4
  times := 1
  timeout := 2
  interval := 0
  payloadSize := 56
  tcpPort := 443
  method := .ICMP
  target_text := by decide
  address_fits := ⟨.v4 (BitVec.ofNat 32 0xc0000201), by decide +kernel⟩
  times_bounds := by decide
  timeout_bounds := two_seconds_bounds
  interval_bounds := by decide +kernel
  payload_fits := by decide
  port_bounds := by decide

/-- A Windows transport whose one echo expired at a router, the clock standing still. -/
def expiringTransport : PingEnv Unit where
  probe _ _ _ := (echoOutcome (IpStatus.parse 11013) (3 / 2) 1 "192.0.2.254".toList, ())
  perfCounter _ := (0, ())
  sleep _ _ := ()

/-- The target is reported as reached, and it never answered. -/
theorem ping_counts_an_expired_hop : ∃ response,
    runPing onePing expiringTransport () = .ok response ∧
      response.packetsReceived = 1 ∧ response.reached = true ∧
      (∀ r ∈ outcomes onePing expiringTransport (), r.isReply = false) ∧
      ¬ CountsReplies (outcomes onePing expiringTransport ()) response := by
  obtain ⟨response, hok, hdata⟩ := buildResponse_ok (length_outcomes onePing expiringTransport ())
  have hout : outcomes onePing expiringTransport ()
      = [echoOutcome (IpStatus.parse 11013) (3 / 2) 1 "192.0.2.254".toList] := rfl
  refine ⟨response, hok, by rw [hdata]; rfl, by rw [hdata]; rfl, ?_, ?_⟩
  · intro r hr
    rw [hout, List.mem_singleton] at hr
    rw [hr]
    rfl
  · rw [countsReplies_iff hdata, hout]
    intro h
    exact absurd (h _ (List.mem_singleton_self _)) (by decide)

end IPScout
