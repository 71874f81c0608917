import IPScout.Echo.Posix
import IPScout.Hosts.Deadline
import IPScout.Net.Resolve
import IPScout.Ports.Specification

/-!
# What a call sends

The requests of `api.py` and what sending one comes to, with the transports of `factory.py` on
Linux and macOS and the connect probe of `transport_tcp.py`.

A request is made exactly of arguments within their bounds (`pingRequest_ok_iff`).  Sending one
raises a setup error or the system's own and nothing else (`send_error`), and a run of one echo or
of one connect reports its host reached exactly when the echo is answered in time
(`icmp_reached_iff`), or the connect is made or refused (`tcp_reached_iff`).
-/

namespace IPScout.Api

open Base Base.Text

/-! ### Texts -/

/-- How Python writes a text with `repr`, a number with `:g`, and a float with `repr`; none of
them is empty. -/
structure Formats where
  quoted : Text → Text
  general : ℚ → Text
  float : ℚ → Text
  quoted_ne : ∀ t, quoted t ≠ []
  general_ne : ∀ x, general x ≠ []

def render (f : Formats) (m : Message) : Text := m.flatMap fun
  | .text t => t
  | .quoted t => f.quoted t
  | .general x => f.general x

theorem render_eq_nil_iff (f : Formats) (m : Message) : render f m = [] ↔ m.isEmpty = true := by
  rw [render, List.flatMap_eq_nil_iff, Message.isEmpty, List.all_eq_true]
  constructor
  · intro h piece hpiece
    have hnil := h piece hpiece
    cases piece with
    | text t => simpa using hnil
    | quoted t => exact absurd hnil (f.quoted_ne t)
    | general x => exact absurd hnil (f.general_ne x)
  · intro h piece hpiece
    have hempty := h piece hpiece
    cases piece with
    | text t => simpa using hempty
    | quoted t => simp at hempty
    | general x => simp at hempty

/-! ### Requests -/

/-- The lines of a `ValidationError`, as `validation_problems` gives them. -/
abbrev ValidationError := List Message

def refusedArguments (operation : String) (refused : ValidationError) : PyError :=
  .value (say (operation ++ " refused its arguments: ") :: [say "; "].intercalate refused)

/-- The arguments a `PingRequest` checks. -/
structure PingArguments where
  times : ℤ
  timeout : ℚ
  interval : ℚ
  payloadSize : ℤ
  tcpPort : ℤ

def DEFAULT_TCP_PORT : ℤ := 443

namespace PingArguments

/-- The arguments are within the bounds of their fields. -/
structure Fit (target : Text) (a : PingArguments) : Prop where
  target_text : isBlankTarget target = false
  times_bounds : 1 ≤ a.times ∧ a.times ≤ MAX_TIMES
  timeout_bounds : 0 < a.timeout ∧ a.timeout ≤ MAX_TIMEOUT
  interval_bounds : 0 ≤ a.interval ∧ a.interval ≤ MAX_TIMEOUT
  payload_nonneg : 0 ≤ a.payloadSize
  port_bounds : (MIN_PORT : ℤ) ≤ a.tcpPort ∧ a.tcpPort ≤ MAX_PORT

/-- A number out of the bounds `ge` and `le` of its field. -/
def outOf (field : String) (tooSmall tooLarge : Bool) (least most : String) : List Message :=
  if tooSmall then [[say (field ++ ": Input should be greater than or equal to " ++ least)]]
  else if tooLarge then [[say (field ++ ": Input should be less than or equal to " ++ most)]]
  else []

/-- The fields that are refused, in their order. -/
def problems (f : Formats) (target : Text) (a : PingArguments) : ValidationError :=
  (if isBlankTarget target then [say "target: " :: BLANK_TARGET_MESSAGE] else []) ++
  outOf "times" (a.times < 1) (MAX_TIMES < a.times) "1" "65535" ++
  (if 0 < a.timeout ∧ a.timeout ≤ MAX_TIMEOUT then []
    else [[say "timeout: timeout must be above 0 and at most 2147483 seconds, got ",
      .text (f.float a.timeout)]]) ++
  outOf "interval" (a.interval < 0) (MAX_TIMEOUT < a.interval) "0" "2147483" ++
  outOf "payload_size" (a.payloadSize < 0) false "0" "" ++
  (match requirePort a.tcpPort with
    | .ok _ => []
    | .error e => [say "tcp_port: " :: e.str])

theorem outOf_eq_nil {field : String} {tooSmall tooLarge : Bool} {least most : String} :
    outOf field tooSmall tooLarge least most = [] ↔ tooSmall = false ∧ tooLarge = false := by
  rw [outOf]
  cases tooSmall <;> cases tooLarge <;> simp

/-- **No field is refused exactly when all are within their bounds.** -/
theorem problems_eq_nil_iff (f : Formats) (target : Text) (a : PingArguments) :
    a.problems f target = [] ↔ a.Fit target := by
  simp only [problems, List.append_eq_nil_iff, outOf_eq_nil, decide_eq_false_iff_not, not_lt]
  constructor
  · rintro ⟨⟨⟨⟨⟨htarget, htimes⟩, htimeout⟩, hinterval⟩, hpayload⟩, hport⟩
    refine ⟨?_, htimes, ?_, hinterval, hpayload.1, ?_⟩
    · cases hblank : isBlankTarget target with
      | true => simp [hblank] at htarget
      | false => rfl
    · by_contra hout
      simp [hout] at htimeout
    · by_contra hout
      simp [requirePort, hout] at hport
  · rintro ⟨htarget, htimes, htimeout, hinterval, hpayload, hport⟩
    refine ⟨⟨⟨⟨⟨?_, htimes⟩, ?_⟩, hinterval⟩, hpayload, trivial⟩, ?_⟩
    · simp [htarget]
    · simp [htimeout]
    · simp [requirePort, hport]

end PingArguments

/-- The request of arguments that are not refused. -/
def PingArguments.request {f : Formats} {target : Text} {resolved : ResolvedTarget}
    (a : PingArguments) (method : ProbeMethod) (hproblems : a.problems f target = [])
    {address : IPAddress} (haddress : requireAddress resolved.address resolved.family = .ok address)
    (hsize : a.payloadSize ≤ maxPayloadSize resolved.family) : PingRequest :=
  have hfit := (problems_eq_nil_iff f target a).mp hproblems
  { target := target
    address := resolved.address
    family := resolved.family
    times := a.times.toNat
    timeout := a.timeout
    interval := a.interval
    payloadSize := a.payloadSize.toNat
    tcpPort := a.tcpPort.toNat
    method := method
    target_text := hfit.target_text
    address_fits := ⟨address, haddress⟩
    times_bounds := by
      have := hfit.times_bounds
      omega
    timeout_bounds := hfit.timeout_bounds
    interval_bounds := hfit.interval_bounds
    payload_fits := by omega
    port_bounds := by
      have := hfit.port_bounds
      omega }

/-- `PingRequest(...)`. -/
def pingRequest (f : Formats) (target : Text) (resolved : ResolvedTarget) (a : PingArguments)
    (method : ProbeMethod) : Except ValidationError PingRequest :=
  if hproblems : a.problems f target = [] then
    -- `_address_and_payload_fit_the_family`
    match haddress : requireAddress resolved.address resolved.family with
    | .error e => .error [e.str]
    | .ok _ =>
      if hsize : a.payloadSize ≤ maxPayloadSize resolved.family then
        .ok (a.request method hproblems haddress hsize)
      else
        .error [[say "payload_size above the ", .text resolved.family.value, say " maximum of ",
          .text (decimal (maxPayloadSize resolved.family)), say " bytes: ",
          .text (decimalInt a.payloadSize)]]
  else .error (a.problems f target)

/-! ### Sending -/

/-- What the world does to one connect: the socket is opened, and the handshake ends. -/
structure ConnectWorld where
  socket : Except OSErr Unit
  connect : Except OSErr Unit
  started : ℚ
  finished : ℚ
  monotonic : started ≤ finished

theorem ConnectWorld.roundTrip_nonneg (w : ConnectWorld) : 0 ≤ (w.finished - w.started) * 1000 :=
  mul_nonneg (sub_nonneg.mpr w.monotonic) (by decide)

/-- `TcpEchoTransport.probe`. -/
def tcpProbe (address : Text) (w : ConnectWorld) : Except PyError EchoResult :=
  match w.socket with
  | .error e => .error (.os e)
  | .ok () =>
    match w.connect with
    | .ok () => .ok (.answer _ address false w.roundTrip_nonneg)
    | .error e =>
      -- something answered a connect that is refused
      if isRefusal e then .ok (.answer _ address false w.roundTrip_nonneg) else .ok .silence

/-- What the world does to one run of `_send`. -/
structure SendWorld where
  socket : SocketWorld
  probes : ℕ → ProbeWorld
  connects : ℕ → ConnectWorld
  clock : ℕ → ℚ

/-- `run_ping` over the connects. -/
def runTcp (request : PingRequest) (connects : ℕ → ConnectWorld) :
    Except PyError ResponseObject := do
  let results ← (List.range request.times).mapM fun i => tcpProbe request.address (connects i)
  buildResponse request results

/-- `_send`, over what `make_transport` returns. -/
def send (env : Interfaces) (world : SendWorld) (request : PingRequest) :
    Except PyError ResponseObject :=
  match request.method with
  | .TCP => runTcp request world.connects
  | .ICMP => do
    let t ← PosixTransport.make env world.socket request.address request.family request.payloadSize
      openSocket
    runPing request (t.pingEnv world.probes world.clock) 0

/-! ### What is raised -/

/-- `except (IPScoutError, ValueError)`. -/
def isSetupError : PyError → Bool
  | .scout _ _ => true
  | .value _ => true
  | .unicode _ => true
  | _ => false

def notReached (e : PyError) : Bool := isSetupError e || e.isOSError

/-! ### What a request is -/

/-- The request a checked call sends. -/
structure RequestOf (target : Text) (resolved : ResolvedTarget) (a : PingArguments)
    (request : PingRequest) : Prop where
  target_eq : request.target = target
  address : request.address = resolved.address
  family : request.family = resolved.family
  times : (request.times : ℤ) = a.times
  timeout : request.timeout = a.timeout
  payloadSize : (request.payloadSize : ℤ) = a.payloadSize

/-- **A request is made exactly of arguments within their bounds, and of an address and a size of
the family.** -/
theorem pingRequest_ok_iff (f : Formats) (target : Text) (resolved : ResolvedTarget)
    (a : PingArguments) (method : ProbeMethod) :
    (∃ request, pingRequest f target resolved a method = .ok request) ↔
      a.Fit target ∧ (∃ address, requireAddress resolved.address resolved.family = .ok address) ∧
        a.payloadSize ≤ maxPayloadSize resolved.family := by
  rw [← PingArguments.problems_eq_nil_iff f, pingRequest]
  by_cases hproblems : a.problems f target = []
  · rw [dif_pos hproblems]
    split
    · next e he => simp [he, hproblems]
    · next address haddress =>
      by_cases hsize : a.payloadSize ≤ maxPayloadSize resolved.family
      · simp [hproblems, haddress, hsize]
      · simp [hsize]
  · rw [dif_neg hproblems]
    simp [hproblems]

theorem requestOf_pingRequest {f : Formats} {target : Text} {resolved : ResolvedTarget}
    {a : PingArguments} {method : ProbeMethod} {request : PingRequest}
    (h : pingRequest f target resolved a method = .ok request) :
    RequestOf target resolved a request ∧ request.method = method := by
  rw [pingRequest] at h
  split at h
  · next hproblems =>
    have hfit := (PingArguments.problems_eq_nil_iff f target a).mp hproblems
    have htimes := hfit.times_bounds.1
    have hpayload := hfit.payload_nonneg
    split at h
    · simp at h
    · split at h
      · rw [← Except.ok.inj h]
        exact ⟨⟨rfl, rfl, rfl, Int.toNat_of_nonneg (by omega), rfl,
          Int.toNat_of_nonneg hpayload⟩, rfl⟩
      · simp at h
  · simp at h

/-! ### What sending comes to -/

theorem isSetupError_of_isResolutionError {e : PyError} (h : e.isResolutionError = true) :
    isSetupError e = true := by
  cases e with
  | scout cls msg => rfl
  | os e => simp [PyError.isResolutionError] at h
  | unicode msg => rfl
  | value msg => rfl
  | index msg => simp [PyError.isResolutionError] at h

theorem isSetupError_of_zoneIndex {env : Interfaces} {zone : Text} {e : PyError}
    (h : zoneIndex env zone = .error e) : isSetupError e = true := by
  rw [zoneIndex] at h
  split at h
  · split at h
    · simp at h
    · rw [← Except.error.inj h]
      rfl
  · split at h
    · simp at h
    · rw [← Except.error.inj h]
      rfl

theorem notReached_of_make {env : Interfaces} {world : SocketWorld} {address : Text}
    {family : AddressFamily} {payloadSize : ℤ} {e : PyError}
    (h : PosixTransport.make env world address family payloadSize openSocket = .error e) :
    notReached e = true := by
  rw [notReached, Bool.or_eq_true]
  rcases bind_eq_error.mp h with h | ⟨destination, _, h⟩
  · unfold destinationFor at h
    split at h
    · simp at h
    · split at h
      · simp at h
      · next zone _ =>
        cases hindex : zoneIndex env zone with
        | ok index => simp [hindex, Except.map] at h
        | error e' =>
          rw [hindex] at h
          rw [← Except.error.inj h]
          exact Or.inl (isSetupError_of_zoneIndex hindex)
  · rcases bind_eq_error.mp h with h | ⟨isRaw, _, h⟩
    · rw [openSocket] at h
      split at h
      · simp at h
      · split at h
        · simp at h
        · rw [← Except.error.inj h]
          exact Or.inl rfl
    · split at h
      · rw [← Except.error.inj h]
        exact Or.inr rfl
      · simp at h

/-- A connect reaches its host: it is made, or something refuses it. -/
def ConnectReaches (w : ConnectWorld) : Prop :=
  w.socket = .ok () ∧
    (w.connect = .ok () ∨ ∃ e, w.connect = .error e ∧ isRefusal e = true)

theorem tcpProbe_cases (address : Text) (w : ConnectWorld) :
    (∃ e, w.socket = .error e ∧ tcpProbe address w = .error (.os e)) ∨
      ∃ r, tcpProbe address w = .ok r ∧ (r.rttMs.isSome = true ↔ ConnectReaches w) := by
  cases hsocket : w.socket with
  | error e =>
    refine Or.inl ⟨e, rfl, ?_⟩
    rw [tcpProbe, hsocket]
  | ok _ =>
    right
    rw [tcpProbe, hsocket, ConnectReaches, hsocket]
    cases hconnect : w.connect with
    | ok _ => exact ⟨_, rfl, by simp [EchoResult.answer]⟩
    | error e =>
      by_cases hrefusal : isRefusal e = true
      · dsimp only
        rw [if_pos hrefusal]
        exact ⟨_, rfl, by simp [EchoResult.answer, hrefusal]⟩
      · dsimp only
        rw [if_neg hrefusal]
        exact ⟨_, rfl, by simp [EchoResult.silence, hrefusal]⟩

theorem runTcp_error {request : PingRequest} {connects : ℕ → ConnectWorld} {e : PyError}
    (h : runTcp request connects = .error e) : e.isOSError = true := by
  by_cases hraises : ∃ i ∈ List.range request.times, ∃ e',
      tcpProbe request.address (connects i) = .error e'
  · obtain ⟨i, hi, e', he'⟩ := hraises
    obtain ⟨j, _, e'', hj, hmap⟩ :=
      exists_mapM_eq_error (f := fun i => tcpProbe request.address (connects i)) hi he'
    rw [runTcp, hmap] at h
    rw [← Except.error.inj h]
    rcases tcpProbe_cases request.address (connects j) with ⟨os, _, hos⟩ | ⟨r, hr, _⟩
    · rw [hos, Except.error.injEq] at hj
      rw [← hj]
      rfl
    · rw [hr] at hj
      simp at hj
  · have hall : ∀ i ∈ List.range request.times, ∃ r,
        tcpProbe request.address (connects i) = .ok r ∧ True := by
      intro i hi
      cases hprobe : tcpProbe request.address (connects i) with
      | ok r => exact ⟨r, rfl, trivial⟩
      | error e' => exact absurd ⟨i, hi, e', hprobe⟩ hraises
    obtain ⟨results, hmap, hforall⟩ := exists_mapM_forall₂ hall
    have hlength : results.length = request.times := by
      rw [← hforall.length_eq, List.length_range]
    obtain ⟨response, hbuilt, _⟩ := buildResponse_ok hlength
    rw [runTcp, hmap] at h
    exact absurd (hbuilt.symm.trans h) (by simp)

theorem runTcp_reached_iff {request : PingRequest} (hone : request.times = 1)
    (connects : ℕ → ConnectWorld) :
    (∃ response, runTcp request connects = .ok response ∧ response.reached = true) ↔
      ConnectReaches (connects 0) := by
  have hmap : (List.range request.times).mapM (fun i => tcpProbe request.address (connects i)) =
      (tcpProbe request.address (connects 0)).map fun r => [r] := by
    rw [hone, List.range_one, List.mapM_cons, List.mapM_nil]
    cases tcpProbe request.address (connects 0) <;> rfl
  rw [runTcp, hmap]
  rcases tcpProbe_cases request.address (connects 0) with ⟨e, hsocket, he⟩ | ⟨r, hr, hreaches⟩
  · rw [he, ConnectReaches, hsocket]
    simp [Except.map, bind, Except.bind]
  · have hlength : [r].length = request.times := by
      rw [hone, List.length_singleton]
    obtain ⟨response, hbuilt, hdata⟩ := buildResponse_ok hlength
    rw [hr, ← hreaches]
    show (∃ response, buildResponse request [r] = .ok response ∧ _) ↔ _
    rw [hbuilt]
    have hcount : response.reached = r.rttMs.isSome := by
      rw [hdata]
      show decide (0 < List.countP _ [r.rttMs]) = _
      cases r.rttMs <;> rfl
    simp [hcount]

theorem send_icmp {env : Interfaces} {world : SendWorld} {request : PingRequest}
    {t : PosixTransport} (hmethod : request.method = .ICMP)
    (hmake : PosixTransport.make env world.socket request.address request.family
      request.payloadSize openSocket = .ok t) :
    ∃ response, send env world request = .ok response ∧
      PosixTransport.Finds t world.probes world.clock request response := by
  obtain ⟨hfamily, hsize⟩ := PosixTransport.make_eq_ok hmake
  obtain ⟨response, hfinds⟩ :=
    PosixTransport.exists_finds world.probes world.clock hfamily hsize
  refine ⟨response, ?_, hfinds⟩
  rw [send, hmethod]
  exact bind_eq_ok.mpr ⟨t, hmake, hfinds.runs⟩

/-- **A run raises a setup error or the system's own.** -/
theorem send_error {env : Interfaces} {world : SendWorld} {request : PingRequest} {e : PyError}
    (h : send env world request = .error e) : notReached e = true := by
  cases hmethod : request.method with
  | TCP =>
    rw [send, hmethod] at h
    rw [notReached, runTcp_error h, Bool.or_true]
  | ICMP =>
    cases hmake : PosixTransport.make env world.socket request.address request.family
        request.payloadSize openSocket with
    | error e' =>
      rw [send, hmethod] at h
      rcases bind_eq_error.mp h with h | ⟨t, ht, _⟩
      · exact notReached_of_make h
      · rw [hmake] at ht
        simp at ht
    | ok t =>
      obtain ⟨response, hsend, _⟩ := send_icmp hmethod hmake
      rw [hsend] at h
      simp at h

/-- An echo reaches a host: a transport is built, and the echo is answered over it. -/
def EchoReaches (env : Interfaces) (world : SendWorld) (resolved : ResolvedTarget)
    (timeout : ℚ) : Prop :=
  ∃ t, PosixTransport.make env world.socket resolved.address resolved.family 56 openSocket =
      .ok t ∧
    ∃ event arrival, EchoAnswered t (world.probes 0) 1 timeout event arrival

section Answers

variable {env : Interfaces} {world : SendWorld} {target : Text} {resolved : ResolvedTarget}
  {timeout : ℚ} {tcpPort : ℤ} {request : PingRequest}

theorem icmp_reached_iff (hmethod : request.method = .ICMP)
    (hof : RequestOf target resolved ⟨1, timeout, 0, 56, tcpPort⟩ request) :
    (∃ response, send env world request = .ok response ∧ response.reached = true) ↔
      EchoReaches env world resolved timeout := by
  have htimes : request.times = 1 := Nat.cast_injective hof.times
  have hsize : ((request.payloadSize : ℕ) : ℤ) = 56 := hof.payloadSize
  have hfound : ∀ {t}, PosixTransport.make env world.socket request.address request.family
      request.payloadSize openSocket = .ok t →
      ((∃ response, send env world request = .ok response ∧ response.reached = true) ↔
        ∃ event arrival, EchoAnswered t (world.probes 0) 1 timeout event arrival) := by
    intro t hmake
    obtain ⟨response, hsend, hfinds⟩ := send_icmp hmethod hmake
    rw [hsend]
    simp only [Except.ok.injEq, exists_eq_left', hfinds.reached_iff, htimes, hof.timeout]
    constructor
    · rintro ⟨i, hi, event, arrival, hanswered⟩
      obtain rfl : i = 0 := by omega
      exact ⟨event, arrival, hanswered⟩
    · rintro ⟨event, arrival, hanswered⟩
      exact ⟨0, by omega, event, arrival, hanswered⟩
  rw [EchoReaches, ← hof.address, ← hof.family, ← hsize]
  constructor
  · rintro ⟨response, hsend, hreached⟩
    cases hmake : PosixTransport.make env world.socket request.address request.family
        request.payloadSize openSocket with
    | ok t => exact ⟨t, rfl, (hfound hmake).mp ⟨response, hsend, hreached⟩⟩
    | error e =>
      rw [send, hmethod] at hsend
      obtain ⟨t, ht, _⟩ := bind_eq_ok.mp hsend
      rw [hmake] at ht
      simp at ht
  · rintro ⟨t, hmake, hanswered⟩
    exact (hfound hmake).mpr hanswered

theorem tcp_reached_iff (hmethod : request.method = .TCP)
    (hof : RequestOf target resolved ⟨1, timeout, 0, 56, tcpPort⟩ request) :
    (∃ response, send env world request = .ok response ∧ response.reached = true) ↔
      ConnectReaches (world.connects 0) := by
  rw [send, hmethod]
  exact runTcp_reached_iff (Nat.cast_injective hof.times) world.connects

end Answers

end IPScout.Api
